import TimekprHub.Core.Policy

namespace TimekprModel

/-- A reported wall-clock window. The source's field `end` is `stop` here. -/
structure ActiveSpan where
  start : Instant
  stop : Instant
  burnedS : Int
  deriving DecidableEq, Repr

inductive ActivityState
  | draining
  | idle
  | loggedOut
  deriving DecidableEq, Repr

structure SyncObserved where
  balanceS : Int
  spentDayS : Int
  limitTodayS : Int
  loggedIn : Bool
  active : Bool
  activityState : ActivityState := .loggedOut
  deriving DecidableEq, Repr

structure SyncUserRequest where
  username : String
  cumulativeSpentS : Int
  activeSpans : List ActiveSpan := []
  observed : SyncObserved
  policyVersionApplied : Int := 0
  /-- `none` means the agent predates the field. -/
  policyRevisionApplied : Option String := none
  policyPushError : Option String := none
  deriving DecidableEq, Repr

structure SyncRequest where
  agentTime : Instant
  agentVersion : String
  users : List SyncUserRequest
  deriving DecidableEq, Repr

/-- One user of a `/sync` reply. The `Option` fields are the ones the agent reads with a default, for
    a hub that predates them. -/
structure SyncUserResponse where
  username : String
  globalSpentS : Int
  effectiveLimitTodayS : Int
  effectiveWeekLimitS : Int
  effectiveMonthLimitS : Int
  enforcement : Option EnforcementMode
  policyVersion : Int
  policyRevision : Option String
  policy : Option PolicyPayload
  offlinePolicy : Option OfflinePolicy
  offlineGraceS : Option Int
  offlineCapS : Option Int

structure SyncResponse where
  hubTime : Instant
  hubTz : String
  day : String
  nextPollMs : Option Int
  users : List SyncUserResponse

end TimekprModel
