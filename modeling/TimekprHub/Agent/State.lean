import TimekprHub.Core.Sync

namespace TimekprModel

inductive LastEnforcement
  | never
  | enforce
  | observe
  | revoked
  deriving DecidableEq, Repr

/-- What the agent persists for one user. `day` is empty until the user's first tick, and the two
    times are 0 until there is something to remember. -/
structure UserState where
  day : String := ""
  cumLocalS : Int := 0
  rawPrevS : Int := 0
  appliedOffsetS : Int := 0
  policyVersionApplied : Int := 0
  policyRevisionApplied : String := ""
  lastEnforcement : LastEnforcement := .never
  lastPolicyPushError : Option String := none
  lastEffectiveLimitTodayS : Int := 0
  lastGlobalSpentS : Int := 0
  lastHubContactUtc : Instant := 0
  lastOfflinePolicy : OfflinePolicy := .capped
  lastOfflineGraceS : Int := 900
  lastOfflineCapS : Int := 1800
  cumLocalAtContactS : Int := 0
  lastTickUtc : Instant := 0
  pendingSpans : List ActiveSpan := []
  deriving DecidableEq, Repr

structure AgentState where
  users : Dict String UserState := .empty
  hubTz : String := ""

namespace AgentState

def user (state : AgentState) (username : String) : UserState := (state.users.get? username).getD {}

def setUser (state : AgentState) (username : String) (userState : UserState) : AgentState :=
  { state with users := state.users.set username userState }

@[simp] theorem user_setUser_same (state : AgentState) (username : String) (userState : UserState) :
    (state.setUser username userState).user username = userState := by
  simp [user, setUser]

theorem user_setUser_other (state : AgentState) {username other : String} (userState : UserState)
    (differ : other ≠ username) : (state.setUser username userState).user other = state.user other := by
  simp [user, setUser, Dict.get?_set_other _ _ differ]

@[simp] theorem setUser_hubTz (state : AgentState) (username : String) (userState : UserState) :
    (state.setUser username userState).hubTz = state.hubTz := rfl

end AgentState

end TimekprModel
