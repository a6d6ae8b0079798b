import TimekprHub.Agent.PolicyPush
import TimekprHub.Agent.State

namespace TimekprModel

universe u

def cfg : ConvergenceConfig := {}

def defaultPollMs : Int := 20000

def maxPollMs : Int := 90000

def maxPendingSpans : Nat := 200

def maxPushErrorLen : Nat := 256

/-- The time zone database: `none` where `ZoneInfo` raises. -/
abbrev ZoneDatabase := String → Option ZoneInfo

def canonicalDayStr (zones : ZoneDatabase) (instant : Instant) (tzName : String) : String :=
  let tz := if tzName = "" then utc else (zones tzName).getD utc
  (canonicalStamp instant tz).dayStr

structure Measured where
  userState : UserState
  forceAbsolute : Bool
  burnedThisTickS : Int
  activityState : ActivityState
  span : Option ActiveSpan

def advanceDay (userState : UserState) (today : String) (spentDayS : Int) : CumulativeState × Bool × Int :=
  if userState.day = "" then ({ cumLocalS := spentDayS, rawPrevS := spentDayS }, true, 0)
  else if userState.day ≠ today then (resetForNewCanonicalDay spentDayS, true, 0)
  else
    (advanceCumulative { cumLocalS := userState.cumLocalS, rawPrevS := userState.rawPrevS } spentDayS cfg,
      false, userState.cumLocalS)

def tickSpan (userState : UserState) (obs : UserObservation) (now : Instant) (burnedThisTickS : Int) :
    Option ActiveSpan :=
  if obs.active = true ∧ burnedThisTickS > 0 then
    let start := now - burnedThisTickS * second
    let start := if userState.lastTickUtc = 0 then start else max start userState.lastTickUtc
    some { start, stop := now, burnedS := burnedThisTickS }
  else none

def measure (userState : UserState) (obs : UserObservation) (today : String) (now : Instant) : Measured :=
  let (cumState, forceAbsolute, cumLocalBefore) := advanceDay userState today obs.spentDayS
  let userState :=
    { userState with day := today, cumLocalS := cumState.cumLocalS, rawPrevS := cumState.rawPrevS }
  let burnedThisTickS := max (cumState.cumLocalS - cumLocalBefore) 0
  { userState
    forceAbsolute
    burnedThisTickS
    activityState := if burnedThisTickS > 0 then .draining else if obs.loggedIn then .idle else .loggedOut
    span := tickSpan userState obs now burnedThisTickS }

def syncUser (username : String) (obs : UserObservation) (measured : Measured) : SyncUserRequest where
  username
  cumulativeSpentS := measured.userState.cumLocalS
  activeSpans := measured.userState.pendingSpans ++ measured.span.toList
  observed :=
    { balanceS := obs.balanceS
      spentDayS := obs.spentDayS
      limitTodayS := obs.limitTodayS
      loggedIn := obs.loggedIn
      active := obs.active
      activityState := measured.activityState }
  policyVersionApplied := measured.userState.policyVersionApplied
  policyRevisionApplied := some measured.userState.policyRevisionApplied
  policyPushError := measured.userState.lastPolicyPushError

structure Observed where
  obs : UserObservation
  forceAbsolute : Bool
  span : Option ActiveSpan

structure Draft where
  state : AgentState
  observations : Dict String Observed := .empty
  syncUsers : List SyncUserRequest := []

/-- A user timekpr does not know is left out of the tick. -/
def draftUser (today : String) (now : Instant) (draft : Draft)
    (managed : String × Option UserObservation) : Draft :=
  match managed.2 with
  | none => draft
  | some obs =>
    let username := managed.1
    let measured := measure (draft.state.user username) obs today now
    { state := draft.state.setUser username measured.userState
      observations := draft.observations.set username
        { obs, forceAbsolute := measured.forceAbsolute, span := measured.span }
      syncUsers := draft.syncUsers ++ [syncUser username obs measured] }

def todayStr (zones : ZoneDatabase) (state : AgentState) (tzName : String) (now : Instant) : String :=
  canonicalDayStr zones now (if state.hubTz = "" then tzName else state.hubTz)

def draftTick (zones : ZoneDatabase) (tzName : String) (state : AgentState)
    (managedUsers : List (String × Option UserObservation)) (now : Instant) : Draft :=
  managedUsers.foldl (draftUser (todayStr zones state tzName now) now) { state }

def Draft.request (draft : Draft) (agentVersion : String) (now : Instant) : SyncRequest :=
  { agentTime := now, agentVersion, users := draft.syncUsers }

structure Turn (σ : Type u) where
  userState : UserState
  device : σ
  calls : List Setter := []

variable {σ : Type u}

def bufferUnsentSpan (userState : UserState) (span : Option ActiveSpan) : UserState :=
  match span with
  | none => userState
  | some span =>
    let pendingSpans := userState.pendingSpans ++ [span]
    { userState with pendingSpans := pendingSpans.drop (pendingSpans.length - maxPendingSpans) }

def applyConvergence (enforcer : TimekprEnforcer σ) (device : σ) (username : String) (obs : UserObservation)
    (target : HubTarget) (userState : UserState) (forceAbsolute : Bool) (dryRun : Bool := false) : Turn σ :=
  let result := plan
    { balanceS := obs.balanceS, spentLocalS := obs.spentDayS, limitTodayS := obs.limitTodayS }
    target userState.appliedOffsetS forceAbsolute cfg
  if dryRun then { userState, device }
  else
    let userState := { userState with appliedOffsetS := result.newAppliedOffsetS }
    match result.op.timeLeft? with
    | none => { userState, device }
    | some op =>
      let setter := Setter.timeLeft op result.seconds
      { userState, device := (enforcer.perform device username setter).2, calls := [setter] }

/-- No new write is due: the policy is 'open', or the last contact is recent enough. A contact time in
    the future counts as expired. -/
def offlineIdle (userState : UserState) (now : Instant) : Prop :=
  userState.lastOfflinePolicy = .open ∨
    0 ≤ now - userState.lastHubContactUtc ∧
      now - userState.lastHubContactUtc < userState.lastOfflineGraceS * second

instance (userState : UserState) (now : Instant) : Decidable (offlineIdle userState now) :=
  inferInstanceAs (Decidable (_ ∨ _ ∧ _))

/-- Where 'capped' steers to: the ceiling hangs on the frozen spend, the target on the live estimate. -/
def offlineTarget (userState : UserState) : HubTarget :=
  let localSinceContact := max (userState.cumLocalS - userState.cumLocalAtContactS) 0
  let estimatedGlobalSpent := userState.lastGlobalSpentS + localSinceContact
  let cappedLimit := min userState.lastEffectiveLimitTodayS (userState.lastGlobalSpentS + userState.lastOfflineCapS)
  { limitTodayS := cappedLimit, globalSpentS := estimatedGlobalSpent }

def applyOfflinePolicy (enforcer : TimekprEnforcer σ) (device : σ) (username : String)
    (obs : UserObservation) (userState : UserState) (now : Instant) : Turn σ :=
  if offlineIdle userState now then { userState, device }
  else
    match userState.lastOfflinePolicy with
    | .capped => applyConvergence enforcer device username obs (offlineTarget userState) userState false
    | .closed =>
      applyConvergence enforcer device username obs
        { limitTodayS := obs.limitTodayS, globalSpentS := obs.limitTodayS } userState false
    | .open => { userState, device }

def pushErrorText (failed : List String) : Option String :=
  if failed = [] then none
  else some (String.ofList ((String.intercalate ", " failed).toList.take maxPushErrorLen))

/-- Version and revision advance together, and only when every needed setter succeeded. -/
def takePolicy (enforcer : TimekprEnforcer σ) (device : σ) (username : String) (userState : UserState)
    (policyPayload : Option PolicyPayload) (policyVersion : Int) (policyRevision : Option String) : Turn σ :=
  match policyPayload with
  | none => { userState, device }
  | some policy =>
    let push := applyPolicyPush enforcer device username policy
    let userState := { userState with lastPolicyPushError := pushErrorText push.failed }
    let userState :=
      if push.ok then
        { userState with
          policyVersionApplied := policyVersion
          policyRevisionApplied := policyRevision.getD userState.policyRevisionApplied }
      else userState
    { userState, device := push.device, calls := push.calls }

def rememberContact (userState : UserState) (span : Option ActiveSpan) (response : SyncUserResponse)
    (now : Instant) : UserState :=
  { userState with
    lastEffectiveLimitTodayS := response.effectiveLimitTodayS
    lastGlobalSpentS := response.globalSpentS
    lastHubContactUtc := now
    cumLocalAtContactS := userState.cumLocalS
    lastOfflinePolicy := response.offlinePolicy.getD userState.lastOfflinePolicy
    lastOfflineGraceS := response.offlineGraceS.getD userState.lastOfflineGraceS
    lastOfflineCapS := response.offlineCapS.getD userState.lastOfflineCapS
    pendingSpans := []
    lastTickUtc := if span.isSome then now else userState.lastTickUtc }

def answeredTurn (enforcer : TimekprEnforcer σ) (device : σ) (username : String) (observed : Observed)
    (userState : UserState) (response : SyncUserResponse) (now : Instant) : Turn σ :=
  let userState := rememberContact userState observed.span response now
  let target : HubTarget :=
    { limitTodayS := response.effectiveLimitTodayS, globalSpentS := response.globalSpentS }
  if response.enforcement = some .observe then
    applyConvergence enforcer device username observed.obs target
      { userState with lastEnforcement := .observe } observed.forceAbsolute true
  else
    let taken := takePolicy enforcer device username { userState with lastEnforcement := .enforce }
      response.policy response.policyVersion response.policyRevision
    let converged := applyConvergence enforcer taken.device username observed.obs target taken.userState
      observed.forceAbsolute
    { converged with calls := taken.calls ++ converged.calls }

def revokedTurn (device : σ) (observed : Observed) (userState : UserState) : Turn σ :=
  { userState := { bufferUnsentSpan userState observed.span with lastEnforcement := .revoked }, device }

def unreachableTurn (enforcer : TimekprEnforcer σ) (device : σ) (username : String) (observed : Observed)
    (userState : UserState) (now : Instant) : Turn σ :=
  applyOfflinePolicy enforcer device username observed.obs (bufferUnsentSpan userState observed.span) now

inductive HubOutcome
  | response (response : SyncResponse)
  | revoked
  | unreachable

/-- The response's entry for a user; a later one of the same name replaces an earlier one. -/
def SyncResponse.byUsername (response : SyncResponse) (username : String) : Option SyncUserResponse :=
  response.users.reverse.find? (·.username = username)

def userTurn (enforcer : TimekprEnforcer σ) (device : σ) (username : String) (observed : Observed)
    (userState : UserState) (now : Instant) : HubOutcome → Turn σ
  | .response response =>
    match response.byUsername username with
    | none => { userState, device }
    | some userResponse => answeredTurn enforcer device username observed userState userResponse now
  | .revoked => revokedTurn device observed userState
  | .unreachable => unreachableTurn enforcer device username observed userState now

structure TickResult (σ : Type u) where
  state : AgentState
  device : σ
  calls : List (String × Setter) := []

def finishUser (enforcer : TimekprEnforcer σ) (now : Instant) (outcome : HubOutcome)
    (result : TickResult σ) (entry : String × Observed) : TickResult σ :=
  let username := entry.1
  let turn := userTurn enforcer result.device username entry.2 (result.state.user username) now outcome
  { state := result.state.setUser username turn.userState
    device := turn.device
    calls := result.calls ++ turn.calls.map fun setter => (username, setter) }

def HubOutcome.hubTz (outcome : HubOutcome) (cached : String) : String :=
  match outcome with
  | .response answer => if answer.hubTz = "" then cached else answer.hubTz
  | _ => cached

def finishTick (enforcer : TimekprEnforcer σ) (device : σ) (draft : Draft) (now : Instant)
    (outcome : HubOutcome) : TickResult σ :=
  draft.observations.entries.foldl (finishUser enforcer now outcome)
    { state := { draft.state with hubTz := outcome.hubTz draft.state.hubTz }, device }

def nextPollMs (previousPollMs : Int) : HubOutcome → Int
  | .response response => min (response.nextPollMs.getD previousPollMs) maxPollMs
  | _ => min (min (previousPollMs * 2) maxPollMs) maxPollMs

def runTick (zones : ZoneDatabase) (tzName agentVersion : String) (enforcer : TimekprEnforcer σ)
    (hub : SyncRequest → HubOutcome) (state : AgentState) (device : σ)
    (managedUsers : List (String × Option UserObservation)) (now : Instant)
    (previousPollMs : Int := defaultPollMs) : TickResult σ × Int :=
  let draft := draftTick zones tzName state managedUsers now
  let outcome := hub (draft.request agentVersion now)
  (finishTick enforcer device draft now outcome, nextPollMs previousPollMs outcome)

end TimekprModel
