import TimekprHub.Agent.PushPlan
import TimekprHub.Agent.Tick

namespace TimekprModel

universe u

variable {σ : Type u}

def TimekprEnforcer.performAll (enforcer : TimekprEnforcer σ) (device : σ) (calls : List (String × Setter)) :
    σ :=
  calls.foldl (fun device call => (enforcer.perform device call.1 call.2).2) device

end TimekprModel

namespace TimekprProof

open TimekprModel

universe u

variable {σ : Type u} {enforcer : TimekprEnforcer σ} {username : String}

theorem performAll_append (device : σ) (first later : List (String × Setter)) :
    enforcer.performAll device (first ++ later) =
      enforcer.performAll (enforcer.performAll device first) later :=
  List.foldl_append

def ownCalls (username : String) (setters : List Setter) : List (String × Setter) :=
  setters.map fun setter => (username, setter)

theorem ownCalls_append (first later : List Setter) :
    ownCalls username (first ++ later) = ownCalls username first ++ ownCalls username later :=
  List.map_append

/-- The push stands where its calls have brought the device. -/
def Performed (enforcer : TimekprEnforcer σ) (username : String) (device : σ) (push : Push σ) : Prop :=
  push.device = enforcer.performAll device (ownCalls username push.calls)

theorem take_performed {device : σ} {push : Push σ} (performed : Performed enforcer username device push)
    (step : PushStep) : Performed enforcer username device (push.take enforcer username step) := by
  unfold Push.take
  split
  · exact performed
  · unfold Performed at performed ⊢
    simp only [Push.written, ownCalls_append, performAll_append, ← performed]
    rfl

theorem foldl_take_performed {device : σ} {push : Push σ}
    (performed : Performed enforcer username device push) (steps : List PushStep) :
    Performed enforcer username device (steps.foldl (Push.take enforcer username) push) := by
  induction steps generalizing push with
  | nil => exact performed
  | cons step rest ih => exact ih (take_performed performed step)

theorem applyPolicyPush_performed (device : σ) (policy : PolicyPayload) :
    Performed enforcer username device (applyPolicyPush enforcer device username policy) := by
  by_cases sevenLimits : policy.dailyLimitsS.length = 7
  · rw [applyPolicyPush_eq _ _ _ _ sevenLimits]
    apply foldl_take_performed
    unfold Performed
    rfl
  · unfold applyPolicyPush Performed
    rw [dif_neg sevenLimits]
    rfl

section Turn

variable (enforcer username)

theorem applyConvergence_performed (device : σ) (obs : UserObservation) (target : HubTarget)
    (userState : UserState) (forceAbsolute dryRun : Bool) :
    let turn := applyConvergence enforcer device username obs target userState forceAbsolute dryRun
    turn.device = enforcer.performAll device (ownCalls username turn.calls) := by
  intro turn
  simp only [turn, applyConvergence]
  split
  · rfl
  · split
    · rfl
    · rfl

theorem takePolicy_performed (device : σ) (userState : UserState) (policyPayload : Option PolicyPayload)
    (policyVersion : Int) (policyRevision : Option String) :
    let turn := takePolicy enforcer device username userState policyPayload policyVersion policyRevision
    turn.device = enforcer.performAll device (ownCalls username turn.calls) := by
  cases policyPayload with
  | none => rfl
  | some policy => exact applyPolicyPush_performed device policy

theorem answeredTurn_performed (device : σ) (observed : Observed) (userState : UserState)
    (response : SyncUserResponse) (now : Instant) :
    let turn := answeredTurn enforcer device username observed userState response now
    turn.device = enforcer.performAll device (ownCalls username turn.calls) := by
  unfold answeredTurn
  dsimp only
  split
  · exact applyConvergence_performed ..
  · have taken := takePolicy_performed enforcer username device
      { rememberContact userState observed.span response now with lastEnforcement := .enforce }
      response.policy response.policyVersion response.policyRevision
    simp only [ownCalls_append, performAll_append, ← taken]
    exact applyConvergence_performed ..

theorem applyOfflinePolicy_performed (device : σ) (obs : UserObservation) (userState : UserState)
    (now : Instant) :
    let turn := applyOfflinePolicy enforcer device username obs userState now
    turn.device = enforcer.performAll device (ownCalls username turn.calls) := by
  unfold applyOfflinePolicy
  dsimp only
  split
  · rfl
  · split
    · exact applyConvergence_performed ..
    · exact applyConvergence_performed ..
    · rfl

theorem userTurn_performed (device : σ) (observed : Observed) (userState : UserState) (now : Instant)
    (outcome : HubOutcome) :
    let turn := userTurn enforcer device username observed userState now outcome
    turn.device = enforcer.performAll device (ownCalls username turn.calls) := by
  cases outcome with
  | response response =>
    simp only [userTurn]
    split
    · rfl
    · exact answeredTurn_performed ..
  | revoked => rfl
  | unreachable => exact applyOfflinePolicy_performed ..

end Turn

theorem finish_performed (now : Instant) (outcome : HubOutcome) (device : σ) {result : TickResult σ}
    (performed : result.device = enforcer.performAll device result.calls)
    (entries : List (String × Observed)) :
    let last := entries.foldl (finishUser enforcer now outcome) result
    last.device = enforcer.performAll device last.calls := by
  induction entries generalizing result with
  | nil => exact performed
  | cons entry rest ih =>
    have turn := userTurn_performed enforcer entry.1 result.device entry.2 (result.state.user entry.1) now
      outcome
    apply ih
    simp only [finishUser, performAll_append, ← performed]
    exact turn

theorem runTick_performed (zones : ZoneDatabase) (tzName agentVersion : String) (enforcer : TimekprEnforcer σ)
    (hub : SyncRequest → HubOutcome) (state : AgentState) (device : σ)
    (managedUsers : List (String × Option UserObservation)) (now : Instant) (previousPollMs : Int) :
    let result := (runTick zones tzName agentVersion enforcer hub state device managedUsers now
      previousPollMs).1
    result.device = enforcer.performAll device result.calls := by
  simp only [runTick, finishTick]
  exact finish_performed now _ device rfl _

end TimekprProof
