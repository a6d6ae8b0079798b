import TimekprHub.Agent.PushSettled

namespace TimekprModel

universe v

def ViewOf {α : Type v} (key : ConfigKey) (view : TimekprConfig → α) : Prop :=
  ∀ (config : TimekprConfig) (setter : Setter), setter.key ≠ key → view (config.store setter) = view config

def turnedDown (refuses : Setter → Bool) : Setter → Bool
  | .allowedHours dayNumber hours => hours = ∅ || refuses (.allowedHours dayNumber hours)
  | setter => refuses setter

def refusesDays : Setter → Bool
  | .allowedDays _ => true
  | _ => false

end TimekprModel

namespace TimekprProof

open TimekprModel

universe u v

section Calls

variable {σ : Type u} {enforcer : TimekprEnforcer σ} {username : String} {policy : PolicyPayload}

theorem foldl_take_calls (push : Push σ) (steps : List PushStep) :
    (steps.foldl (Push.take enforcer username) push).calls =
      push.calls ++ (steps.filter (! ·.unchanged)).map PushStep.setter := by
  induction steps generalizing push with
  | nil => simp
  | cons step rest ih =>
    rw [List.foldl_cons, ih]
    cases kept : step.unchanged with
    | true => simp [Push.take, Push.skipped, kept]
    | false => simp [Push.take, Push.written, kept]

theorem push_calls (device : σ) (sevenLimits : policy.dailyLimitsS.length = 7) :
    (applyPolicyPush enforcer device username policy).calls =
      ((pushSteps (enforcer.getAppliedPolicy device username) policy sevenLimits).filter
        (! ·.unchanged)).map PushStep.setter := by
  rw [applyPolicyPush_eq _ _ _ _ sevenLimits, foldl_take_calls, List.nil_append]

end Calls

section Views

variable {α : Type v} {view : TimekprConfig → α} {key : ConfigKey} {refuses : Setter → Bool}
  {readable : Bool} {config : TimekprConfig} {username : String} {policy : PolicyPayload}

theorem honest_view (shown : ViewOf key view) (config : TimekprConfig) (setter : Setter)
    (other : setter.key ≠ key) :
    view ((honestEnforcer refuses readable).perform config username setter).2 = view config := by
  rcases honest_perform refuses readable config username setter with answer | answer
  · rw [answer]
    exact shown config setter other
  · rw [answer]

theorem honest_perform_eq (config : TimekprConfig) (setter : Setter) :
    (honestEnforcer refuses readable).perform config username setter =
      if turnedDown refuses setter then (false, config) else (true, config.store setter) := by
  cases setter with
  | allowedHours day hours =>
    by_cases empty : hours = ∅
    · have down : turnedDown refuses (.allowedHours day hours) = true := by simp [turnedDown, empty]
      rw [down]
      exact if_pos empty
    · have down : turnedDown refuses (.allowedHours day hours) = refuses (.allowedHours day hours) := by
        simp [turnedDown, empty]
      rw [down]
      exact if_neg empty
  | _ => rfl

theorem push_device (sevenLimits : policy.dailyLimitsS.length = 7) :
    (applyPolicyPush (honestEnforcer refuses readable) config username policy).device =
      (replies (honestEnforcer refuses readable) username config
        (pushSteps (readbackOf config readable) policy sevenLimits)).2 := by
  rw [applyPolicyPush_eq _ _ _ _ sevenLimits]
  exact (foldl_take _ _ _ _).1

theorem push_view_other (shown : ViewOf key view) (sevenLimits : policy.dailyLimitsS.length = 7)
    (unplanned : ∀ step ∈ pushSteps (readbackOf config readable) policy sevenLimits,
      step.setter.key ≠ key) :
    view (applyPolicyPush (honestEnforcer refuses readable) config username policy).device =
      view config := by
  rw [push_device sevenLimits]
  refine @Reconcile.pass_view_other _ _ _ _ Setter.key _ _ _ _ _ (honest_view shown) ?_
  rw [List.forall_mem_map]
  exact unplanned

theorem push_view (shown : ViewOf key view) (sevenLimits : policy.dailyLimitsS.length = 7)
    {step : PushStep} (planned : step ∈ pushSteps (readbackOf config readable) policy sevenLimits)
    (own : step.setter.key = key) {value : α}
    (stored : ∀ config : TimekprConfig, view (config.store step.setter) = value)
    (kept : step.unchanged = true → view config = value) :
    view (applyPolicyPush (honestEnforcer refuses readable) config username policy).device =
      if turnedDown refuses step.setter then view config else value := by
  have answer : ∀ config, view ((honestEnforcer refuses readable).perform config username step.setter).2 =
      if !turnedDown refuses step.setter then value else view config := by
    intro config
    rw [honest_perform_eq]
    cases turnedDown refuses step.setter with
    | true => rfl
    | false => exact stored config
  rw [push_device sevenLimits]
  refine (Reconcile.pass_view (honest_view shown) (pushSteps_distinct _ policy sevenLimits)
    (List.mem_map_of_mem planned) own answer).trans ?_
  cases skipped : step.unchanged with
  | true =>
    rw [kept skipped]
    simp [PushStep.planned, skipped]
  | false => cases refused : turnedDown refuses step.setter <;> simp [PushStep.planned, skipped]

end Views

end TimekprProof
