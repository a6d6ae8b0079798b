import TimekprHub.Agent.PushFields
import TimekprHub.Hub.Policy

namespace TimekprModel

def hoursInForce (policy : Policy) (overrides : DayHourOverrides) (day : Date) (weekday : Weekday) :
    List AllowedHourInterval :=
  match overrides day with
  | none => standingHours policy.allowedHoursJson weekday
  | some intervals =>
    if weekday = day.isoweekday ∧ (policy.allowedWeekdaysJson = [] ∨ weekday ∈ policy.allowedWeekdaysJson) then
      intervals
    else standingHours policy.allowedHoursJson weekday

def hoursAfter (refuses : Setter → Bool) (readable : Bool) (username : String) (config : TimekprConfig)
    (payloads : List PolicyPayload) : String → Option HourDict :=
  (payloads.foldl (fun config payload =>
    (applyPolicyPush (honestEnforcer refuses readable) config username payload).device) config).allowedHours

end TimekprModel

namespace TimekprProof

open TimekprModel

section Materialized

theorem standingHours_nonempty (allowedHours : AllowedHoursMap) (weekday : Weekday) :
    standingHours allowedHours weekday ≠ [] := by
  unfold standingHours
  split
  · decide
  · decide
  · rename_i intervals filled _
    exact filled

theorem materialize_keys (allowedHours : AllowedHoursMap) :
    (materializeAllowedHours allowedHours).keys = weekdayTokens.map Weekday.token := by
  rw [Dict.keys, materializeAllowedHours, List.map_map]
  rfl

theorem standingHours_materialize (allowedHours : AllowedHoursMap) (weekday : Weekday) :
    standingHours (materializeAllowedHours allowedHours) weekday = standingHours allowedHours weekday := by
  have filled := standingHours_nonempty allowedHours weekday
  rw [standingHours, get?_materialize]
  cases hours : standingHours allowedHours weekday with
  | nil => exact absurd hours filled
  | cons interval rest => rfl

theorem materialize_twice (allowedHours : AllowedHoursMap) :
    materializeAllowedHours (materializeAllowedHours allowedHours) = materializeAllowedHours allowedHours := by
  simp only [materializeAllowedHours, Dict.mk.injEq]
  apply List.map_congr_left
  intro weekday _
  have same := standingHours_materialize allowedHours weekday
  exact congrArg (Prod.mk weekday.token) same

end Materialized

section Payload

theorem mem_allowed_or_all (weekdays : List Weekday) (weekday : Weekday) :
    weekday ∈ (if weekdays = [] then weekdayTokens else weekdays) ↔ weekdays = [] ∨ weekday ∈ weekdays := by
  by_cases none : weekdays = []
  · rw [if_pos none]
    exact iff_of_true weekday.mem_tokens (.inl none)
  · rw [if_neg none]
    exact (or_iff_right none).symm

variable (digest : PolicyPayload → String) (policy : Policy) (overrides : DayHourOverrides) (day : Date)

theorem effective_otherwise :
    { (effectivePolicyPayload digest policy (overrides day) day).1 with
      allowedHours := (policyToPayload policy).allowedHours } = policyToPayload policy := by
  cases overrides day <;> rfl

theorem effective_dailyLimits :
    (effectivePolicyPayload digest policy (overrides day) day).1.dailyLimitsS = policy.dailyLimitsJson := by
  have same := congrArg PolicyPayload.dailyLimitsS (effective_otherwise digest policy overrides day)
  exact same

theorem effective_allowedHours :
    (effectivePolicyPayload digest policy (overrides day) day).1.allowedHours =
      match overrides day with
      | none => materializeAllowedHours policy.allowedHoursJson
      | some intervals =>
        if policy.allowedWeekdaysJson = [] ∨ day.isoweekday ∈ policy.allowedWeekdaysJson then
          (materializeAllowedHours policy.allowedHoursJson).set day.isoweekday.token intervals
        else materializeAllowedHours policy.allowedHoursJson := by
  cases overrides day with
  | none => rfl
  | some intervals =>
    rw [← materialize_twice policy.allowedHoursJson]
    exact if_congr (mem_allowed_or_all policy.allowedWeekdaysJson day.isoweekday) rfl rfl

theorem effective_hours (weekday : Weekday) :
    (effectivePolicyPayload digest policy (overrides day) day).1.allowedHours.get? weekday.token =
      some (hoursInForce policy overrides day weekday) := by
  rw [effective_allowedHours, hoursInForce]
  cases overrides day with
  | none => exact get?_materialize policy.allowedHoursJson weekday
  | some intervals =>
    dsimp only
    by_cases own : weekday = day.isoweekday
    · subst own
      by_cases allowed : policy.allowedWeekdaysJson = [] ∨ day.isoweekday ∈ policy.allowedWeekdaysJson
      · rw [if_pos allowed, if_pos ⟨rfl, allowed⟩]
        exact Dict.get?_set_same ..
      · rw [if_neg allowed, if_neg (fun both => allowed both.2), get?_materialize]
    · have other : weekday.token ≠ day.isoweekday.token := fun same => own (Weekday.token_injective same)
      have standing : ¬(weekday = day.isoweekday ∧
          (policy.allowedWeekdaysJson = [] ∨ weekday ∈ policy.allowedWeekdaysJson)) := fun both => own both.1
      rw [if_neg standing]
      split
      · rw [Dict.get?_set_other _ _ other, get?_materialize]
      · exact get?_materialize policy.allowedHoursJson weekday

theorem effective_keys :
    (effectivePolicyPayload digest policy (overrides day) day).1.allowedHours.keys =
      weekdayTokens.map Weekday.token := by
  have held : ∀ intervals : List AllowedHourInterval,
      ((materializeAllowedHours policy.allowedHoursJson).set day.isoweekday.token intervals).keys =
        weekdayTokens.map Weekday.token := by
    intro intervals
    have present : day.isoweekday.token ∈ (materializeAllowedHours policy.allowedHoursJson).keys := by
      rw [materialize_keys]
      exact List.mem_map_of_mem day.isoweekday.mem_tokens
    rw [Dict.keys_set_of_mem _ present, materialize_keys]
  rw [effective_allowedHours]
  split
  · exact materialize_keys policy.allowedHoursJson
  · split
    · exact held _
    · exact materialize_keys policy.allowedHoursJson

theorem hoursInForce_nonempty
    (nonempty : ∀ day intervals, overrides day = some intervals → intervals ≠ []) (weekday : Weekday) :
    hoursInForce policy overrides day weekday ≠ [] := by
  unfold hoursInForce
  split
  · exact standingHours_nonempty policy.allowedHoursJson weekday
  · rename_i intervals overridden
    split
    · exact nonempty day intervals overridden
    · exact standingHours_nonempty policy.allowedHoursJson weekday

end Payload

section Device

variable {refuses : Setter → Bool} {readable : Bool} {config : TimekprConfig} {username : String}

theorem viewOf_allowedHours (key : String) :
    ViewOf (.allowedHours key) fun config : TimekprConfig => config.allowedHours key := by
  intro config setter other
  cases setter with
  | allowedHours written hours =>
    have apart : key ≠ written := fun same => other (congrArg ConfigKey.allowedHours same.symm)
    simp only [TimekprConfig.store, if_neg apart]
  | _ => rfl

theorem mem_pushSteps_hours {applied : Option AppliedPolicy} {payload : PolicyPayload}
    {sevenLimits : payload.dailyLimitsS.length = 7} {step : PushStep}
    (planned : step ∈ pushSteps applied payload sevenLimits) {key : String}
    (hourly : step.setter.key = .allowedHours key) : key ∈ payload.allowedHours.keys := by
  have keys := List.mem_map_of_mem (f := fun step : PushStep => step.setter.key) planned
  rw [pushSteps_keys, hourly, List.mem_append, List.mem_append] at keys
  rcases keys with (before | hours) | after
  · simp [keysBeforeHours] at before
  · obtain ⟨other, listed, same⟩ := List.mem_map.mp hours
    exact ConfigKey.allowedHours.inj same ▸ listed
  · simp [keysAfterHours] at after

theorem push_writes_hours {payload : PolicyPayload} (sevenLimits : payload.dailyLimitsS.length = 7)
    (accepted : ∀ key hours, refuses (.allowedHours key hours) = false)
    {key : String} {intervals : List AllowedHourInterval}
    (listed : payload.allowedHours.get? key = some intervals) (nonempty : intervals ≠ []) :
    (applyPolicyPush (honestEnforcer refuses readable) config username payload).device.allowedHours key =
      some (hoursToDbusPayload (intervals.map AllowedHourInterval.record)) := by
  have planned : hoursStep (readbackOf config readable) (key, intervals) ∈
      pushSteps (readbackOf config readable) payload sevenLimits := by
    have entry := List.mem_map_of_mem (f := hoursStep (readbackOf config readable))
      ((Dict.get?_eq_some _ _ _).mp listed)
    exact List.mem_append_left _ (List.mem_append_right _ entry)
  have held : (hoursStep (readbackOf config readable) (key, intervals)).unchanged = true →
      config.allowedHours key = some (hoursToDbusPayload (intervals.map AllowedHourInterval.record)) :=
    fun kept => read_hours (read_some (of_decide_eq_true kept))
  have records : intervals.map AllowedHourInterval.record ≠ [] := fun none => nonempty (List.map_eq_nil_iff.mp none)
  have taken : turnedDown refuses (hoursStep (readbackOf config readable) (key, intervals)).setter = false :=
    Bool.or_eq_false_iff.mpr ⟨decide_eq_false (hoursToDbusPayload_nonempty records), accepted key _⟩
  refine (push_view (viewOf_allowedHours key) sevenLimits planned rfl (fun config => if_pos rfl) held).trans ?_
  exact if_neg (Bool.eq_false_iff.mp taken)

theorem push_keeps_hours {payload : PolicyPayload} {key : String} (absent : key ∉ payload.allowedHours.keys) :
    (applyPolicyPush (honestEnforcer refuses readable) config username payload).device.allowedHours key =
      config.allowedHours key := by
  by_cases sevenLimits : payload.dailyLimitsS.length = 7
  · apply push_view_other (viewOf_allowedHours key) sevenLimits
    intro step planned hourly
    exact absent (mem_pushSteps_hours planned hourly)
  · simp [applyPolicyPush, sevenLimits]

theorem effective_hours_pushed (digest : PolicyPayload → String) {policy : Policy}
    (sevenLimits : policy.dailyLimitsJson.length = 7) {overrides : DayHourOverrides}
    (nonempty : ∀ day intervals, overrides day = some intervals → intervals ≠ [])
    (accepted : ∀ key hours, refuses (.allowedHours key hours) = false) (day : Date) (weekday : Weekday) :
    (applyPolicyPush (honestEnforcer refuses readable) config username
      (effectivePolicyPayload digest policy (overrides day) day).1).device.allowedHours weekday.token =
      some (hoursToDbusPayload ((hoursInForce policy overrides day weekday).map
        AllowedHourInterval.record)) := by
  have limits : (effectivePolicyPayload digest policy (overrides day) day).1.dailyLimitsS.length = 7 := by
    rw [effective_dailyLimits]
    exact sevenLimits
  apply push_writes_hours limits accepted (effective_hours digest policy overrides day weekday)
  exact hoursInForce_nonempty policy overrides day nonempty weekday

end Device

/-- A date's payload rewrites the hours of every weekday, so a date's override is gone with the next date's
    payload. -/
theorem effective_payload_reverts (digest : PolicyPayload → String) (policy : Policy)
    (overrides : DayHourOverrides)
    (nonempty : ∀ day intervals, overrides day = some intervals → intervals ≠ []) :
    let payload := fun day => (effectivePolicyPayload digest policy (overrides day) day).1
    (∀ day, (payload day).allowedHours.keys = ["1", "2", "3", "4", "5", "6", "7"] ∧
      (∀ weekday : Weekday, hoursInForce policy overrides day weekday ≠ [] ∧
        (payload day).allowedHours.get? weekday.token = some (hoursInForce policy overrides day weekday)) ∧
      { payload day with allowedHours := (policyToPayload policy).allowedHours } = policyToPayload policy) ∧
    ∀ (refuses : Setter → Bool) (readable : Bool) (username : String) (config : TimekprConfig),
      (∀ key hours, refuses (.allowedHours key hours) = false) → ∀ day other,
        hoursAfter refuses readable username config [payload day, payload other] =
          hoursAfter refuses readable username config [payload other] := by
  intro payload
  constructor
  · intro day
    refine ⟨effective_keys digest policy overrides day, ?_, effective_otherwise digest policy overrides day⟩
    intro weekday
    exact ⟨hoursInForce_nonempty policy overrides day nonempty weekday,
      effective_hours digest policy overrides day weekday⟩
  · intro refuses readable username config accepted day other
    simp only [hoursAfter, List.foldl_cons, List.foldl_nil]
    funext key
    by_cases sevenLimits : policy.dailyLimitsJson.length = 7
    · by_cases listed : ∃ weekday : Weekday, weekday.token = key
      · obtain ⟨weekday, rfl⟩ := listed
        rw [effective_hours_pushed digest sevenLimits nonempty accepted other weekday,
          effective_hours_pushed digest sevenLimits nonempty accepted other weekday]
      · have absent : ∀ day, key ∉ (payload day).allowedHours.keys := by
          intro day inside
          rw [effective_keys digest policy overrides day] at inside
          obtain ⟨weekday, _, same⟩ := List.mem_map.mp inside
          exact listed ⟨weekday, same⟩
        rw [push_keeps_hours (absent other), push_keeps_hours (absent day), push_keeps_hours (absent other)]
    · have rejected : ∀ (config : TimekprConfig) day, (applyPolicyPush (honestEnforcer refuses readable) config
          username (payload day)).device = config := by
        intro config day
        have limits : (payload day).dailyLimitsS.length ≠ 7 := by
          rw [effective_dailyLimits]
          exact sevenLimits
        simp [applyPolicyPush, limits]
      rw [rejected, rejected, rejected]

/-- A Friday off with the whole day allowed, and the Friday after it. -/
theorem friday_override_reverts :
    let policy : Policy := { createInitialPolicy with allowedHoursJson := fridayHours.allowedHours }
    let friday : Date := .ofYmd 2026 1 2
    let overrides : DayHourOverrides := fun day => if day = friday then some unrestrictedWireIntervals else none
    let payload := fun day => (effectivePolicyPayload (fun _ => "") policy (overrides day) day).1
    hoursAfter (fun _ => false) true "kid" {} [payload friday, payload (friday + 7)] =
      hoursAfter (fun _ => false) true "kid" {} [payload (friday + 7)] := by
  intro policy friday overrides payload
  have nonempty : ∀ day intervals, overrides day = some intervals → intervals ≠ [] := by
    intro day intervals overridden
    simp only [overrides] at overridden
    split at overridden
    · cases overridden
      decide
    · cases overridden
  have reverts := (effective_payload_reverts (fun _ => "") policy overrides nonempty).2
  exact reverts (fun _ => false) true "kid" {} (fun _ _ => rfl) friday (friday + 7)

end TimekprProof
