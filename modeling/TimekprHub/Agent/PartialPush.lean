import TimekprHub.Agent.PushFields
import TimekprHub.Hub.EditorDays

namespace TimekprModel

/-- Every weekday the device allows has the limit it had before or the payload's limit of that weekday.
    timekpr reads the two lists up to the end of the shorter one; a weekday past it has no limit. -/
def OwnLimits (before after : TimekprConfig) (policy : PolicyPayload) : Prop :=
  ∀ weekday : Weekday, (∃ tokens ∈ after.allowedWeekdays, weekday.token ∈ tokens) →
    ∀ limit, positionalLimit after.allowedWeekdays after.limitsPerWeekdays weekday = some limit →
      positionalLimit before.allowedWeekdays before.limitsPerWeekdays weekday = some limit ∨
        limit = policy.dailyLimitsS.getD weekday.index 0

/-- The two setters of the allowed days and their limits are taken or refused together, or what stands at one
    place of the list that moved and the list that stayed suits the weekday all the same. -/
structure DailyPairAgrees (refuses : Setter → Bool) (policy : PolicyPayload) (days : List String)
    (limits : List Int) : Prop where
  daysStay :
    let newDays := weekdaysOrAll policy.allowedWeekdays
    let limitOf := fun weekday : Weekday => policy.dailyLimitsS.getD weekday.index 0
    refuses (.allowedDays (newDays.map Weekday.token)) = true →
      refuses (.timeLimitForDays (newDays.map limitOf)) = false →
      ∀ weekday : Weekday, weekday.token ∈ days → ∀ other ∈ newDays[days.idxOf weekday.token]?,
        limits[days.idxOf weekday.token]? = some (limitOf other) ∨ limitOf other = limitOf weekday
  limitsStay :
    let newDays := weekdaysOrAll policy.allowedWeekdays
    let limitOf := fun weekday : Weekday => policy.dailyLimitsS.getD weekday.index 0
    refuses (.allowedDays (newDays.map Weekday.token)) = false →
      refuses (.timeLimitForDays (newDays.map limitOf)) = true →
      ∀ weekday ∈ newDays, ∀ limit ∈ limits[newDays.idxOf weekday]?,
        limits[days.idxOf weekday.token]? = some limit ∨ limit = limitOf weekday

def withoutTuesday : PolicyPayload where
  version := 2
  dailyLimitsS := [3600, 7200, 10800, 14400, 18000, 21600, 25200]
  allowedWeekdays := [.monday, .wednesday, .thursday, .friday, .saturday, .sunday]
  weeklyLimitS := 7 * 86400
  monthlyLimitS := 31 * 86400

def wholeWeek : TimekprConfig where
  allowedWeekdays := some ["1", "2", "3", "4", "5", "6", "7"]
  limitsPerWeekdays := some withoutTuesday.dailyLimitsS

end TimekprModel

namespace TimekprProof

open TimekprModel

theorem viewOf_allowedWeekdays : ViewOf .allowedWeekdays TimekprConfig.allowedWeekdays := by
  intro config setter other
  cases setter <;> first | rfl | exact absurd rfl other

theorem viewOf_limitsPerWeekdays : ViewOf .limitsPerWeekdays TimekprConfig.limitsPerWeekdays := by
  intro config setter other
  cases setter <;> first | rfl | exact absurd rfl other

theorem idxOf_token (days : List Weekday) (weekday : Weekday) :
    (days.map Weekday.token).idxOf weekday.token = days.idxOf weekday := by
  rw [List.idxOf, List.findIdx_map, List.idxOf]
  apply congrArg (fun same => days.findIdx same)
  funext other
  rw [Function.comp_apply, Bool.eq_iff_iff, beq_iff_eq, beq_iff_eq]
  exact Weekday.token_injective.eq_iff

theorem mem_projected {days : List Weekday} {limits : Weekday → Int} {place : Nat} {limit : Int} :
    limit ∈ (days.map limits)[place]? ↔ ∃ other ∈ days[place]?, limits other = limit := by
  rw [List.getElem?_map]
  exact Option.mem_map

section Pair

variable {refuses : Setter → Bool} {readable : Bool} {config : TimekprConfig} {username : String}
  {policy : PolicyPayload}

/-- Each of the two lists is the payload's or, where its setter was refused, the one from before. -/
theorem push_daily_pair (sevenLimits : policy.dailyLimitsS.length = 7) :
    let newDays := weekdaysOrAll policy.allowedWeekdays
    let tokens := newDays.map Weekday.token
    let projected := newDays.map fun weekday => policy.dailyLimitsS.getD weekday.index 0
    let after := (applyPolicyPush (honestEnforcer refuses readable) config username policy).device
    after.allowedWeekdays = (if refuses (.allowedDays tokens) then config.allowedWeekdays else some tokens) ∧
      after.limitsPerWeekdays =
        (if refuses (.timeLimitForDays projected) then config.limitsPerWeekdays else some projected) := by
  intro newDays tokens projected after
  have same : projectDailyLimitsToAllowedDays policy.dailyLimitsS sevenLimits newDays = projected :=
    projected_eq sevenLimits newDays
  have daysPlanned : allowedDaysStep (readbackOf config readable) policy ∈
      pushSteps (readbackOf config readable) policy sevenLimits := List.mem_cons_self ..
  have limitsPlanned : dayLimitsStep (readbackOf config readable) policy sevenLimits ∈
      pushSteps (readbackOf config readable) policy sevenLimits :=
    List.mem_cons_of_mem _ (List.mem_cons_self ..)
  constructor
  · apply push_view viewOf_allowedWeekdays sevenLimits daysPlanned rfl fun _ => rfl
    intro kept
    exact read_some (of_decide_eq_true kept)
  · rw [← same]
    apply push_view viewOf_limitsPerWeekdays sevenLimits limitsPlanned rfl fun _ => rfl
    intro kept
    exact read_some (of_decide_eq_true (Bool.and_eq_true_iff.mp kept).2)

theorem ownLimits_iff {after : TimekprConfig} {days newDays : List String} {limits newLimits : List Int}
    (priorDays : config.allowedWeekdays = some days) (priorLimits : config.limitsPerWeekdays = some limits)
    (daysAfter : after.allowedWeekdays = some newDays)
    (limitsAfter : after.limitsPerWeekdays = some newLimits) :
    OwnLimits config after policy ↔
      ∀ weekday : Weekday, weekday.token ∈ newDays → ∀ limit ∈ newLimits[newDays.idxOf weekday.token]?,
        limits[days.idxOf weekday.token]? = some limit ∨ limit = policy.dailyLimitsS.getD weekday.index 0 := by
  unfold OwnLimits
  rw [priorDays, priorLimits, daysAfter, limitsAfter]
  constructor
  · intro own weekday listed
    exact own weekday ⟨newDays, rfl, listed⟩
  · rintro own weekday ⟨tokens, same, listed⟩
    exact own weekday (Option.some.inj same ▸ listed)

/-- After a push every allowed weekday has a limit of its own exactly when the pair agrees. -/
theorem partial_push_limits_iff {days : List String} {limits : List Int}
    (sevenLimits : policy.dailyLimitsS.length = 7) (priorDays : config.allowedWeekdays = some days)
    (priorLimits : config.limitsPerWeekdays = some limits) :
    OwnLimits config (applyPolicyPush (honestEnforcer refuses readable) config username policy).device
      policy ↔ DailyPairAgrees refuses policy days limits := by
  obtain ⟨daysAfter, limitsAfter⟩ := @push_daily_pair refuses readable config username policy sevenLimits
  rw [priorDays] at daysAfter
  rw [priorLimits] at limitsAfter
  by_cases daysRefused :
      refuses (.allowedDays ((weekdaysOrAll policy.allowedWeekdays).map Weekday.token)) = true <;>
    by_cases limitsRefused : refuses (.timeLimitForDays ((weekdaysOrAll policy.allowedWeekdays).map
      fun weekday => policy.dailyLimitsS.getD weekday.index 0)) = true
  · rw [if_pos daysRefused] at daysAfter
    rw [if_pos limitsRefused] at limitsAfter
    rw [ownLimits_iff priorDays priorLimits daysAfter limitsAfter]
    apply iff_of_true
    · intro weekday _ limit applied
      exact .inl applied
    · exact ⟨fun _ taken => absurd (limitsRefused.symm.trans taken) (by decide),
        fun taken => absurd (daysRefused.symm.trans taken) (by decide)⟩
  · rw [if_pos daysRefused] at daysAfter
    rw [if_neg limitsRefused] at limitsAfter
    rw [ownLimits_iff priorDays priorLimits daysAfter limitsAfter]
    constructor
    · intro own
      refine ⟨?_, fun taken => absurd (daysRefused.symm.trans taken) (by decide)⟩
      intro _ _ _ _ weekday listed other found
      exact own weekday listed _ (mem_projected.mpr ⟨other, found, rfl⟩)
    · intro agrees weekday listed limit applied
      obtain ⟨other, found, rfl⟩ := mem_projected.mp applied
      exact agrees.daysStay daysRefused (Bool.eq_false_iff.mpr limitsRefused) weekday listed other found
  · rw [if_neg daysRefused] at daysAfter
    rw [if_pos limitsRefused] at limitsAfter
    rw [ownLimits_iff priorDays priorLimits daysAfter limitsAfter]
    constructor
    · intro own
      refine ⟨fun refused => absurd refused daysRefused, ?_⟩
      intro _ _ _ _ weekday listed limit found
      apply own weekday (List.mem_map_of_mem listed) limit
      rw [idxOf_token]
      exact found
    · intro agrees weekday listed limit applied
      have member := (List.mem_map_of_injective Weekday.token_injective).mp listed
      rw [idxOf_token] at applied
      exact agrees.limitsStay (Bool.eq_false_iff.mpr daysRefused) limitsRefused weekday member limit applied
  · rw [if_neg daysRefused] at daysAfter
    rw [if_neg limitsRefused] at limitsAfter
    rw [ownLimits_iff priorDays priorLimits daysAfter limitsAfter]
    apply iff_of_true
    · intro weekday listed limit applied
      have member := (List.mem_map_of_injective Weekday.token_injective).mp listed
      have own := positional_projected (fun weekday => policy.dailyLimitsS.getD weekday.index 0) member
      exact .inr (Option.some.inj (applied.symm.trans own))
    · exact ⟨fun refused => absurd refused daysRefused, fun _ refused => absurd refused limitsRefused⟩

end Pair

theorem partial_push_limits_iff_without_tuesday :
    OwnLimits wholeWeek (applyPolicyPush (honestEnforcer refusesDays true) wholeWeek "kid"
      withoutTuesday).device withoutTuesday ↔
      DailyPairAgrees refusesDays withoutTuesday ["1", "2", "3", "4", "5", "6", "7"]
        withoutTuesday.dailyLimitsS :=
  partial_push_limits_iff rfl rfl rfl

/-- Tuesday stays allowed and, its own limit gone from the list, has Wednesday's. -/
theorem tuesday_gets_wednesdays_limit :
    ¬∀ (refuses : Setter → Bool) (readable : Bool) (config : TimekprConfig) (username : String)
      (policy : PolicyPayload) (days : List String) (limits : List Int),
      config.allowedWeekdays = some days → config.limitsPerWeekdays = some limits →
      days.length = limits.length → policy.dailyLimitsS.length = 7 → policy.allowedWeekdays ≠ [] →
      policy.allowedWeekdays.Nodup →
      OwnLimits config (applyPolicyPush (honestEnforcer refuses readable) config username policy).device
        policy := by
  intro claim
  have own := claim refusesDays true wholeWeek "kid" withoutTuesday _ _ rfl rfl rfl rfl (by decide) (by decide)
  have sevenLimits : withoutTuesday.dailyLimitsS.length = 7 := rfl
  obtain ⟨days, limits⟩ := @push_daily_pair refusesDays true wholeWeek "kid" _ sevenLimits
  unfold OwnLimits at own
  rw [days, limits] at own
  have tuesday := own .tuesday ⟨_, rfl, by decide⟩ 10800 rfl
  revert tuesday
  decide

end TimekprProof
