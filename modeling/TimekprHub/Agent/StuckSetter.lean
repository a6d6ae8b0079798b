import TimekprHub.Agent.PushFields

namespace TimekprModel

def payloadSetters (policy : PolicyPayload) : List Setter :=
  if sevenLimits : policy.dailyLimitsS.length = 7 then
    (pushSteps none policy sevenLimits).map PushStep.setter
  else []

def pushed (refuses : Setter → Bool) (username : String) (policy : PolicyPayload) (config : TimekprConfig) :
    Nat → TimekprConfig
  | 0 => config
  | count + 1 =>
    (applyPolicyPush (honestEnforcer refuses true) (pushed refuses username policy config count) username
      policy).device

/-- The second and every later push calls, once each, the setters that are turned down and whose field still
    differs, and no other. -/
def OnlyStuckRetried (refuses : Setter → Bool) (username : String) (policy : PolicyPayload)
    (config : TimekprConfig) : Prop :=
  ∀ count,
    let device := pushed refuses username policy config (count + 1)
    let calls := (applyPolicyPush (honestEnforcer refuses true) device username policy).calls
    calls.Nodup ∧ ∀ setter, setter ∈ calls ↔
      setter ∈ payloadSetters policy ∧ turnedDown refuses setter = true ∧ ¬device.holds setter

def limitsSetter (policy : PolicyPayload) : Setter :=
  .timeLimitForDays ((weekdaysOrAll policy.allowedWeekdays).map fun day => policy.dailyLimitsS.getD day.index 0)

def playTimeLimitsSetter (policy : PolicyPayload) : Setter :=
  .playTimeLimitsForDays ((weekdaysOrAll policy.playtime.allowedWeekdays).map fun day =>
    policy.playtime.dailyLimitsS.getD day.index 0)

structure StuckTogether (refuses : Setter → Bool) (policy : PolicyPayload) (config : TimekprConfig) : Prop where
  daily : refuses (daysSetter policy) = true → ¬config.holds (daysSetter policy) →
    refuses (limitsSetter policy) = true ∧ ¬config.holds (limitsSetter policy)
  playTime : refuses (playTimeDaysSetter policy) = true → ¬config.holds (playTimeDaysSetter policy) →
    refuses (playTimeLimitsSetter policy) = true ∧ ¬config.holds (playTimeLimitsSetter policy)

end TimekprModel

namespace TimekprProof

open TimekprModel

section Steps

variable {config : TimekprConfig} {policy : PolicyPayload} {sevenLimits : policy.dailyLimitsS.length = 7}

theorem pushSteps_setters (applied other : Option AppliedPolicy) :
    (pushSteps applied policy sevenLimits).map PushStep.setter =
      (pushSteps other policy sevenLimits).map PushStep.setter := by
  have hours : (policy.allowedHours.entries.map (hoursStep applied)).map PushStep.setter =
      (policy.allowedHours.entries.map (hoursStep other)).map PushStep.setter := by
    rw [List.map_map, List.map_map]
    rfl
  simp only [pushSteps, List.map_append, hours]
  rfl

variable (sevenLimits) in
theorem mem_payloadSetters (applied : Option AppliedPolicy) {setter : Setter} :
    setter ∈ payloadSetters policy ↔ ∃ step ∈ pushSteps applied policy sevenLimits, step.setter = setter := by
  rw [payloadSetters, dif_pos sevenLimits, pushSteps_setters none applied, List.mem_map]

end Steps

section Retry

variable {refuses : Setter → Bool} {username : String} {config : TimekprConfig} {policy : PolicyPayload}

/-- One push settles a field: the payload's value is there unless its setter was turned down and it was not
    there before. -/
theorem holds_after_push (exactly : ReadExactly policy) {setter : Setter}
    (listed : setter ∈ payloadSetters policy) :
    (applyPolicyPush (honestEnforcer refuses true) config username policy).device.holds setter ↔
      turnedDown refuses setter = false ∨ config.holds setter := by
  by_cases sevenLimits : policy.dailyLimitsS.length = 7
  · obtain ⟨step, planned, rfl⟩ := (mem_payloadSetters sevenLimits (some config.readback)).mp listed
    have shown : ViewOf step.setter.key fun config : TimekprConfig => config.holds step.setter := by
      intro config other differ
      exact propext (config.holds_store_iff (Ne.symm differ))
    have kept : step.unchanged = true → config.holds step.setter = True :=
      fun kept => eq_true ((unchanged_iff exactly planned).mp kept).1
    have seen := @push_view _ _ _ refuses true config username policy shown sevenLimits _ planned rfl _
      (fun config => eq_true (config.holds_store step.setter)) kept
    rw [seen]
    cases turnedDown refuses step.setter <;> simp
  · rw [payloadSetters, dif_neg sevenLimits] at listed
    cases listed

theorem holds_pushed (exactly : ReadExactly policy) {setter : Setter}
    (listed : setter ∈ payloadSetters policy) (count : Nat) :
    (pushed refuses username policy config (count + 1)).holds setter ↔
      turnedDown refuses setter = false ∨ config.holds setter := by
  induction count with
  | zero => exact holds_after_push exactly listed
  | succ count ih =>
    rw [pushed, holds_after_push exactly listed, ih, ← or_assoc, or_self]

theorem mem_push_calls (exactly : ReadExactly policy) {setter : Setter} :
    setter ∈ (applyPolicyPush (honestEnforcer refuses true) config username policy).calls ↔
      setter ∈ payloadSetters policy ∧ ¬(config.holds setter ∧
        (setter.key = .limitsPerWeekdays → config.holds (daysSetter policy)) ∧
        (setter.key = .playTimeLimitsPerWeekdays → config.holds (playTimeDaysSetter policy))) := by
  by_cases sevenLimits : policy.dailyLimitsS.length = 7
  · rw [push_calls config sevenLimits, mem_payloadSetters sevenLimits (some config.readback),
      List.mem_map]
    constructor
    · rintro ⟨step, filtered, rfl⟩
      obtain ⟨planned, needed⟩ := List.mem_filter.mp filtered
      refine ⟨⟨step, planned, rfl⟩, fun held => ?_⟩
      rw [(unchanged_iff exactly planned).mpr held] at needed
      cases needed
    · rintro ⟨⟨step, planned, rfl⟩, differs⟩
      refine ⟨step, List.mem_filter.mpr ⟨planned, ?_⟩, rfl⟩
      rw [Bool.not_eq_true']
      exact Bool.eq_false_iff.mpr fun kept => differs ((unchanged_iff exactly planned).mp kept)
  · rw [payloadSetters, dif_neg sevenLimits]
    simp [applyPolicyPush, sevenLimits]

theorem payloadSetters_keys (policy : PolicyPayload) : ((payloadSetters policy).map Setter.key).Nodup := by
  by_cases sevenLimits : policy.dailyLimitsS.length = 7
  · have apart := pushSteps_distinct none policy sevenLimits
    rw [List.pairwise_map] at apart
    rw [payloadSetters, dif_pos sevenLimits, List.map_map]
    exact List.pairwise_map.mpr apart
  · rw [payloadSetters, dif_neg sevenLimits]
    exact List.nodup_nil

theorem payloadSetters_unique {setter other : Setter} (listed : setter ∈ payloadSetters policy)
    (also : other ∈ payloadSetters policy) (same : setter.key = other.key) : setter = other :=
  List.inj_on_of_nodup_map (payloadSetters_keys policy) listed also same

theorem push_calls_nodup {device : TimekprConfig} :
    (applyPolicyPush (honestEnforcer refuses true) device username policy).calls.Nodup := by
  by_cases sevenLimits : policy.dailyLimitsS.length = 7
  · have called : ((pushSteps (some device.readback) policy sevenLimits).map PushStep.setter).Nodup := by
      rw [pushSteps_setters (some device.readback) none]
      have keys := payloadSetters_keys policy
      rw [payloadSetters, dif_pos sevenLimits] at keys
      exact keys.of_map
    rw [push_calls device sevenLimits]
    exact called.sublist (List.filter_sublist.map _)
  · simp [applyPolicyPush, sevenLimits]

theorem pairs_listed (sevenLimits : policy.dailyLimitsS.length = 7) :
    daysSetter policy ∈ payloadSetters policy ∧ limitsSetter policy ∈ payloadSetters policy ∧
      playTimeDaysSetter policy ∈ payloadSetters policy ∧
      playTimeLimitsSetter policy ∈ payloadSetters policy := by
  have limits : (dayLimitsStep none policy sevenLimits).setter = limitsSetter policy :=
    congrArg Setter.timeLimitForDays (projected_eq sevenLimits _)
  have playLimits : playTimeLimitsSetter policy ∈ (playTimeSteps none policy.playtime).map PushStep.setter := by
    rw [playTimeLimitsSetter, ← projected_eq policy.playtime.sevenLimits]
    simp [playTimeSteps]
  have playDays : playTimeDaysSetter policy ∈ (playTimeSteps none policy.playtime).map PushStep.setter := by
    simp [playTimeSteps, playTimeDaysSetter]
  rw [payloadSetters, dif_pos sevenLimits, pushSteps, List.map_append]
  refine ⟨List.mem_cons_self .., ?_, List.mem_append_right _ playDays, List.mem_append_right _ playLimits⟩
  rw [← limits]
  exact List.mem_cons_of_mem _ (List.mem_cons_self ..)

theorem stuck_days_push_limits (exactly : ReadExactly policy) {days limits : Setter}
    (listedDays : days ∈ payloadSetters policy) (listed : limits ∈ payloadSetters policy)
    (coupled : ∀ config : TimekprConfig, limits ∉ (applyPolicyPush (honestEnforcer refuses true) config username
      policy).calls → config.holds days)
    (only : OnlyStuckRetried refuses username policy config) (stuck : turnedDown refuses days = true)
    (differs : ¬config.holds days) : turnedDown refuses limits = true ∧ ¬config.holds limits := by
  have daysDiffer : ¬(pushed refuses username policy config 1).holds days := by
    rw [holds_pushed exactly listedDays, stuck]
    simpa using differs
  have called := Decidable.not_not.mp fun absent => daysDiffer (coupled _ absent)
  obtain ⟨_, down, held⟩ := ((only 0).2 limits).mp called
  rw [holds_pushed exactly listed, not_or] at held
  exact ⟨down, held.2⟩

theorem limits_settle_with_days (exactly : ReadExactly policy) {days limits : Setter}
    (listedDays : days ∈ payloadSetters policy) (listed : limits ∈ payloadSetters policy)
    (together : turnedDown refuses days = true → ¬config.holds days →
      turnedDown refuses limits = true ∧ ¬config.holds limits) {count : Nat}
    (held : (pushed refuses username policy config (count + 1)).holds limits) :
    (pushed refuses username policy config (count + 1)).holds days := by
  rw [holds_pushed exactly listed] at held
  rw [holds_pushed exactly listedDays]
  by_contra stuck
  rw [not_or, Bool.not_eq_false] at stuck
  obtain ⟨down, differs⟩ := together stuck.1 stuck.2
  rw [down] at held
  exact differs (held.resolve_left (by decide))

/-- Retries call nothing but what is stuck exactly when no stuck days drag limits along that are not. -/
theorem only_stuck_retried_iff (exactly : ReadExactly policy) :
    OnlyStuckRetried refuses username policy config ↔
      (policy.dailyLimitsS.length = 7 → StuckTogether refuses policy config) := by
  constructor
  · intro only sevenLimits
    obtain ⟨days, limits, playDays, playLimits⟩ := pairs_listed sevenLimits
    constructor
    · apply stuck_days_push_limits exactly days limits _ only
      intro config absent
      rw [mem_push_calls exactly] at absent
      exact (not_not.mp fun differs => absent ⟨limits, differs⟩).2.1 rfl
    · apply stuck_days_push_limits exactly playDays playLimits _ only
      intro config absent
      rw [mem_push_calls exactly] at absent
      exact (not_not.mp fun differs => absent ⟨playLimits, differs⟩).2.2 rfl
  · intro together count
    refine ⟨push_calls_nodup, fun setter => ?_⟩
    rw [mem_push_calls exactly, and_congr_right_iff]
    intro listed
    have sevenLimits : policy.dailyLimitsS.length = 7 := by
      by_contra other
      rw [payloadSetters, dif_neg other] at listed
      cases listed
    obtain ⟨days, limits, playDays, playLimits⟩ := pairs_listed sevenLimits
    obtain ⟨daily, playTime⟩ := together sevenLimits
    constructor
    · intro differs
      have unheld : ¬(pushed refuses username policy config (count + 1)).holds setter := by
        intro held
        refine differs ⟨held, fun same => ?_, fun same => ?_⟩
        · have own := payloadSetters_unique listed limits same
          exact limits_settle_with_days exactly days limits daily (own ▸ held)
        · have own := payloadSetters_unique listed playLimits same
          exact limits_settle_with_days exactly playDays playLimits playTime (own ▸ held)
      have settled := unheld
      rw [holds_pushed exactly listed, not_or, Bool.not_eq_false] at settled
      exact ⟨settled.1, unheld⟩
    · rintro ⟨_, unheld⟩ held
      exact unheld held.1

end Retry

theorem fridayHours_read : ReadExactly fridayHours :=
  ⟨fridayHours_pushable.hourDays, fridayHours_pushable.wakeFrom, fridayHours_pushable.wakeTo⟩

theorem only_stuck_retried_iff_friday :
    OnlyStuckRetried refusesDays "kid" fridayHours {} ↔
      (fridayHours.dailyLimitsS.length = 7 → StuckTogether refusesDays fridayHours {}) :=
  only_stuck_retried_iff fridayHours_read

/-- The limits landed with the first push, and every later one writes them again. -/
theorem stuck_days_rewrite_limits :
    ¬∀ (refuses : Setter → Bool) (username : String) (policy : PolicyPayload) (config : TimekprConfig),
      ReadExactly policy → OnlyStuckRetried refuses username policy config := by
  intro claim
  have only := claim refusesDays "kid" fridayHours {} fridayHours_read
  obtain ⟨days, limits, _, _⟩ := pairs_listed fridayHours_pushable.sevenLimits
  have stuck : ¬(pushed refusesDays "kid" fridayHours {} 1).holds (daysSetter fridayHours) := by
    rw [holds_pushed fridayHours_read days]
    rintro (taken | held)
    · cases taken
    · cases held
  have called : limitsSetter fridayHours ∈ (applyPolicyPush (honestEnforcer refusesDays true)
      (pushed refusesDays "kid" fridayHours {} 1) "kid" fridayHours).calls :=
    (mem_push_calls fridayHours_read).mpr ⟨limits, fun held => stuck (held.2.1 rfl)⟩
  have down := (((only 0).2 (limitsSetter fridayHours)).mp called).2.1
  cases down

end TimekprProof
