import TimekprHub.Agent.PushEffect

namespace TimekprModel

/-- Seven limits, hours under weekday numbers only and some under each, and wake hours without the
    separator, as the hub's pattern for them has it. -/
structure Pushable (policy : PolicyPayload) : Prop where
  sevenLimits : policy.dailyLimitsS.length = 7
  hourDays : ∀ entry ∈ policy.allowedHours.entries, entry.1 ∈ weekdayTokens.map Weekday.token
  someHours : ∀ entry ∈ policy.allowedHours.entries, entry.2 ≠ []
  wakeFrom : ∀ text ∈ policy.wakeFrom, ';' ∉ text.toList
  wakeTo : ∀ text ∈ policy.wakeTo, ';' ∉ text.toList

structure ReadExactly (policy : PolicyPayload) : Prop where
  hourDays : ∀ entry ∈ policy.allowedHours.entries, entry.1 ∈ weekdayTokens.map Weekday.token
  wakeFrom : ∀ text ∈ policy.wakeFrom, ';' ∉ text.toList
  wakeTo : ∀ text ∈ policy.wakeTo, ';' ∉ text.toList

def daysSetter (policy : PolicyPayload) : Setter :=
  .allowedDays ((weekdaysOrAll policy.allowedWeekdays).map Weekday.token)

def playTimeDaysSetter (policy : PolicyPayload) : Setter :=
  .playTimeAllowedDays ((weekdaysOrAll policy.playtime.allowedWeekdays).map Weekday.token)

def fridayHours : PolicyPayload where
  version := 1
  dailyLimitsS := List.replicate 7 3600
  weeklyLimitS := 7 * 3600
  monthlyLimitS := 31 * 3600
  lockoutType := .suspendWake
  wakeFrom := some "7"
  allowedHours := Dict.ofList [("5", [⟨8, 0, 60, false, by decide, by decide, by decide⟩])]

end TimekprModel

namespace TimekprProof

open TimekprModel

universe u

section Taken

variable {σ : Type u} {enforcer : TimekprEnforcer σ} {username : String}

theorem hoursToDbusPayload_nonempty {records : List HourRecord} (some : records ≠ []) :
    hoursToDbusPayload records ≠ ∅ := by
  -- The last record's hour is in the dict, whatever stands before it.
  obtain ⟨earlier, last, rfl⟩ := (List.eq_nil_or_concat records).resolve_left some
  intro empty
  have present : last.hour ∈ hoursToDbusPayload (earlier.concat last) := by
    simp [hoursToDbusPayload]
  rw [empty] at present
  exact Finmap.notMem_empty present

theorem replies_taken (device : σ) {steps : List PushStep}
    (taken : ∀ step ∈ steps, ∀ device, (enforcer.perform device username step.setter).1 = true) :
    ∀ reply ∈ (replies enforcer username device steps).1, reply = true := by
  induction steps generalizing device with
  | nil =>
    intro reply inside
    cases inside
  | cons step rest ih =>
    have later := fun device => ih device fun next member => taken next (List.mem_cons_of_mem _ member)
    cases kept : step.unchanged with
    | true =>
      rw [replies_skip kept]
      exact later device
    | false =>
      rw [replies_perform kept]
      intro reply inside
      rcases List.mem_cons.mp inside with here | after
      · rw [here]
        exact taken step (List.mem_cons_self ..) device
      · exact later _ reply after

theorem foldl_take_unchanged (push : Push σ) {steps : List PushStep}
    (unchanged : ∀ step ∈ steps, step.unchanged = true) :
    (steps.foldl (Push.take enforcer username) push).calls = push.calls ∧
      (steps.foldl (Push.take enforcer username) push).ok = push.ok := by
  induction steps generalizing push with
  | nil => exact ⟨rfl, rfl⟩
  | cons step rest ih =>
    have skipped : push.take enforcer username step = push.skipped :=
      if_pos (unchanged step (List.mem_cons_self ..))
    rw [List.foldl_cons, skipped]
    exact ih push.skipped fun next member => unchanged next (List.mem_cons_of_mem _ member)

end Taken

section Accepting

variable {refuses : Setter → Bool} {readable : Bool} {config : TimekprConfig} {username : String}
  {policy : PolicyPayload}

theorem accepting_perform (accepts : ∀ setter, refuses setter = false) {setter : Setter}
    (some : ∀ day hours, setter = .allowedHours day hours → hours ≠ ∅) (device : TimekprConfig) :
    ((honestEnforcer refuses readable).perform device username setter).1 = true := by
  unfold TimekprEnforcer.perform
  split
  · rename_i day hours
    rw [if_neg (some day hours rfl)]
    simp [honestEnforcer, accepts]
  · simp [honestEnforcer, accepts]

theorem push_accepted (pushable : Pushable policy) (accepts : ∀ setter, refuses setter = false) :
    (applyPolicyPush (honestEnforcer refuses readable) config username policy).ok = true := by
  rw [applyPolicyPush_eq _ _ _ _ pushable.sevenLimits]
  obtain ⟨_, answered, _, _⟩ := foldl_take (honestEnforcer refuses readable) username
    { device := config, applied := readbackOf config readable }
    (pushSteps (readbackOf config readable) policy pushable.sevenLimits)
  refine answered.trans ?_
  rw [Bool.true_and, List.all_eq_true]
  apply replies_taken
  intro step planned device
  apply accepting_perform accepts
  intro day hours hourly
  -- Only the hours' own steps push hours.
  simp only [pushSteps, List.mem_append, List.mem_cons, List.not_mem_nil, or_false, List.mem_map] at planned
  rcases planned with ((((rfl | rfl) | scalar) | rfl) | ⟨entry, listed, rfl⟩) | playTime
  · cases hourly
  · cases hourly
  · simp only [scalarSteps, List.mem_cons, List.not_mem_nil, or_false] at scalar
    rcases scalar with rfl | rfl | rfl | rfl <;> cases hourly
  · cases hourly
  · cases hourly
    apply hoursToDbusPayload_nonempty
    intro none
    exact pushable.someHours entry listed (List.map_eq_nil_iff.mp none)
  · simp only [playTimeSteps, List.mem_cons, List.not_mem_nil, or_false] at playTime
    rcases playTime with rfl | rfl | rfl | rfl | rfl | rfl <;> cases hourly

end Accepting

section Unchanged

variable {config : TimekprConfig} {policy : PolicyPayload}

theorem splitOnce_append {before after : String} (numeric : ';' ∉ before.toList) :
    splitOnce (before ++ ";" ++ after) = [before, after] := by
  have numeric' : ∀ c ∈ before.toList, decide (c ≠ ';') = true := by
    intro c member
    apply decide_eq_true
    intro same
    exact numeric (same ▸ member)
  have text : (before ++ ";" ++ after).toList = before.toList ++ ';' :: after.toList := by simp
  have head : (before.toList ++ ';' :: after.toList).takeWhile (· ≠ ';') =
      before.toList ++ (';' :: after.toList).takeWhile (· ≠ ';') :=
    List.takeWhile_append_of_pos numeric'
  have tail : (before.toList ++ ';' :: after.toList).dropWhile (· ≠ ';') =
      (';' :: after.toList).dropWhile (· ≠ ';') :=
    List.dropWhile_append_of_pos numeric'
  unfold splitOnce
  rw [text, tail, head]
  simp

theorem held_lockout (typed : config.lockoutType = some policy.lockoutType.value)
    (window : policy.lockoutType = .suspendWake → config.wakeupWindow =
      some (textOr policy.wakeFrom defaultWakeFrom, textOr policy.wakeTo defaultWakeTo))
    (separated : ∀ text ∈ policy.wakeFrom, ';' ∉ text.toList) :
    (lockoutStep (some config.readback) policy).unchanged = true := by
  apply decide_eq_true
  unfold currentLockout desiredLockout
  have named : config.readback.lockoutType = some policy.lockoutType.value := typed
  by_cases wakes : policy.lockoutType = .suspendWake
  · have clean : ';' ∉ (textOr policy.wakeFrom defaultWakeFrom).toList :=
      textOr_separated separated (by decide)
    have suspend : config.lockoutType = some "suspendwake" := by
      rw [typed, wakes]
      rfl
    have reported : config.readback.wakeupHourInterval =
        some (textOr policy.wakeFrom defaultWakeFrom ++ ";" ++ textOr policy.wakeTo defaultWakeTo) := by
      simp only [TimekprConfig.readback, if_pos suspend, window wakes, Option.map_some]
    rw [if_pos wakes, if_pos wakes]
    simp only [Option.bind_some, named, reported, Option.map_some, splitOnce_append clean]
  · rw [if_neg wakes, if_neg wakes]
    simp only [Option.bind_some, named, Option.map_some]

def limitsByPosition : ConfigKey → Bool
  | .limitsPerWeekdays | .playTimeLimitsPerWeekdays => true
  | _ => false

theorem alone_unchanged_iff {step : PushStep} (kept : step.unchanged = true ↔ config.holds step.setter)
    (alone : limitsByPosition step.setter.key = false) :
    step.unchanged = true ↔ config.holds step.setter ∧
      (step.setter.key = .limitsPerWeekdays → config.holds (daysSetter policy)) ∧
      (step.setter.key = .playTimeLimitsPerWeekdays → config.holds (playTimeDaysSetter policy)) := by
  have limits : step.setter.key ≠ .limitsPerWeekdays := by
    intro same
    rw [same] at alone
    cases alone
  have playLimits : step.setter.key ≠ .playTimeLimitsPerWeekdays := by
    intro same
    rw [same] at alone
    cases alone
  rw [kept]
  constructor
  · intro held
    exact ⟨held, fun same => absurd same limits, fun same => absurd same playLimits⟩
  · exact And.left

variable {sevenLimits : policy.dailyLimitsS.length = 7} in
theorem unchanged_iff (exactly : ReadExactly policy) {step : PushStep}
    (planned : step ∈ pushSteps (some config.readback) policy sevenLimits) :
    step.unchanged = true ↔ config.holds step.setter ∧
      (step.setter.key = .limitsPerWeekdays → config.holds (daysSetter policy)) ∧
      (step.setter.key = .playTimeLimitsPerWeekdays → config.holds (playTimeDaysSetter policy)) := by
  have held : step.unchanged = true → config.holds step.setter :=
    @unchanged_holds policy sevenLimits config true exactly.wakeTo step planned
  simp only [pushSteps, List.mem_append, List.mem_cons, List.not_mem_nil, or_false, List.mem_map] at planned
  rcases planned with ((((rfl | rfl) | scalar) | rfl) | ⟨entry, listed, rfl⟩) | playTime
  · exact alone_unchanged_iff decide_eq_true_iff rfl
  · constructor
    · intro kept
      have days := of_decide_eq_true (Bool.and_eq_true_iff.mp kept).1
      refine ⟨held kept, fun _ => days, fun same => ?_⟩
      cases same
    · rintro ⟨limits, days, _⟩
      exact Bool.and_eq_true_iff.mpr ⟨decide_eq_true (days rfl), decide_eq_true limits⟩
  · simp only [scalarSteps, List.mem_cons, List.not_mem_nil, or_false] at scalar
    rcases scalar with rfl | rfl | rfl | rfl <;> exact alone_unchanged_iff decide_eq_true_iff rfl
  · apply alone_unchanged_iff ⟨held, _⟩ rfl
    intro locked
    apply held_lockout locked.1 _ exactly.wakeFrom
    intro wakes
    exact locked.2 (by rw [wakes]; rfl)
  · apply alone_unchanged_iff ⟨held, _⟩ rfl
    intro stored
    apply decide_eq_true
    simp only [Option.bind_some, TimekprConfig.readback, if_pos (exactly.hourDays entry listed)]
    exact stored
  · simp only [playTimeSteps, List.mem_cons, List.not_mem_nil, or_false] at playTime
    rcases playTime with rfl | rfl | rfl | rfl | rfl | rfl
    · exact alone_unchanged_iff decide_eq_true_iff rfl
    · exact alone_unchanged_iff decide_eq_true_iff rfl
    · exact alone_unchanged_iff decide_eq_true_iff rfl
    · exact alone_unchanged_iff decide_eq_true_iff rfl
    · constructor
      · intro kept
        have days := of_decide_eq_true (Bool.and_eq_true_iff.mp kept).1
        refine ⟨held kept, fun same => ?_, fun _ => days⟩
        cases same
      · rintro ⟨limits, _, days⟩
        exact Bool.and_eq_true_iff.mpr ⟨decide_eq_true (days rfl), decide_eq_true limits⟩
    · exact alone_unchanged_iff decide_eq_true_iff rfl

theorem landed_unchanged (pushable : Pushable policy) (landed : Landed config policy) :
    ∀ step ∈ pushSteps (some config.readback) policy pushable.sevenLimits, step.unchanged = true := by
  have held := (landed_iff_holds (some config.readback) policy pushable.sevenLimits).mp landed
  have exactly : ReadExactly policy := ⟨pushable.hourDays, pushable.wakeFrom, pushable.wakeTo⟩
  intro step planned
  apply (unchanged_iff exactly planned).mpr
  exact ⟨held step planned, fun _ => landed.allowedWeekdays, fun _ => landed.playTimeAllowedWeekdays⟩

theorem push_of_landed {refuses : Setter → Bool} {username : String} (pushable : Pushable policy)
    (landed : Landed config policy) :
    (applyPolicyPush (honestEnforcer refuses true) config username policy).calls = [] ∧
      (applyPolicyPush (honestEnforcer refuses true) config username policy).ok = true := by
  rw [applyPolicyPush_eq _ _ _ _ pushable.sevenLimits]
  exact foldl_take_unchanged _ (landed_unchanged pushable landed)

end Unchanged

/-- What a push reports as done is done, nothing keeps a push from succeeding but a refused setter, and
    what is done is not pushed again. -/
theorem push_settles {policy : PolicyPayload} (pushable : Pushable policy) (refuses : Setter → Bool)
    (readable : Bool) (config : TimekprConfig) (username : String) :
    let push := applyPolicyPush (honestEnforcer refuses readable) config username policy
    (push.ok = true → Landed push.device policy) ∧
      ((∀ setter, refuses setter = false) → push.ok = true) ∧
      (Landed config policy → readable = true → push.calls = [] ∧ push.ok = true) := by
  intro push
  refine ⟨push_lands pushable.wakeTo, push_accepted pushable, ?_⟩
  intro landed readable
  subst readable
  exact push_of_landed pushable landed

theorem fridayHours_pushable : Pushable fridayHours := by
  constructor <;> decide

/-- Onto an empty config nothing is known of, and nothing is refused. -/
theorem push_settles_friday :
    Landed (applyPolicyPush (honestEnforcer (fun _ => false) false) {} "kid" fridayHours).device
      fridayHours := by
  obtain ⟨lands, accepted, _⟩ := push_settles fridayHours_pushable (fun _ => false) false {} "kid"
  exact lands (accepted fun _ => rfl)

end TimekprProof
