import TimekprHub.Agent.PushEffect

namespace TimekprModel

/-- The allowed days are the first days of the week, and each position of the list holds a day with
    the limit of the weekday of that number. -/
def PositionsMatch (dailyLimits : List Int) (allowedWeekdays : List Weekday) : Prop :=
  (∀ day ∈ allowedWeekdays, day.index < allowedWeekdays.length) ∧
    ∀ (position : Nat) (inside : position < allowedWeekdays.length),
      dailyLimits.getD allowedWeekdays[position].index 0 = dailyLimits.getD position 0

instance (dailyLimits : List Int) (allowedWeekdays : List Weekday) :
    Decidable (PositionsMatch dailyLimits allowedWeekdays) :=
  inferInstanceAs (Decidable (_ ∧ _))

universe u

structure StoresDayLimits {σ : Type u} (enforcer : TimekprEnforcer σ) (username : String)
    (limitsPerWeekdays : σ → Option (List Int)) : Prop where
  stores : ∀ device limits, (enforcer.call device username (.timeLimitForDays limits)).1 = true →
    limitsPerWeekdays (enforcer.call device username (.timeLimitForDays limits)).2 = some limits
  keeps : ∀ device (setter : Setter), setter.key ≠ .limitsPerWeekdays →
    limitsPerWeekdays (enforcer.call device username setter).2 = limitsPerWeekdays device
  reads : ∀ device applied, enforcer.getAppliedPolicy device username = some applied →
    applied.limitsPerWeekdays = limitsPerWeekdays device

def ReadsOwnLimit (dailyLimits : List Int) (info : UserInformation) (day : Weekday) : Prop :=
  ∃ obs, getUserObservation (some info) day = .ok (some obs) ∧
    obs.limitTodayS = dailyLimits.getD day.index 0

end TimekprModel

namespace TimekprProof

open TimekprModel

universe u

theorem reads_own_limit_iff (dailyLimits : List Int) (info : UserInformation) (day : Weekday) :
    ReadsOwnLimit dailyLimits info day ↔
      info.limitsPerWeekdays[day.index]? = some (dailyLimits.getD day.index 0) := by
  unfold ReadsOwnLimit
  simp only [getUserObservation]
  constructor
  · rintro ⟨obs, returned, limit⟩
    split at returned
    · cases returned
    · rename_i limitToday found
      rw [found, ← limit]
      cases returned
      rfl
  · intro found
    simp only [found]
    exact ⟨_, rfl, rfl⟩

theorem index_surjective {allowedWeekdays : List Weekday} (distinct : allowedWeekdays.Nodup)
    (first : ∀ day ∈ allowedWeekdays, day.index < allowedWeekdays.length) {position : Nat}
    (inside : position < allowedWeekdays.length) : ∃ day ∈ allowedWeekdays, day.index = position := by
  have numbers : (allowedWeekdays.map Weekday.index).Nodup := distinct.map Weekday.index_injective
  have below : allowedWeekdays.map Weekday.index ⊆ List.range allowedWeekdays.length := by
    intro number member
    obtain ⟨day, listed, rfl⟩ := List.mem_map.mp member
    exact List.mem_range.mpr (first day listed)
  have all : (allowedWeekdays.map Weekday.index).Perm (List.range allowedWeekdays.length) := by
    apply (numbers.subperm below).perm_of_length_le
    simp
  have member := all.mem_iff.mpr (List.mem_range.mpr inside)
  exact List.mem_map.mp member

theorem projected_reads_iff {dailyLimits : List Int} {allowedWeekdays : List Weekday}
    (distinct : allowedWeekdays.Nodup) :
    (∀ day ∈ allowedWeekdays,
      (allowedWeekdays.map fun day => dailyLimits.getD day.index 0)[day.index]? =
        some (dailyLimits.getD day.index 0)) ↔ PositionsMatch dailyLimits allowedWeekdays := by
  constructor
  · intro reads
    have first : ∀ day ∈ allowedWeekdays, day.index < allowedWeekdays.length := by
      intro day listed
      obtain ⟨bound, _⟩ := List.getElem?_eq_some_iff.mp (reads day listed)
      rwa [List.length_map] at bound
    refine ⟨first, ?_⟩
    intro position inside
    obtain ⟨day, listed, rfl⟩ := index_surjective distinct first inside
    have own := reads day listed
    rw [List.getElem?_map, List.getElem?_eq_getElem inside] at own
    exact Option.some.inj own
  · rintro ⟨first, positions⟩ day listed
    have inside := first day listed
    rw [List.getElem?_map, List.getElem?_eq_getElem inside]
    exact congrArg some (positions day.index inside)

section Storage

variable {σ : Type u} {enforcer : TimekprEnforcer σ} {device : σ} {username : String}
  {limitsPerWeekdays : σ → Option (List Int)} {policy : PolicyPayload}

def holdsDayLimits (limitsPerWeekdays : σ → Option (List Int)) (device : σ) : Setter → Prop
  | .timeLimitForDays limits => limitsPerWeekdays device = some limits
  | _ => True

theorem day_limits_lawful (storage : StoresDayLimits enforcer username limitsPerWeekdays) :
    Reconcile.Lawful (fun device => enforcer.perform device username) Setter.key
      (holdsDayLimits limitsPerWeekdays) where
  lands := by
    intro device setter taken
    cases setter with
    | timeLimitForDays limits => exact storage.stores device limits taken
    | _ => trivial
  frame := by
    intro device setter other differ held
    cases setter with
    | timeLimitForDays limits =>
      have kept := storage.keeps device other (Ne.symm differ)
      have same : limitsPerWeekdays (enforcer.perform device username other).2 =
          limitsPerWeekdays device := by
        cases other with
        | allowedHours dayNumber hours =>
          simp only [TimekprEnforcer.perform]
          split
          · rfl
          · exact kept
        | _ => exact kept
      exact same.trans held
    | _ => trivial

theorem push_stores_day_limits (storage : StoresDayLimits enforcer username limitsPerWeekdays)
    (ok : (applyPolicyPush enforcer device username policy).ok = true) :
    limitsPerWeekdays (applyPolicyPush enforcer device username policy).device =
      some ((weekdaysOrAll policy.allowedWeekdays).map fun day => policy.dailyLimitsS.getD day.index 0) := by
  have sevenLimits := push_sevenLimits ok
  rw [← projected_eq sevenLimits]
  have planned : dayLimitsStep (enforcer.getAppliedPolicy device username) policy sevenLimits ∈
      pushSteps (enforcer.getAppliedPolicy device username) policy sevenLimits := by
    simp [pushSteps]
  apply push_holds (day_limits_lawful storage) sevenLimits ok planned
  intro kept
  have read := of_decide_eq_true (Bool.and_eq_true_iff.mp kept).2
  obtain ⟨applied, reported, listed⟩ := Option.bind_eq_some_iff.mp read
  exact (storage.reads device applied reported).symm.trans listed

end Storage

section Readback

variable {σ : Type u} (enforcer : TimekprEnforcer σ) (device : σ) (username : String)
  (limitsPerWeekdays : σ → Option (List Int)) (policy : PolicyPayload)

/-- The reader indexes by weekday what the writer stored by position, so every allowed day reads its
    own limit exactly when the positions are the weekdays. -/
theorem weekday_readback_iff (storage : StoresDayLimits enforcer username limitsPerWeekdays)
    (nonempty : policy.allowedWeekdays ≠ []) (distinct : policy.allowedWeekdays.Nodup)
    (ok : (applyPolicyPush enforcer device username policy).ok = true) :
    (∀ day ∈ policy.allowedWeekdays, ∀ info : UserInformation,
      limitsPerWeekdays (applyPolicyPush enforcer device username policy).device =
        some info.limitsPerWeekdays → ReadsOwnLimit policy.dailyLimitsS info day) ↔
      PositionsMatch policy.dailyLimitsS policy.allowedWeekdays := by
  have stored := push_stores_day_limits storage ok
  rw [weekdaysOrAll, if_neg nonempty] at stored
  rw [← projected_reads_iff distinct, stored]
  constructor
  · intro reads day listed
    exact (reads_own_limit_iff _ ⟨none, 0, 0, _⟩ day).mp (reads day listed ⟨none, 0, 0, _⟩ rfl)
  · intro reads day listed info same
    rw [reads_own_limit_iff, ← Option.some.inj same]
    exact reads day listed

end Readback

theorem honest_stores_day_limits (refuses : Setter → Bool) (readable : Bool) (username : String) :
    StoresDayLimits (honestEnforcer refuses readable) username TimekprConfig.limitsPerWeekdays where
  stores := by
    intro config limits taken
    simp only [honestEnforcer] at taken ⊢
    split at taken
    · cases taken
    · rename_i accepted
      simp [accepted, TimekprConfig.store]
  keeps := by
    intro config setter other
    simp only [honestEnforcer]
    split
    · rfl
    · cases setter <;> first | rfl | exact absurd rfl other
  reads := by
    intro config applied read
    cases readable with
    | false => cases read
    | true =>
      cases read
      rfl

/-- The week as `test_projection_gives_each_allowed_day_its_own_limit` sets it, with `allowed` days. -/
def schoolWeek (allowedWeekdays : List Weekday) : PolicyPayload :=
  { version := 1
    dailyLimitsS := [600, 1200, 1800, 2400, 3000, 3600, 4200]
    allowedWeekdays
    weeklyLimitS := 16800
    monthlyLimitS := 67200 }

theorem weekday_readback_iff_monday_to_wednesday :
    (∀ day ∈ [Weekday.monday, .tuesday, .wednesday], ∀ info : UserInformation,
      (applyPolicyPush (honestEnforcer (fun _ => false) true) {} "kid"
        (schoolWeek [.monday, .tuesday, .wednesday])).device.limitsPerWeekdays =
          some info.limitsPerWeekdays →
      ReadsOwnLimit [600, 1200, 1800, 2400, 3000, 3600, 4200] info day) ↔
    PositionsMatch [600, 1200, 1800, 2400, 3000, 3600, 4200] [.monday, .tuesday, .wednesday] :=
  weekday_readback_iff (honestEnforcer (fun _ => false) true) {} "kid" TimekprConfig.limitsPerWeekdays
    (schoolWeek [.monday, .tuesday, .wednesday]) (honest_stores_day_limits _ _ _) (by decide) (by decide)
    (by decide)

/-- With Tuesday off, Wednesday's reading indexes past the two limits stored. -/
theorem weekday_readback_raises :
    (applyPolicyPush (honestEnforcer (fun _ => false) true) {} "kid"
      (schoolWeek [.monday, .wednesday])).ok = true ∧
    (applyPolicyPush (honestEnforcer (fun _ => false) true) {} "kid"
      (schoolWeek [.monday, .wednesday])).device.limitsPerWeekdays = some [600, 1800] ∧
    getUserObservation (some ⟨none, 0, 0, [600, 1800]⟩) .wednesday = .error .indexError := by
  refine ⟨?_, ?_, ?_⟩ <;> decide

end TimekprProof
