import TimekprHub.Agent.PolicyPush
import TimekprHub.Hub.Policy

namespace TimekprModel

def AllowedHourInterval.Covers (interval : AllowedHourInterval) (minute : Int) (unaccounted : Bool) : Prop :=
  interval.hour * 60 + interval.startMin ≤ minute ∧ minute < interval.hour * 60 + interval.endMin ∧
    interval.unaccounted = unaccounted

def HourDict.Covers (hours : HourDict) (minute : Int) (unaccounted : Bool) : Prop :=
  ∃ hour window, hours.lookup hour = some window ∧ hour * 60 + window.startMin ≤ minute ∧
    minute < hour * 60 + window.endMin ∧ window.uacc = unaccounted

/-- What the agent builds for `setAllowedHours` from one weekday of an accepted edit. -/
def toldHours (current : Option Policy) (update : PolicyUpdate) (day : Weekday) : Option HourDict :=
  let payload := policyToPayload (updatePolicy current update)
  ((materializeAllowedHours payload.allowedHours).get? day.token).map fun intervals =>
    hoursToDbusPayload (intervals.map AllowedHourInterval.record)

/-- The device is told some time, and exactly the time the stored records say. -/
def ToldAsStored (told : Option HourDict) (intervals : List AllowedHourInterval) : Prop :=
  ∃ hours, told = some hours ∧
    (∀ minute unaccounted, hours.Covers minute unaccounted ↔
      ∃ interval ∈ intervals, interval.Covers minute unaccounted) ∧
    ∃ minute unaccounted, hours.Covers minute unaccounted

def lastOfHour (intervals : List AllowedHourInterval) (hour : Int) : Option AllowedHourInterval :=
  (intervals.filter fun interval => interval.hour = hour).getLast?

/-- Some record is not empty, and each such record lies within the last one of its hour, which has the
    same flag. -/
def LastRecordsCover (intervals : List AllowedHourInterval) : Prop :=
  (∃ interval ∈ intervals, interval.startMin < interval.endMin) ∧
    ∀ interval ∈ intervals, interval.startMin < interval.endMin →
      ∀ last ∈ lastOfHour intervals interval.hour, last.startMin ≤ interval.startMin ∧
        interval.endMin ≤ last.endMin ∧ last.unaccounted = interval.unaccounted

end TimekprModel

namespace TimekprProof

open TimekprModel

theorem lastOfHour_mem {intervals : List AllowedHourInterval} {hour : Int} {last : AllowedHourInterval}
    (found : last ∈ lastOfHour intervals hour) : last ∈ intervals ∧ last.hour = hour := by
  have member := List.mem_of_mem_getLast? found
  simpa only [List.mem_filter, decide_eq_true_eq] using member

theorem lastOfHour_isSome {intervals : List AllowedHourInterval} {interval : AllowedHourInterval}
    (listed : interval ∈ intervals) : ∃ last, lastOfHour intervals interval.hour = some last := by
  apply Option.isSome_iff_exists.mp
  rw [lastOfHour, List.getLast?_isSome]
  have member : interval ∈ intervals.filter fun other => other.hour = interval.hour := by
    simpa only [List.mem_filter, decide_eq_true_eq] using ⟨listed, trivial⟩
  exact List.ne_nil_of_mem member

theorem lastOfHour_append (intervals : List AllowedHourInterval) (interval : AllowedHourInterval)
    (hour : Int) :
    lastOfHour (intervals ++ [interval]) hour =
      if interval.hour = hour then some interval else lastOfHour intervals hour := by
  unfold lastOfHour
  rw [List.filter_append]
  split
  · rename_i same
    simp [same]
  · rename_i differ
    simp [differ]

theorem payload_lookup (intervals : List AllowedHourInterval) (hour : Int) :
    (hoursToDbusPayload (intervals.map AllowedHourInterval.record)).lookup hour =
      (lastOfHour intervals hour).map fun last => last.record.window := by
  induction intervals using List.reverseRecOn with
  | nil => rfl
  | append_singleton intervals interval ih =>
    rw [lastOfHour_append]
    simp only [hoursToDbusPayload, List.map_append, List.map_cons, List.map_nil, List.foldl_append,
      List.foldl_cons, List.foldl_nil] at ih ⊢
    by_cases same : interval.hour = hour
    · subst same
      rw [if_pos rfl]
      exact Finmap.lookup_insert _
    · rw [if_neg same, ← ih]
      exact Finmap.lookup_insert_of_ne _ (Ne.symm same)

theorem covers_hour {interval other : AllowedHourInterval} {minute : Int} {unaccounted flag : Bool}
    (first : interval.Covers minute unaccounted) (second : other.Covers minute flag) :
    interval.hour = other.hour := by
  have startFirst := interval.startBounds
  have endFirst := interval.endBounds
  have startSecond := other.startBounds
  have endSecond := other.endBounds
  unfold AllowedHourInterval.Covers at first second
  omega

theorem payload_covers (intervals : List AllowedHourInterval) (minute : Int) (unaccounted : Bool) :
    (hoursToDbusPayload (intervals.map AllowedHourInterval.record)).Covers minute unaccounted ↔
      ∃ hour, ∃ last ∈ lastOfHour intervals hour, last.Covers minute unaccounted := by
  constructor
  · rintro ⟨hour, window, held, covers⟩
    rw [payload_lookup, Option.map_eq_some_iff] at held
    obtain ⟨last, found, rfl⟩ := held
    have same := (lastOfHour_mem found).2
    refine ⟨hour, last, found, ?_⟩
    rw [← same] at covers
    exact covers
  · rintro ⟨hour, last, found, covers⟩
    have same := (lastOfHour_mem found).2
    refine ⟨hour, last.record.window, ?_, ?_⟩
    · rw [payload_lookup, Option.mem_def.mp found]
      rfl
    · rw [← same]
      exact covers

/-- What the dict covers, the list covers: the loss is on the other side only. -/
theorem payload_covers_stored {intervals : List AllowedHourInterval} {minute : Int} {unaccounted : Bool}
    (covers : (hoursToDbusPayload (intervals.map AllowedHourInterval.record)).Covers minute unaccounted) :
    ∃ interval ∈ intervals, interval.Covers minute unaccounted := by
  obtain ⟨hour, last, found, within⟩ := (payload_covers intervals minute unaccounted).mp covers
  exact ⟨last, (lastOfHour_mem found).1, within⟩

theorem first_minute_covers {interval : AllowedHourInterval} (nonempty : interval.startMin < interval.endMin) :
    interval.Covers (interval.hour * 60 + interval.startMin) interval.unaccounted := by
  refine ⟨?_, ?_, rfl⟩
  · omega
  · omega

theorem last_minute_covers {interval : AllowedHourInterval} (nonempty : interval.startMin < interval.endMin) :
    interval.Covers (interval.hour * 60 + interval.endMin - 1) interval.unaccounted := by
  refine ⟨?_, ?_, rfl⟩
  · omega
  · omega

theorem payload_covers_last {intervals : List AllowedHourInterval} {interval last : AllowedHourInterval}
    (found : last ∈ lastOfHour intervals interval.hour) {minute : Int} {unaccounted : Bool}
    (stored : interval.Covers minute unaccounted)
    (covers : (hoursToDbusPayload (intervals.map AllowedHourInterval.record)).Covers minute unaccounted) :
    last.Covers minute unaccounted := by
  obtain ⟨hour, other, foundOther, within⟩ := (payload_covers intervals minute unaccounted).mp covers
  have hours := covers_hour within stored
  have named := (lastOfHour_mem foundOther).2
  have same : hour = interval.hour := named ▸ hours
  subst same
  have equal := Option.mem_unique foundOther found
  exact equal ▸ within

theorem payload_covers_all_iff (intervals : List AllowedHourInterval) :
    ToldAsStored (some (hoursToDbusPayload (intervals.map AllowedHourInterval.record))) intervals ↔
      LastRecordsCover intervals := by
  constructor
  · rintro ⟨hours, same, agree, minute, unaccounted, covered⟩
    cases same
    constructor
    · obtain ⟨interval, listed, covers⟩ := (agree minute unaccounted).mp covered
      unfold AllowedHourInterval.Covers at covers
      exact ⟨interval, listed, by omega⟩
    · intro interval listed nonempty last found
      have first := payload_covers_last found (first_minute_covers nonempty)
        ((agree _ _).mpr ⟨interval, listed, first_minute_covers nonempty⟩)
      have final := payload_covers_last found (last_minute_covers nonempty)
        ((agree _ _).mpr ⟨interval, listed, last_minute_covers nonempty⟩)
      have hour := (lastOfHour_mem found).2
      unfold AllowedHourInterval.Covers at first final
      refine ⟨?_, ?_, first.2.2⟩
      · omega
      · omega
  · rintro ⟨⟨interval, listed, nonempty⟩, within⟩
    -- Each stored record is inside the last of its hour, which is what the dict holds.
    have grown : ∀ minute unaccounted, (∃ interval ∈ intervals, interval.Covers minute unaccounted) →
        (hoursToDbusPayload (intervals.map AllowedHourInterval.record)).Covers minute unaccounted := by
      rintro minute unaccounted ⟨interval, listed, covers⟩
      obtain ⟨last, found⟩ := lastOfHour_isSome listed
      have hour := (lastOfHour_mem found).2
      have nonempty : interval.startMin < interval.endMin := by
        unfold AllowedHourInterval.Covers at covers
        omega
      obtain ⟨start, finish, flag⟩ := within interval listed nonempty last found
      apply (payload_covers intervals minute unaccounted).mpr
      refine ⟨interval.hour, last, found, ?_⟩
      unfold AllowedHourInterval.Covers at covers ⊢
      refine ⟨?_, ?_, flag.trans covers.2.2⟩
      · omega
      · omega
    refine ⟨_, rfl, ?_, ?_⟩
    · intro minute unaccounted
      exact ⟨payload_covers_stored, grown minute unaccounted⟩
    · exact ⟨_, _, grown _ _ ⟨interval, listed, first_minute_covers nonempty⟩⟩

theorem toldHours_stored {current : Option Policy} {update : PolicyUpdate} {day : Weekday}
    {intervals : List AllowedHourInterval} (stored : update.allowedHours.get? day.token = some intervals)
    (nonempty : intervals ≠ []) :
    toldHours current update day = some (hoursToDbusPayload (intervals.map AllowedHourInterval.record)) := by
  have standing : standingHours update.allowedHours day = intervals := by
    unfold standingHours
    rw [stored]
    cases intervals with
    | nil => exact absurd rfl nonempty
    | cons interval rest => rfl
  simp only [toldHours, policyToPayload, updatePolicy, get?_materialize, standing, Option.map_some]

/-- The device is told what is stored exactly when no hour's last record leaves out an earlier one. -/
theorem told_as_stored_iff {current : Option Policy} {update : PolicyUpdate} {day : Weekday}
    {intervals : List AllowedHourInterval} (stored : update.allowedHours.get? day.token = some intervals)
    (nonempty : intervals ≠ []) :
    ToldAsStored (toldHours current update day) intervals ↔ LastRecordsCover intervals := by
  rw [toldHours_stored stored nonempty]
  exact payload_covers_all_iff intervals

def mondayHours (intervals : List AllowedHourInterval) : PolicyUpdate :=
  { anHourADay with allowedHours := Dict.empty.set Weekday.monday.token intervals }

theorem told_as_stored_iff_one_window :
    let evening : List AllowedHourInterval :=
      [{ hour := 18, startMin := 0, endMin := 30, hourBounds := by decide, startBounds := by decide,
         endBounds := by decide }]
    ToldAsStored (toldHours none (mondayHours evening) .monday) evening ↔ LastRecordsCover evening :=
  told_as_stored_iff (Dict.get?_set_same _ _ _) (List.cons_ne_nil _ _)

/-- Two windows of one hour: the device is told the second only. -/
theorem second_window_replaces_first :
    let morning : List AllowedHourInterval :=
      [{ hour := 8, startMin := 0, endMin := 30, hourBounds := by decide, startBounds := by decide,
         endBounds := by decide },
       { hour := 8, startMin := 45, endMin := 60, hourBounds := by decide, startBounds := by decide,
         endBounds := by decide }]
    (mondayHours morning).allowedHours.get? Weekday.monday.token = some morning ∧ morning ≠ [] ∧
      ¬ ToldAsStored (toldHours none (mondayHours morning) .monday) morning := by
  intro morning
  refine ⟨Dict.get?_set_same _ _ _, List.cons_ne_nil _ _, ?_⟩
  rw [toldHours_stored (Dict.get?_set_same _ _ _) (List.cons_ne_nil _ _), payload_covers_all_iff]
  rintro ⟨_, within⟩
  have bounds := within _ (List.mem_cons_self ..) (by decide) _ rfl
  exact absurd bounds (by decide)

end TimekprProof
