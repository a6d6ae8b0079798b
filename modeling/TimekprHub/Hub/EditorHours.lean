import Mathlib.Data.Finset.Image
import TimekprHub.Core.MergedHours
import TimekprHub.Hub.PolicyForm
import TimekprHub.Hub.ToldHours

namespace TimekprModel

inductive HoursMode
  | all
  | between
  | custom
  deriving DecidableEq, Repr

def HoursMode.value : HoursMode → String
  | all => "all"
  | between => "between"
  | custom => "custom"

structure DayHours where
  mode : HoursMode
  fromMin : Int
  toMin : Int
  hours : Finset Int
  unaccounted : Bool
  deriving DecidableEq

def fullDay : Int × Int := (0, 24 * 60)

/-- What the two time fields hold while the day is not in "Between" mode. -/
def betweenSeed : Int × Int := (9 * 60, 17 * 60)

def allDayHours : DayHours where
  mode := .all
  fromMin := betweenSeed.1
  toMin := betweenSeed.2
  hours := (Finset.range 24).image Int.ofNat
  unaccounted := false

def classifyMerged (intervals : List AllowedHourInterval) (merged : List TimeInterval) : DayHours :=
  let hours := (intervals.map AllowedHourInterval.hour).toFinset
  let unaccounted := !intervals.isEmpty && intervals.all AllowedHourInterval.unaccounted
  let custom : DayHours := { mode := .custom, fromMin := 0, toMin := 0, hours, unaccounted }
  match merged with
  | [] => { custom with fromMin := betweenSeed.1, toMin := betweenSeed.2 }
  | [interval] =>
    if (interval.startMin, interval.endMin) = fullDay then allDayHours
    else if interval.unaccounted = false then
      { mode := .between, fromMin := interval.startMin, toMin := interval.endMin, hours, unaccounted := false }
    else custom
  | _ => custom

def classifyDayHours (intervals : Option (List AllowedHourInterval)) : Except String DayHours :=
  match intervals with
  | none => .ok allDayHours
  | some intervals =>
    (hoursToIntervals (intervals.map AllowedHourInterval.record)).map (classifyMerged intervals)

def hourBox (day : Weekday) (hour : Fin 24) : String := "hh_" ++ day.token ++ "_" ++ toString hour.val

/-- The day's fields of the page, as they are sent when nothing on it is changed. A box that is not
    ticked is not sent. -/
def shownDay (day : Weekday) (shown : DayHours) : Form := fun name =>
  if name = "hours_mode_" ++ day.token then some shown.mode.value
  else if name = "hours_from_" ++ day.token then some (fmtMinutes shown.fromMin)
  else if name = "hours_to_" ++ day.token then some (fmtMinutes shown.toMin)
  else if name = "unaccounted_" ++ day.token ∧ shown.unaccounted = true then some "on"
  else if ∃ hour, name = hourBox day hour ∧ (hour.val : Int) ∈ shown.hours then some "on"
  else none

/-- Saving the editor as it came up leaves a day its minutes, each counted or not as before. -/
def KeptBySaving (day : Weekday) (intervals : List AllowedHourInterval) : Prop :=
  ∃ shown reread, classifyDayHours (some intervals) = .ok shown ∧
    parseDayHours (shownDay day shown) day = .ok reread ∧
    ∀ minute unaccounted, (∃ interval ∈ reread, interval.Covers minute unaccounted) ↔
      ∃ interval ∈ intervals, interval.Covers minute unaccounted

def WholeDayUnaccounted (intervals : List AllowedHourInterval) : Prop :=
  ∀ minute, 0 ≤ minute → minute < 24 * 60 → ∃ interval ∈ intervals, interval.Covers minute true

end TimekprModel

namespace TimekprProof

open TimekprModel

section Fields

variable (day : Weekday) (shown : DayHours)

theorem shownDay_mode : shownDay day shown ("hours_mode_" ++ day.token) = some shown.mode.value := if_pos rfl

theorem shownDay_from : shownDay day shown ("hours_from_" ++ day.token) = some (fmtMinutes shown.fromMin) := by
  have mode : "hours_from_" ++ day.token ≠ "hours_mode_" ++ day.token := by cases day <;> decide
  unfold shownDay
  rw [if_neg mode, if_pos rfl]

theorem shownDay_to : shownDay day shown ("hours_to_" ++ day.token) = some (fmtMinutes shown.toMin) := by
  have mode : "hours_to_" ++ day.token ≠ "hours_mode_" ++ day.token := by cases day <;> decide
  have start : "hours_to_" ++ day.token ≠ "hours_from_" ++ day.token := by cases day <;> decide
  unfold shownDay
  rw [if_neg mode, if_neg start, if_pos rfl]

theorem hourBox_ne (head : String) (hour : Fin 24) (differ : head.toList.take 2 ≠ ['h', 'h'])
    (long : 2 ≤ head.toList.length) : hourBox day hour ≠ head ++ day.token := by
  intro same
  have letters := congrArg (fun name => name.toList.take 2) same
  simp only [hourBox, String.toList_append, List.append_assoc] at letters
  rw [List.take_append_of_le_length long] at letters
  exact differ letters.symm

theorem hourBox_injective : Function.Injective (hourBox day) := by
  have numbers : ∀ first second : Fin 24, toString first.val = toString second.val → first = second := by
    decide
  intro first second same
  apply numbers
  have letters := congrArg String.toList same
  simp only [hourBox, String.toList_append, List.append_assoc, List.append_cancel_left_eq] at letters
  exact String.toList_inj.mp letters

theorem shownDay_hour (hour : Fin 24) :
    checkbox (shownDay day shown) (hourBox day hour) = decide ((hour.val : Int) ∈ shown.hours) := by
  have mode := hourBox_ne day "hours_mode_" hour (by decide) (by decide)
  have start := hourBox_ne day "hours_from_" hour (by decide) (by decide)
  have stop := hourBox_ne day "hours_to_" hour (by decide) (by decide)
  have flag := hourBox_ne day "unaccounted_" hour (by decide) (by decide)
  unfold checkbox shownDay
  rw [if_neg mode, if_neg start, if_neg stop, if_neg fun both => flag both.1]
  by_cases listed : (hour.val : Int) ∈ shown.hours
  · rw [if_pos ⟨hour, rfl, listed⟩]
    simp [listed]
  · rw [if_neg]
    · simp [listed]
    · rintro ⟨other, same, ticked⟩
      rw [← hourBox_injective day same] at ticked
      exact listed ticked

theorem shownDay_unaccounted :
    checkbox (shownDay day shown) ("unaccounted_" ++ day.token) = shown.unaccounted := by
  have mode : "unaccounted_" ++ day.token ≠ "hours_mode_" ++ day.token := by cases day <;> decide
  have start : "unaccounted_" ++ day.token ≠ "hours_from_" ++ day.token := by cases day <;> decide
  have stop : "unaccounted_" ++ day.token ≠ "hours_to_" ++ day.token := by cases day <;> decide
  unfold checkbox shownDay
  rw [if_neg mode, if_neg start, if_neg stop]
  cases flag : shown.unaccounted with
  | true => rw [if_pos ⟨rfl, rfl⟩]; rfl
  | false =>
    rw [if_neg (by simp), if_neg]
    · rfl
    · rintro ⟨hour, same, _⟩
      exact hourBox_ne day _ hour (by decide) (by decide) same.symm

end Fields

theorem ofRecord?_record {record : HourRecord} {interval : AllowedHourInterval}
    (built : AllowedHourInterval.ofRecord? record = some interval) : interval.record = record := by
  unfold AllowedHourInterval.ofRecord? at built
  split at built
  · cases built
    rfl
  · cases built

theorem wireIntervals_records {records : List HourRecord} {intervals : List AllowedHourInterval}
    (succeeds : wireIntervals records = .ok intervals) :
    intervals.map AllowedHourInterval.record = records := by
  have pairs := Fallible.mapM_ok succeeds
  clear succeeds
  induction pairs with
  | nil => rfl
  | cons built _ ih =>
    rw [List.map_cons, ih]
    split at built
    · rename_i interval made
      cases built
      rw [ofRecord?_record made]
    · cases built

theorem wireIntervals_succeeds {records : List HourRecord}
    (within : ∀ record ∈ records, record.WithinHour) : ∃ intervals, wireIntervals records = .ok intervals := by
  apply Fallible.succeeds_mapM.mpr
  intro record listed
  have bounds := within record listed
  unfold HourRecord.WithinHour at bounds
  have inside : (0 ≤ record.hour ∧ record.hour ≤ 23) ∧ (0 ≤ record.startMin ∧ record.startMin ≤ 59) ∧
      (0 ≤ record.endMin ∧ record.endMin ≤ 60) := by omega
  simp only [AllowedHourInterval.ofRecord?, inside, and_self, dite_true]
  exact Fallible.succeeds_ok _

theorem listed_covers {intervals : List AllowedHourInterval} {minute : Int} {unaccounted : Bool} :
    (∃ record ∈ intervals.map AllowedHourInterval.record, record.Covers minute unaccounted) ↔
      ∃ interval ∈ intervals, interval.Covers minute unaccounted := by
  simp only [List.mem_map, exists_exists_and_eq_and]
  rfl

theorem window_covers {window : TimeInterval} {intervals : List AllowedHourInterval}
    (wired : wireIntervals (intervalsToHours [window]) = .ok intervals) {minute : Int} {unaccounted : Bool} :
    (∃ interval ∈ intervals, interval.Covers minute unaccounted) ↔ window.Covers minute unaccounted := by
  rw [← listed_covers, wireIntervals_records wired, records_covers]
  simp

theorem validate_single (window : TimeInterval) : validateIntervals [window] = .ok () := by
  rw [validate_ok_iff]
  exact List.pairwise_singleton ..

theorem ofBounds_ok {startMin endMin : Int} {window : TimeInterval}
    (built : TimeInterval.ofBounds startMin endMin = .ok window) :
    window.startMin = startMin ∧ window.endMin = endMin ∧ window.unaccounted = false := by
  unfold TimeInterval.ofBounds at built
  split at built
  · cases built
    exact ⟨rfl, rfl, rfl⟩
  · cases built

theorem parseDayHours_shape {form : Form} {day : Weekday} {intervals : List AllowedHourInterval}
    (parsed : parseDayHours form day = .ok intervals) :
    (∃ window : TimeInterval, window.unaccounted = false ∧
        wireIntervals (intervalsToHours [window]) = .ok intervals) ∨
      ∃ ticked unaccounted, (List.finRange 24).filter ticked ≠ [] ∧
        intervals = ((List.finRange 24).filter ticked).map (wholeHour unaccounted) := by
  unfold parseDayHours at parsed
  dsimp only at parsed
  split at parsed
  · exact .inl ⟨_, rfl, parsed⟩
  · split at parsed
    · obtain ⟨fromMin, _, parsed⟩ := Fallible.bind_ok parsed
      obtain ⟨toMin, _, parsed⟩ := Fallible.bind_ok parsed
      obtain ⟨window, built, parsed⟩ := Fallible.bind_ok parsed
      obtain ⟨_, _, parsed⟩ := Fallible.bind_ok parsed
      exact .inl ⟨window, (ofBounds_ok (Fallible.mapError_ok built)).2.2, parsed⟩
    · split at parsed
      · cases parsed
      · rename_i some
        cases parsed
        exact .inr ⟨_, _, some, rfl⟩

theorem twoDigits_reads :
    ∀ n : Fin 60, PyText.int? (twoDigits n.val).toList = some (n.val : Int) ∧ ':' ∉ (twoDigits n.val).toList := by
  decide

theorem parseTimeStr_fmtMinutes {total : Int} (within : 0 ≤ total ∧ total ≤ 24 * 60) (field : String) :
    parseTimeStr (fmtMinutes total) field = .ok total := by
  obtain ⟨hours, hour⟩ : ∃ hours : Fin 60, total / 60 = (hours.val : Int) :=
    ⟨⟨(total / 60).toNat, by omega⟩, by dsimp only; omega⟩
  obtain ⟨minutes, minute⟩ : ∃ minutes : Fin 60, total % 60 = (minutes.val : Int) :=
    ⟨⟨(total % 60).toNat, by omega⟩, by dsimp only; omega⟩
  obtain ⟨readHour, bareHour⟩ := twoDigits_reads hours
  obtain ⟨readMinute, bareMinute⟩ := twoDigits_reads minutes
  have text : (fmtMinutes total).toList = (twoDigits hours.val).toList ++ ':' :: (twoDigits minutes.val).toList := by
    simp only [fmtMinutes, hour, minute, String.toList_append]
    simp
  have parts : (fmtMinutes total).toList.splitOn ':' =
      [(twoDigits hours.val).toList, (twoDigits minutes.val).toList] := by
    rw [text, List.splitOn_append_cons_self_of_not_mem bareHour, List.splitOn_eq_singleton bareMinute]
  have whole : (hours.val : Int) * 60 + minutes.val = total := by omega
  unfold parseTimeStr
  rw [parts]
  dsimp only
  rw [readHour, readMinute]
  dsimp only
  rw [whole, if_pos within]

section Reread

variable {day : Weekday} {shown : DayHours}

theorem reread_all (mode : shown.mode = .all) :
    parseDayHours (shownDay day shown) day = wireIntervals (intervalsToHours unrestricted) := by
  unfold parseDayHours
  rw [shownDay_mode, mode]
  rfl

theorem reread_between (window : TimeInterval) (mode : shown.mode = .between)
    (start : shown.fromMin = window.startMin) (stop : shown.toMin = window.endMin)
    (accounted : window.unaccounted = false) :
    parseDayHours (shownDay day shown) day = wireIntervals (intervalsToHours [window]) := by
  have ordered := window.ordered
  have built : TimeInterval.ofBounds window.startMin window.endMin = .ok window := by
    simp only [TimeInterval.ofBounds, ordered, and_self, dite_true]
    rw [← accounted]
  have startRead := @parseTimeStr_fmtMinutes window.startMin (by omega)
  have stopRead := @parseTimeStr_fmtMinutes window.endMin (by omega)
  have notAll : ¬ HoursMode.between.value = "all" := by decide
  have between : HoursMode.between.value = "between" := rfl
  unfold parseDayHours
  rw [shownDay_mode, shownDay_from, shownDay_to, mode, start, stop]
  simp only [Option.getD_some, notAll, if_false]
  rw [if_pos between, startRead, stopRead]
  show ((TimeInterval.ofBounds window.startMin window.endMin).mapError _ >>= _) = _
  rw [built]
  show ((validateIntervals [window]).mapError _ >>= _) = _
  rw [validate_single]
  rfl

theorem reread_custom (ticked : Fin 24 → Bool) (mode : shown.mode = .custom)
    (hours : ∀ hour : Fin 24, (hour.val : Int) ∈ shown.hours ↔ ticked hour = true)
    (some : (List.finRange 24).filter ticked ≠ []) :
    parseDayHours (shownDay day shown) day =
      .ok (((List.finRange 24).filter ticked).map (wholeHour shown.unaccounted)) := by
  have notAll : ¬ HoursMode.custom.value = "all" := by decide
  have notBetween : ¬ HoursMode.custom.value = "between" := by decide
  have boxes : ((List.finRange 24).filter fun hour =>
      checkbox (shownDay day shown) ("hh_" ++ day.token ++ "_" ++ toString hour.val)) =
      (List.finRange 24).filter ticked := by
    apply List.filter_congr
    intro hour _
    have box := shownDay_hour day shown hour
    rw [Bool.eq_iff_iff, ← hours hour, ← decide_eq_true_eq (p := (hour.val : Int) ∈ shown.hours), ← box]
    rfl
  unfold parseDayHours
  rw [shownDay_mode, mode]
  simp only [Option.getD_some, notAll, notBetween, if_false, boxes, some, shownDay_unaccounted]

end Reread

theorem record_within_day (interval : AllowedHourInterval) : interval.record.WithinDay := by
  have hour := interval.hourBounds
  have start := interval.startBounds
  have stop := interval.endBounds
  unfold HourRecord.WithinDay HourRecord.absStart HourRecord.absEnd AllowedHourInterval.record
  dsimp only
  omega

theorem classify_covers (intervals : List AllowedHourInterval) :
    ∃ merged, classifyDayHours (some intervals) = .ok (classifyMerged intervals merged) ∧
      ∀ minute unaccounted, (∃ window ∈ merged, window.Covers minute unaccounted) ↔
        ∃ interval ∈ intervals, interval.Covers minute unaccounted := by
  have inDay : ∀ record ∈ intervals.map AllowedHourInterval.record, record.WithinDay := by
    intro record listed
    obtain ⟨interval, _, rfl⟩ := List.mem_map.mp listed
    exact record_within_day interval
  obtain ⟨merged, reassembled, covers⟩ := hoursToIntervals_covers inDay
  refine ⟨merged, ?_, fun minute unaccounted => ?_⟩
  · simp only [classifyDayHours, reassembled]
    rfl
  · rw [covers, listed_covers]

theorem classify_window {window : TimeInterval} {intervals : List AllowedHourInterval}
    (records : intervals.map AllowedHourInterval.record = hoursOf window) :
    classifyDayHours (some intervals) = .ok (classifyMerged intervals [window]) := by
  simp only [classifyDayHours, records, hoursToIntervals_hoursOf]
  rfl

theorem window_records (window : TimeInterval) : intervalsToHours [window] = hoursOf window := by
  simp [intervalsToHours]

theorem reread_full {day : Weekday} {window : TimeInterval} (accounted : window.unaccounted = false)
    (full : (window.startMin, window.endMin) = fullDay) :
    parseDayHours (shownDay day allDayHours) day = wireIntervals (intervalsToHours [window]) := by
  have same : window = ⟨0, 24 * 60, false, by decide⟩ := by
    obtain ⟨start, stop⟩ := Prod.mk.inj full
    cases window
    simp only [TimeInterval.mk.injEq]
    exact ⟨start, stop, accounted⟩
  rw [reread_all rfl, same]
  rfl

theorem shown_window_kept {day : Weekday} {window : TimeInterval} {intervals again : List AllowedHourInterval}
    (accounted : window.unaccounted = false)
    (shown : classifyDayHours (some intervals) = .ok (classifyMerged intervals [window]))
    (wired : wireIntervals (intervalsToHours [window]) = .ok again)
    (covers : ∀ minute flagged, (∃ interval ∈ again, interval.Covers minute flagged) ↔
      ∃ interval ∈ intervals, interval.Covers minute flagged) : KeptBySaving day intervals := by
  by_cases full : (window.startMin, window.endMin) = fullDay
  · refine ⟨allDayHours, again, ?_, ?_, covers⟩
    · rw [shown, classifyMerged, if_pos full]
    · rw [reread_full accounted full, wired]
  · refine ⟨_, again, shown, ?_, covers⟩
    rw [classifyMerged, if_neg full, if_pos accounted, reread_between window rfl rfl rfl accounted, wired]

theorem window_kept {day : Weekday} {window : TimeInterval} {intervals : List AllowedHourInterval}
    (accounted : window.unaccounted = false)
    (wired : wireIntervals (intervalsToHours [window]) = .ok intervals) : KeptBySaving day intervals := by
  have records := wireIntervals_records wired
  rw [window_records] at records
  exact shown_window_kept accounted (classify_window records) wired fun _ _ => Iff.rfl

section WholeHours

variable {ticked : Fin 24 → Bool} {unaccounted : Bool}

theorem mem_hours {hour : Fin 24} :
    (hour.val : Int) ∈ ((((List.finRange 24).filter ticked).map (wholeHour unaccounted)).map
      AllowedHourInterval.hour).toFinset ↔ ticked hour = true := by
  simp only [List.mem_toFinset, List.mem_map, List.mem_filter, List.mem_finRange, true_and]
  constructor
  · rintro ⟨interval, ⟨other, listed, rfl⟩, same⟩
    have hours : other = hour := Fin.ext (Int.ofNat_inj.mp same)
    exact hours ▸ listed
  · intro listed
    exact ⟨wholeHour unaccounted hour, ⟨hour, listed, rfl⟩, rfl⟩

theorem all_flag {hours : List (Fin 24)} (some : hours ≠ []) :
    (!(hours.map (wholeHour unaccounted)).isEmpty &&
      (hours.map (wholeHour unaccounted)).all AllowedHourInterval.unaccounted) = unaccounted := by
  have nonempty : (hours.map (wholeHour unaccounted)).isEmpty = false := by simpa using some
  rw [nonempty, Bool.not_false, Bool.true_and, Bool.eq_iff_iff, List.all_eq_true]
  constructor
  · intro every
    obtain ⟨hour, listed⟩ := List.exists_mem_of_ne_nil _ some
    exact every _ (List.mem_map_of_mem listed)
  · rintro rfl interval listed
    obtain ⟨hour, _, rfl⟩ := List.mem_map.mp listed
    rfl

theorem wholeHour_covers {hours : List (Fin 24)} {minute : Int} {flag : Bool} :
    (∃ interval ∈ hours.map (wholeHour unaccounted), interval.Covers minute flag) ↔
      (∃ hour ∈ hours, minute / 60 = (hour.val : Int)) ∧ unaccounted = flag := by
  simp only [List.mem_map, exists_exists_and_eq_and, AllowedHourInterval.Covers, wholeHour]
  constructor
  · rintro ⟨hour, listed, start, stop, same⟩
    exact ⟨⟨hour, listed, by omega⟩, same⟩
  · rintro ⟨⟨hour, listed, minuteOf⟩, same⟩
    exact ⟨hour, listed, by omega, by omega, same⟩

theorem custom_kept {day : Weekday} {shown : DayHours} (some : (List.finRange 24).filter ticked ≠ [])
    (classified : classifyDayHours
      (.some (((List.finRange 24).filter ticked).map (wholeHour unaccounted))) = .ok shown)
    (mode : shown.mode = .custom)
    (hours : shown.hours = ((((List.finRange 24).filter ticked).map (wholeHour unaccounted)).map
      AllowedHourInterval.hour).toFinset)
    (flag : shown.unaccounted = unaccounted) :
    KeptBySaving day (((List.finRange 24).filter ticked).map (wholeHour unaccounted)) := by
  refine ⟨shown, _, classified, reread_custom ticked mode ?_ some, fun minute flagged => ?_⟩
  · intro hour
    rw [hours]
    exact mem_hours
  · rw [flag]

/-- Whole hours come back unless they make one window that is shown as a whole day and is not. -/
theorem wholeHours_kept {day : Weekday} (some : (List.finRange 24).filter ticked ≠ [])
    (partly : ¬ WholeDayUnaccounted (((List.finRange 24).filter ticked).map (wholeHour unaccounted))) :
    KeptBySaving day (((List.finRange 24).filter ticked).map (wholeHour unaccounted)) := by
  obtain ⟨merged, classified, covers⟩ :=
    classify_covers (((List.finRange 24).filter ticked).map (wholeHour unaccounted))
  have flag := @all_flag unaccounted _ some
  match merged with
  | [] => exact custom_kept some classified rfl rfl flag
  | _ :: _ :: _ => exact custom_kept some classified rfl rfl flag
  | [window] =>
    have single : ∀ minute flagged, window.Covers minute flagged ↔
        ∃ interval ∈ ((List.finRange 24).filter ticked).map (wholeHour unaccounted),
          interval.Covers minute flagged := by
      intro minute flagged
      rw [← covers]
      simp
    by_cases accounted : window.unaccounted = false
    · have within : ∀ record ∈ intervalsToHours [window], record.WithinHour := fun _ => records_within
      obtain ⟨intervals, wired⟩ := wireIntervals_succeeds within
      apply shown_window_kept accounted classified wired
      intro minute flagged
      rw [window_covers wired, single]
    · have notFull : ¬ (window.startMin, window.endMin) = fullDay := by
        intro full
        obtain ⟨start, stop⟩ := Prod.mk.inj full
        apply partly
        intro minute low high
        apply (single minute true).mp
        exact ⟨by omega, by omega, eq_true_of_ne_false accounted⟩
      rw [classifyMerged, if_neg notFull, if_neg accounted] at classified
      exact custom_kept some classified rfl rfl flag

end WholeHours

/-- A day whose every minute is unaccounted is shown as an ordinary whole day. -/
theorem whole_day_not_kept {form : Form} {day : Weekday} {intervals : List AllowedHourInterval}
    (parsed : parseDayHours form day = .ok intervals) (whole : WholeDayUnaccounted intervals) :
    ¬ KeptBySaving day intervals := by
  rcases parseDayHours_shape parsed with ⟨window, accounted, wired⟩ | ⟨ticked, unaccounted, _, rfl⟩
  · have covers := (window_covers wired).mp (whole 0 (by omega) (by omega))
    exact absurd (accounted.symm.trans covers.2.2) (by decide)
  · have flag : unaccounted = true := (wholeHour_covers.mp (whole 0 (by omega) (by omega))).2
    subst flag
    have every : (List.finRange 24).filter ticked = List.finRange 24 := by
      apply List.filter_eq_self.mpr
      intro hour _
      obtain ⟨⟨other, listed, same⟩, _⟩ :=
        wholeHour_covers.mp (whole (hour.val * 60) (by omega) (by omega))
      have hours : other = hour := Fin.ext (by omega)
      exact hours ▸ (List.mem_filter.mp listed).2
    rw [every]
    have records : ((List.finRange 24).map (wholeHour true)).map AllowedHourInterval.record =
        hoursOf ⟨0, 24 * 60, true, by decide⟩ := by decide
    have classified := classify_window records
    rintro ⟨shown, reread, same, parsedAgain, covers⟩
    rw [classified] at same
    cases same
    have full : ((0 : Int), (24 * 60 : Int)) = fullDay := rfl
    rw [classifyMerged, if_pos full, reread_all rfl] at parsedAgain
    have lost := (covers 0 true).mpr (wholeHour_covers.mpr ⟨⟨0, List.mem_finRange _, rfl⟩, rfl⟩)
    have window := (window_covers parsedAgain).mp lost
    exact absurd window.2.2 (by decide)

/-- Saving the editor as it came up keeps a day's hours, unless all of the day is unaccounted. -/
theorem saving_keeps_hours_iff {form : Form} {day : Weekday} {intervals : List AllowedHourInterval}
    (parsed : parseDayHours form day = .ok intervals) :
    KeptBySaving day intervals ↔ ¬ WholeDayUnaccounted intervals := by
  constructor
  · intro kept whole
    exact whole_day_not_kept parsed whole kept
  · intro partly
    rcases parseDayHours_shape parsed with ⟨window, accounted, wired⟩ | ⟨ticked, unaccounted, some, rfl⟩
    · exact window_kept accounted wired
    · exact wholeHours_kept some partly

def sevenToEight : Form := fun name =>
  if name = "hours_mode_1" then some "custom" else if name = "hh_1_7" then some "on" else none

theorem saving_keeps_hours_seven_to_eight : KeptBySaving .monday [wholeHour false 7] := by
  have parsed : parseDayHours sevenToEight .monday = .ok [wholeHour false 7] := by decide
  apply (saving_keeps_hours_iff parsed).mpr
  intro whole
  obtain ⟨interval, listed, covers⟩ := whole 0 (by omega) (by omega)
  rw [List.mem_singleton.mp listed] at covers
  exact absurd covers.2.2 (by decide)

def everyBox : Form := fun name => if name = "hours_mode_1" then some "custom" else some "on"

theorem every_box_not_kept :
    ∃ intervals, parseDayHours everyBox .monday = .ok intervals ∧ ¬ KeptBySaving .monday intervals := by
  have parsed : parseDayHours everyBox .monday = .ok ((List.finRange 24).map (wholeHour true)) := by decide
  refine ⟨_, parsed, whole_day_not_kept parsed ?_⟩
  intro minute low high
  exact wholeHour_covers.mpr
    ⟨⟨⟨(minute / 60).toNat, by omega⟩, List.mem_finRange _, by dsimp only; omega⟩, rfl⟩

end TimekprProof
