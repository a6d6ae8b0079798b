import Mathlib.Data.List.Chain
import Mathlib.Data.List.Pairwise
import Mathlib.Data.List.Sort
import TimekprHub.Core.AllowedHours

namespace TimekprModel

def TimeInterval.Covers (interval : TimeInterval) (minute : Int) (unaccounted : Bool) : Prop :=
  interval.startMin ≤ minute ∧ minute < interval.endMin ∧ interval.unaccounted = unaccounted

def HourRecord.Covers (record : HourRecord) (minute : Int) (unaccounted : Bool) : Prop :=
  record.hour * 60 + record.startMin ≤ minute ∧ minute < record.hour * 60 + record.endMin ∧
    record.unaccounted = unaccounted

def HourRecord.WithinHour (record : HourRecord) : Prop :=
  (0 ≤ record.startMin ∧ record.startMin < record.endMin ∧ record.endMin ≤ 60) ∧
    0 ≤ record.hour ∧ record.hour ≤ 23

def HoursApart (first second : TimeInterval) : Prop :=
  (first.endMin - 1) / 60 < second.startMin / 60

end TimekprModel

namespace TimekprProof

open TimekprModel

theorem hoursOf_eq (interval : TimeInterval) :
    hoursOf interval =
      (List.range ((interval.endMin - 1) / 60 + 1 - interval.startMin / 60).toNat).map fun offset : Nat =>
        { hour := interval.startMin / 60 + offset
          startMin := max (interval.startMin - (interval.startMin / 60 + offset) * 60) 0
          endMin := min (interval.endMin - (interval.startMin / 60 + offset) * 60) 60
          unaccounted := interval.unaccounted } := by
  simp only [hoursOf, List.bind_eq_flatMap, List.pure_def, List.map_flatMap, List.map_cons, List.map_nil]
  exact (List.map_eq_flatMap ..).symm

theorem mem_hoursOf {interval : TimeInterval} {record : HourRecord} :
    record ∈ hoursOf interval ↔
      (interval.startMin / 60 ≤ record.hour ∧ record.hour ≤ (interval.endMin - 1) / 60) ∧
        record.startMin = max (interval.startMin - record.hour * 60) 0 ∧
        record.endMin = min (interval.endMin - record.hour * 60) 60 ∧
        record.unaccounted = interval.unaccounted := by
  have ordered := interval.ordered
  simp only [hoursOf_eq, List.mem_map, List.mem_range]
  constructor
  · rintro ⟨offset, below, rfl⟩
    exact ⟨by dsimp only; omega, rfl, rfl, rfl⟩
  · rintro ⟨hours, start, stop, flag⟩
    refine ⟨(record.hour - interval.startMin / 60).toNat, by omega, ?_⟩
    have hour : interval.startMin / 60 + ((record.hour - interval.startMin / 60).toNat : Int) =
        record.hour := by omega
    cases record
    simp only [HourRecord.mk.injEq]
    simp only at hour start stop flag
    rw [hour, start, stop, flag]
    exact ⟨rfl, rfl, rfl, rfl⟩

theorem hoursOf_hour {interval : TimeInterval} {hour : Int} :
    hour ∈ (hoursOf interval).map HourRecord.hour ↔
      interval.startMin / 60 ≤ hour ∧ hour ≤ (interval.endMin - 1) / 60 := by
  constructor
  · intro listed
    obtain ⟨record, member, same⟩ := List.mem_map.mp listed
    subst same
    exact (mem_hoursOf.mp member).1
  · intro bounds
    refine List.mem_map.mpr ⟨⟨hour, max (interval.startMin - hour * 60) 0,
      min (interval.endMin - hour * 60) 60, interval.unaccounted⟩, ?_, rfl⟩
    exact mem_hoursOf.mpr ⟨bounds, rfl, rfl, rfl⟩

theorem hoursOf_distinct (interval : TimeInterval) : ((hoursOf interval).map HourRecord.hour).Nodup := by
  rw [hoursOf_eq, List.map_map]
  apply List.Nodup.map _ List.nodup_range
  intro first second same
  simp only [Function.comp_apply] at same
  omega

theorem hoursOf_within {interval : TimeInterval} {record : HourRecord} (member : record ∈ hoursOf interval) :
    record.WithinHour := by
  obtain ⟨hours, start, stop, _⟩ := mem_hoursOf.mp member
  have ordered := interval.ordered
  unfold HourRecord.WithinHour
  omega

theorem hoursOf_covers {interval : TimeInterval} {minute : Int} {unaccounted : Bool} :
    (∃ record ∈ hoursOf interval, record.Covers minute unaccounted) ↔ interval.Covers minute unaccounted := by
  constructor
  · rintro ⟨record, member, start, stop, flag⟩
    obtain ⟨_, startSame, stopSame, flagSame⟩ := mem_hoursOf.mp member
    rw [startSame] at start
    rw [stopSame] at stop
    exact ⟨by omega, by omega, flagSame.symm.trans flag⟩
  · rintro ⟨start, stop, flag⟩
    have bounds : interval.startMin / 60 ≤ minute / 60 ∧ minute / 60 ≤ (interval.endMin - 1) / 60 := by
      omega
    obtain ⟨record, member, hour⟩ := List.mem_map.mp (hoursOf_hour.mpr bounds)
    obtain ⟨_, startSame, stopSame, flagSame⟩ := mem_hoursOf.mp member
    refine ⟨record, member, ?_, ?_, flagSame.trans flag⟩
    · rw [startSame, hour]
      omega
    · rw [stopSame, hour]
      omega

theorem records_covers {intervals : List TimeInterval} {minute : Int} {unaccounted : Bool} :
    (∃ record ∈ intervalsToHours intervals, record.Covers minute unaccounted) ↔
      ∃ interval ∈ intervals, interval.Covers minute unaccounted := by
  constructor
  · rintro ⟨record, member, covers⟩
    obtain ⟨interval, listed, inside⟩ := List.mem_flatMap.mp member
    exact ⟨interval, listed, hoursOf_covers.mp ⟨record, inside, covers⟩⟩
  · rintro ⟨interval, listed, covers⟩
    obtain ⟨record, inside, covered⟩ := hoursOf_covers.mpr covers
    exact ⟨record, List.mem_flatMap.mpr ⟨interval, listed, inside⟩, covered⟩

theorem records_within {intervals : List TimeInterval} {record : HourRecord}
    (member : record ∈ intervalsToHours intervals) : record.WithinHour := by
  obtain ⟨_, _, inside⟩ := List.mem_flatMap.mp member
  exact hoursOf_within inside

def HoursDisjoint (first second : TimeInterval) : Prop :=
  List.Disjoint ((hoursOf first).map HourRecord.hour) ((hoursOf second).map HourRecord.hour)

theorem records_distinct_iff {intervals : List TimeInterval} :
    ((intervalsToHours intervals).map HourRecord.hour).Nodup ↔ intervals.Pairwise HoursDisjoint := by
  rw [intervalsToHours, List.map_flatMap, List.nodup_flatMap]
  constructor
  · exact And.right
  · intro disjoint
    exact ⟨fun interval _ => hoursOf_distinct interval, disjoint⟩

theorem disjoint_iff_apart {first second : TimeInterval} (order : first.startMin ≤ second.startMin) :
    HoursDisjoint first second ↔ HoursApart first second := by
  have firstOrdered := first.ordered
  have secondOrdered := second.ordered
  unfold HoursApart
  constructor
  · intro disjoint
    by_contra shared
    have inFirst : second.startMin / 60 ∈ (hoursOf first).map HourRecord.hour :=
      hoursOf_hour.mpr (by omega)
    have inSecond : second.startMin / 60 ∈ (hoursOf second).map HourRecord.hour :=
      hoursOf_hour.mpr (by omega)
    exact disjoint inFirst inSecond
  · intro apart hour inFirst inSecond
    have early := (hoursOf_hour.mp inFirst).2
    have late := (hoursOf_hour.mp inSecond).1
    omega

instance : Trans HoursApart HoursApart HoursApart where
  trans := by
    intro first second third early late
    have ordered := second.ordered
    unfold HoursApart at early late ⊢
    omega

theorem neighbours_ok_iff {check : TimeInterval × TimeInterval → Except IntervalConflict Unit}
    (ordered : List TimeInterval) :
    (ordered.zip ordered.tail).forM check = .ok () ↔ ordered.IsChain fun a b => check (a, b) = .ok () := by
  induction ordered with
  | nil => exact ⟨fun _ => .nil, fun _ => rfl⟩
  | cons first rest ih =>
    cases rest with
    | nil => exact ⟨fun _ => .singleton first, fun _ => rfl⟩
    | cons second rest =>
      rw [List.isChain_cons_cons, ← ih]
      show (check (first, second) >>= fun _ => ((second :: rest).zip rest).forM check) = .ok () ↔ _
      cases check (first, second) with
      | error conflict => exact ⟨fun failed => (nomatch failed), fun failed => (nomatch failed.1)⟩
      | ok _ => exact ⟨fun later => ⟨rfl, later⟩, And.right⟩

theorem validate_ok_iff_apart {intervals : List TimeInterval} :
    validateIntervals intervals = .ok () ↔
      (intervals.mergeSort fun a b => a.startMin ≤ b.startMin).Pairwise HoursApart := by
  rw [← List.isChain_iff_pairwise, validateIntervals, neighbours_ok_iff]
  have same : ∀ a b : TimeInterval, ((if b.startMin < a.endMin then .error (.overlap a b)
      else if (a.endMin - 1) / 60 = b.startMin / 60 then .error (.sameHour a b ((a.endMin - 1) / 60))
      else .ok () : Except IntervalConflict Unit) = .ok ()) ↔ HoursApart a b := by
    intro a b
    unfold HoursApart
    split
    · exact ⟨fun failed => (nomatch failed), fun apart => by omega⟩
    · split
      · exact ⟨fun failed => (nomatch failed), fun apart => by omega⟩
      · exact ⟨fun _ => by omega, fun _ => rfl⟩
  simp only [same]

theorem starts_sorted (intervals : List TimeInterval) :
    (intervals.mergeSort fun a b => a.startMin ≤ b.startMin).Pairwise fun a b => a.startMin ≤ b.startMin :=
  List.pairwise_mergeSort' (Order.Preimage TimeInterval.startMin (· ≤ ·)) intervals

theorem validate_ok_iff {intervals : List TimeInterval} :
    validateIntervals intervals = .ok () ↔ intervals.Pairwise HoursDisjoint := by
  have sorted := starts_sorted intervals
  have symmetric : ∀ {a b : TimeInterval}, HoursDisjoint a b → HoursDisjoint b a := fun disjoint => disjoint.symm
  rw [validate_ok_iff_apart, ← (List.mergeSort_perm intervals _).pairwise_iff symmetric]
  constructor
  · intro apart
    exact sorted.imp₂ (fun _ _ order later => (disjoint_iff_apart order).mpr later) apart
  · intro disjoint
    exact sorted.imp₂ (fun _ _ order later => (disjoint_iff_apart order).mp later) disjoint

/-- A list of intervals is accepted exactly when no two of its records are for the same hour, and its
    records are ones timekpr can store, for exactly the intervals' minutes. -/
theorem validate_accepts_iff (intervals : List TimeInterval) :
    (validateIntervals intervals = .ok () ↔
        ((intervalsToHours intervals).map HourRecord.hour).Nodup) ∧
      (∀ record ∈ intervalsToHours intervals, record.WithinHour) ∧
      ∀ minute unaccounted, (∃ record ∈ intervalsToHours intervals, record.Covers minute unaccounted) ↔
        ∃ interval ∈ intervals, interval.Covers minute unaccounted := by
  refine ⟨?_, fun _ => records_within, fun _ _ => records_covers⟩
  rw [validate_ok_iff, records_distinct_iff]

end TimekprProof
