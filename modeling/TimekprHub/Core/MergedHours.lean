import TimekprHub.Core.IntervalRecords
import TimekprHub.Library.Fallible

namespace TimekprModel

def HourRecord.absStart (record : HourRecord) : Int := record.hour * 60 + record.startMin

def HourRecord.absEnd (record : HourRecord) : Int := record.hour * 60 + record.endMin

structure OpenInterval where
  start : Int
  stop : Int
  uacc : Bool
  deriving DecidableEq, Repr

structure Merging where
  intervals : List TimeInterval := []
  current : Option OpenInterval := none

def Merging.close (merging : Merging) : Except String (List TimeInterval) :=
  match merging.current with
  | none => .ok merging.intervals
  | some current =>
    (TimeInterval.ofBounds current.start current.stop).map fun interval =>
      merging.intervals ++ [{ interval with unaccounted := current.uacc }]

def Merging.reopen (merging : Merging) (record : HourRecord) : Except String Merging :=
  merging.close.map fun intervals =>
    { intervals
      current := some { start := record.absStart, stop := record.absEnd, uacc := record.unaccounted } }

/-- An empty record is skipped, one that goes on where the open interval ends extends it. -/
def Merging.take (merging : Merging) (record : HourRecord) : Except String Merging :=
  if record.absStart ≥ record.absEnd then .ok merging
  else
    match merging.current with
    | none => merging.reopen record
    | some current =>
      if record.absStart = current.stop ∧ record.unaccounted = current.uacc then
        .ok { merging with current := some { current with stop := record.absEnd } }
      else merging.reopen record

def hoursToIntervals (records : List HourRecord) : Except String (List TimeInterval) := do
  let merging ← (records.mergeSort fun a b => a.hour ≤ b.hour).foldlM Merging.take {}
  merging.close

def Merging.Covers (merging : Merging) (minute : Int) (unaccounted : Bool) : Prop :=
  (∃ interval ∈ merging.intervals, interval.Covers minute unaccounted) ∨
    ∃ current ∈ merging.current, current.start ≤ minute ∧ minute < current.stop ∧ current.uacc = unaccounted

def Merging.Valid (merging : Merging) : Prop :=
  ∀ current ∈ merging.current, 0 ≤ current.start ∧ current.start < current.stop ∧ current.stop ≤ 24 * 60

def HourRecord.WithinDay (record : HourRecord) : Prop := 0 ≤ record.absStart ∧ record.absEnd ≤ 24 * 60

end TimekprModel

namespace TimekprProof

open TimekprModel

theorem close_covers {merging : Merging} (valid : merging.Valid) :
    ∃ intervals, merging.close = .ok intervals ∧ ∀ minute unaccounted,
      (∃ interval ∈ intervals, interval.Covers minute unaccounted) ↔ merging.Covers minute unaccounted := by
  obtain ⟨closed, current⟩ := merging
  cases current with
  | none => exact ⟨closed, rfl, fun _ _ => by simp [Merging.Covers]⟩
  | some current =>
    have bounds := valid current rfl
    refine ⟨closed ++ [⟨current.start, current.stop, current.uacc, bounds⟩], ?_, ?_⟩
    · simp only [Merging.close, TimeInterval.ofBounds, bounds, and_self, dite_true]
      rfl
    · intro minute unaccounted
      simp only [List.mem_append, List.mem_singleton, or_and_right, exists_or, exists_eq_left,
        Merging.Covers, Option.mem_some_iff, exists_eq_left']
      rfl

theorem reopen_covers {merging : Merging} {record : HourRecord} (valid : merging.Valid)
    (inDay : record.WithinDay) (some : record.absStart < record.absEnd) :
    ∃ next, merging.reopen record = .ok next ∧ next.Valid ∧ ∀ minute unaccounted,
      next.Covers minute unaccounted ↔
        merging.Covers minute unaccounted ∨ record.Covers minute unaccounted := by
  obtain ⟨intervals, closed, covers⟩ := close_covers valid
  refine ⟨⟨intervals, .some ⟨record.absStart, record.absEnd, record.unaccounted⟩⟩, ?_, ?_, ?_⟩
  · rw [Merging.reopen, closed]
    rfl
  · intro current opened
    cases opened
    exact ⟨inDay.1, some, inDay.2⟩
  · intro minute unaccounted
    rw [← covers]
    simp only [Merging.Covers, Option.mem_some_iff, exists_eq_left']
    rfl

theorem take_covers {merging : Merging} {record : HourRecord} (valid : merging.Valid)
    (inDay : record.WithinDay) :
    ∃ next, merging.take record = .ok next ∧ next.Valid ∧ ∀ minute unaccounted,
      next.Covers minute unaccounted ↔
        merging.Covers minute unaccounted ∨ record.Covers minute unaccounted := by
  unfold Merging.take
  by_cases empty : record.absStart ≥ record.absEnd
  · rw [if_pos empty]
    refine ⟨merging, rfl, valid, fun minute unaccounted => ?_⟩
    have nothing : ¬ record.Covers minute unaccounted := by
      rintro ⟨start, stop, _⟩
      unfold HourRecord.absStart HourRecord.absEnd at empty
      omega
    simp only [nothing, or_false]
  · rw [if_neg empty]
    have some : record.absStart < record.absEnd := by omega
    obtain ⟨intervals, current⟩ := merging
    cases current with
    | none => exact reopen_covers valid inDay some
    | some current =>
      dsimp only
      split
      · rename_i goesOn
        have bounds := valid current rfl
        refine ⟨_, rfl, ?_, fun minute unaccounted => ?_⟩
        · intro extended same
          cases same
          exact ⟨bounds.1, by dsimp only; omega, inDay.2⟩
        · have adjacent := goesOn.1
          simp only [Merging.Covers, Option.mem_some_iff, exists_eq_left', HourRecord.Covers, goesOn.2,
            or_assoc]
          unfold HourRecord.absStart at adjacent some
          unfold HourRecord.absEnd at some ⊢
          by_cases flag : current.uacc = unaccounted
          · simp only [flag, and_true]
            refine or_congr Iff.rfl ?_
            omega
          · simp only [flag, and_false, or_false]
      · exact reopen_covers valid inDay some

theorem foldlM_take_covers {records : List HourRecord} (inDay : ∀ record ∈ records, record.WithinDay)
    {merging : Merging} (valid : merging.Valid) :
    ∃ last, records.foldlM Merging.take merging = .ok last ∧ last.Valid ∧ ∀ minute unaccounted,
      last.Covers minute unaccounted ↔
        merging.Covers minute unaccounted ∨ ∃ record ∈ records, record.Covers minute unaccounted := by
  induction records generalizing merging with
  | nil => exact ⟨merging, rfl, valid, by simp⟩
  | cons record rest ih =>
    obtain ⟨within, others⟩ := List.forall_mem_cons.mp inDay
    obtain ⟨next, taken, nextValid, covers⟩ := take_covers valid within
    obtain ⟨last, folded, lastValid, later⟩ := ih others nextValid
    refine ⟨last, ?_, lastValid, fun minute unaccounted => ?_⟩
    · rw [List.foldlM_cons]
      exact Fallible.bind_of_ok taken folded
    · simp only [later, covers, List.exists_mem_cons_iff, or_assoc]

/-- Reassembling records of one day succeeds and keeps their minutes, whatever their order. -/
theorem hoursToIntervals_covers {records : List HourRecord}
    (inDay : ∀ record ∈ records, record.WithinDay) :
    ∃ intervals, hoursToIntervals records = .ok intervals ∧ ∀ minute unaccounted,
      (∃ interval ∈ intervals, interval.Covers minute unaccounted) ↔
        ∃ record ∈ records, record.Covers minute unaccounted := by
  have same := List.mergeSort_perm records fun a b => decide (a.hour ≤ b.hour)
  have valid : ({} : Merging).Valid := fun current opened => nomatch opened
  obtain ⟨last, folded, lastValid, covers⟩ :=
    foldlM_take_covers (fun record listed => inDay record (same.mem_iff.mp listed)) valid
  obtain ⟨intervals, closed, final⟩ := close_covers lastValid
  refine ⟨intervals, Fallible.bind_of_ok folded closed, fun minute unaccounted => ?_⟩
  rw [final, covers]
  simp [Merging.Covers, same.mem_iff]

def hourPiece (interval : TimeInterval) (offset : Nat) : HourRecord where
  hour := interval.startMin / 60 + offset
  startMin := max (interval.startMin - (interval.startMin / 60 + offset) * 60) 0
  endMin := min (interval.endMin - (interval.startMin / 60 + offset) * 60) 60
  unaccounted := interval.unaccounted

theorem foldlM_take_pieces (interval : TimeInterval) {count : Nat}
    (within : (count : Int) ≤ (interval.endMin - 1) / 60 - interval.startMin / 60) :
    ((List.range (count + 1)).map (hourPiece interval)).foldlM Merging.take {} =
      .ok ⟨[], some ⟨interval.startMin, min interval.endMin ((interval.startMin / 60 + count) * 60 + 60),
        interval.unaccounted⟩⟩ := by
  have ordered := interval.ordered
  induction count with
  | zero =>
    have start : (hourPiece interval 0).absStart = interval.startMin := by
      simp only [HourRecord.absStart, hourPiece]
      omega
    have stop : (hourPiece interval 0).absEnd =
        min interval.endMin ((interval.startMin / 60 + (0 : Nat)) * 60 + 60) := by
      simp only [HourRecord.absEnd, hourPiece]
      omega
    have some : ¬ (hourPiece interval 0).absStart ≥ (hourPiece interval 0).absEnd := by omega
    show (Merging.take {} (hourPiece interval 0) >>= fun next => pure next) = _
    unfold Merging.take
    rw [if_neg some]
    simp only [Merging.reopen, start, stop]
    rfl
  | succ count ih =>
    have earlier := ih (by omega)
    have start : (hourPiece interval (count + 1)).absStart =
        min interval.endMin ((interval.startMin / 60 + count) * 60 + 60) := by
      simp only [HourRecord.absStart, hourPiece]
      omega
    have stop : (hourPiece interval (count + 1)).absEnd =
        min interval.endMin ((interval.startMin / 60 + (count + 1 : Nat)) * 60 + 60) := by
      simp only [HourRecord.absEnd, hourPiece]
      omega
    have some : ¬ (hourPiece interval (count + 1)).absStart ≥ (hourPiece interval (count + 1)).absEnd := by
      omega
    rw [List.range_succ, List.map_append, List.foldlM_append]
    apply Fallible.bind_of_ok earlier
    show (Merging.take _ (hourPiece interval (count + 1)) >>= fun next => pure next) = _
    have goesOn : (hourPiece interval (count + 1)).absStart =
        min interval.endMin ((interval.startMin / 60 + count) * 60 + 60) ∧
          (hourPiece interval (count + 1)).unaccounted = interval.unaccounted := ⟨start, rfl⟩
    unfold Merging.take
    rw [if_neg some]
    dsimp only
    rw [if_pos goesOn, ← stop]
    rfl

theorem hoursToIntervals_hoursOf (interval : TimeInterval) :
    hoursToIntervals (hoursOf interval) = .ok [interval] := by
  have ordered := interval.ordered
  obtain ⟨count, length⟩ : ∃ count : Nat,
      ((interval.endMin - 1) / 60 + 1 - interval.startMin / 60).toNat = count + 1 :=
    ⟨((interval.endMin - 1) / 60 - interval.startMin / 60).toNat, by omega⟩
  have pieces : hoursOf interval = (List.range (count + 1)).map (hourPiece interval) := by
    rw [hoursOf_eq, length]
    rfl
  have sorted : (hoursOf interval).Pairwise fun a b => decide (a.hour ≤ b.hour) = true := by
    rw [pieces, List.pairwise_map]
    apply List.pairwise_le_range.imp
    intro a b order
    have hours : (hourPiece interval a).hour ≤ (hourPiece interval b).hour := by
      simp only [hourPiece]
      omega
    exact decide_eq_true hours
  have stop : min interval.endMin ((interval.startMin / 60 + count) * 60 + 60) = interval.endMin := by
    omega
  unfold hoursToIntervals
  rw [List.mergeSort_of_pairwise sorted, pieces]
  apply Fallible.bind_of_ok (foldlM_take_pieces interval (by omega))
  simp only [Merging.close, TimeInterval.ofBounds, stop, ordered, and_self, dite_true]
  rfl

end TimekprProof
