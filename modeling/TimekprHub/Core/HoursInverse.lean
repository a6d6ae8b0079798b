import TimekprHub.Core.MergedHours

namespace TimekprModel

def TimeInterval.Breaks (first second : TimeInterval) : Prop :=
  first.endMin ≤ second.startMin ∧
    ¬ (first.endMin = second.startMin ∧ first.unaccounted = second.unaccounted)

inductive Merging.Reads : Merging → List HourRecord → Prop
  | nothing : Reads {} []
  | opened {closed : List TimeInterval} {last : TimeInterval}
      (breaks : (closed ++ [last]).IsChain TimeInterval.Breaks) :
      Reads ⟨closed, some ⟨last.startMin, last.endMin, last.unaccounted⟩⟩ (intervalsToHours (closed ++ [last]))

end TimekprModel

namespace TimekprProof

open TimekprModel

theorem intervalsToHours_append (first second : List TimeInterval) :
    intervalsToHours (first ++ second) = intervalsToHours first ++ intervalsToHours second :=
  List.flatMap_append

theorem intervalsToHours_singleton (interval : TimeInterval) :
    intervalsToHours [interval] = hoursOf interval := by
  simp [intervalsToHours]

theorem hoursOf_record {interval : TimeInterval} {record : HourRecord} (within : record.WithinHour)
    (start : interval.startMin = record.absStart) (stop : interval.endMin = record.absEnd)
    (flag : interval.unaccounted = record.unaccounted) : hoursOf interval = [record] := by
  obtain ⟨hour, startMin, endMin, unaccounted⟩ := record
  unfold HourRecord.WithinHour at within
  simp only [HourRecord.absStart, HourRecord.absEnd] at within start stop flag
  have first : interval.startMin / 60 = hour := by omega
  have last : (interval.endMin - 1) / 60 = hour := by omega
  have one : (hour + 1 - hour).toNat = 1 := by omega
  rw [hoursOf_eq, first, last, one, List.range_one, List.map_singleton, flag]
  simp only [List.cons.injEq, HourRecord.mk.injEq, and_true]
  omega

theorem hoursOf_extend {interval extended : TimeInterval} {record : HourRecord} (within : record.WithinHour)
    (goesOn : record.absStart = interval.endMin) (fullHour : interval.endMin ≤ record.hour * 60)
    (start : extended.startMin = interval.startMin) (stop : extended.endMin = record.absEnd)
    (flag : extended.unaccounted = interval.unaccounted)
    (same : record.unaccounted = interval.unaccounted) :
    hoursOf extended = hoursOf interval ++ [record] := by
  have ordered := interval.ordered
  obtain ⟨hour, startMin, endMin, unaccounted⟩ := record
  unfold HourRecord.WithinHour at within
  simp only [HourRecord.absStart, HourRecord.absEnd] at within goesOn fullHour stop same
  obtain ⟨count, length⟩ : ∃ count : Nat,
      ((interval.endMin - 1) / 60 + 1 - interval.startMin / 60).toNat = count := ⟨_, rfl⟩
  have longer : ((extended.endMin - 1) / 60 + 1 - extended.startMin / 60).toNat = count + 1 := by omega
  rw [hoursOf_eq, hoursOf_eq, length, longer, List.range_succ, List.map_append, List.map_singleton]
  congr 1
  · apply List.map_congr_left
    intro offset below
    have earlier := List.mem_range.mp below
    simp only [HourRecord.mk.injEq, start, flag, and_true, true_and]
    omega
  · simp only [List.cons.injEq, HourRecord.mk.injEq, start, flag, same, and_true]
    omega

theorem ends_before {intervals : List TimeInterval} {interval : TimeInterval} (listed : interval ∈ intervals)
    {hour : Int} (later : ∀ earlier ∈ intervalsToHours intervals, earlier.hour < hour) :
    interval.endMin ≤ hour * 60 := by
  have ordered := interval.ordered
  have bounds : interval.startMin / 60 ≤ (interval.endMin - 1) / 60 ∧
      (interval.endMin - 1) / 60 ≤ (interval.endMin - 1) / 60 := by omega
  obtain ⟨record, member, last⟩ := List.mem_map.mp (hoursOf_hour.mpr bounds)
  have before := later record (List.mem_flatMap.mpr ⟨interval, listed, member⟩)
  omega

theorem within_bounds {record : HourRecord} (within : record.WithinHour) :
    0 ≤ record.absStart ∧ record.absStart < record.absEnd ∧ record.absEnd ≤ 24 * 60 := by
  unfold HourRecord.WithinHour at within
  unfold HourRecord.absStart HourRecord.absEnd
  omega

theorem reopen_reads {closed : List TimeInterval} {last : TimeInterval} {record : HourRecord}
    (breaks : (closed ++ [last]).IsChain TimeInterval.Breaks) (within : record.WithinHour)
    (after : last.endMin ≤ record.absStart)
    (apart : ¬ (record.absStart = last.endMin ∧ record.unaccounted = last.unaccounted)) :
    ∃ next, Merging.reopen ⟨closed, some ⟨last.startMin, last.endMin, last.unaccounted⟩⟩ record = .ok next ∧
      next.Reads (intervalsToHours (closed ++ [last]) ++ [record]) := by
  have bounds := within_bounds within
  let next : TimeInterval := ⟨record.absStart, record.absEnd, record.unaccounted, bounds⟩
  have chain : (closed ++ [last] ++ [next]).IsChain TimeInterval.Breaks := by
    rw [List.append_assoc]
    apply List.isChain_append_cons_cons.mpr
    refine ⟨breaks, ⟨after, ?_⟩, .singleton next⟩
    intro touching
    exact apart ⟨touching.1.symm, touching.2.symm⟩
  have pieces : hoursOf next = [record] := hoursOf_record within rfl rfl rfl
  refine ⟨⟨closed ++ [last], some ⟨next.startMin, next.endMin, next.unaccounted⟩⟩, ?_, ?_⟩
  · simp only [Merging.reopen, Merging.close, TimeInterval.ofBounds, last.ordered, and_self, dite_true]
    rfl
  · rw [← pieces, ← intervalsToHours_singleton, ← intervalsToHours_append]
    exact .opened chain

theorem take_reads {merging : Merging} {seen : List HourRecord} {record : HourRecord}
    (reads : merging.Reads seen) (within : record.WithinHour)
    (later : ∀ earlier ∈ seen, earlier.hour < record.hour) :
    ∃ next, merging.take record = .ok next ∧ next.Reads (seen ++ [record]) := by
  have some : ¬ record.absStart ≥ record.absEnd := not_le.mpr (within_bounds within).2.1
  unfold Merging.take
  rw [if_neg some]
  cases reads with
  | nothing =>
    have bounds := within_bounds within
    let next : TimeInterval := ⟨record.absStart, record.absEnd, record.unaccounted, bounds⟩
    refine ⟨⟨[], .some ⟨next.startMin, next.endMin, next.unaccounted⟩⟩, rfl, ?_⟩
    have pieces : hoursOf next = [record] := hoursOf_record within rfl rfl rfl
    rw [← pieces, ← intervalsToHours_singleton]
    exact .opened (.singleton next)
  | @opened closed last breaks =>
    have fullHour := ends_before (List.mem_append_right closed (List.mem_singleton_self last)) later
    have after : last.endMin ≤ record.absStart := by
      unfold HourRecord.WithinHour at within
      unfold HourRecord.absStart
      omega
    dsimp only
    by_cases goesOn : record.absStart = last.endMin ∧ record.unaccounted = last.unaccounted
    · rw [if_pos goesOn]
      have ordered := last.ordered
      have bounds : 0 ≤ last.startMin ∧ last.startMin < record.absEnd ∧ record.absEnd ≤ 24 * 60 := by
        unfold HourRecord.WithinHour at within
        unfold HourRecord.absStart at after
        unfold HourRecord.absEnd
        omega
      let next : TimeInterval := ⟨last.startMin, record.absEnd, last.unaccounted, bounds⟩
      refine ⟨_, rfl, ?_⟩
      have pieces : hoursOf next = hoursOf last ++ [record] :=
        hoursOf_extend within goesOn.1 fullHour rfl rfl rfl goesOn.2
      have chain : (closed ++ [next]).IsChain TimeInterval.Breaks := by
        obtain ⟨before, _, joined⟩ := List.isChain_append.mp breaks
        apply List.isChain_append.mpr
        refine ⟨before, .singleton next, ?_⟩
        intro first listed second member
        cases member
        exact joined first listed last rfl
      have all : intervalsToHours (closed ++ [last]) ++ [record] = intervalsToHours (closed ++ [next]) := by
        rw [intervalsToHours_append, intervalsToHours_append, intervalsToHours_singleton,
          intervalsToHours_singleton, pieces, List.append_assoc]
      rw [all]
      exact .opened chain
    · rw [if_neg goesOn]
      exact reopen_reads breaks within after goesOn

theorem foldlM_take_reads {merging : Merging} {seen records : List HourRecord} (reads : merging.Reads seen)
    (within : ∀ record ∈ records, record.WithinHour)
    (later : ∀ earlier ∈ seen, ∀ record ∈ records, earlier.hour < record.hour)
    (ascending : records.Pairwise fun a b => a.hour < b.hour) :
    ∃ last, records.foldlM Merging.take merging = .ok last ∧ last.Reads (seen ++ records) := by
  induction records generalizing merging seen with
  | nil => exact ⟨merging, rfl, by rwa [List.append_nil]⟩
  | cons record rest ih =>
    obtain ⟨here, others⟩ := List.forall_mem_cons.mp within
    obtain ⟨before, ascending⟩ := List.pairwise_cons.mp ascending
    obtain ⟨next, taken, nextReads⟩ :=
      take_reads reads here fun earlier listed => later earlier listed record (List.mem_cons_self ..)
    have nextLater : ∀ earlier ∈ seen ++ [record], ∀ following ∈ rest, earlier.hour < following.hour := by
      intro earlier listed following member
      rcases List.mem_append.mp listed with old | new
      · exact later earlier old following (List.mem_cons_of_mem _ member)
      · rw [List.mem_singleton.mp new]
        exact before following member
    obtain ⟨last, folded, lastReads⟩ := ih nextReads others nextLater ascending
    refine ⟨last, ?_, ?_⟩
    · rw [List.foldlM_cons]
      exact Fallible.bind_of_ok taken folded
    · rwa [List.append_assoc] at lastReads

theorem close_reads {merging : Merging} {seen : List HourRecord} (reads : merging.Reads seen) :
    ∃ intervals, merging.close = .ok intervals ∧ intervalsToHours intervals = seen ∧
      intervals.IsChain TimeInterval.Breaks := by
  cases reads with
  | nothing => exact ⟨[], rfl, rfl, .nil⟩
  | @opened closed last breaks =>
    refine ⟨closed ++ [last], ?_, rfl, breaks⟩
    simp only [Merging.close, TimeInterval.ofBounds, last.ordered, and_self, dite_true]
    rfl

/-- Records of distinct hours are reassembled into intervals that break with one another and whose
    records are the given ones by hour. -/
theorem hoursToIntervals_reads {records : List HourRecord} (distinct : (records.map HourRecord.hour).Nodup)
    (within : ∀ record ∈ records, record.WithinHour) :
    ∃ intervals, hoursToIntervals records = .ok intervals ∧
      intervalsToHours intervals = (records.mergeSort fun a b => a.hour ≤ b.hour) ∧
      intervals.IsChain TimeInterval.Breaks := by
  have same := List.mergeSort_perm records fun a b => decide (a.hour ≤ b.hour)
  have order : (records.mergeSort fun a b => decide (a.hour ≤ b.hour)).Pairwise fun a b => a.hour ≤ b.hour :=
    List.pairwise_mergeSort' (Order.Preimage HourRecord.hour (· ≤ ·)) records
  have differ : (records.mergeSort fun a b => decide (a.hour ≤ b.hour)).Pairwise fun a b => a.hour ≠ b.hour :=
    List.pairwise_map.mp ((same.map HourRecord.hour).nodup_iff.mpr distinct)
  have ascending := order.imp₂ (fun a b (le : a.hour ≤ b.hour) (ne : a.hour ≠ b.hour) =>
    lt_of_le_of_ne le ne) differ
  obtain ⟨last, folded, reads⟩ := foldlM_take_reads .nothing
    (fun record listed => within record (same.mem_iff.mp listed)) (fun _ absurdity => nomatch absurdity) ascending
  obtain ⟨intervals, closed, records, breaks⟩ := close_reads reads
  exact ⟨intervals, Fallible.bind_of_ok folded closed, records, breaks⟩

theorem breaks_sorted {intervals : List TimeInterval} (breaks : intervals.IsChain TimeInterval.Breaks) :
    intervals.Pairwise fun a b => a.endMin ≤ b.startMin := by
  have before : intervals.IsChain fun a b => a.endMin ≤ b.startMin := breaks.imp fun _ _ broken => broken.1
  have trans : IsTrans TimeInterval fun a b => a.endMin ≤ b.startMin := by
    constructor
    intro first second third early late
    have ordered := second.ordered
    omega
  exact before.pairwise

/-- Records and intervals are inverse to each other: an accepted list comes back sorted and maximally
    merged with the minutes it had, and records of distinct hours come back by hour. -/
theorem hours_inverse :
    (∀ intervals, validateIntervals intervals = .ok () →
      ∃ merged, hoursToIntervals (intervalsToHours intervals) = .ok merged ∧
        (merged.Pairwise fun a b => a.endMin ≤ b.startMin) ∧
        (∀ minute unaccounted, (∃ interval ∈ merged, interval.Covers minute unaccounted) ↔
          ∃ interval ∈ intervals, interval.Covers minute unaccounted) ∧
        merged.IsChain fun a b => ¬ (a.endMin = b.startMin ∧ a.unaccounted = b.unaccounted)) ∧
    ∀ records : List HourRecord, (records.map HourRecord.hour).Nodup →
      (∀ record ∈ records, (0 ≤ record.startMin ∧ record.startMin < record.endMin ∧ record.endMin ≤ 60) ∧
        0 ≤ record.hour ∧ record.hour ≤ 23) →
      (hoursToIntervals records).map intervalsToHours = .ok (records.mergeSort fun a b => a.hour ≤ b.hour) := by
  constructor
  · intro intervals accepted
    have distinct := records_distinct_iff.mpr (validate_ok_iff.mp accepted)
    obtain ⟨merged, computed, records, breaks⟩ :=
      hoursToIntervals_reads distinct fun record listed => records_within listed
    refine ⟨merged, computed, breaks_sorted breaks, ?_, breaks.imp fun _ _ broken => broken.2⟩
    intro minute unaccounted
    have same := List.mergeSort_perm (intervalsToHours intervals) fun a b => decide (a.hour ≤ b.hour)
    rw [← records_covers, ← records_covers, records]
    simp only [same.mem_iff]
  · intro records distinct within
    obtain ⟨merged, computed, sorted, _⟩ := hoursToIntervals_reads distinct within
    rw [computed, ← sorted]
    rfl

def lateMorning : TimeInterval := { startMin := 9 * 60, endMin := 11 * 60 + 30, ordered := by decide }

def earlyMorning : TimeInterval := { startMin := 7 * 60 + 15, endMin := 9 * 60, ordered := by decide }

theorem hours_inverse_morning :
    (∃ merged, hoursToIntervals (intervalsToHours [lateMorning, earlyMorning]) = .ok merged ∧
      (merged.Pairwise fun a b => a.endMin ≤ b.startMin) ∧
      (∀ minute unaccounted, (∃ interval ∈ merged, interval.Covers minute unaccounted) ↔
        ∃ interval ∈ [lateMorning, earlyMorning], interval.Covers minute unaccounted) ∧
      merged.IsChain fun a b => ¬ (a.endMin = b.startMin ∧ a.unaccounted = b.unaccounted)) ∧
    (hoursToIntervals [⟨9, 0, 30, false⟩, ⟨8, 15, 60, false⟩]).map intervalsToHours =
      .ok ([⟨9, 0, 30, false⟩, ⟨8, 15, 60, false⟩].mergeSort fun a b => a.hour ≤ b.hour) := by
  have later : HoursApart earlyMorning lateMorning := by
    unfold HoursApart
    decide
  have apart : HoursDisjoint earlyMorning lateMorning := (disjoint_iff_apart (by decide)).mpr later
  have disjoint : [lateMorning, earlyMorning].Pairwise HoursDisjoint := by
    apply List.pairwise_pair.mpr
    exact apart.symm
  constructor
  · exact hours_inverse.1 [lateMorning, earlyMorning] (validate_ok_iff.mpr disjoint)
  · exact hours_inverse.2 [⟨9, 0, 30, false⟩, ⟨8, 15, 60, false⟩] (by decide) (by decide)

end TimekprProof
