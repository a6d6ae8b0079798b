import Mathlib.Data.Rat.Floor
import Mathlib.Tactic.FieldSimp
import Mathlib.Tactic.Linarith
import Mathlib.Tactic.Ring
import TimekprHub.Hub.Tables
import TimekprHub.Library.GroupedSum

namespace TimekprModel

def extractEpoch (microseconds : Int) : Rat := microseconds / second

/-- `::bigint`: to the nearest, a half away from zero. -/
def castBigint (value : Rat) : Int := if 0 ≤ value then ⌊value + 1 / 2⌋ else -⌊-value + 1 / 2⌋

def sqlSum (values : List Int) : Option Int := if values = [] then none else some values.sum

def rangeAgg (rows : List ActivityInterval) : List Intervals.Span :=
  Intervals.merged (rows.map ActivityInterval.range)

def rangeWidth (range : Intervals.Span) : Int := range.stop - range.start

def unionSeconds {κ : Type} (rows : List (κ × Intervals.Span)) : Int :=
  castBigint (rows.map fun row => extractEpoch (rangeWidth row.2)).sum

def maxSpent (rows : List (CounterKey × UsageCounterRow)) : Option Int :=
  (rows.map fun row => row.2.spentSeconds).max?

def sumSpent (rows : List (CounterKey × UsageCounterRow)) : Int :=
  (rows.map fun row => row.2.spentSeconds).sum

/-- The statement of the batch and of the history, which group by the user and by the day. -/
def wallclockTotals {κ : Type} [DecidableEq κ] (intervalKey : ActivityInterval → κ)
    (counterKey : CounterKey × UsageCounterRow → κ) (intervals : List ActivityInterval)
    (usageCounters : List (CounterKey × UsageCounterRow)) : Dict κ Int :=
  let ranges := Relational.aggregate intervalKey rangeAgg intervals
  let unioned := Relational.aggregate Prod.fst unionSeconds (Relational.unnest ranges)
  let counters := Relational.aggregate counterKey maxSpent usageCounters
  .ofList ((Relational.fullOuterJoin unioned counters).map fun row =>
    (row.1, max (row.2.1.getD 0) ((row.2.2.getD none).getD 0)))

namespace HubTables

variable (tables : HubTables)

def counterRows (keep : CounterKey → Bool) : List (CounterKey × UsageCounterRow) :=
  tables.usageCounters.entries.filter fun entry => keep entry.1

def globalSpentWallclock (userId : UserId) (day : Date) : Int :=
  let ranges := rangeAgg (tables.activityIntervals.filter fun row => row.userId = userId ∧ row.day = day)
  let counters := tables.counterRows fun key => key.userId = userId ∧ key.day = day
  max (((sqlSum (ranges.map rangeWidth)).map fun total => castBigint (extractEpoch total)).getD 0)
    ((maxSpent counters).getD 0)

def globalSpentWallclockBatch (userIds : List UserId) (day : Date) : Dict UserId Int :=
  if userIds = [] then .empty
  else
    wallclockTotals ActivityInterval.userId (fun row => row.1.userId)
      (tables.activityIntervals.filter fun row => row.userId ∈ userIds ∧ row.day = day)
      (tables.counterRows fun key => key.userId ∈ userIds ∧ key.day = day)

def globalSpentWallclockHistory (userId : UserId) (startDay endDay : Date) : Dict Date Int :=
  wallclockTotals ActivityInterval.day (fun row => row.1.day)
    (tables.activityIntervals.filter fun row => row.userId = userId ∧ startDay ≤ row.day ∧ row.day ≤ endDay)
    (tables.counterRows fun key => key.userId = userId ∧ startDay ≤ key.day ∧ key.day ≤ endDay)

def globalSpentWallclockWindow (userId : UserId) (startDay endDay : Date) : Int :=
  ((tables.globalSpentWallclockHistory userId startDay endDay).entries.map Prod.snd).sum

def globalSpentParallel (userId : UserId) (day : Date) : Int :=
  (sqlSum ((tables.counterRows fun key => key.userId = userId ∧ key.day = day).map
    fun row => row.2.spentSeconds)).getD 0

def globalSpentParallelBatch (userIds : List UserId) (day : Date) : Dict UserId Int :=
  if userIds = [] then .empty
  else
    .ofList (Relational.aggregate (fun row => row.1.userId) sumSpent
      (tables.counterRows fun key => key.userId ∈ userIds ∧ key.day = day))

def globalSpentParallelWindow (userId : UserId) (startDay endDay : Date) : Int :=
  (sqlSum ((tables.counterRows fun key => key.userId = userId ∧ startDay ≤ key.day ∧ key.day ≤ endDay).map
    fun row => row.2.spentSeconds)).getD 0

end HubTables

def daysFrom (startDay endDay : Date) : List Date :=
  (List.range (endDay - startDay + 1).toNat).map fun (offset : Nat) => startDay + offset

end TimekprModel

namespace TimekprProof

open TimekprModel

theorem sqlSum_getD (values : List Int) : (sqlSum values).getD 0 = values.sum := by
  unfold sqlSum
  split
  · rename_i none
    rw [none]
    rfl
  · rfl

theorem sum_extractEpoch (widths : List Int) :
    (widths.map extractEpoch).sum = extractEpoch widths.sum := by
  induction widths with
  | nil => simp [extractEpoch]
  | cons width rest ih =>
    rw [List.map_cons, List.sum_cons, List.sum_cons, ih]
    simp only [extractEpoch, Int.cast_add]
    ring

theorem castBigint_extractEpoch {total : Int} (nonneg : 0 ≤ total) :
    castBigint (extractEpoch total) = HubStore.roundedSeconds total := by
  have positive : (0 : Rat) ≤ extractEpoch total := by
    unfold extractEpoch second
    positivity
  have half : extractEpoch total + 1 / 2 = ((total + 500000 : Int) : Rat) / ((1000000 : Nat) : Rat) := by
    unfold extractEpoch second
    push_cast
    ring
  rw [castBigint, if_pos positive, half, Rat.floor_intCast_div_natCast]
  rfl

theorem sum_rangeAgg (rows : List ActivityInterval) :
    ((rangeAgg rows).map rangeWidth).sum = Intervals.unionLength (rows.map ActivityInterval.range) :=
  Intervals.sum_merged _

theorem unionLength_nonneg (spans : List Intervals.Span) : 0 ≤ Intervals.unionLength spans := by
  rw [Intervals.unionLength_eq_card]
  exact Int.natCast_nonneg _

def wallclockTotal (intervals : List ActivityInterval) (usageCounters : List (CounterKey × UsageCounterRow)) :
    Int :=
  max (HubStore.roundedSeconds (Intervals.unionLength (intervals.map ActivityInterval.range)))
    ((maxSpent usageCounters).getD 0)

theorem global_spent_wallclock_total (tables : HubTables) (userId : UserId) (day : Date) :
    tables.globalSpentWallclock userId day =
      wallclockTotal (tables.activityIntervals.filter fun row => row.userId = userId ∧ row.day = day)
        (tables.counterRows fun key => key.userId = userId ∧ key.day = day) := by
  unfold HubTables.globalSpentWallclock wallclockTotal
  simp only
  congr 1
  rw [← sum_rangeAgg]
  unfold sqlSum
  split
  · rename_i none
    rw [none]
    rfl
  · simp only [Option.map_some, Option.getD_some]
    apply castBigint_extractEpoch
    rw [sum_rangeAgg]
    exact unionLength_nonneg _

section Totals

variable {κ : Type} [DecidableEq κ] (intervalKey : ActivityInterval → κ)
  (counterKey : CounterKey × UsageCounterRow → κ) (intervals : List ActivityInterval)
  (usageCounters : List (CounterKey × UsageCounterRow))

theorem unionSeconds_group (k : κ) :
    (List.lookup k (Relational.aggregate Prod.fst unionSeconds
      (Relational.unnest (Relational.aggregate intervalKey rangeAgg intervals)))).getD 0 =
        HubStore.roundedSeconds (Intervals.unionLength
          ((intervals.filter fun row => intervalKey row = k).map ActivityInterval.range)) := by
  have none : unionSeconds ([] : List (κ × Intervals.Span)) = 0 := by norm_num [unionSeconds, castBigint]
  have empty : rangeAgg [] = [] := by simp [rangeAgg, Intervals.merged]
  have widths : (fun row : κ × Intervals.Span => extractEpoch (rangeWidth row.2)) ∘ Prod.mk k =
      extractEpoch ∘ rangeWidth := rfl
  rw [Relational.getD_lookup_aggregate _ _ _ _ none,
    Relational.filter_unnest (Relational.aggregate_nodup intervalKey rangeAgg intervals),
    Relational.getD_lookup_aggregate _ _ _ _ empty, unionSeconds, List.map_map, widths,
    ← List.map_map, sum_extractEpoch, sum_rangeAgg]
  exact castBigint_extractEpoch (unionLength_nonneg _)

theorem get?_wallclockTotals (k : κ) :
    ((wallclockTotals intervalKey counterKey intervals usageCounters).get? k).getD 0 =
      wallclockTotal (intervals.filter fun row => intervalKey row = k)
        (usageCounters.filter fun row => counterKey row = k) := by
  have counter : (List.lookup k (Relational.aggregate counterKey maxSpent usageCounters)).getD none =
      maxSpent (usageCounters.filter fun row => counterKey row = k) :=
    Relational.getD_lookup_aggregate _ _ _ _ rfl
  have distinct := Relational.fullOuterJoin_nodup
    (Relational.aggregate_nodup Prod.fst unionSeconds
      (Relational.unnest (Relational.aggregate intervalKey rangeAgg intervals)))
    (Relational.aggregate_nodup counterKey maxSpent usageCounters)
  unfold wallclockTotals wallclockTotal
  simp only
  rw [Dict.get?_ofList (by rw [List.map_map]; exact distinct),
    Dict.lookup_map k _ fun _ (value : Option Int × Option (Option Int)) =>
      max (value.1.getD 0) ((value.2.getD none).getD 0),
    Relational.lookup_fullOuterJoin _ (Relational.aggregate_nodup ..), ← unionSeconds_group, ← counter]
  split
  · rename_i noUnion noCounter
    rw [noUnion, noCounter]
    rfl
  · rfl

theorem get?_wallclockTotals_eq_none (k : κ) (noSpans : ∀ row ∈ intervals, intervalKey row ≠ k)
    (noCounters : ∀ row ∈ usageCounters, counterKey row ≠ k) :
    (wallclockTotals intervalKey counterKey intervals usageCounters).get? k = none := by
  have ranges : List.lookup k (Relational.aggregate intervalKey rangeAgg intervals) = none := by
    rw [Relational.lookup_aggregate, if_pos]
    rw [List.filter_eq_nil_iff]
    exact fun row listed same => noSpans row listed (of_decide_eq_true same)
  have union : List.lookup k (Relational.aggregate Prod.fst unionSeconds
      (Relational.unnest (Relational.aggregate intervalKey rangeAgg intervals))) = none := by
    rw [Relational.lookup_aggregate, if_pos]
    rw [Relational.filter_unnest (Relational.aggregate_nodup ..), ranges]
    rfl
  have counter : List.lookup k (Relational.aggregate counterKey maxSpent usageCounters) = none := by
    rw [Relational.lookup_aggregate, if_pos]
    rw [List.filter_eq_nil_iff]
    exact fun row listed same => noCounters row listed (of_decide_eq_true same)
  have distinct := Relational.fullOuterJoin_nodup
    (Relational.aggregate_nodup Prod.fst unionSeconds
      (Relational.unnest (Relational.aggregate intervalKey rangeAgg intervals)))
    (Relational.aggregate_nodup counterKey maxSpent usageCounters)
  unfold wallclockTotals
  simp only
  rw [Dict.get?_ofList (by rw [List.map_map]; exact distinct),
    Dict.lookup_map k _ fun _ (value : Option Int × Option (Option Int)) =>
      max (value.1.getD 0) ((value.2.getD none).getD 0),
    Relational.lookup_fullOuterJoin _ (Relational.aggregate_nodup ..), union, counter]
  rfl

end Totals

theorem mem_daysFrom {startDay endDay day : Int} :
    day ∈ daysFrom startDay endDay ↔ startDay ≤ day ∧ day ≤ endDay := by
  unfold daysFrom
  rw [List.mem_map]
  constructor
  · rintro ⟨offset, listed, same⟩
    rw [List.mem_range] at listed
    have shifted : startDay + (offset : Int) = day := same
    have bound : (offset : Int) < endDay - startDay + 1 := by
      have positive : (offset : Int) < (endDay - startDay + 1).toNat := Int.ofNat_lt.mpr listed
      omega
    constructor <;> omega
  · rintro ⟨after, before⟩
    refine ⟨(day - startDay).toNat, ?_, ?_⟩
    · rw [List.mem_range]
      change (day - startDay).toNat < (endDay - startDay + 1 : Int).toNat
      omega
    · change startDay + ((day - startDay).toNat : Int) = day
      omega

theorem daysFrom_nodup (startDay endDay : Date) : (daysFrom startDay endDay).Nodup := by
  apply List.nodup_range.map
  intro one other same
  exact Int.ofNat_inj.mp (Int.add_left_cancel same)

theorem sum_entries {κ : Type} [DecidableEq κ] (dict : Dict κ Int) {keys : List κ} (distinct : keys.Nodup)
    (listed : ∀ entry ∈ dict.entries, entry.1 ∈ keys) :
    (dict.entries.map Prod.snd).sum = (keys.map fun key => (dict.get? key).getD 0).sum := by
  have groups := GroupedSum.total_eq_groups Prod.snd Prod.fst distinct dict.entries listed
  rw [← GroupedSum.total, groups]
  congr 1
  apply List.map_congr_left
  intro key _
  rw [Relational.filter_key dict.nodup, Dict.get?]
  cases List.lookup key dict.entries <;> simp [GroupedSum.total]

section Queries

variable (tables : HubTables) (userId : UserId)

theorem batch_counterRows {userIds : List UserId} (listed : userId ∈ userIds) (day : Date) :
    ((tables.counterRows fun key => key.userId ∈ userIds ∧ key.day = day).filter fun row =>
      row.1.userId = userId) = tables.counterRows fun key => key.userId = userId ∧ key.day = day :=
  Relational.filter_batch tables.usageCounters.entries (fun row => row.1.userId) (fun row => row.1.day) listed
    day

theorem window_counterRows {startDay endDay day : Date} (within : startDay ≤ day ∧ day ≤ endDay) :
    ((tables.counterRows fun key => key.userId = userId ∧ startDay ≤ key.day ∧ key.day ≤ endDay).filter
      fun row => row.1.day = day) = tables.counterRows fun key => key.userId = userId ∧ key.day = day :=
  Relational.filter_window tables.usageCounters.entries (fun row => row.1.userId) (fun row => row.1.day)
    userId within

theorem wallclock_batch_agrees {userIds : List UserId} (listed : userId ∈ userIds) (day : Date) :
    tables.globalSpentWallclock userId day =
      ((tables.globalSpentWallclockBatch userIds day).get? userId).getD 0 := by
  have some : userIds ≠ [] := List.ne_nil_of_mem listed
  rw [HubTables.globalSpentWallclockBatch, if_neg some, get?_wallclockTotals,
    batch_counterRows tables userId listed, global_spent_wallclock_total,
    Relational.filter_batch _ ActivityInterval.userId ActivityInterval.day listed]

theorem wallclock_history_agrees {startDay endDay day : Date} (within : startDay ≤ day ∧ day ≤ endDay) :
    tables.globalSpentWallclock userId day =
      ((tables.globalSpentWallclockHistory userId startDay endDay).get? day).getD 0 := by
  rw [HubTables.globalSpentWallclockHistory, get?_wallclockTotals,
    window_counterRows tables userId within, global_spent_wallclock_total,
    Relational.filter_window _ ActivityInterval.userId ActivityInterval.day userId within]

theorem history_days {startDay endDay : Date} :
    ∀ entry ∈ (tables.globalSpentWallclockHistory userId startDay endDay).entries,
      entry.1 ∈ daysFrom startDay endDay := by
  intro entry member
  have held := (Dict.get?_eq_some _ entry.1 entry.2).mpr member
  rw [mem_daysFrom]
  by_contra outside
  rw [HubTables.globalSpentWallclockHistory, get?_wallclockTotals_eq_none] at held
  · cases held
  · intro row listed same
    obtain ⟨_, kept⟩ := List.mem_filter.mp listed
    exact outside (same ▸ (of_decide_eq_true kept).2)
  · intro row listed same
    obtain ⟨_, kept⟩ := List.mem_filter.mp listed
    exact outside (same ▸ (of_decide_eq_true kept).2)

theorem wallclock_window_agrees (startDay endDay : Date) :
    tables.globalSpentWallclockWindow userId startDay endDay =
      ((daysFrom startDay endDay).map (tables.globalSpentWallclock userId)).sum := by
  rw [HubTables.globalSpentWallclockWindow,
    sum_entries _ (daysFrom_nodup startDay endDay) (history_days tables userId)]
  apply congrArg List.sum
  apply List.map_congr_left
  intro day listed
  exact (wallclock_history_agrees tables userId (mem_daysFrom.mp listed)).symm

theorem parallel_batch_agrees {userIds : List UserId} (listed : userId ∈ userIds) (day : Date) :
    tables.globalSpentParallel userId day =
      ((tables.globalSpentParallelBatch userIds day).get? userId).getD 0 := by
  have some : userIds ≠ [] := List.ne_nil_of_mem listed
  have none : sumSpent [] = 0 := rfl
  rw [HubTables.globalSpentParallelBatch, if_neg some, Dict.get?_ofList (Relational.aggregate_nodup ..),
    Relational.getD_lookup_aggregate _ _ _ _ none, batch_counterRows tables userId listed,
    HubTables.globalSpentParallel, sqlSum_getD]
  rfl

theorem batches_absent {userIds : List UserId} (unlisted : userId ∉ userIds) (day : Date) :
    (tables.globalSpentWallclockBatch userIds day).get? userId = none ∧
      (tables.globalSpentParallelBatch userIds day).get? userId = none := by
  have noCounters : ∀ row ∈ tables.counterRows (fun key => key.userId ∈ userIds ∧ key.day = day),
      row.1.userId ≠ userId := by
    intro row listed same
    obtain ⟨_, kept⟩ := List.mem_filter.mp listed
    exact unlisted (same ▸ (of_decide_eq_true kept).1)
  unfold HubTables.globalSpentWallclockBatch HubTables.globalSpentParallelBatch
  by_cases empty : userIds = []
  · rw [if_pos empty, if_pos empty]
    exact ⟨rfl, rfl⟩
  · rw [if_neg empty, if_neg empty]
    constructor
    · apply get?_wallclockTotals_eq_none
      · intro row listed same
        obtain ⟨_, kept⟩ := List.mem_filter.mp listed
        exact unlisted (same ▸ (of_decide_eq_true kept).1)
      · exact noCounters
    · rw [Dict.get?_ofList (Relational.aggregate_nodup ..), Relational.lookup_aggregate, if_pos]
      rw [List.filter_eq_nil_iff]
      exact fun row listed same => noCounters row listed (of_decide_eq_true same)

theorem parallel_window_agrees (startDay endDay : Date) :
    tables.globalSpentParallelWindow userId startDay endDay =
      ((daysFrom startDay endDay).map (tables.globalSpentParallel userId)).sum := by
  have inside : ∀ row ∈ tables.counterRows (fun key => key.userId = userId ∧ startDay ≤ key.day ∧ key.day ≤ endDay),
      row.1.day ∈ daysFrom startDay endDay := by
    intro row listed
    obtain ⟨_, kept⟩ := List.mem_filter.mp listed
    exact mem_daysFrom.mpr (of_decide_eq_true kept).2
  have groups := GroupedSum.total_eq_groups (fun row : CounterKey × UsageCounterRow => row.2.spentSeconds)
    (fun row => row.1.day) (daysFrom_nodup startDay endDay) _ inside
  rw [HubTables.globalSpentParallelWindow, sqlSum_getD, ← GroupedSum.total, groups]
  congr 1
  apply List.map_congr_left
  intro day listed
  rw [window_counterRows tables userId (mem_daysFrom.mp listed), HubTables.globalSpentParallel, sqlSum_getD]
  rfl

theorem store_spent_wallclock (day : Date) :
    tables.store.globalSpentWallclock userId day = tables.globalSpentWallclock userId day := by
  rw [global_spent_wallclock_total]
  unfold HubStore.globalSpentWallclock wallclockTotal HubStore.daySpans HubStore.dayCounters maxSpent
    HubTables.counterRows HubTables.store Dict.mapValues
  simp only [List.filter_map, List.map_map]
  rfl

theorem store_spent_parallel (day : Date) :
    tables.store.globalSpentParallel userId day = tables.globalSpentParallel userId day := by
  unfold HubTables.globalSpentParallel
  rw [sqlSum_getD]
  unfold HubStore.globalSpentParallel HubStore.dayCounters HubTables.counterRows HubTables.store Dict.mapValues
  simp only [List.filter_map, List.map_map]
  rfl

theorem store_window_parallel (startDay endDay : Date) :
    tables.store.globalSpentParallelWindow userId startDay endDay =
      tables.globalSpentParallelWindow userId startDay endDay := by
  unfold HubTables.globalSpentParallelWindow
  rw [sqlSum_getD]
  unfold HubStore.globalSpentParallelWindow HubTables.counterRows HubTables.store Dict.mapValues
  simp only [List.filter_map, List.map_map]
  rfl

theorem store_day_without_data {store : HubStore} {startDay endDay day : Date}
    (within : startDay ≤ day ∧ day ≤ endDay) (absent : day ∉ store.daysWithData userId startDay endDay) :
    store.globalSpentWallclock userId day = 0 := by
  have outside : ∀ days : List Date, day ∉ (days.filter fun other =>
      startDay ≤ other ∧ other ≤ endDay).dedup → day ∉ days := by
    intro days unlisted listed
    exact unlisted (List.mem_dedup.mpr (List.mem_filter.mpr ⟨listed, decide_eq_true within⟩))
  have nowhere := outside _ absent
  rw [List.mem_append, not_or, List.mem_map, List.mem_map] at nowhere
  obtain ⟨noSpan, noCounter⟩ := nowhere
  have spans : store.daySpans userId day = [] := by
    rw [HubStore.daySpans, List.map_eq_nil_iff, List.filter_eq_nil_iff]
    intro row member matched
    obtain ⟨own, onDay⟩ := of_decide_eq_true matched
    exact noSpan ⟨row, List.mem_filter.mpr ⟨member, decide_eq_true own⟩, onDay⟩
  have counters : store.dayCounters userId day = [] := by
    rw [HubStore.dayCounters, List.map_eq_nil_iff, List.filter_eq_nil_iff]
    intro entry member matched
    obtain ⟨own, onDay⟩ := of_decide_eq_true matched
    exact noCounter ⟨entry, List.mem_filter.mpr ⟨member, decide_eq_true own⟩, onDay⟩
  have nothing : Intervals.unionLength [] = 0 := by simp [Intervals.unionLength]
  rw [HubStore.globalSpentWallclock, spans, counters, nothing]
  rfl

theorem store_window_wallclock (startDay endDay : Date) :
    tables.store.globalSpentWallclockWindow userId startDay endDay =
      tables.globalSpentWallclockWindow userId startDay endDay := by
  have distinct : ((tables.store.globalSpentWallclockHistory userId startDay endDay).map Prod.fst).Nodup := by
    rw [HubStore.globalSpentWallclockHistory, List.map_map]
    exact (List.nodup_dedup _).map fun _ _ same => same
  have inside : ∀ entry ∈ tables.store.globalSpentWallclockHistory userId startDay endDay,
      entry.1 ∈ daysFrom startDay endDay := by
    intro entry member
    obtain ⟨day, listed, rfl⟩ := List.mem_map.mp member
    exact mem_daysFrom.mpr (of_decide_eq_true (List.mem_filter.mp (List.mem_dedup.mp listed)).2)
  have total := sum_entries ⟨_, distinct⟩ (daysFrom_nodup startDay endDay) inside
  rw [HubStore.globalSpentWallclockWindow, total, wallclock_window_agrees]
  congr 1
  apply List.map_congr_left
  intro day listed
  change (List.lookup day ((tables.store.daysWithData userId startDay endDay).map fun other =>
    (other, tables.store.globalSpentWallclock userId other))).getD 0 = _
  rw [← store_spent_wallclock, Relational.lookup_map_keys]
  split
  · rfl
  · rename_i absent
    exact (store_day_without_data userId (mem_daysFrom.mp listed) absent).symm

end Queries

/-- The batched and the windowed queries give the single-day query's values. -/
theorem aggregation_agrees (tables : HubTables) (userId : UserId) (day : Date) (userIds : List UserId)
    (startDay endDay : Date) (listed : userId ∈ userIds) (within : startDay ≤ day ∧ day ≤ endDay) :
    tables.globalSpentWallclock userId day =
        ((tables.globalSpentWallclockBatch userIds day).get? userId).getD 0 ∧
      tables.globalSpentWallclock userId day =
        ((tables.globalSpentWallclockHistory userId startDay endDay).get? day).getD 0 ∧
      tables.globalSpentWallclockWindow userId startDay endDay =
        ((daysFrom startDay endDay).map (tables.globalSpentWallclock userId)).sum ∧
      tables.globalSpentParallel userId day =
        ((tables.globalSpentParallelBatch userIds day).get? userId).getD 0 ∧
      tables.globalSpentParallelWindow userId startDay endDay =
        ((daysFrom startDay endDay).map (tables.globalSpentParallel userId)).sum :=
  ⟨wallclock_batch_agrees tables userId listed day, wallclock_history_agrees tables userId within,
    wallclock_window_agrees tables userId startDay endDay, parallel_batch_agrees tables userId listed day,
    parallel_window_agrees tables userId startDay endDay⟩

/-- One user with a counter and no span, one with a span and no counter. -/
theorem aggregation_agrees_outer :
    let tables : HubTables :=
      { usageCounters := .ofList [(⟨"ann", "pad", 3⟩, ⟨⟨50, none⟩, 0⟩)]
        activityIntervals := [⟨"ben", "pad", 3, 0, second, second⟩] }
    tables.globalSpentWallclock "ben" 3 = ((tables.globalSpentWallclockBatch ["ann", "ben"] 3).get? "ben").getD 0 ∧
      tables.globalSpentWallclock "ben" 3 =
        ((tables.globalSpentWallclockHistory "ben" 1 7).get? 3).getD 0 ∧
      tables.globalSpentWallclockWindow "ben" 1 7 =
        ((daysFrom 1 7).map (tables.globalSpentWallclock "ben")).sum ∧
      tables.globalSpentParallel "ben" 3 =
        ((tables.globalSpentParallelBatch ["ann", "ben"] 3).get? "ben").getD 0 ∧
      tables.globalSpentParallelWindow "ben" 1 7 =
        ((daysFrom 1 7).map (tables.globalSpentParallel "ben")).sum :=
  aggregation_agrees _ "ben" 3 ["ann", "ben"] 1 7 (by decide) (by decide)

end TimekprProof
