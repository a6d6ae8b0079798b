import TimekprHub.Hub.Counters

namespace TimekprModel

structure Report where
  deviceId : DeviceId
  usage : SyncUserRequest

namespace HubStore

variable (userId : UserId) (day : Date)

def account (store : HubStore) (report : Report) : HubStore :=
  recordUsage store report.deviceId userId day report.usage

def accountAll (store : HubStore) (reports : List Report) : HubStore :=
  reports.foldl (account userId day) store

end HubStore

/-- Two spans of one device with the same end are the same span. Those of no width are skipped. -/
def SpansAgree (reports : List Report) : Prop :=
  ∀ a ∈ reports, ∀ b ∈ reports, a.deviceId = b.deviceId →
    ∀ span ∈ a.usage.activeSpans, ∀ other ∈ b.usage.activeSpans,
      span.start < span.stop → other.start < other.stop → span.stop = other.stop → span.start = other.start

def spanReport (deviceId : DeviceId) (spent start stop : Int) : Report where
  deviceId
  usage :=
    { username := "kid"
      cumulativeSpentS := spent
      activeSpans := [⟨start * second, stop * second, stop - start⟩]
      observed :=
        { balanceS := spent, spentDayS := spent, limitTodayS := 3600, loggedIn := true, active := true } }

end TimekprModel

namespace TimekprProof

open TimekprModel

variable (userId : UserId) (day : Date)

def accountedRows (reports : List Report) : List ActivityInterval :=
  reports.flatMap fun report => spanRows report.deviceId userId day report.usage.activeSpans

def accountedCounters (reports : List Report) (key : CounterKey) : List Int :=
  (reports.filter fun report => ⟨userId, report.deviceId, day⟩ = key).map fun report =>
    report.usage.cumulativeSpentS

theorem account_spent (store : HubStore) (report : Report) (key : CounterKey) :
    (store.account userId day report).spent key =
      HighWater.mergeAll (store.spent key) (accountedCounters userId day [report] key) := by
  unfold HubStore.account recordUsage
  simp only [insertActivityIntervals_eq]
  refine (upsertUsageCounter_spent store _ _ report.usage.observed.activityState key).trans ?_
  simp only [accountedCounters, List.filter_cons, List.filter_nil, decide_eq_true_eq]
  split
  · rename_i same
    rw [same]
    rfl
  · rfl

theorem account_intervals (store : HubStore) (report : Report) :
    (store.account userId day report).activityIntervals =
      KeyedLog.insertAll ActivityInterval.windowKey store.activityIntervals
        (accountedRows userId day [report]) := by
  unfold HubStore.account recordUsage
  simp only [insertActivityIntervals_eq, accountedRows, List.flatMap_cons, List.flatMap_nil,
    List.append_nil]
  rfl

theorem accountAll_spent (store : HubStore) (reports : List Report) (key : CounterKey) :
    (store.accountAll userId day reports).spent key =
      HighWater.mergeAll (store.spent key) (accountedCounters userId day reports key) := by
  induction reports generalizing store with
  | nil => rfl
  | cons report rest ih =>
    have split : accountedCounters userId day (report :: rest) key =
        accountedCounters userId day [report] key ++ accountedCounters userId day rest key := by
      simp only [accountedCounters, ← List.map_append, ← List.filter_append, List.singleton_append]
    rw [split, HighWater.mergeAll_append, ← account_spent]
    exact ih (store.account userId day report)

theorem accountAll_intervals (store : HubStore) (reports : List Report) :
    (store.accountAll userId day reports).activityIntervals =
      KeyedLog.insertAll ActivityInterval.windowKey store.activityIntervals
        (accountedRows userId day reports) := by
  induction reports generalizing store with
  | nil => rfl
  | cons report rest ih =>
    have split : accountedRows userId day (report :: rest) =
        accountedRows userId day [report] ++ accountedRows userId day rest := by
      simp only [accountedRows, ← List.flatMap_append, List.singleton_append]
    rw [split, KeyedLog.insertAll_append, ← account_intervals]
    exact ih (store.account userId day report)

theorem mem_accountedRows (reports : List Report) (row : ActivityInterval) :
    row ∈ accountedRows userId day reports ↔
      ∃ report ∈ reports, ∃ span ∈ report.usage.activeSpans, span.start < span.stop ∧
        ⟨userId, report.deviceId, day, span.start, span.stop, span.stop⟩ = row := by
  simp only [accountedRows, List.mem_flatMap, spanRows, List.mem_map, List.mem_filter, decide_eq_true_eq,
    and_assoc]

theorem accountedRows_functional {reports : List Report} (agree : SpansAgree reports) :
    ∀ a ∈ accountedRows userId day reports, ∀ b ∈ accountedRows userId day reports,
      a.windowKey = b.windowKey → a = b := by
  intro a listed b listed' same
  obtain ⟨report, member, span, inside, wide, rfl⟩ := (mem_accountedRows userId day reports a).mp listed
  obtain ⟨other, member', span', inside', wide', rfl⟩ := (mem_accountedRows userId day reports b).mp listed'
  obtain ⟨device, stop⟩ := Prod.mk.inj same
  have start := agree report member other member' device span inside span' inside' wide wide' stop
  change report.deviceId = other.deviceId at device
  change span.stop = span'.stop at stop
  rw [device, stop, start]

section SameReports

variable {reports others : List Report} (same : ∀ report, report ∈ reports ↔ report ∈ others)

include same

theorem spent_of_same_reports (store : HubStore) (key : CounterKey) :
    (store.accountAll userId day reports).spent key = (store.accountAll userId day others).spent key := by
  rw [accountAll_spent, accountAll_spent]
  apply HighWater.mergeAll_congr
  intro seconds
  simp only [accountedCounters, List.mem_map, List.mem_filter, same]

theorem daySpans_of_same_reports (agree : SpansAgree reports) (store : HubStore)
    (span : Intervals.Span) : span ∈ (store.accountAll userId day reports).daySpans userId day ↔
      span ∈ (store.accountAll userId day others).daySpans userId day := by
  have rows : ∀ row, row ∈ accountedRows userId day reports ↔ row ∈ accountedRows userId day others := by
    intro row
    simp only [mem_accountedRows, same]
  have stored := KeyedLog.mem_insertAll_congr rows (accountedRows_functional userId day agree)
    store.activityIntervals
  simp only [HubStore.daySpans, List.mem_map, List.mem_filter, accountAll_intervals, stored]

end SameReports

theorem totals_of_same_reports (store : HubStore) {reports others : List Report}
    (same : ∀ report, report ∈ reports ↔ report ∈ others) (agree : SpansAgree reports) :
    (store.accountAll userId day reports).globalSpentWallclock userId day =
        (store.accountAll userId day others).globalSpentWallclock userId day ∧
      (store.accountAll userId day reports).globalSpentParallel userId day =
        (store.accountAll userId day others).globalSpentParallel userId day := by
  have spent := spent_of_same_reports userId day same store
  have counters := dayCounters_perm spent userId day
  constructor
  · have union := Intervals.unionLength_congr (daySpans_of_same_reports userId day same agree store)
    have largest := HighWater.max?_congr fun seconds => counters.mem_iff (a := seconds)
    simp only [HubStore.globalSpentWallclock, union, largest]
  · exact parallel_eq_of_spent spent userId day

theorem daySpans_grow (store : HubStore) (report : Report) :
    store.daySpans userId day ⊆ (store.account userId day report).daySpans userId day := by
  intro span listed
  obtain ⟨row, member, rfl⟩ := List.mem_map.mp listed
  obtain ⟨stored, own⟩ := List.mem_filter.mp member
  apply List.mem_map.mpr
  refine ⟨row, List.mem_filter.mpr ⟨?_, own⟩, rfl⟩
  rw [account_intervals]
  exact KeyedLog.subset_insertAll _ _ stored

theorem dayCounters_account (store : HubStore) (report : Report) : ∃ others,
    (store.dayCounters userId day).Perm
        ((store.spent ⟨userId, report.deviceId, day⟩).toList ++ others) ∧
      ((store.account userId day report).dayCounters userId day).Perm
        (HighWater.merge (store.spent ⟨userId, report.deviceId, day⟩) report.usage.cumulativeSpentS ::
          others) := by
  obtain ⟨others, before, after⟩ := dayCounters_upsert store ⟨userId, report.deviceId, day⟩
    report.usage.cumulativeSpentS report.usage.observed.activityState
  refine ⟨others, before, ?_⟩
  unfold HubStore.account recordUsage
  simp only [insertActivityIntervals_eq]
  exact after

theorem totals_grow (store : HubStore) (report : Report) (counted : 0 ≤ report.usage.cumulativeSpentS) :
    store.globalSpentWallclock userId day ≤
        (store.account userId day report).globalSpentWallclock userId day ∧
      store.globalSpentParallel userId day ≤
        (store.account userId day report).globalSpentParallel userId day := by
  obtain ⟨others, before, after⟩ := dayCounters_account userId day store report
  generalize held : store.spent ⟨userId, report.deviceId, day⟩ = shown at before after
  have raised := HighWater.le_merge shown report.usage.cumulativeSpentS
  constructor
  · have union := roundedSeconds_mono (Intervals.unionLength_mono (daySpans_grow userId day store report))
    have largest : (store.dayCounters userId day).max?.getD 0 ≤
        ((store.account userId day report).dayCounters userId day).max?.getD 0 := by
      apply HighWater.max?_getD_le
      · intro seconds listed
        rcases List.mem_append.mp (before.mem_iff.mp listed) with own | other
        · exact ⟨_, after.mem_iff.mpr (List.mem_cons_self ..), raised seconds (Option.mem_toList.mp own)⟩
        · exact ⟨seconds, after.mem_iff.mpr (List.mem_cons_of_mem _ other), le_refl _⟩
      · intro blank seconds listed
        rw [blank] at before
        have empty := List.append_eq_nil_iff.mp before.nil_eq.symm
        have first : shown = none := Option.toList_eq_nil_iff.mp empty.1
        rw [first, empty.2] at after
        have only := List.mem_singleton.mp (after.mem_iff.mp listed)
        rw [only]
        exact counted
    exact max_le_max union largest
  · simp only [HubStore.globalSpentParallel, before.sum_eq, after.sum_eq, List.sum_append, List.sum_cons]
    cases shown with
    | none =>
      have first : HighWater.merge none report.usage.cumulativeSpentS = report.usage.cumulativeSpentS := rfl
      simp only [Option.toList_none, List.sum_nil]
      omega
    | some seconds =>
      have more := raised seconds rfl
      simp only [Option.toList_some, List.sum_singleton]
      omega

/-- The totals of a user and day depend on the set of reports alone, and one more report never lowers
    them. -/
theorem accounting_of_report_set (store : HubStore) (reports others : List Report)
    (same : ∀ report, report ∈ reports ↔ report ∈ others) (agree : SpansAgree reports) (more : Report)
    (counted : 0 ≤ more.usage.cumulativeSpentS) :
    (store.accountAll userId day reports).globalSpentWallclock userId day =
        (store.accountAll userId day others).globalSpentWallclock userId day ∧
      (store.accountAll userId day reports).globalSpentParallel userId day =
        (store.accountAll userId day others).globalSpentParallel userId day ∧
      (store.accountAll userId day reports).globalSpentWallclock userId day ≤
        (store.accountAll userId day (reports ++ [more])).globalSpentWallclock userId day ∧
      (store.accountAll userId day reports).globalSpentParallel userId day ≤
        (store.accountAll userId day (reports ++ [more])).globalSpentParallel userId day := by
  obtain ⟨wallclock, parallel⟩ := totals_of_same_reports userId day store same agree
  have last : store.accountAll userId day (reports ++ [more]) =
      (store.accountAll userId day reports).account userId day more := List.foldl_append
  rw [last]
  obtain ⟨wallclockGrows, parallelGrows⟩ :=
    totals_grow userId day (store.accountAll userId day reports) more counted
  exact ⟨wallclock, parallel, wallclockGrows, parallelGrows⟩

theorem accounting_of_report_set_replay :
    (HubStore.accountAll "kid" 1 {} [spanReport "laptop" 60 0 60, spanReport "tablet" 50 30 80]).globalSpentWallclock
        "kid" 1 =
      (HubStore.accountAll "kid" 1 {}
        [spanReport "tablet" 50 30 80, spanReport "laptop" 60 0 60,
          spanReport "tablet" 50 30 80]).globalSpentWallclock "kid" 1 :=
  (accounting_of_report_set "kid" 1 {} [spanReport "laptop" 60 0 60, spanReport "tablet" 50 30 80]
    [spanReport "tablet" 50 30 80, spanReport "laptop" 60 0 60, spanReport "tablet" 50 30 80]
    (by
      intro report
      simp only [List.mem_cons, List.not_mem_nil, or_false]
      tauto)
    (by
      unfold SpansAgree
      decide)
    (spanReport "laptop" 70 60 70) (by decide)).1

end TimekprProof
