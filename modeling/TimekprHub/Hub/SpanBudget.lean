import TimekprHub.Agent.DraftUser
import TimekprHub.Hub.SyncRows
import TimekprHub.Library.GroupedSum

namespace TimekprModel

def ActivityInterval.length (row : ActivityInterval) : Int := Intervals.length ⟨row.start, row.stop⟩

namespace HubStore

def storedLength (store : HubStore) (key : CounterKey) : Int :=
  GroupedSum.total ActivityInterval.length
    (store.activityIntervals.filter fun row => ⟨row.userId, row.deviceId, row.day⟩ = key)

def unsentLength (store : HubStore) (deviceId : DeviceId) (spans : List ActiveSpan) : Int :=
  GroupedSum.total ActiveSpan.length
    (spans.filter fun span => (deviceId, span.stop) ∉ store.activityIntervals.map ActivityInterval.windowKey)

end HubStore

end TimekprModel

namespace TimekprProof

open TimekprModel

theorem rowLength_nonneg (row : ActivityInterval) : 0 ≤ row.length := le_max_left _ _

theorem spanLength_nonneg (span : ActiveSpan) : 0 ≤ span.length := le_max_left _ _

theorem storedLength_nonneg (store : HubStore) (key : CounterKey) : 0 ≤ store.storedLength key :=
  GroupedSum.total_nonneg rowLength_nonneg _

theorem unsentLength_nonneg (store : HubStore) (deviceId : DeviceId) (spans : List ActiveSpan) :
    0 ≤ store.unsentLength deviceId spans :=
  GroupedSum.total_nonneg spanLength_nonneg _

theorem unsentLength_append (store : HubStore) (deviceId : DeviceId) (first later : List ActiveSpan) :
    store.unsentLength deviceId (first ++ later) =
      store.unsentLength deviceId first + store.unsentLength deviceId later := by
  simp only [HubStore.unsentLength, List.filter_append, GroupedSum.total_append]

theorem unsentLength_sublist (store : HubStore) (deviceId : DeviceId) {fewer spans : List ActiveSpan}
    (sublist : fewer.Sublist spans) : store.unsentLength deviceId fewer ≤ store.unsentLength deviceId spans :=
  GroupedSum.total_sublist spanLength_nonneg (sublist.filter _)

theorem unsentLength_le_length (store : HubStore) (deviceId : DeviceId) (span : Option ActiveSpan) :
    store.unsentLength deviceId span.toList ≤ (span.map ActiveSpan.length).getD 0 := by
  refine (GroupedSum.total_sublist spanLength_nonneg List.filter_sublist).trans ?_
  cases span with
  | none => exact le_refl 0
  | some span => simp

section Recorded

variable {deviceId : DeviceId} {day : Date} {reqs : List SyncUserRequest} {store later : HubStore}

theorem unsentLength_antitone (recorded : Recorded deviceId day reqs store later) (device : DeviceId)
    (spans : List ActiveSpan) : later.unsentLength device spans ≤ store.unsentLength device spans := by
  apply GroupedSum.total_sublist spanLength_nonneg
  apply List.monotone_filter_right
  intro span free
  rw [decide_eq_true_eq] at free ⊢
  intro taken
  apply free
  rw [recorded.intervals]
  exact List.map_subset _ (KeyedLog.subset_insertAll _ _) taken

theorem reportedRow_device {row : ActivityInterval} (reported : row ∈ store.reportedRows deviceId day reqs) :
    row.deviceId = deviceId := by
  obtain ⟨req, _, member⟩ := List.mem_flatMap.mp reported
  obtain ⟨span, _, rfl⟩ := List.mem_map.mp member
  rfl

theorem storedLength_other (recorded : Recorded deviceId day reqs store later) {key : CounterKey}
    (other : key.deviceId ≠ deviceId) : later.storedLength key = store.storedLength key := by
  have none : (KeyedLog.unclaimed ActivityInterval.windowKey store.activityIntervals
      (store.reportedRows deviceId day reqs)).filter
        (fun row => ⟨row.userId, row.deviceId, row.day⟩ = key) = [] := by
    rw [List.filter_eq_nil_iff]
    intro row inserted own
    have offered := (List.mem_filter.mp ((KeyedLog.unclaimed_sublist _ _).subset inserted)).1
    have named := of_decide_eq_true own
    exact other ((congrArg CounterKey.deviceId named).symm.trans (reportedRow_device offered))
  simp only [HubStore.storedLength]
  rw [recorded.intervals, KeyedLog.insertAll_eq, List.filter_append, none, List.append_nil]

theorem free_rows_length (store : HubStore) (deviceId : DeviceId) (userId : UserId) (day : Date)
    (spans : List ActiveSpan) :
    GroupedSum.total ActivityInterval.length ((spanRows deviceId userId day spans).filter fun row =>
        row.windowKey ∉ store.activityIntervals.map ActivityInterval.windowKey) ≤
      store.unsentLength deviceId spans := by
  have same : ∀ spans : List ActiveSpan,
      GroupedSum.total ActivityInterval.length ((spans.map fun span =>
          (⟨userId, deviceId, day, span.start, span.stop, span.stop⟩ : ActivityInterval)).filter fun row =>
            row.windowKey ∉ store.activityIntervals.map ActivityInterval.windowKey) =
        store.unsentLength deviceId spans := by
    intro spans
    simp only [GroupedSum.total, HubStore.unsentLength, List.filter_map, List.map_map]
    rfl
  rw [spanRows, same]
  exact unsentLength_sublist store deviceId List.filter_sublist

theorem reported_length (named : ∀ username, store.userOf deviceId username = username) (userId : UserId)
    (reqs : List SyncUserRequest) :
    GroupedSum.total ActivityInterval.length (((store.reportedRows deviceId day reqs).filter fun row =>
        row.windowKey ∉ store.activityIntervals.map ActivityInterval.windowKey).filter
          fun row => (⟨row.userId, row.deviceId, row.day⟩ : CounterKey) = ⟨userId, deviceId, day⟩) ≤
      store.unsentLength deviceId ((requestsOf userId reqs).flatMap SyncUserRequest.activeSpans) := by
  induction reqs with
  | nil => exact le_refl 0
  | cons req rest ih =>
    have split : store.reportedRows deviceId day (req :: rest) =
        spanRows deviceId req.username day req.activeSpans ++ store.reportedRows deviceId day rest := by
      simp only [HubStore.reportedRows, List.flatMap_cons, named]
    rw [split, List.filter_append, List.filter_append, GroupedSum.total_append]
    by_cases own : req.username = userId
    · have mine : requestsOf userId (req :: rest) = req :: requestsOf userId rest :=
        List.filter_cons_of_pos (decide_eq_true own)
      have here := free_rows_length store deviceId req.username day req.activeSpans
      have fewer : GroupedSum.total ActivityInterval.length
          (((spanRows deviceId req.username day req.activeSpans).filter fun row =>
            row.windowKey ∉ store.activityIntervals.map ActivityInterval.windowKey).filter
              fun row => (⟨row.userId, row.deviceId, row.day⟩ : CounterKey) = ⟨userId, deviceId, day⟩) ≤
          GroupedSum.total ActivityInterval.length
            ((spanRows deviceId req.username day req.activeSpans).filter fun row =>
              row.windowKey ∉ store.activityIntervals.map ActivityInterval.windowKey) :=
        GroupedSum.total_sublist rowLength_nonneg List.filter_sublist
      rw [mine, List.flatMap_cons, unsentLength_append]
      omega
    · have foreign : requestsOf userId (req :: rest) = requestsOf userId rest :=
        List.filter_cons_of_neg fun same => own (of_decide_eq_true same)
      have none : ((spanRows deviceId req.username day req.activeSpans).filter fun row =>
          row.windowKey ∉ store.activityIntervals.map ActivityInterval.windowKey).filter
            (fun row => (⟨row.userId, row.deviceId, row.day⟩ : CounterKey) = ⟨userId, deviceId, day⟩) = [] := by
        rw [List.filter_eq_nil_iff]
        intro row member same
        obtain ⟨span, _, rfl⟩ := List.mem_map.mp (List.mem_filter.mp member).1
        exact own (congrArg CounterKey.userId (of_decide_eq_true same))
      rw [foreign, none, GroupedSum.total_nil, Int.zero_add]
      exact ih

theorem storedLength_committed (recorded : Recorded deviceId day reqs store later)
    (named : ∀ username, store.userOf deviceId username = username) (userId : UserId) :
    later.storedLength ⟨userId, deviceId, day⟩ ≤ store.storedLength ⟨userId, deviceId, day⟩ +
      store.unsentLength deviceId ((requestsOf userId reqs).flatMap SyncUserRequest.activeSpans) := by
  have unclaimed : (KeyedLog.unclaimed ActivityInterval.windowKey store.activityIntervals
      (store.reportedRows deviceId day reqs)).Sublist _ := KeyedLog.unclaimed_sublist _ _
  have inserted := GroupedSum.total_sublist rowLength_nonneg (unclaimed.filter fun row =>
    (⟨row.userId, row.deviceId, row.day⟩ : CounterKey) = ⟨userId, deviceId, day⟩)
  have brought := @reported_length deviceId day store named userId reqs
  unfold HubStore.storedLength
  rw [recorded.intervals, KeyedLog.insertAll_eq, List.filter_append, GroupedSum.total_append]
  apply Int.add_le_add_left
  refine inserted.trans (le_of_eq_of_le ?_ brought)
  -- The two filters differ in how they decide membership.
  congr 3
  funext row
  exact decide_eq_decide.mpr Iff.rfl

theorem unsentLength_committed (recorded : Recorded deviceId day reqs store later) (userId : UserId) :
    later.unsentLength deviceId ((requestsOf userId reqs).flatMap SyncUserRequest.activeSpans) = 0 := by
  have empty : ∀ span ∈ ((requestsOf userId reqs).flatMap SyncUserRequest.activeSpans).filter fun span =>
      (deviceId, span.stop) ∉ later.activityIntervals.map ActivityInterval.windowKey, span.length = 0 := by
    intro span member
    obtain ⟨brought, free⟩ := List.mem_filter.mp member
    obtain ⟨req, listed, inside⟩ := List.mem_flatMap.mp brought
    have asked := (List.mem_filter.mp listed).1
    have narrow : ¬ span.start < span.stop := by
      intro wide
      apply of_decide_eq_true free
      rw [recorded.intervals]
      have reported : (⟨store.userOf deviceId req.username, deviceId, day, span.start, span.stop,
          span.stop⟩ : ActivityInterval) ∈ store.reportedRows deviceId day reqs := by
        refine List.mem_flatMap.mpr ⟨req, asked, List.mem_map.mpr ⟨span, ?_, rfl⟩⟩
        exact List.mem_filter.mpr ⟨inside, decide_eq_true wide⟩
      exact KeyedLog.key_taken store.activityIntervals reported
    exact max_eq_left (Int.sub_nonpos_of_le (not_lt.mp narrow))
  unfold HubStore.unsentLength GroupedSum.total
  apply List.sum_eq_zero
  intro length listed
  obtain ⟨span, member, rfl⟩ := List.mem_map.mp listed
  exact empty span member

end Recorded

end TimekprProof
