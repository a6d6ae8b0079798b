import TimekprHub.Hub.Sync
import TimekprHub.Library.HighWater

namespace TimekprModel

namespace HubStore

def userOf (store : HubStore) (deviceId : DeviceId) (username : String) : UserId :=
  match store.aliases.get? (deviceId, username) with
  | none => username
  | some userAlias => userAlias.userId

def spent (store : HubStore) (key : CounterKey) : Option Int :=
  (store.usageCounters.get? key).map UsageCounter.spentSeconds

variable (store : HubStore) (deviceId : DeviceId) (day : Date)

def reportedRows (reqs : List SyncUserRequest) : List ActivityInterval :=
  reqs.flatMap fun req => spanRows deviceId (store.userOf deviceId req.username) day req.activeSpans

def reportsFor (reqs : List SyncUserRequest) (key : CounterKey) : List Int :=
  (reqs.filter fun req => ⟨store.userOf deviceId req.username, deviceId, day⟩ = key).map
    SyncUserRequest.cumulativeSpentS

/-- A request asks for this row, and no stored row and no earlier row of the request has its
    (device, end) key. -/
def ReportedFree (reqs : List SyncUserRequest) (row : ActivityInterval) : Prop :=
  ∃ earlier rest, store.reportedRows deviceId day reqs = earlier ++ row :: rest ∧
    row.windowKey ∉ (store.activityIntervals ++ earlier).map ActivityInterval.windowKey

def ReportedTaken (reqs : List SyncUserRequest) (row : ActivityInterval) : Prop :=
  ∃ earlier rest, store.reportedRows deviceId day reqs = earlier ++ row :: rest ∧
    row.windowKey ∈ (store.activityIntervals ++ earlier).map ActivityInterval.windowKey

end HubStore

structure Recorded (deviceId : DeviceId) (day : Date) (reqs : List SyncUserRequest)
    (store later : HubStore) : Prop where
  userOf : ∀ device username, later.userOf device username = store.userOf device username
  spent : ∀ key, later.spent key =
    HighWater.mergeAll (store.spent key) (store.reportsFor deviceId day reqs key)
  intervals : later.activityIntervals = KeyedLog.insertAll ActivityInterval.windowKey
    store.activityIntervals (store.reportedRows deviceId day reqs)

end TimekprModel

namespace TimekprProof

open TimekprModel

theorem reportedRows_congr {store other : HubStore} {deviceId : DeviceId}
    (same : ∀ username, other.userOf deviceId username = store.userOf deviceId username) (day : Date)
    (reqs : List SyncUserRequest) :
    other.reportedRows deviceId day reqs = store.reportedRows deviceId day reqs := by
  simp only [HubStore.reportedRows, same]

theorem reportsFor_congr {store other : HubStore} {deviceId : DeviceId}
    (same : ∀ username, other.userOf deviceId username = store.userOf deviceId username) (day : Date)
    (reqs : List SyncUserRequest) (key : CounterKey) :
    other.reportsFor deviceId day reqs key = store.reportsFor deviceId day reqs key := by
  simp only [HubStore.reportsFor, same]

theorem mem_spanRows {deviceId : DeviceId} {userId : UserId} {day : Date} {spans : List ActiveSpan}
    {row : ActivityInterval} : row ∈ spanRows deviceId userId day spans ↔
      ∃ span ∈ spans, span.start < span.stop ∧
        row = ⟨userId, deviceId, day, span.start, span.stop, span.stop⟩ := by
  simp only [spanRows, List.mem_map, List.mem_filter, decide_eq_true_eq]
  constructor
  · rintro ⟨span, ⟨reported, proper⟩, rfl⟩
    exact ⟨span, reported, proper, rfl⟩
  · rintro ⟨span, reported, proper, rfl⟩
    exact ⟨span, ⟨reported, proper⟩, rfl⟩

theorem mem_reportedRows {store : HubStore} {deviceId : DeviceId} {day : Date}
    {reqs : List SyncUserRequest} {row : ActivityInterval} :
    row ∈ store.reportedRows deviceId day reqs ↔
      ∃ req ∈ reqs, ∃ span ∈ req.activeSpans, span.start < span.stop ∧
        row = ⟨store.userOf deviceId req.username, deviceId, day, span.start, span.stop, span.stop⟩ := by
  simp only [HubStore.reportedRows, List.mem_flatMap, mem_spanRows]

theorem reported_free_or_taken {store : HubStore} {deviceId : DeviceId} {day : Date}
    {reqs : List SyncUserRequest} {row : ActivityInterval}
    (reported : row ∈ store.reportedRows deviceId day reqs) :
    store.ReportedFree deviceId day reqs row ∨ store.ReportedTaken deviceId day reqs row := by
  obtain ⟨earlier, rest, split⟩ := List.append_of_mem reported
  by_cases taken : row.windowKey ∈ (store.activityIntervals ++ earlier).map ActivityInterval.windowKey
  · exact .inr ⟨earlier, rest, split, taken⟩
  · exact .inl ⟨earlier, rest, split, taken⟩

theorem reportedFree_day {store : HubStore} {deviceId : DeviceId} {day : Date}
    {reqs : List SyncUserRequest} {row : ActivityInterval}
    (free : store.ReportedFree deviceId day reqs row) : row.day = day := by
  obtain ⟨earlier, rest, split, _⟩ := free
  have reported : row ∈ store.reportedRows deviceId day reqs := by
    rw [split]
    exact List.mem_append_right _ (List.mem_cons_self ..)
  obtain ⟨_, _, _, _, _, rfl⟩ := mem_reportedRows.mp reported
  rfl

theorem recorded_rows {deviceId : DeviceId} {day : Date} {reqs : List SyncUserRequest}
    {store later : HubStore} (recorded : Recorded deviceId day reqs store later) (row : ActivityInterval) :
    row ∈ later.activityIntervals ↔
      row ∈ store.activityIntervals ∨ store.ReportedFree deviceId day reqs row := by
  rw [recorded.intervals, KeyedLog.insertAll_eq, List.mem_append, KeyedLog.mem_unclaimed]
  rfl

theorem recorded_nil (deviceId : DeviceId) (day : Date) (store : HubStore) :
    Recorded deviceId day [] store store :=
  ⟨fun _ _ => rfl, fun _ => rfl, rfl⟩

theorem recorded_append {deviceId : DeviceId} {day : Date} {first rest : List SyncUserRequest}
    {store middle last : HubStore} (before : Recorded deviceId day first store middle)
    (after : Recorded deviceId day rest middle last) :
    Recorded deviceId day (first ++ rest) store last where
  userOf device username := (after.userOf device username).trans (before.userOf device username)
  spent key := by
    have reports : store.reportsFor deviceId day (first ++ rest) key =
        store.reportsFor deviceId day first key ++ store.reportsFor deviceId day rest key := by
      simp only [HubStore.reportsFor, List.filter_append, List.map_append]
    rw [after.spent, before.spent, reportsFor_congr (before.userOf deviceId), reports,
      HighWater.mergeAll_append]
  intervals := by
    have rows : store.reportedRows deviceId day (first ++ rest) =
        store.reportedRows deviceId day first ++ store.reportedRows deviceId day rest := by
      simp only [HubStore.reportedRows, List.flatMap_append]
    rw [after.intervals, before.intervals, reportedRows_congr (before.userOf deviceId), rows,
      KeyedLog.insertAll_append]

theorem userOf_set_alias (store : HubStore) (deviceId : DeviceId) (username : String)
    (userAlias : UserAlias) (same : userAlias.userId = store.userOf deviceId username)
    (device : DeviceId) (other : String) :
    { store with aliases := store.aliases.set (deviceId, username) userAlias }.userOf device other =
      store.userOf device other := by
  by_cases here : (device, other) = (deviceId, username)
  · cases here
    simp only [HubStore.userOf, Dict.get?_set_same]
    exact same
  · simp only [HubStore.userOf, Dict.get?_set_other _ _ here]

theorem getOrCreatePolicy_frame (store : HubStore) (userId : UserId) :
    ∃ users, (getOrCreatePolicy store userId).1 = { store with users } := by
  refine ⟨(getOrCreatePolicy store userId).1.users, ?_⟩
  unfold getOrCreatePolicy
  dsimp only
  split
  · rfl
  · rfl

theorem provisionUserAlias_frame (store : HubStore) (deviceId : DeviceId) (localUsername : String) :
    ∃ users, (provisionUserAlias store deviceId localUsername).1 =
      { store with
        users
        aliases := store.aliases.set (deviceId, localUsername) { userId := localUsername } } := by
  unfold provisionUserAlias
  cases store.users.get? localUsername with
  | none =>
    obtain ⟨users, same⟩ := getOrCreatePolicy_frame (store.setUser localUsername {}) localUsername
    exact ⟨users, by simp only [same]; rfl⟩
  | some user =>
    obtain ⟨users, same⟩ := getOrCreatePolicy_frame store localUsername
    exact ⟨users, by simp only [same]⟩

theorem resolveUser_spec (store : HubStore) (deviceId : DeviceId) (username : String) (day : Date) :
    (resolveUser store deviceId username).2.1 = store.userOf deviceId username ∧
      Recorded deviceId day [] store (resolveUser store deviceId username).1 := by
  unfold resolveUser
  cases found : store.aliases.get? (deviceId, username) with
  | none =>
    have own : store.userOf deviceId username = username := by
      rw [HubStore.userOf, found]
    obtain ⟨users, same⟩ := provisionUserAlias_frame store deviceId username
    refine ⟨own.symm, ?_, fun _ => ?_, ?_⟩
    · intro device other
      simp only [same]
      exact userOf_set_alias store deviceId username { userId := username } own.symm device other
    · simp only [same]
      rfl
    · simp only [same]
      rfl
  | some userAlias =>
    have own : store.userOf deviceId username = userAlias.userId := by
      rw [HubStore.userOf, found]
    obtain ⟨users, same⟩ := getOrCreatePolicy_frame store userAlias.userId
    refine ⟨own.symm, ?_, fun _ => ?_, ?_⟩
    all_goals
      simp only [same]
      first | rfl | exact fun _ _ => rfl

theorem recordPushError_recorded {store : HubStore} {deviceId : DeviceId} {userId : UserId}
    {req : SyncUserRequest} (own : userId = store.userOf deviceId req.username) (day : Date) (now : Instant) :
    Recorded deviceId day [] store (recordPushError store deviceId userId req now) :=
  ⟨userOf_set_alias store deviceId req.username _ own, fun _ => rfl, rfl⟩

theorem upsertUsageCounter_spent (store : HubStore) (key : CounterKey) (spentSeconds : Int)
    (activityState : ActivityState) (other : CounterKey) :
    (store.upsertUsageCounter key spentSeconds activityState).spent other =
      if key = other then some (HighWater.merge (store.spent key) spentSeconds) else store.spent other := by
  simp only [HubStore.spent, HubStore.upsertUsageCounter, Dict.get?_set]
  by_cases same : key = other
  · rw [if_pos same.symm, if_pos same]
    cases store.usageCounters.get? key <;> rfl
  · rw [if_neg (Ne.symm same), if_neg same]

theorem insertActivityIntervals_eq (store : HubStore) (rows : List ActivityInterval) :
    rows.foldl HubStore.insertActivityInterval store =
      { store with activityIntervals :=
          KeyedLog.insertAll ActivityInterval.windowKey store.activityIntervals rows } := by
  induction rows generalizing store with
  | nil => rfl
  | cons row rest ih =>
    rw [List.foldl_cons, ih]
    rfl

theorem recordUsage_recorded {store : HubStore} {deviceId : DeviceId} {userId : UserId}
    {req : SyncUserRequest} (own : userId = store.userOf deviceId req.username) (day : Date) :
    Recorded deviceId day [req] store (recordUsage store deviceId userId day req) := by
  subst own
  unfold recordUsage
  simp only [insertActivityIntervals_eq]
  refine ⟨fun _ _ => rfl, fun key => ?_, ?_⟩
  · refine (upsertUsageCounter_spent store _ _ req.observed.activityState key).trans ?_
    simp only [HubStore.reportsFor, List.filter_cons, List.filter_nil, decide_eq_true_eq]
    split
    · rename_i same
      rw [same]
      rfl
    · rfl
  · simp only [HubStore.reportedRows, List.flatMap_cons, List.flatMap_nil, List.append_nil]
    rfl

theorem syncOneUser_recorded (digest : PolicyPayload → String) (deviceId : DeviceId) (device : Device)
    (day : Date) (now : Instant) (store : HubStore) (req : SyncUserRequest) :
    Recorded deviceId day [req] store
      (syncOneUser digest deviceId device day now store req).1 := by
  obtain ⟨own, resolved⟩ := resolveUser_spec store deviceId req.username day
  have reported := recordPushError_recorded (own.trans (resolved.userOf _ _).symm) day now
  have noted := recorded_append resolved reported
  exact recorded_append noted (recordUsage_recorded (own.trans (noted.userOf _ _).symm) day)

theorem syncUsers_recorded (digest : PolicyPayload → String) (deviceId : DeviceId) (device : Device)
    (day : Date) (now : Instant) (store : HubStore) (reqs : List SyncUserRequest) :
    Recorded deviceId day reqs store
      (syncUsers digest deviceId device day now store reqs).1 := by
  induction reqs generalizing store with
  | nil => exact recorded_nil deviceId day store
  | cons req rest ih =>
    exact recorded_append (syncOneUser_recorded digest deviceId device day now store req) (ih _)

theorem sync_recorded {settings : Settings} {digest : PolicyPayload → String} {store later : HubStore}
    {deviceId : DeviceId} {req : SyncRequest} {now : Instant} {response : SyncResponse}
    (accepted : sync settings digest store deviceId req now = some (later, response)) :
    Recorded deviceId (canonicalStamp now settings.tz).day req.users store later := by
  unfold sync at accepted
  cases found : store.devices.get? deviceId with
  | none =>
    rw [found] at accepted
    cases accepted
  | some device =>
    simp only [found] at accepted
    split at accepted
    · cases accepted
    · have same := (Prod.mk.inj (Option.some.inj accepted)).1
      rw [← same]
      have recorded := syncUsers_recorded digest deviceId device (canonicalStamp now settings.tz).day now
        { store with devices := store.devices.set deviceId (recordCheckIn device req now) } req.users
      exact ⟨recorded.userOf, recorded.spent, recorded.intervals⟩

end TimekprProof
