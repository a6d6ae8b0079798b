import TimekprHub.Hub.Counters
import TimekprHub.Library.Runs

namespace TimekprModel

/-- What the foreign keys take with a `devices` row: its aliases, its counters and its intervals. -/
def HubStore.deleteDevice (store : HubStore) (deviceId : DeviceId) : HubStore :=
  { store with
    devices := store.devices.erase deviceId
    aliases := store.aliases.filterKeys fun key => key.1 ≠ deviceId
    usageCounters := store.usageCounters.filterKeys fun key => key.deviceId ≠ deviceId
    activityIntervals := store.activityIntervals.filter fun row => row.deviceId ≠ deviceId }

structure SyncArrival where
  deviceId : DeviceId
  req : SyncRequest
  now : Instant

def syncStep (settings : Settings) (digest : PolicyPayload → String) (store : HubStore) (arrival : SyncArrival) :
    HubStore :=
  match sync settings digest store arrival.deviceId arrival.req arrival.now with
  | none => store
  | some (later, _) => later

/-- The policy of a user who has none yet is the one the next sync will create. -/
def User.settled (user : User) : User :=
  { user with currentPolicy := some (user.currentPolicy.getD createInitialPolicy) }

end TimekprModel

namespace TimekprProof

open TimekprModel

/-- Two stores no query and no sync can tell apart. -/
structure Alike (store other : HubStore) : Prop where
  devices : ∀ id, store.devices.get? id = other.devices.get? id
  aliases : ∀ key, store.aliases.get? key = other.aliases.get? key
  usageCounters : ∀ key, store.usageCounters.get? key = other.usageCounters.get? key
  activityIntervals : store.activityIntervals = other.activityIntervals
  users : ∀ userId, (store.user userId).settled = (other.user userId).settled

structure RecordedUser (deviceId : DeviceId) (day : Date) (now : Instant) (req : SyncUserRequest)
    (store later : HubStore) : Prop where
  devices : later.devices = store.devices
  aliases : ∀ key, later.aliases.get? key = if key = (deviceId, req.username) then
      some
        { userId := store.userOf deviceId req.username
          policyPushError := req.policyPushError
          policyPushErrorAt := req.policyPushError.bind fun error => if error = "" then none else some now }
    else store.aliases.get? key
  usageCounters : ∀ key, later.usageCounters.get? key =
    if key = ⟨store.userOf deviceId req.username, deviceId, day⟩ then
      some
        { spentSeconds := ((store.usageCounters.get? key).map fun held =>
            max held.spentSeconds req.cumulativeSpentS).getD req.cumulativeSpentS
          activityState := some req.observed.activityState }
    else store.usageCounters.get? key
  activityIntervals : later.activityIntervals = KeyedLog.insertAll ActivityInterval.windowKey
    store.activityIntervals (spanRows deviceId (store.userOf deviceId req.username) day req.activeSpans)
  users : ∀ userId, (later.user userId).settled = (store.user userId).settled

theorem Alike.refl (store : HubStore) : Alike store store :=
  ⟨fun _ => rfl, fun _ => rfl, fun _ => rfl, rfl, fun _ => rfl⟩

theorem Alike.symm {store other : HubStore} (alike : Alike store other) : Alike other store :=
  ⟨fun id => (alike.devices id).symm, fun key => (alike.aliases key).symm,
    fun key => (alike.usageCounters key).symm, alike.activityIntervals.symm, fun id => (alike.users id).symm⟩

theorem Alike.trans {store middle other : HubStore} (first : Alike store middle) (second : Alike middle other) :
    Alike store other :=
  ⟨fun id => (first.devices id).trans (second.devices id), fun key => (first.aliases key).trans (second.aliases key),
    fun key => (first.usageCounters key).trans (second.usageCounters key),
    first.activityIntervals.trans second.activityIntervals, fun id => (first.users id).trans (second.users id)⟩

section Recording

theorem getOrCreatePolicy_spec (store : HubStore) (userId : UserId) :
    (getOrCreatePolicy store userId).2 = (store.user userId).currentPolicy.getD createInitialPolicy ∧
      ∀ other, ((getOrCreatePolicy store userId).1.user other).settled = (store.user other).settled := by
  unfold getOrCreatePolicy
  dsimp only
  cases current : (store.user userId).currentPolicy with
  | some policy => exact ⟨rfl, fun _ => rfl⟩
  | none =>
    refine ⟨rfl, ?_⟩
    intro other
    by_cases same : other = userId
    · subst same
      simp [HubStore.user, HubStore.setUser, User.settled] at current ⊢
      simp [current]
    · simp only [HubStore.user, HubStore.setUser, Dict.get?_set_other _ _ same]

/-- A user without a row reads as one with the columns' defaults. -/
theorem user_setUser_missing {store : HubStore} {username : String} (missing : store.users.get? username = none)
    (userId : UserId) : (store.setUser username {}).user userId = store.user userId := by
  unfold HubStore.user HubStore.setUser
  rw [Dict.get?_set]
  split
  · rename_i same
    rw [same, missing]
    rfl
  · rfl

theorem provisionUserAlias_effect (store : HubStore) (deviceId : DeviceId) (username : String) :
    (provisionUserAlias store deviceId username).2 =
        (store.user username).currentPolicy.getD createInitialPolicy ∧
      ∀ userId, ((provisionUserAlias store deviceId username).1.user userId).settled =
        (store.user userId).settled := by
  unfold provisionUserAlias
  cases found : store.users.get? username with
  | some user => exact getOrCreatePolicy_spec store username
  | none =>
    obtain ⟨policy, settled⟩ := getOrCreatePolicy_spec (store.setUser username {}) username
    have before := user_setUser_missing found
    simp only [before] at policy settled
    exact ⟨policy, settled⟩

theorem resolveUser_effect (store : HubStore) (deviceId : DeviceId) (username : String) :
    let resolved := resolveUser store deviceId username
    resolved.2.1 = store.userOf deviceId username ∧
      resolved.2.2 = (store.user (store.userOf deviceId username)).currentPolicy.getD createInitialPolicy ∧
      (∀ userId, (resolved.1.user userId).settled = (store.user userId).settled) ∧
      (∀ key, key ≠ (deviceId, username) → resolved.1.aliases.get? key = store.aliases.get? key) ∧
      resolved.1.devices = store.devices ∧ resolved.1.usageCounters = store.usageCounters ∧
      resolved.1.activityIntervals = store.activityIntervals := by
  intro resolved
  cases found : store.aliases.get? (deviceId, username) with
  | some userAlias =>
    have own : store.userOf deviceId username = userAlias.userId := by rw [HubStore.userOf, found]
    obtain ⟨users, framed⟩ := getOrCreatePolicy_frame store userAlias.userId
    have resolved_eq : resolved = ((getOrCreatePolicy store userAlias.userId).1, userAlias.userId,
        (getOrCreatePolicy store userAlias.userId).2) := by
      show resolveUser store deviceId username = _
      unfold resolveUser
      rw [found]
    obtain ⟨policy, settled⟩ := getOrCreatePolicy_spec store userAlias.userId
    rw [resolved_eq, own]
    refine ⟨rfl, policy, settled, ?_⟩
    simp only [framed]
    exact ⟨fun _ _ => trivial, trivial, trivial, trivial⟩
  | none =>
    have own : store.userOf deviceId username = username := by rw [HubStore.userOf, found]
    obtain ⟨users, framed⟩ := provisionUserAlias_frame store deviceId username
    have resolved_eq : resolved = ((provisionUserAlias store deviceId username).1, username,
        (provisionUserAlias store deviceId username).2) := by
      show resolveUser store deviceId username = _
      unfold resolveUser
      rw [found]
    obtain ⟨policy, settled⟩ := provisionUserAlias_effect store deviceId username
    rw [resolved_eq, own]
    refine ⟨rfl, policy, settled, ?_⟩
    simp only [framed]
    refine ⟨?_, trivial, trivial, trivial⟩
    intro key differ
    exact Dict.get?_set_other store.aliases _ differ

theorem syncOneUser_recordedUser (digest : PolicyPayload → String) (deviceId : DeviceId) (device : Device)
    (day : Date) (now : Instant) (store : HubStore) (req : SyncUserRequest) :
    RecordedUser deviceId day now req store (syncOneUser digest deviceId device day now store req).1 := by
  obtain ⟨own, _, settled, aliases, devices, counters, intervals⟩ :=
    resolveUser_effect store deviceId req.username
  unfold syncOneUser
  dsimp only
  generalize resolveUser store deviceId req.username = resolved at own settled aliases devices counters intervals
  obtain ⟨resolved, userId, policy⟩ := resolved
  dsimp only at own settled aliases devices counters intervals ⊢
  subst own
  unfold recordUsage
  rw [insertActivityIntervals_eq]
  refine ⟨devices, ?_, ?_, ?_, settled⟩
  · intro key
    show (resolved.aliases.set _ _).get? key = _
    rw [Dict.get?_set]
    split
    · rfl
    · rename_i differ
      exact aliases key differ
  · intro key
    show (resolved.usageCounters.set _ _).get? key = _
    rw [Dict.get?_set, ← counters]
    split
    · rename_i same
      subst same
      cases held : resolved.usageCounters.get? ⟨store.userOf deviceId req.username, deviceId, day⟩ with
      | none =>
        simp only [recordPushError, held]
        rfl
      | some counter =>
        simp only [recordPushError, held]
        rfl
    · rfl
  · show KeyedLog.insertAll _ resolved.activityIntervals _ = _
    rw [intervals]

end Recording

section Alike

variable {deviceId : DeviceId} {day : Date} {now : Instant} {req : SyncUserRequest}
  {store later other later' : HubStore}

theorem Alike.userOf (alike : Alike store other) (deviceId : DeviceId) (username : String) :
    store.userOf deviceId username = other.userOf deviceId username := by
  unfold HubStore.userOf
  rw [alike.aliases]

theorem Alike.recorded (alike : Alike store other) (recorded : RecordedUser deviceId day now req store later)
    (recorded' : RecordedUser deviceId day now req other later') : Alike later later' where
  devices id := by rw [recorded.devices, recorded'.devices, alike.devices]
  aliases key := by rw [recorded.aliases, recorded'.aliases, alike.aliases, alike.userOf]
  usageCounters key := by rw [recorded.usageCounters, recorded'.usageCounters, alike.usageCounters, alike.userOf]
  activityIntervals := by
    rw [recorded.activityIntervals, recorded'.activityIntervals, alike.activityIntervals, alike.userOf]
  users userId := by rw [recorded.users, recorded'.users, alike.users]

end Alike

section Deletion

variable {gone deviceId : DeviceId} {day : Date} {now : Instant} {req : SyncUserRequest}
  {store later later' : HubStore}

theorem deleteDevice_aliases (store : HubStore) (key : DeviceId × String) :
    (store.deleteDevice gone).aliases.get? key = if key.1 = gone then none else store.aliases.get? key := by
  show (store.aliases.filterKeys _).get? key = _
  rw [Dict.get?_filterKeys]
  by_cases same : key.1 = gone
  · rw [if_neg (by simp [same]), if_pos same]
  · rw [if_pos (by simp [same]), if_neg same]

theorem deleteDevice_usageCounters (store : HubStore) (key : CounterKey) :
    (store.deleteDevice gone).usageCounters.get? key =
      if key.deviceId = gone then none else store.usageCounters.get? key := by
  show (store.usageCounters.filterKeys _).get? key = _
  rw [Dict.get?_filterKeys]
  by_cases same : key.deviceId = gone
  · rw [if_neg (by simp [same]), if_pos same]
  · rw [if_pos (by simp [same]), if_neg same]

theorem deleteDevice_devices (store : HubStore) (id : DeviceId) :
    (store.deleteDevice gone).devices.get? id = if id = gone then none else store.devices.get? id :=
  Dict.get?_erase store.devices gone id

theorem deleteDevice_userOf (store : HubStore) (differ : deviceId ≠ gone) (username : String) :
    (store.deleteDevice gone).userOf deviceId username = store.userOf deviceId username := by
  unfold HubStore.userOf
  rw [deleteDevice_aliases, if_neg differ]

theorem spanRows_device {userId : UserId} {spans : List ActiveSpan} {row : ActivityInterval}
    (listed : row ∈ spanRows deviceId userId day spans) : row.deviceId = deviceId := by
  obtain ⟨span, _, _, rfl⟩ := mem_spanRows.mp listed
  rfl

theorem deleteDevice_intervals (rows new : List ActivityInterval) :
    ((KeyedLog.insertAll ActivityInterval.windowKey rows new).filter fun row => row.deviceId ≠ gone) =
      KeyedLog.insertAll ActivityInterval.windowKey (rows.filter fun row => row.deviceId ≠ gone)
        (new.filter fun row => row.deviceId ≠ gone) := by
  apply KeyedLog.filter_insertAll
  intro a b same
  rw [(Prod.mk.inj same).1]

theorem delete_recorded_other (differ : deviceId ≠ gone) (recorded : RecordedUser deviceId day now req store later)
    (recorded' : RecordedUser deviceId day now req (store.deleteDevice gone) later') :
    Alike (later.deleteDevice gone) later' where
  devices id := by rw [recorded'.devices, deleteDevice_devices, deleteDevice_devices, recorded.devices]
  aliases key := by
    rw [recorded'.aliases, deleteDevice_aliases, deleteDevice_aliases, recorded.aliases,
      deleteDevice_userOf store differ]
    by_cases own : key = (deviceId, req.username)
    · subst own
      rw [if_neg differ, if_pos rfl, if_pos rfl]
    · rw [if_neg own, if_neg own]
  usageCounters key := by
    rw [recorded'.usageCounters, deleteDevice_usageCounters, deleteDevice_usageCounters, recorded.usageCounters,
      deleteDevice_userOf store differ]
    by_cases own : key = ⟨store.userOf deviceId req.username, deviceId, day⟩
    · subst own
      rw [if_neg differ, if_pos rfl, if_neg differ, if_pos rfl]
    · rw [if_neg own, if_neg own]
  activityIntervals := by
    show later.activityIntervals.filter _ = _
    have kept : (spanRows deviceId (store.userOf deviceId req.username) day req.activeSpans).filter
        (fun row => row.deviceId ≠ gone) =
        spanRows deviceId (store.userOf deviceId req.username) day req.activeSpans := by
      rw [List.filter_eq_self]
      intro row listed
      rw [spanRows_device listed]
      simpa using differ
    rw [recorded.activityIntervals, deleteDevice_intervals, kept, recorded'.activityIntervals,
      deleteDevice_userOf store differ]
    rfl
  users userId := (recorded.users userId).trans (recorded'.users userId).symm

theorem delete_recorded_own (recorded : RecordedUser gone day now req store later) :
    Alike (later.deleteDevice gone) (store.deleteDevice gone) where
  devices id := by rw [deleteDevice_devices, deleteDevice_devices, recorded.devices]
  aliases key := by
    rw [deleteDevice_aliases, deleteDevice_aliases, recorded.aliases]
    by_cases own : key.1 = gone
    · rw [if_pos own, if_pos own]
    · rw [if_neg own, if_neg own, if_neg fun same => own (congrArg Prod.fst same)]
  usageCounters key := by
    rw [deleteDevice_usageCounters, deleteDevice_usageCounters, recorded.usageCounters]
    by_cases own : key.deviceId = gone
    · rw [if_pos own, if_pos own]
    · rw [if_neg own, if_neg own, if_neg fun same => own (congrArg CounterKey.deviceId same)]
  activityIntervals := by
    show later.activityIntervals.filter _ = store.activityIntervals.filter _
    have none_kept : (spanRows gone (store.userOf gone req.username) day req.activeSpans).filter
        (fun row => row.deviceId ≠ gone) = [] := by
      rw [List.filter_eq_nil_iff]
      intro row listed
      rw [spanRows_device listed]
      simp
    rw [recorded.activityIntervals, deleteDevice_intervals, none_kept]
    rfl
  users userId := recorded.users userId

end Deletion

section Answers

variable {store other : HubStore}

theorem Alike.spent (alike : Alike store other) (key : CounterKey) : store.spent key = other.spent key := by
  unfold HubStore.spent
  rw [alike.usageCounters]

theorem Alike.daySpans (alike : Alike store other) (userId : UserId) (day : Date) :
    store.daySpans userId day = other.daySpans userId day := by
  unfold HubStore.daySpans
  rw [alike.activityIntervals]

theorem Alike.wallclock (alike : Alike store other) (userId : UserId) (day : Date) :
    store.globalSpentWallclock userId day = other.globalSpentWallclock userId day := by
  have counters := dayCounters_perm alike.spent userId day
  have largest := HighWater.max?_congr fun seconds => counters.mem_iff (a := seconds)
  unfold HubStore.globalSpentWallclock
  rw [alike.daySpans, largest]

theorem Alike.parallel (alike : Alike store other) (userId : UserId) (day : Date) :
    store.globalSpentParallel userId day = other.globalSpentParallel userId day :=
  parallel_eq_of_spent alike.spent userId day

theorem Alike.counterRows (alike : Alike store other) :
    store.usageCounters.entries.Perm other.usageCounters.entries := Dict.entries_perm alike.usageCounters

theorem Alike.wallclockWindow (alike : Alike store other) (userId : UserId) (startDay endDay : Date) :
    store.globalSpentWallclockWindow userId startDay endDay =
      other.globalSpentWallclockWindow userId startDay endDay := by
  have days : (store.daysWithData userId startDay endDay).Perm (other.daysWithData userId startDay endDay) := by
    unfold HubStore.daysWithData
    rw [alike.activityIntervals]
    apply List.Perm.dedup
    apply List.Perm.filter
    apply List.Perm.append_left
    exact (alike.counterRows.filter _).map _
  unfold HubStore.globalSpentWallclockWindow HubStore.globalSpentWallclockHistory
  simp only [List.map_map]
  have totals : ((fun day => (day, store.globalSpentWallclock userId day)) : Date → Date × Int) =
      fun day => (day, other.globalSpentWallclock userId day) := by
    funext day
    rw [alike.wallclock]
  rw [totals]
  exact (days.map _).sum_eq

theorem Alike.parallelWindow (alike : Alike store other) (userId : UserId) (startDay endDay : Date) :
    store.globalSpentParallelWindow userId startDay endDay =
      other.globalSpentParallelWindow userId startDay endDay :=
  ((alike.counterRows.filter _).map _).sum_eq

theorem Alike.reads {β : Type} (alike : Alike store other) (read : User → β)
    (blind : ∀ user, read user.settled = read user) (userId : UserId) :
    read (store.user userId) = read (other.user userId) := by
  rw [← blind, alike.users, blind]

theorem Alike.response (alike : Alike store other) (digest : PolicyPayload → String) (device : Device)
    (userId : UserId) (policy : Policy) (day : Date) (req : SyncUserRequest) :
    userResponse digest store device userId policy day req =
      userResponse digest other device userId policy day req := by
  have mode := alike.reads User.accountingMode (fun _ => rfl) userId
  have limit := alike.reads (effectiveDailyLimit policy · day) (fun _ => rfl) userId
  have hours := alike.reads (User.dayHourOverrides · day) (fun _ => rfl) userId
  have offline := alike.reads User.offlinePolicy (fun _ => rfl) userId
  have grace := alike.reads User.offlineGraceS (fun _ => rfl) userId
  have cap := alike.reads User.offlineCapS (fun _ => rfl) userId
  unfold userResponse
  dsimp only at limit hours ⊢
  rw [mode, limit, hours, offline, grace, cap]
  cases (other.user userId).accountingMode with
  | wallclock => simp only [alike.wallclock, alike.wallclockWindow]
  | parallel => simp only [alike.parallel, alike.parallelWindow]

variable (digest : PolicyPayload → String) (deviceId : DeviceId) (device : Device) (day : Date) (now : Instant)

theorem syncOneUser_response (store : HubStore) (req : SyncUserRequest) :
    (syncOneUser digest deviceId device day now store req).2 =
      userResponse digest (syncOneUser digest deviceId device day now store req).1 device
        (store.userOf deviceId req.username)
        ((store.user (store.userOf deviceId req.username)).currentPolicy.getD createInitialPolicy) day req := by
  obtain ⟨own, policy, _⟩ := resolveUser_effect store deviceId req.username
  unfold syncOneUser
  dsimp only
  rw [own, policy]

theorem Alike.syncOneUser (alike : Alike store other) (req : SyncUserRequest) :
    Alike (syncOneUser digest deviceId device day now store req).1
        (syncOneUser digest deviceId device day now other req).1 ∧
      (syncOneUser digest deviceId device day now store req).2 =
        (syncOneUser digest deviceId device day now other req).2 := by
  have later := alike.recorded (syncOneUser_recordedUser digest deviceId device day now store req)
    (syncOneUser_recordedUser digest deviceId device day now other req)
  refine ⟨later, ?_⟩
  have policy := congrArg (fun user : User => user.currentPolicy.getD createInitialPolicy)
    (alike.users (store.userOf deviceId req.username))
  simp only [User.settled, Option.getD_some] at policy
  rw [syncOneUser_response, syncOneUser_response, later.response, policy, alike.userOf]

theorem Alike.syncUsers (alike : Alike store other) (reqs : List SyncUserRequest) :
    Alike (syncUsers digest deviceId device day now store reqs).1
        (syncUsers digest deviceId device day now other reqs).1 ∧
      (syncUsers digest deviceId device day now store reqs).2 =
        (syncUsers digest deviceId device day now other reqs).2 := by
  induction reqs generalizing store other with
  | nil => exact ⟨alike, rfl⟩
  | cons req rest ih =>
    obtain ⟨one, response⟩ := alike.syncOneUser digest deviceId device day now req
    obtain ⟨all, responses⟩ := ih one
    refine ⟨all, ?_⟩
    simp only [TimekprModel.syncUsers]
    rw [response, responses]

end Answers

section Run

variable (settings : Settings) (digest : PolicyPayload → String) {gone : DeviceId} {store other : HubStore}

theorem delete_syncUsers_other {deviceId : DeviceId} (differ : deviceId ≠ gone) (device : Device) (day : Date)
    (now : Instant) (store : HubStore) (reqs : List SyncUserRequest) :
    Alike ((syncUsers digest deviceId device day now store reqs).1.deleteDevice gone)
      (syncUsers digest deviceId device day now (store.deleteDevice gone) reqs).1 := by
  induction reqs generalizing store with
  | nil => exact Alike.refl _
  | cons req rest ih =>
    have one := delete_recorded_other differ (syncOneUser_recordedUser digest deviceId device day now store req)
      (syncOneUser_recordedUser digest deviceId device day now (store.deleteDevice gone) req)
    exact (ih (syncOneUser digest deviceId device day now store req).1).trans
      (one.syncUsers digest deviceId device day now rest).1

theorem delete_syncUsers_own (device : Device) (day : Date) (now : Instant) (store : HubStore)
    (reqs : List SyncUserRequest) :
    Alike ((syncUsers digest gone device day now store reqs).1.deleteDevice gone) (store.deleteDevice gone) := by
  induction reqs generalizing store with
  | nil => exact Alike.refl _
  | cons req rest ih =>
    have one := delete_recorded_own (syncOneUser_recordedUser digest gone device day now store req)
    exact (ih (syncOneUser digest gone device day now store req).1).trans one

/-- Stores that are alike answer alike, and stay alike. -/
theorem Alike.sync (alike : Alike store other) (arrival : SyncArrival) :
    Alike (syncStep settings digest store arrival) (syncStep settings digest other arrival) ∧
      (sync settings digest store arrival.deviceId arrival.req arrival.now).map Prod.snd =
        (sync settings digest other arrival.deviceId arrival.req arrival.now).map Prod.snd := by
  obtain ⟨deviceId, req, now⟩ := arrival
  unfold syncStep TimekprModel.sync
  dsimp only
  rw [alike.devices]
  cases found : other.devices.get? deviceId with
  | none => exact ⟨alike, rfl⟩
  | some device =>
    dsimp only
    by_cases revoked : device.status = .revoked
    · rw [if_pos revoked, if_pos revoked]
      exact ⟨alike, rfl⟩
    · rw [if_neg revoked, if_neg revoked]
      have seen : Alike { store with devices := store.devices.set deviceId (recordCheckIn device req now) }
          { other with devices := other.devices.set deviceId (recordCheckIn device req now) } := by
        refine ⟨?_, alike.aliases, alike.usageCounters, alike.activityIntervals, alike.users⟩
        intro id
        rw [Dict.get?_set, Dict.get?_set, alike.devices]
      obtain ⟨recorded, responses⟩ := seen.syncUsers digest deviceId device (canonicalStamp now settings.tz).day now
        req.users
      refine ⟨recorded, ?_⟩
      simp only [Option.map_some, responses]

theorem delete_sync_own (store : HubStore) {arrival : SyncArrival} (own : arrival.deviceId = gone) :
    Alike ((syncStep settings digest store arrival).deleteDevice gone) (store.deleteDevice gone) := by
  obtain ⟨deviceId, req, now⟩ := arrival
  cases own
  unfold syncStep sync
  dsimp only
  cases found : store.devices.get? deviceId with
  | none => exact Alike.refl _
  | some device =>
    dsimp only
    by_cases revoked : device.status = .revoked
    · rw [if_pos revoked]
      exact Alike.refl _
    · rw [if_neg revoked]
      refine (delete_syncUsers_own digest device _ now _ req.users).trans ?_
      refine ⟨?_, fun _ => rfl, fun _ => rfl, rfl, fun _ => rfl⟩
      intro id
      rw [deleteDevice_devices, deleteDevice_devices, Dict.get?_set]
      split <;> rfl

theorem delete_sync_other (store : HubStore) {arrival : SyncArrival} (differ : arrival.deviceId ≠ gone) :
    Alike ((syncStep settings digest store arrival).deleteDevice gone)
      (syncStep settings digest (store.deleteDevice gone) arrival) := by
  obtain ⟨deviceId, req, now⟩ := arrival
  have stays : (store.deleteDevice gone).devices.get? deviceId = store.devices.get? deviceId := by
    rw [deleteDevice_devices, if_neg differ]
  unfold syncStep sync
  dsimp only
  rw [stays]
  cases found : store.devices.get? deviceId with
  | none => exact Alike.refl _
  | some device =>
    dsimp only
    by_cases revoked : device.status = .revoked
    · rw [if_pos revoked, if_pos revoked]
      exact Alike.refl _
    · rw [if_neg revoked, if_neg revoked]
      refine (delete_syncUsers_other digest differ device _ now _ req.users).trans ?_
      have seen : Alike
          ({ store with devices := store.devices.set deviceId (recordCheckIn device req now) }.deleteDevice gone)
          { store.deleteDevice gone with
            devices := (store.deleteDevice gone).devices.set deviceId (recordCheckIn device req now) } := by
        refine ⟨?_, fun _ => rfl, fun _ => rfl, rfl, fun _ => rfl⟩
        intro id
        rw [deleteDevice_devices, Dict.get?_set, Dict.get?_set, deleteDevice_devices]
        by_cases own : id = deviceId
        · subst own
          rw [if_neg differ, if_pos rfl, if_pos rfl]
        · rw [if_neg own, if_neg own]
      exact (seen.syncUsers digest deviceId device _ now req.users).1

theorem deleted_refused (store : HubStore) (arrival : SyncArrival)
    (unknown : store.devices.get? arrival.deviceId = none) :
    syncStep settings digest store arrival = store := by
  unfold syncStep sync
  rw [unknown]

/-- Deleting a device after any syncs leaves the hub as if the device had been deleted before them. -/
theorem delete_run (arrivals : List SyncArrival) (alike : Alike (store.deleteDevice gone) other) :
    Alike ((Runs.run (syncStep settings digest) store arrivals).deleteDevice gone)
      (Runs.run (syncStep settings digest) other arrivals) := by
  induction arrivals generalizing store other with
  | nil => exact alike
  | cons arrival rest ih =>
    apply ih
    by_cases own : arrival.deviceId = gone
    · have unknown : other.devices.get? arrival.deviceId = none := by
        rw [← alike.devices, deleteDevice_devices, if_pos own]
      rw [deleted_refused settings digest other arrival unknown]
      exact (delete_sync_own settings digest store own).trans alike
    · exact (delete_sync_other settings digest store own).trans (alike.sync settings digest arrival).1

theorem Alike.run (alike : Alike store other) (arrivals : List SyncArrival) :
    Alike (Runs.run (syncStep settings digest) store arrivals)
      (Runs.run (syncStep settings digest) other arrivals) := by
  induction arrivals generalizing store other with
  | nil => exact alike
  | cons arrival rest ih => exact ih (alike.sync settings digest arrival).1

/-- A deleted device has never reported: every pooled figure, and every answer the others get from then on, is
    what it would be had all of its syncs been refused. -/
theorem deleted_device_never_reported (store : HubStore) (gone : DeviceId) (arrivals more : List SyncArrival) :
    let step := syncStep settings digest
    let after := Runs.run step ((Runs.run step store arrivals).deleteDevice gone) more
    let without := Runs.run step (Runs.run step (store.deleteDevice gone) arrivals) more
    (∀ userId day, after.globalSpentWallclock userId day = without.globalSpentWallclock userId day ∧
        after.globalSpentParallel userId day = without.globalSpentParallel userId day) ∧
      ∀ arrival : SyncArrival, (sync settings digest after arrival.deviceId arrival.req arrival.now).map Prod.snd =
        (sync settings digest without arrival.deviceId arrival.req arrival.now).map Prod.snd := by
  have deleted := delete_run settings digest arrivals (Alike.refl (store.deleteDevice gone))
  have alike := deleted.run settings digest more
  refine ⟨?_, ?_⟩
  · intro userId day
    exact ⟨alike.wallclock userId day, alike.parallel userId day⟩
  · intro arrival
    exact (alike.sync settings digest arrival).2

end Run

end TimekprProof
