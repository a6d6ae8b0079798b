import TimekprHub.Core.Timestamps
import TimekprHub.Hub.SpanLoss

namespace TimekprModel

-- `POST /sync` from the request body, where a timestamp is any string. `Hub.Sync` has the handler on the
-- timestamps read.
namespace Wire

/-- The source's field `end` is `stop` here. -/
structure ActiveSpan where
  start : String
  stop : String
  burnedS : Int

structure SyncUserRequest where
  username : String
  cumulativeSpentS : Int
  activeSpans : List ActiveSpan := []
  observed : SyncObserved
  policyVersionApplied : Int := 0
  policyRevisionApplied : Option String := none
  policyPushError : Option String := none

structure SyncRequest where
  agentTime : String
  agentVersion : String
  users : List SyncUserRequest

def hasNul (text : String) : Bool := text.toList.contains (Char.ofNat 0)

/-- What a `varchar` column keeps of a text: PostgreSQL cuts spaces beyond its length off and refuses
    anything else there, and takes no NUL. -/
def varchar (length : Nat) (text : String) : Except PyException String :=
  if hasNul text then .error .dbapiError
  else if (text.toList.drop length).all (· = ' ') then .ok (String.ofList (text.toList.take length))
  else .error .dbapiError

def bigint (value : Int) : Except PyException Int :=
  if -2 ^ 63 ≤ value ∧ value < 2 ^ 63 then .ok value else .error .dbapiError

/-- No alias is longer than its column, so a longer username has to be provisioned, and one that loses spaces
    there is not found by the SELECT that follows. -/
def localUsername (username : String) : Except PyException String :=
  if hasNul username then .error .dbapiError
  else if username.length ≤ 64 then .ok username
  else .error .dbapiError

def SyncUserRequest.stored (req : SyncUserRequest) : Except PyException SyncUserRequest := do
  let username ← localUsername req.username
  let policyPushError ← req.policyPushError.mapM (varchar 256)
  let cumulativeSpentS ← bigint req.cumulativeSpentS
  return { req with username, policyPushError, cumulativeSpentS }

def SyncUserRequest.withSpans (req : SyncUserRequest) (activeSpans : List TimekprModel.ActiveSpan) :
    TimekprModel.SyncUserRequest :=
  { username := req.username
    cumulativeSpentS := req.cumulativeSpentS
    activeSpans
    observed := req.observed
    policyVersionApplied := req.policyVersionApplied
    policyRevisionApplied := req.policyRevisionApplied
    policyPushError := req.policyPushError }

/-- What the database keeps of a window: the bounds of `tstzrange` and the key's timestamp. -/
structure StoredWindow where
  start : Instant
  stop : Instant
  windowEndTs : Instant

def StoredWindow.row (window : StoredWindow) (userId : UserId) (deviceId : DeviceId) (day : Date) :
    ActivityInterval :=
  { userId, deviceId, day, start := window.start, stop := window.stop, windowEndTs := window.windowEndTs }

/-- How the database takes a window, or what it raises. -/
abbrev Database := Datetime → Datetime → Except PyException StoredWindow

variable (database : Database)

def spanWindow (span : ActiveSpan) : Except PyException (Option StoredWindow) := do
  let start ← fromisoformat span.start
  let stop ← fromisoformat span.stop
  let malformed ← stop.le start
  if malformed then .ok none else (database start stop).map some

def insertWindow (deviceId : DeviceId) (userId : UserId) (day : Date) (store : HubStore) :
    Option StoredWindow → HubStore
  | none => store
  | some window => store.insertActivityInterval (window.row userId deviceId day)

def recordSpans (deviceId : DeviceId) (userId : UserId) (day : Date) (store : HubStore)
    (spans : List ActiveSpan) : Except PyException HubStore :=
  spans.foldlM (fun store span => (spanWindow database span).map (insertWindow deviceId userId day store)) store

variable (digest : PolicyPayload → String) (deviceId : DeviceId) (device : Device) (day : Date)
  (now : Instant)

def recordUser (store : HubStore) (req : SyncUserRequest) :
    Except PyException (HubStore × SyncUserResponse) :=
  let (store, userId, policy) := resolveUser store deviceId req.username
  let store := recordPushError store deviceId userId (req.withSpans []) now
  let store := store.upsertUsageCounter ⟨userId, deviceId, day⟩ req.cumulativeSpentS
    req.observed.activityState
  (recordSpans database deviceId userId day store req.activeSpans).map fun store =>
    (store, userResponse digest store device userId policy day (req.withSpans []))

def syncOneUser (store : HubStore) (req : SyncUserRequest) :
    Except PyException (HubStore × SyncUserResponse) :=
  req.stored >>= recordUser database digest deviceId device day now store

def syncUsers (store : HubStore) : List SyncUserRequest → Except PyException (HubStore × List SyncUserResponse)
  | [] => .ok (store, [])
  | req :: rest => do
    let (store, response) ← syncOneUser database digest deviceId device day now store req
    let (store, responses) ← syncUsers store rest
    return (store, response :: responses)

def recordCheckIn (req : SyncRequest) : Except PyException Device :=
  if req.users.isEmpty then .ok device
  else do
    let agentVersion ← varchar 32 req.agentVersion
    let agentTime ← fromisoformat req.agentTime
    let skew ← agentTime.since now
    return { device with
      lastSeenAt := some now
      lastSyncAt := some now
      agentVersion := some agentVersion
      clockSkewMs := some (roundedMs skew) }

/-- `none` is a 401 or 403. After an exception nothing is committed and the answer is a 500. -/
def sync (settings : Settings) (store : HubStore) (req : SyncRequest) :
    Except PyException (Option (HubStore × SyncResponse)) :=
  match store.devices.get? deviceId with
  | none => .ok none
  | some device =>
    if device.status = .revoked then .ok none
    else do
      let stamp := canonicalStamp now settings.tz
      let checkedIn ← recordCheckIn device now req
      let store := { store with devices := store.devices.set deviceId checkedIn }
      let (store, users) ← syncUsers database digest deviceId device stamp.day now store req.users
      return some (store,
        { hubTime := now
          hubTz := settings.hubTz
          day := stamp.dayStr
          nextPollMs := some settings.defaultNextPollMs
          users })

/-- Its timestamps are well formed and comparable, and it ends after it starts. -/
def ActiveSpan.usable (span : ActiveSpan) : Bool :=
  match fromisoformat span.start, fromisoformat span.stop with
  | .ok start, .ok stop => stop.le start = .ok false
  | _, _ => false

def SyncUserRequest.usableOnly (req : SyncUserRequest) : SyncUserRequest :=
  { req with activeSpans := req.activeSpans.filter ActiveSpan.usable }

def SyncRequest.usableOnly (req : SyncRequest) : SyncRequest :=
  { req with users := req.users.map SyncUserRequest.usableOnly }

def HoldsWindow (store : HubStore) (row : ActivityInterval) : Prop :=
  ∃ day, { row with day } ∈ store.activityIntervals

/-- A request is answered, every usable span of it is recorded, and its other spans change nothing. -/
def DeviceServed (settings : Settings) (store : HubStore) (req : SyncRequest) : Prop :=
  ∃ later response,
    sync database digest deviceId now settings store req = .ok (some (later, response)) ∧
    (∀ user ∈ req.users, ∀ span ∈ user.activeSpans, ∀ start stop,
      fromisoformat span.start = .ok start → fromisoformat span.stop = .ok stop → stop.le start = .ok false →
      ∃ window, database start stop = .ok window ∧
        HoldsWindow later (window.row (store.userOf deviceId user.username) deviceId
          (canonicalStamp now settings.tz).day)) ∧
    sync database digest deviceId now settings store req.usableOnly = .ok (some (later, response))

/-- Both timestamps are read, both are aware or both naive, and the database takes a window that ends
    after it starts. -/
def Readable (span : ActiveSpan) : Prop :=
  ∃ start stop, fromisoformat span.start = .ok start ∧ fromisoformat span.stop = .ok stop ∧
    stop.aware = start.aware ∧ (start.asUtc < stop.asUtc → Fallible.Succeeds (database start stop))

/-- A text with no NUL, and nothing but spaces beyond the length of its column. -/
def FitsColumn (length : Nat) (text : String) : Prop :=
  hasNul text = false ∧ ∀ c ∈ text.toList.drop length, c = ' '

structure SyncUserRequest.FitsColumns (req : SyncUserRequest) : Prop where
  username : hasNul req.username = false ∧ req.username.length ≤ 64
  pushError : ∀ error ∈ req.policyPushError, FitsColumn 256 error
  counter : -2 ^ 63 ≤ req.cumulativeSpentS ∧ req.cumulativeSpentS < 2 ^ 63

structure Recordable (req : SyncUserRequest) : Prop where
  columns : req.FitsColumns
  spans : ∀ span ∈ req.activeSpans, Readable database span

def windowOf (span : ActiveSpan) : Option StoredWindow :=
  match fromisoformat span.start, fromisoformat span.stop with
  | .ok start, .ok stop => if stop.le start = .ok false then (database start stop).toOption else none
  | _, _ => none

def windowRows (deviceId : DeviceId) (userId : UserId) (day : Date) (spans : List ActiveSpan) :
    List ActivityInterval :=
  (spans.filterMap (windowOf database)).map fun window => window.row userId deviceId day

def requestRows (store : HubStore) (deviceId : DeviceId) (day : Date) (reqs : List SyncUserRequest) :
    List ActivityInterval :=
  reqs.flatMap fun req => windowRows database deviceId (store.userOf deviceId req.username) day req.activeSpans

structure NoOtherWindow (store : HubStore) (rows : List ActivityInterval) : Prop where
  stored : ∀ row ∈ rows, row.windowKey ∈ store.activityIntervals.map ActivityInterval.windowKey →
    HoldsWindow store row
  reported : ∀ a ∈ rows, ∀ b ∈ rows, a.windowKey = b.windowKey →
    a.windowKey ∉ store.activityIntervals.map ActivityInterval.windowKey → a = b

def utcDatabase : Database := fun start stop => .ok ⟨start.asUtc, stop.asUtc, stop.asUtc⟩

def ActiveSpan.read (span : ActiveSpan) : Except PyException TimekprModel.ActiveSpan := do
  let start ← fromisoformat span.start
  let stop ← fromisoformat span.stop
  (stop.le start).map fun _ => { start := start.asUtc, stop := stop.asUtc, burnedS := span.burnedS }

def SyncUserRequest.read (req : SyncUserRequest) : Except PyException TimekprModel.SyncUserRequest := do
  let req ← req.stored
  (req.activeSpans.mapM ActiveSpan.read).map req.withSpans

def SyncRequest.read (req : SyncRequest) : Except PyException TimekprModel.SyncRequest := do
  let agentVersion ← varchar 32 req.agentVersion
  let agentTime ← fromisoformat req.agentTime
  let _ ← agentTime.since 0
  let users ← req.users.mapM SyncUserRequest.read
  return { agentTime := agentTime.asUtc, agentVersion, users }

structure WellReported (store : HubStore) (req : SyncRequest) : Prop where
  agentTime : ∃ value, fromisoformat req.agentTime = .ok value ∧ value.aware
  agentVersion : FitsColumn 32 req.agentVersion
  users : ∀ user ∈ req.users, Recordable database user
  windows : NoOtherWindow store (requestRows database store deviceId day req.users)

end Wire

end TimekprModel

namespace TimekprProof

open TimekprModel TimekprModel.Wire
open Fallible (Succeeds)

variable {database : Database}

theorem le_ok {a b : Datetime} {order : Bool} (compared : a.le b = .ok order) :
    a.aware = b.aware ∧ order = decide (a.asUtc ≤ b.asUtc) := by
  unfold Datetime.le at compared
  split at compared
  · rename_i aware
    exact ⟨aware, (Except.ok.inj compared).symm⟩
  · cases compared

theorem since_ok {value : Datetime} {now elapsed : Int} (came : value.since now = .ok elapsed) :
    value.aware = true ∧ elapsed = now - value.asUtc := by
  unfold Datetime.since at came
  split at came
  · rename_i aware
    exact ⟨aware, (Except.ok.inj came).symm⟩
  · cases came

theorem spanWindow_succeeds {span : Wire.ActiveSpan} :
    Succeeds (spanWindow database span) ↔ Readable database span := by
  simp only [spanWindow, Fallible.succeeds_bind]
  constructor
  · rintro ⟨start, begins, stop, ends, malformed, compared, taken⟩
    obtain ⟨aware, order⟩ := le_ok compared
    refine ⟨start, stop, begins, ends, aware, fun forwards => ?_⟩
    rw [order, if_neg (by simpa using forwards)] at taken
    exact Fallible.succeeds_map.mp taken
  · rintro ⟨start, stop, begins, ends, aware, taken⟩
    refine ⟨start, begins, stop, ends, decide (stop.asUtc ≤ start.asUtc), if_pos aware, ?_⟩
    by_cases backwards : stop.asUtc ≤ start.asUtc
    · rw [if_pos (decide_eq_true backwards)]
      exact Fallible.succeeds_ok _
    · rw [if_neg (by simpa using backwards)]
      exact Fallible.succeeds_map.mpr (taken (lt_of_not_ge backwards))

theorem usable_iff {span : Wire.ActiveSpan} : span.usable = true ↔
    ∃ start stop, fromisoformat span.start = .ok start ∧ fromisoformat span.stop = .ok stop ∧
      stop.le start = .ok false := by
  unfold Wire.ActiveSpan.usable
  constructor
  · intro usable
    split at usable
    · rename_i start stop begins ends
      exact ⟨start, stop, begins, ends, of_decide_eq_true usable⟩
    · cases usable
  · rintro ⟨start, stop, begins, ends, forwards⟩
    rw [begins, ends]
    exact decide_eq_true forwards

theorem unusable_of_backwards {span : Wire.ActiveSpan} {start stop : Datetime}
    (begins : fromisoformat span.start = .ok start) (ends : fromisoformat span.stop = .ok stop)
    (backwards : stop.le start = .ok true) : span.usable = false := by
  unfold Wire.ActiveSpan.usable
  rw [begins, ends]
  apply decide_eq_false
  rw [backwards]
  intro same
  cases same

theorem spanWindow_of_usable {span : Wire.ActiveSpan} {start stop : Datetime}
    (begins : fromisoformat span.start = .ok start) (ends : fromisoformat span.stop = .ok stop)
    (forwards : stop.le start = .ok false) :
    spanWindow database span = (database start stop).map some := by
  unfold spanWindow
  rw [begins, ends]
  show (stop.le start >>= _) = _
  rw [forwards]
  rfl

theorem windowOf_of_usable {span : Wire.ActiveSpan} {start stop : Datetime}
    (begins : fromisoformat span.start = .ok start) (ends : fromisoformat span.stop = .ok stop)
    (forwards : stop.le start = .ok false) : windowOf database span = (database start stop).toOption := by
  unfold windowOf
  rw [begins, ends]
  exact if_pos forwards

theorem windowOf_of_unusable {span : Wire.ActiveSpan} (skipped : span.usable = false) :
    windowOf database span = none := by
  unfold Wire.ActiveSpan.usable at skipped
  unfold windowOf
  split at skipped
  · exact if_neg (of_decide_eq_false skipped)
  · rfl

theorem windowOf_of_read {span : Wire.ActiveSpan} {window : Option StoredWindow}
    (came : spanWindow database span = .ok window) : windowOf database span = window := by
  obtain ⟨start, begins, rest⟩ := Fallible.bind_ok came
  obtain ⟨stop, ends, rest⟩ := Fallible.bind_ok rest
  obtain ⟨malformed, compared, rest⟩ := Fallible.bind_ok rest
  cases malformed with
  | true =>
    rw [windowOf_of_unusable (unusable_of_backwards begins ends compared)]
    exact Except.ok.inj rest
  | false =>
    obtain ⟨stored, taken, rfl⟩ := Fallible.map_ok rest
    rw [windowOf_of_usable begins ends compared, taken]
    rfl

theorem filterMap_usable (spans : List Wire.ActiveSpan) :
    (spans.filter Wire.ActiveSpan.usable).filterMap (windowOf database) =
      spans.filterMap (windowOf database) := by
  induction spans with
  | nil => rfl
  | cons span rest ih =>
    cases usable : span.usable with
    | true => rw [List.filter_cons_of_pos usable, List.filterMap_cons, List.filterMap_cons, ih]
    | false =>
      rw [List.filter_cons_of_neg (by simp [usable]), List.filterMap_cons_none (windowOf_of_unusable usable), ih]

theorem windowRows_usable (deviceId : DeviceId) (userId : UserId) (day : Date) (spans : List Wire.ActiveSpan) :
    windowRows database deviceId userId day (spans.filter Wire.ActiveSpan.usable) =
      windowRows database deviceId userId day spans := by
  unfold windowRows
  rw [filterMap_usable]

theorem varchar_succeeds {length : Nat} {text : String} :
    Succeeds (varchar length text) ↔ FitsColumn length text := by
  unfold varchar FitsColumn
  cases nul : hasNul text with
  | true =>
    rw [if_pos rfl]
    exact iff_of_false (Fallible.not_succeeds_error _) fun fits => nomatch fits.1
  | false =>
    rw [if_neg (by simp), and_iff_right rfl]
    split
    · rename_i spaces
      exact iff_of_true (Fallible.succeeds_ok _) (by simpa using spaces)
    · rename_i more
      exact iff_of_false (Fallible.not_succeeds_error _) (by simpa using more)

theorem bigint_ok {value kept : Int} :
    bigint value = .ok kept ↔ (-2 ^ 63 ≤ value ∧ value < 2 ^ 63) ∧ kept = value := by
  unfold bigint
  split
  · rename_i inside
    rw [and_iff_right inside]
    exact ⟨fun same => (Except.ok.inj same).symm, fun same => same ▸ rfl⟩
  · rename_i outside
    exact ⟨fun same => (nomatch same), fun fits => absurd fits.1 outside⟩

theorem localUsername_ok {username kept : String} :
    localUsername username = .ok kept ↔ (hasNul username = false ∧ username.length ≤ 64) ∧ kept = username := by
  unfold localUsername
  cases nul : hasNul username with
  | true =>
    rw [if_pos rfl]
    exact ⟨fun same => (nomatch same), fun fits => nomatch fits.1.1⟩
  | false =>
    rw [if_neg (by simp)]
    split
    · rename_i short
      rw [and_iff_right ⟨rfl, short⟩]
      exact ⟨fun same => (Except.ok.inj same).symm, fun same => same ▸ rfl⟩
    · rename_i long
      exact ⟨fun same => (nomatch same), fun fits => absurd fits.1.2 long⟩

theorem pushError_succeeds {policyPushError : Option String} :
    Succeeds (policyPushError.mapM (varchar 256)) ↔ ∀ error ∈ policyPushError, FitsColumn 256 error := by
  cases policyPushError with
  | none => exact iff_of_true (Fallible.succeeds_pure none) fun _ none => nomatch none
  | some error =>
    simp only [Option.mem_some_iff, forall_eq', ← varchar_succeeds]
    exact Fallible.succeeds_map

theorem stored_succeeds {req : Wire.SyncUserRequest} : Succeeds req.stored ↔ req.FitsColumns := by
  unfold Wire.SyncUserRequest.stored
  simp only [Fallible.succeeds_bind]
  constructor
  · rintro ⟨username, named, error, noted, spent, counted, _⟩
    exact ⟨(localUsername_ok.mp named).1, pushError_succeeds.mp ⟨error, noted⟩, (bigint_ok.mp counted).1⟩
  · intro fits
    obtain ⟨error, noted⟩ := pushError_succeeds.mpr fits.pushError
    exact ⟨_, localUsername_ok.mpr ⟨fits.username, rfl⟩, error, noted, _, bigint_ok.mpr ⟨fits.counter, rfl⟩,
      Fallible.succeeds_pure _⟩

theorem stored_ok {req kept : Wire.SyncUserRequest} (came : req.stored = .ok kept) :
    kept = { req with policyPushError := kept.policyPushError } := by
  obtain ⟨username, named, came⟩ := Fallible.bind_ok came
  obtain ⟨error, _, came⟩ := Fallible.bind_ok came
  obtain ⟨spent, counted, came⟩ := Fallible.bind_ok came
  have whole := Fallible.pure_ok came
  rw [(localUsername_ok.mp named).2, (bigint_ok.mp counted).2] at whole
  rw [← whole]

theorem stored_usableOnly {req kept : Wire.SyncUserRequest} (came : req.stored = .ok kept) :
    req.usableOnly.stored = .ok kept.usableOnly := by
  obtain ⟨username, named, came⟩ := Fallible.bind_ok came
  obtain ⟨error, noted, came⟩ := Fallible.bind_ok came
  obtain ⟨spent, counted, came⟩ := Fallible.bind_ok came
  rw [← Fallible.pure_ok came]
  exact Fallible.bind_of_ok named (Fallible.bind_of_ok noted (Fallible.bind_of_ok counted rfl))

section Recording

variable (deviceId : DeviceId) (userId : UserId) (day : Date)

theorem recordSpans_succeeds (store : HubStore) (spans : List Wire.ActiveSpan) :
    Succeeds (recordSpans database deviceId userId day store spans) ↔
      ∀ span ∈ spans, Readable database span := by
  unfold recordSpans
  rw [Fallible.foldlM_map, Fallible.succeeds_map, Fallible.succeeds_mapM]
  simp only [spanWindow_succeeds]

theorem foldl_insertWindow {spans : List Wire.ActiveSpan} {windows : List (Option StoredWindow)}
    (read : List.Forall₂ (fun span window => spanWindow database span = .ok window) spans windows)
    (store : HubStore) :
    windows.foldl (insertWindow deviceId userId day) store =
      (windowRows database deviceId userId day spans).foldl HubStore.insertActivityInterval store := by
  induction read generalizing store with
  | nil => rfl
  | @cons span window spans windows came _ ih =>
    have found : windowOf database span = window := windowOf_of_read came
    rw [List.foldl_cons, ih]
    unfold windowRows
    cases window with
    | none => rw [List.filterMap_cons_none found]; rfl
    | some window => rw [List.filterMap_cons_some found]; rfl

theorem recordSpans_of_readable {spans : List Wire.ActiveSpan}
    (readable : ∀ span ∈ spans, Readable database span) (store : HubStore) :
    recordSpans database deviceId userId day store spans =
      .ok ((windowRows database deviceId userId day spans).foldl HubStore.insertActivityInterval store) := by
  have each : ∀ span ∈ spans, Succeeds (spanWindow database span) :=
    fun span reported => spanWindow_succeeds.mpr (readable span reported)
  obtain ⟨windows, read⟩ := Fallible.succeeds_mapM.mpr each
  unfold recordSpans
  rw [Fallible.foldlM_map, read]
  show Except.ok (windows.foldl (insertWindow deviceId userId day) store) = _
  rw [foldl_insertWindow deviceId userId day (Fallible.mapM_ok read)]

end Recording

section Users

variable (digest : PolicyPayload → String) (deviceId : DeviceId) (device : Device) (day : Date)
  (now : Instant)

theorem recordUser_succeeds (store : HubStore) (req : Wire.SyncUserRequest) :
    Succeeds (Wire.recordUser database digest deviceId device day now store req) ↔
      ∀ span ∈ req.activeSpans, Readable database span := by
  unfold Wire.recordUser
  rw [Fallible.succeeds_map, recordSpans_succeeds]

theorem syncOneUser_succeeds (store : HubStore) (req : Wire.SyncUserRequest) :
    Succeeds (Wire.syncOneUser database digest deviceId device day now store req) ↔
      Recordable database req := by
  unfold Wire.syncOneUser
  rw [Fallible.succeeds_bind]
  constructor
  · rintro ⟨kept, came, recorded⟩
    have spans := (recordUser_succeeds digest deviceId device day now store kept).mp recorded
    rw [stored_ok came] at spans
    exact ⟨stored_succeeds.mp ⟨kept, came⟩, spans⟩
  · intro recordable
    obtain ⟨kept, came⟩ := stored_succeeds.mpr recordable.columns
    refine ⟨kept, came, (recordUser_succeeds digest deviceId device day now store kept).mpr ?_⟩
    rw [stored_ok came]
    exact recordable.spans

theorem syncUsers_succeeds (store : HubStore) (reqs : List Wire.SyncUserRequest) :
    Succeeds (Wire.syncUsers database digest deviceId device day now store reqs) ↔
      ∀ req ∈ reqs, Recordable database req := by
  induction reqs generalizing store with
  | nil => exact iff_of_true (Fallible.succeeds_ok _) (fun _ listed => nomatch listed)
  | cons req rest ih =>
    rw [Wire.syncUsers, Fallible.succeeds_bind, List.forall_mem_cons,
      ← syncOneUser_succeeds digest deviceId device day now store req]
    constructor
    · rintro ⟨⟨later, response⟩, came, others⟩
      obtain ⟨answered, others, _⟩ := Fallible.succeeds_bind.mp others
      exact ⟨⟨_, came⟩, (ih later).mp ⟨answered, others⟩⟩
    · rintro ⟨⟨⟨later, response⟩, came⟩, readable⟩
      obtain ⟨answered, others⟩ := (ih later).mpr readable
      exact ⟨_, came, Fallible.succeeds_bind.mpr ⟨answered, others, Fallible.succeeds_pure _⟩⟩

theorem recordUser_usableOnly {req : Wire.SyncUserRequest}
    (readable : ∀ span ∈ req.activeSpans, Readable database span) (store : HubStore) :
    Wire.recordUser database digest deviceId device day now store req.usableOnly =
      Wire.recordUser database digest deviceId device day now store req := by
  have kept : ∀ span ∈ req.usableOnly.activeSpans, Readable database span :=
    fun span listed => readable span (List.mem_filter.mp listed).1
  unfold Wire.recordUser
  simp only [recordSpans_of_readable _ _ _ readable, recordSpans_of_readable _ _ _ kept]
  simp only [Wire.SyncUserRequest.usableOnly, windowRows_usable]
  rfl

theorem syncOneUser_usableOnly {req : Wire.SyncUserRequest} (recordable : Recordable database req)
    (store : HubStore) :
    Wire.syncOneUser database digest deviceId device day now store req.usableOnly =
      Wire.syncOneUser database digest deviceId device day now store req := by
  obtain ⟨kept, came⟩ := stored_succeeds.mpr recordable.columns
  have readable : ∀ span ∈ kept.activeSpans, Readable database span := by
    rw [stored_ok came]
    exact recordable.spans
  unfold Wire.syncOneUser
  rw [stored_usableOnly came, came]
  exact recordUser_usableOnly digest deviceId device day now readable store

theorem syncUsers_usableOnly {reqs : List Wire.SyncUserRequest}
    (recordable : ∀ req ∈ reqs, Recordable database req) (store : HubStore) :
    Wire.syncUsers database digest deviceId device day now store (reqs.map Wire.SyncUserRequest.usableOnly) =
      Wire.syncUsers database digest deviceId device day now store reqs := by
  induction reqs generalizing store with
  | nil => rfl
  | cons req rest ih =>
    obtain ⟨first, others⟩ := List.forall_mem_cons.mp recordable
    simp only [List.map_cons, Wire.syncUsers, syncOneUser_usableOnly digest deviceId device day now first,
      ih others]

structure WindowsRecorded (database : Database) (deviceId : DeviceId) (day : Date)
    (reqs : List Wire.SyncUserRequest) (store later : HubStore) : Prop where
  userOf : ∀ username, later.userOf deviceId username = store.userOf deviceId username
  intervals : later.activityIntervals = KeyedLog.insertAll ActivityInterval.windowKey
    store.activityIntervals (requestRows database store deviceId day reqs)

theorem recordUser_windows {store later : HubStore} {req : Wire.SyncUserRequest} {response : SyncUserResponse}
    (answered : Wire.recordUser database digest deviceId device day now store req = .ok (later, response)) :
    WindowsRecorded database deviceId day [req] store later := by
  have readable := (recordUser_succeeds digest deviceId device day now store req).mp ⟨_, answered⟩
  obtain ⟨own, resolved⟩ := resolveUser_spec store deviceId req.username day
  have own' : (resolveUser store deviceId req.username).2.1 =
      (resolveUser store deviceId req.username).1.userOf deviceId (req.withSpans []).username :=
    own.trans (resolved.userOf deviceId req.username).symm
  have noted := recorded_append resolved (recordPushError_recorded own' day now)
  unfold Wire.recordUser at answered
  simp only [recordSpans_of_readable _ _ _ readable] at answered
  have same := (Prod.mk.inj (Except.ok.inj answered)).1
  rw [← same, insertActivityIntervals_eq]
  constructor
  · intro username
    exact noted.userOf deviceId username
  · simp only [requestRows, List.flatMap_cons, List.flatMap_nil, List.append_nil, ← own]
    have recorded := congrArg (fun intervals => KeyedLog.insertAll ActivityInterval.windowKey intervals
      (windowRows database deviceId (resolveUser store deviceId req.username).2.1 day req.activeSpans))
      noted.intervals
    exact recorded

theorem syncOneUser_windows {store later : HubStore} {req : Wire.SyncUserRequest} {response : SyncUserResponse}
    (answered : Wire.syncOneUser database digest deviceId device day now store req = .ok (later, response)) :
    WindowsRecorded database deviceId day [req] store later := by
  obtain ⟨kept, came, answered⟩ := Fallible.bind_ok answered
  have windows := recordUser_windows digest deviceId device day now answered
  rw [stored_ok came] at windows
  exact ⟨windows.userOf, windows.intervals⟩

theorem windowsRecorded_append {first rest : List Wire.SyncUserRequest} {store middle last : HubStore}
    (before : WindowsRecorded database deviceId day first store middle)
    (after : WindowsRecorded database deviceId day rest middle last) :
    WindowsRecorded database deviceId day (first ++ rest) store last where
  userOf username := (after.userOf username).trans (before.userOf username)
  intervals := by
    have rows : requestRows database middle deviceId day rest = requestRows database store deviceId day rest := by
      simp only [requestRows, before.userOf]
    rw [after.intervals, before.intervals, rows, ← KeyedLog.insertAll_append]
    simp only [requestRows, List.flatMap_append]

theorem syncUsers_windows {store later : HubStore} {reqs : List Wire.SyncUserRequest}
    {responses : List SyncUserResponse}
    (answered : Wire.syncUsers database digest deviceId device day now store reqs = .ok (later, responses)) :
    WindowsRecorded database deviceId day reqs store later := by
  induction reqs generalizing store later responses with
  | nil =>
    cases answered
    exact ⟨fun _ => rfl, rfl⟩
  | cons req rest ih =>
    obtain ⟨⟨middle, response⟩, first, answered⟩ := Fallible.bind_ok answered
    obtain ⟨⟨last, others⟩, later', answered⟩ := Fallible.bind_ok answered
    cases answered
    exact windowsRecorded_append deviceId day (syncOneUser_windows digest deviceId device day now first)
      (ih later')

end Users

section Request

variable {digest : PolicyPayload → String} {deviceId : DeviceId} {device : Device} {now : Instant}
  {settings : Settings} {store : HubStore} {req : Wire.SyncRequest}

theorem recordCheckIn_succeeds : Succeeds (Wire.recordCheckIn device now req) ↔
    req.users = [] ∨ FitsColumn 32 req.agentVersion ∧
      ∃ value, fromisoformat req.agentTime = .ok value ∧ value.aware := by
  unfold Wire.recordCheckIn
  by_cases empty : req.users = []
  · rw [if_pos (List.isEmpty_iff.mpr empty)]
    exact iff_of_true (Fallible.succeeds_ok device) (.inl empty)
  · rw [if_neg (by rwa [List.isEmpty_iff]), or_iff_right empty]
    simp only [Fallible.succeeds_bind]
    constructor
    · rintro ⟨version, kept, value, read, skew, since, _⟩
      exact ⟨varchar_succeeds.mp ⟨version, kept⟩, value, read, (since_ok since).1⟩
    · rintro ⟨fits, value, read, aware⟩
      obtain ⟨version, kept⟩ := varchar_succeeds.mpr fits
      exact ⟨version, kept, value, read, _, if_pos aware, Fallible.succeeds_pure _⟩

theorem sync_answered (found : store.devices.get? deviceId = some device) (enrolled : device.status ≠ .revoked) :
    (∃ later response, Wire.sync database digest deviceId now settings store req = .ok (some (later, response))) ↔
      Succeeds (Wire.recordCheckIn device now req) ∧ ∀ user ∈ req.users, Recordable database user := by
  simp only [Wire.sync, found, if_neg enrolled]
  constructor
  · rintro ⟨later, response, answered⟩
    obtain ⟨checkedIn, came, answered⟩ := Fallible.bind_ok answered
    obtain ⟨users, recorded, _⟩ := Fallible.bind_ok answered
    exact ⟨⟨checkedIn, came⟩, (syncUsers_succeeds ..).mp ⟨users, recorded⟩⟩
  · rintro ⟨⟨checkedIn, came⟩, recordable⟩
    obtain ⟨⟨later, users⟩, recorded⟩ := (syncUsers_succeeds digest deviceId device
      (canonicalStamp now settings.tz).day now
      { store with devices := store.devices.set deviceId checkedIn } req.users).mpr recordable
    exact ⟨later, _, Fallible.bind_of_ok came (Fallible.bind_of_ok recorded rfl)⟩

/-- However often the agent resends such a span, no request that carries it is answered. -/
theorem unreadable_span_blocks (found : store.devices.get? deviceId = some device)
    (enrolled : device.status ≠ .revoked) {user : Wire.SyncUserRequest} {span : Wire.ActiveSpan}
    (listed : user ∈ req.users) (reported : span ∈ user.activeSpans) (unreadable : ¬ Readable database span) :
    ¬ ∃ later response,
      Wire.sync database digest deviceId now settings store req = .ok (some (later, response)) := by
  intro answered
  obtain ⟨_, recordable⟩ := (sync_answered found enrolled).mp answered
  exact unreadable ((recordable user listed).spans span reported)

theorem sync_windows {later : HubStore} {response : SyncResponse}
    (found : store.devices.get? deviceId = some device) (enrolled : device.status ≠ .revoked)
    (answered : Wire.sync database digest deviceId now settings store req = .ok (some (later, response))) :
    WindowsRecorded database deviceId (canonicalStamp now settings.tz).day req.users store later := by
  simp only [Wire.sync, found, if_neg enrolled] at answered
  obtain ⟨checkedIn, _, answered⟩ := Fallible.bind_ok answered
  obtain ⟨⟨last, users⟩, recorded, answered⟩ := Fallible.bind_ok answered
  cases answered
  have windows := syncUsers_windows digest deviceId device _ now recorded
  exact ⟨windows.userOf, windows.intervals⟩

theorem sync_usableOnly (found : store.devices.get? deviceId = some device)
    (enrolled : device.status ≠ .revoked) (recordable : ∀ user ∈ req.users, Recordable database user) :
    Wire.sync database digest deviceId now settings store req.usableOnly =
      Wire.sync database digest deviceId now settings store req := by
  have sameCheckIn : Wire.recordCheckIn device now req.usableOnly = Wire.recordCheckIn device now req := by
    simp only [Wire.recordCheckIn, Wire.SyncRequest.usableOnly, List.isEmpty_map]
  simp only [Wire.sync, found, if_neg enrolled, sameCheckIn]
  simp only [Wire.SyncRequest.usableOnly, syncUsers_usableOnly _ _ _ _ _ recordable]

end Request

section Collisions

variable {deviceId : DeviceId} {day : Date} {reqs : List Wire.SyncUserRequest} {store later : HubStore}

theorem requestRows_day {row : ActivityInterval}
    (asked : row ∈ requestRows database store deviceId day reqs) : row.day = day := by
  obtain ⟨req, _, asked⟩ := List.mem_flatMap.mp asked
  obtain ⟨window, _, rfl⟩ := List.mem_map.mp asked
  rfl

/-- Every window of the request is stored exactly when no different window has its key. -/
theorem windows_held_iff (recorded : WindowsRecorded database deviceId day reqs store later) :
    (∀ row ∈ requestRows database store deviceId day reqs, HoldsWindow later row) ↔
      NoOtherWindow store (requestRows database store deviceId day reqs) := by
  constructor
  · intro held
    have inserted : ∀ row ∈ requestRows database store deviceId day reqs,
        row.windowKey ∉ store.activityIntervals.map ActivityInterval.windowKey →
        row ∈ KeyedLog.unclaimed ActivityInterval.windowKey store.activityIntervals
          (requestRows database store deviceId day reqs) := by
      intro row asked free
      obtain ⟨other, kept⟩ := held row asked
      rw [recorded.intervals, KeyedLog.mem_insertAll] at kept
      rcases kept with stored | inserted
      · exact absurd (List.mem_map_of_mem (f := ActivityInterval.windowKey) stored) free
      · have onDay : other = day :=
          requestRows_day (List.mem_filter.mp ((KeyedLog.unclaimed_sublist _ _).subset inserted)).1
        have sameDay : other = row.day := onDay.trans (requestRows_day asked).symm
        rw [sameDay] at inserted
        exact inserted
    constructor
    · intro row asked taken
      obtain ⟨other, kept⟩ := held row asked
      rw [recorded.intervals, KeyedLog.mem_insertAll] at kept
      rcases kept with stored | inserted
      · exact ⟨other, stored⟩
      · have fresh := KeyedLog.unclaimed_fresh inserted
        exact absurd taken fresh
    · intro a askedA b askedB same free
      exact KeyedLog.unclaimed_unique (inserted a askedA free) (inserted b askedB (same ▸ free)) same
  · intro alone row asked
    by_cases taken : row.windowKey ∈ store.activityIntervals.map ActivityInterval.windowKey
    · obtain ⟨other, stored⟩ := alone.stored row asked taken
      exact ⟨other, recorded.intervals ▸ KeyedLog.subset_insertAll _ _ stored⟩
    · have offered : row.windowKey ∈ later.activityIntervals.map ActivityInterval.windowKey :=
        recorded.intervals ▸ KeyedLog.key_taken store.activityIntervals asked
      obtain ⟨holder, held, same⟩ := List.mem_map.mp offered
      have kept := held
      rw [recorded.intervals, KeyedLog.mem_insertAll] at kept
      rcases kept with stored | inserted
      · exact absurd (same ▸ List.mem_map_of_mem stored) taken
      · have offered := (List.mem_filter.mp ((KeyedLog.unclaimed_sublist _ _).subset inserted)).1
        have equal := alone.reported row asked holder offered same.symm taken
        rw [← equal] at held
        exact ⟨row.day, held⟩

end Collisions

theorem recorded_iff_rows_held {store later : HubStore} {deviceId : DeviceId} {day : Date}
    {reqs : List Wire.SyncUserRequest}
    (readable : ∀ user ∈ reqs, ∀ span ∈ user.activeSpans, Readable database span) :
    (∀ user ∈ reqs, ∀ span ∈ user.activeSpans, ∀ start stop,
      fromisoformat span.start = .ok start → fromisoformat span.stop = .ok stop → stop.le start = .ok false →
      ∃ window, database start stop = .ok window ∧
        HoldsWindow later (window.row (store.userOf deviceId user.username) deviceId day)) ↔
      ∀ row ∈ requestRows database store deviceId day reqs, HoldsWindow later row := by
  constructor
  · intro recorded row asked
    obtain ⟨user, listed, asked⟩ := List.mem_flatMap.mp asked
    obtain ⟨window, taken, rfl⟩ := List.mem_map.mp asked
    obtain ⟨span, reported, found⟩ := List.mem_filterMap.mp taken
    have usable : span.usable = true := by
      cases usable : span.usable with
      | true => rfl
      | false =>
        rw [windowOf_of_unusable usable] at found
        cases found
    obtain ⟨start, stop, begins, ends, forwards⟩ := usable_iff.mp usable
    obtain ⟨window', stored, held⟩ := recorded user listed span reported start stop begins ends forwards
    have same : window' = window := by
      rw [windowOf_of_usable begins ends forwards, stored] at found
      exact Option.some.inj found
    exact same ▸ held
  · intro held user listed span reported start stop begins ends forwards
    have asks : spanWindow database span = (database start stop).map some :=
      spanWindow_of_usable begins ends forwards
    have read := spanWindow_succeeds.mpr (readable user listed span reported)
    rw [asks] at read
    obtain ⟨window, stored⟩ := Fallible.succeeds_map.mp read
    refine ⟨window, stored, held _ ?_⟩
    have found : windowOf database span = some window := by
      rw [windowOf_of_usable begins ends forwards, stored]
      rfl
    exact List.mem_flatMap.mpr ⟨user, listed,
      List.mem_map_of_mem (List.mem_filterMap.mpr ⟨span, reported, found⟩)⟩

/-- A device is served exactly when its report is well formed throughout. -/
theorem device_served_iff {digest : PolicyPayload → String} {settings : Settings} {store : HubStore}
    {deviceId : DeviceId} {device : Device} {req : Wire.SyncRequest} {now : Instant}
    (found : store.devices.get? deviceId = some device) (enrolled : device.status ≠ .revoked) :
    DeviceServed database digest deviceId now settings store req ↔
      req.users = [] ∨ WellReported database deviceId (canonicalStamp now settings.tz).day store req := by
  constructor
  · rintro ⟨later, response, answered, recorded, _⟩
    obtain ⟨checkedIn, recordable⟩ := (sync_answered found enrolled).mp ⟨later, response, answered⟩
    rcases recordCheckIn_succeeds.mp checkedIn with empty | ⟨version, agentTime⟩
    · exact .inl empty
    · have windows := sync_windows found enrolled answered
      have readable : ∀ user ∈ req.users, ∀ span ∈ user.activeSpans, Readable database span :=
        fun user listed => (recordable user listed).spans
      exact .inr ⟨agentTime, version, recordable,
        (windows_held_iff windows).mp ((recorded_iff_rows_held readable).mp recorded)⟩
  · intro wellReported
    have checkedIn : Succeeds (Wire.recordCheckIn device now req) :=
      recordCheckIn_succeeds.mpr (wellReported.imp_right fun well => ⟨well.agentVersion, well.agentTime⟩)
    have inside : (∀ user ∈ req.users, Recordable database user) ∧
        NoOtherWindow store
          (requestRows database store deviceId (canonicalStamp now settings.tz).day req.users) := by
      rcases wellReported with empty | wellReported
      · rw [empty]
        exact ⟨List.forall_mem_nil _, List.forall_mem_nil _, List.forall_mem_nil _⟩
      · exact ⟨wellReported.users, wellReported.windows⟩
    obtain ⟨recordable, alone⟩ := inside
    have readable : ∀ user ∈ req.users, ∀ span ∈ user.activeSpans, Readable database span :=
      fun user listed => (recordable user listed).spans
    have succeeds : ∃ later response,
        Wire.sync database digest deviceId now settings store req = .ok (some (later, response)) :=
      (sync_answered found enrolled).mpr ⟨checkedIn, recordable⟩
    obtain ⟨later, response, answered⟩ := succeeds
    have windows := sync_windows found enrolled answered
    exact ⟨later, response, answered,
      (recorded_iff_rows_held readable).mpr ((windows_held_iff windows).mpr alone),
      (sync_usableOnly found enrolled recordable).trans answered⟩

section Reading

theorem windowOf_utc {span : Wire.ActiveSpan} {parsed : TimekprModel.ActiveSpan} (read : span.read = .ok parsed) :
    Readable utcDatabase span ∧ windowOf utcDatabase span =
      if parsed.start < parsed.stop then some ⟨parsed.start, parsed.stop, parsed.stop⟩ else none := by
  obtain ⟨start, begins, read⟩ := Fallible.bind_ok read
  obtain ⟨stop, ends, read⟩ := Fallible.bind_ok read
  obtain ⟨malformed, compared, rfl⟩ := Fallible.map_ok read
  obtain ⟨aware, order⟩ := le_ok compared
  refine ⟨⟨start, stop, begins, ends, aware, fun _ => Fallible.succeeds_ok _⟩, ?_⟩
  by_cases forwards : start.asUtc < stop.asUtc
  · have inOrder : stop.le start = .ok false := by
      rw [compared, order, decide_eq_false (not_le_of_gt forwards)]
    rw [if_pos forwards, windowOf_of_usable begins ends inOrder]
    rfl
  · rw [if_neg forwards]
    apply windowOf_of_unusable
    apply unusable_of_backwards begins ends
    rw [compared, order, decide_eq_true (le_of_not_gt forwards)]

theorem windowRows_utc {spans : List Wire.ActiveSpan} {parsed : List TimekprModel.ActiveSpan}
    (read : spans.mapM Wire.ActiveSpan.read = .ok parsed) (deviceId : DeviceId) (userId : UserId) (day : Date) :
    windowRows utcDatabase deviceId userId day spans = spanRows deviceId userId day parsed := by
  unfold windowRows spanRows
  have pairs := Fallible.mapM_ok read
  clear read
  induction pairs with
  | nil => rfl
  | @cons span parsed _ _ first _ ih =>
    have asked := (windowOf_utc first).2
    by_cases forwards : parsed.start < parsed.stop
    · rw [if_pos forwards] at asked
      rw [List.filterMap_cons_some asked, List.filter_cons, if_pos (decide_eq_true forwards), List.map_cons,
        List.map_cons, ih]
      rfl
    · rw [if_neg forwards] at asked
      rw [List.filterMap_cons_none asked, List.filter_cons, if_neg (by simpa using forwards), ih]

theorem readable_of_read {spans : List Wire.ActiveSpan} {parsed : List TimekprModel.ActiveSpan}
    (read : spans.mapM Wire.ActiveSpan.read = .ok parsed) : ∀ span ∈ spans, Readable utcDatabase span := by
  intro span listed
  obtain ⟨value, first⟩ := Fallible.succeeds_mapM.mp ⟨parsed, read⟩ span listed
  exact (windowOf_utc first).1

variable {digest : PolicyPayload → String} {deviceId : DeviceId} {device : Device} {day : Date} {now : Instant}

theorem syncOneUser_read {req : Wire.SyncUserRequest} {parsed : TimekprModel.SyncUserRequest}
    (read : req.read = .ok parsed) (store : HubStore) :
    Wire.syncOneUser utcDatabase digest deviceId device day now store req =
      .ok (TimekprModel.syncOneUser digest deviceId device day now store parsed) := by
  obtain ⟨kept, came, read⟩ := Fallible.bind_ok read
  obtain ⟨spans, spansRead, rfl⟩ := Fallible.map_ok read
  apply Fallible.bind_of_ok came
  unfold Wire.recordUser
  simp only [recordSpans_of_readable _ _ _ (readable_of_read spansRead), windowRows_utc spansRead]
  rfl

theorem syncUsers_read {reqs : List Wire.SyncUserRequest} {parsed : List TimekprModel.SyncUserRequest}
    (read : reqs.mapM Wire.SyncUserRequest.read = .ok parsed) (store : HubStore) :
    Wire.syncUsers utcDatabase digest deviceId device day now store reqs =
      .ok (TimekprModel.syncUsers digest deviceId device day now store parsed) := by
  have pairs := Fallible.mapM_ok read
  clear read
  induction pairs generalizing store with
  | nil => rfl
  | cons first _ ih =>
    rw [Wire.syncUsers, syncOneUser_read first]
    exact Fallible.bind_of_ok rfl (Fallible.bind_of_ok (ih _) rfl)

/-- On a request that can be read the handler does what `Hub.Sync` has it do with the timestamps read. -/
theorem sync_read {req : Wire.SyncRequest} {parsed : TimekprModel.SyncRequest} (read : req.read = .ok parsed)
    (settings : Settings) (store : HubStore) :
    Wire.sync utcDatabase digest deviceId now settings store req =
      .ok (TimekprModel.sync settings digest store deviceId parsed now) := by
  obtain ⟨agentVersion, version, read⟩ := Fallible.bind_ok read
  obtain ⟨agentTime, clock, read⟩ := Fallible.bind_ok read
  obtain ⟨_, since, read⟩ := Fallible.bind_ok read
  obtain ⟨users, usersRead, read⟩ := Fallible.bind_ok read
  have aware := (since_ok since).1
  have whole := Fallible.pure_ok read
  subst whole
  have checkIn : ∀ device, Wire.recordCheckIn device now req = .ok (TimekprModel.recordCheckIn device
      { agentTime := agentTime.asUtc, agentVersion, users } now) := by
    intro device
    have sameLength := (Fallible.mapM_ok usersRead).length_eq
    unfold Wire.recordCheckIn TimekprModel.recordCheckIn
    by_cases empty : req.users = []
    · have none : users = [] := List.eq_nil_of_length_eq_zero (by rw [← sameLength, empty]; rfl)
      rw [if_pos (List.isEmpty_iff.mpr empty), if_pos none]
    · have some : users ≠ [] := by
        intro none
        rw [none] at sameLength
        exact empty (List.eq_nil_of_length_eq_zero sameLength)
      rw [if_neg (by rwa [List.isEmpty_iff]), if_neg some, version, clock]
      exact Fallible.bind_of_ok rfl (Fallible.bind_of_ok rfl (Fallible.bind_of_ok (if_pos aware) rfl))
  unfold Wire.sync TimekprModel.sync
  cases store.devices.get? deviceId with
  | none => rfl
  | some device =>
    by_cases revoked : device.status = .revoked
    · simp only [if_pos revoked]
    · simp only [if_neg revoked]
      exact Fallible.bind_of_ok (checkIn device) (Fallible.bind_of_ok (syncUsers_read usersRead _) rfl)

end Reading

end TimekprProof

namespace TimekprModel

def laptopReport (activeSpans : List Wire.ActiveSpan) : Wire.SyncRequest where
  agentTime := "2027-01-01T12:00:00+00:00"
  agentVersion := "0.1"
  users :=
    [{ username := "ann"
       cumulativeSpentS := 600
       activeSpans
       observed :=
        { balanceS := 3000, spentDayS := 600, limitTodayS := 3600, loggedIn := true, active := true,
          activityState := .draining } }]

def usedSpan : Wire.ActiveSpan := ⟨"2027-01-01T11:50:00+00:00", "2027-01-01T12:00:00+00:00", 600⟩

def emptySpan : Wire.ActiveSpan := ⟨"2027-01-01T12:00:00+00:00", "2027-01-01T12:00:00+00:00", 0⟩

def garbledSpan : Wire.ActiveSpan := ⟨"yesterday", "2027-01-01T12:00:00+00:00", 600⟩

end TimekprModel

namespace TimekprProof

open TimekprModel TimekprModel.Wire

theorem device_served_iff_empty_span :
    DeviceServed utcDatabase tallyDigest "laptop" (noonPlus 1) {} laptopStore
        (laptopReport [usedSpan, emptySpan]) ↔
      (laptopReport [usedSpan, emptySpan]).users = [] ∨
        WellReported utcDatabase "laptop" (canonicalStamp (noonPlus 1) utc).day laptopStore
          (laptopReport [usedSpan, emptySpan]) := by
  have found : laptopStore.devices.get? "laptop" = some {} := by decide
  exact device_served_iff found (by decide)

/-- One garbled timestamp, and the ten minutes beside it are not recorded either. -/
theorem garbled_span_blocks_device :
    ¬ DeviceServed utcDatabase tallyDigest "laptop" (noonPlus 1) {} laptopStore
        (laptopReport [usedSpan, garbledSpan]) := by
  rintro ⟨later, response, answered, _⟩
  have found : laptopStore.devices.get? "laptop" = some {} := by decide
  have garbled : fromisoformat garbledSpan.start = .error .valueError := by decide
  have unreadable : ¬ Readable utcDatabase garbledSpan := by
    rintro ⟨start, _, begins, _⟩
    rw [garbled] at begins
    cases begins
  have reported : garbledSpan ∈ [usedSpan, garbledSpan] := List.mem_cons_of_mem _ (List.mem_singleton_self _)
  exact unreadable_span_blocks found (by decide) (List.mem_singleton_self _) reported unreadable
    ⟨later, response, answered⟩

end TimekprProof
