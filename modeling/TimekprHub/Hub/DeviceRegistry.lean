import TimekprHub.Agent.HubClient
import TimekprHub.Hub.EnrollTransactions
import TimekprHub.Library.EventLog
import TimekprHub.Library.Runs

namespace TimekprModel

universe u

structure RegisteredDevice extends Device where
  name : String
  machineId : String
  tokenHash : String
  enrolledAt : Instant
  deriving DecidableEq, Repr

namespace RegisteredDevice

def Live (device : RegisteredDevice) : Prop := device.status ≠ .revoked

instance (device : RegisteredDevice) : Decidable device.Live := inferInstanceAs (Decidable (_ ≠ _))

/-- What the UNIQUE on `token_hash` and `uq_devices_machine_id_live` say of two rows. -/
def Apart (one other : RegisteredDevice) : Prop :=
  one.tokenHash ≠ other.tokenHash ∧ (one.Live → other.Live → one.machineId ≠ other.machineId)

instance (one other : RegisteredDevice) : Decidable (one.Apart other) := inferInstanceAs (Decidable (_ ∧ _))

structure Keeps (device changed : RegisteredDevice) : Prop where
  tokenHash : changed.tokenHash = device.tokenHash
  machineId : changed.machineId = device.machineId
  live : changed.Live → device.Live

theorem Apart.symm {one other : RegisteredDevice} (apart : one.Apart other) : other.Apart one :=
  ⟨apart.1.symm, fun live live' => (apart.2 live' live).symm⟩

theorem Apart.of_keeps {one other changed : RegisteredDevice} (apart : one.Apart other)
    (keeps : one.Keeps changed) : changed.Apart other := by
  unfold Apart
  rw [keeps.tokenHash, keeps.machineId]
  exact ⟨apart.1, fun live => apart.2 (keeps.live live)⟩

end RegisteredDevice

structure DeviceTable where
  rows : Dict DeviceId RegisteredDevice := .empty
  apart : ∀ id other one row, rows.get? id = some one → rows.get? other = some row → id ≠ other →
    one.Apart row := by intro _ _ _ _ found; cases found

namespace DeviceTable

def Fits (rows : Dict DeviceId RegisteredDevice) (id : DeviceId) (row : RegisteredDevice) : Prop :=
  ∀ entry ∈ rows.others id, entry.2.Apart row

instance (rows : Dict DeviceId RegisteredDevice) (id : DeviceId) (row : RegisteredDevice) :
    Decidable (Fits rows id row) := inferInstanceAs (Decidable (∀ _ ∈ _, _))

theorem Fits.apart {rows : Dict DeviceId RegisteredDevice} {id other : DeviceId} {row one : RegisteredDevice}
    (fits : Fits rows id row) (found : rows.get? other = some one) (differ : other ≠ id) : one.Apart row := by
  have member := (Dict.get?_eq_some rows other one).mp found
  exact fits (other, one) (List.mem_filter.mpr ⟨member, by simp [differ]⟩)

theorem apart_set (table : DeviceTable) (id : DeviceId) (row : RegisteredDevice)
    (fits : ∀ other one, table.rows.get? other = some one → other ≠ id → one.Apart row)
    (first second : DeviceId) (one other : RegisteredDevice)
    (found : (table.rows.set id row).get? first = some one)
    (found' : (table.rows.set id row).get? second = some other) (differ : first ≠ second) : one.Apart other := by
  rw [Dict.get?_set] at found found'
  split at found <;> split at found'
  · rename_i same same'
    exact absurd (same.trans same'.symm) differ
  · rename_i same differ'
    cases found
    exact (fits second other found' differ').symm
  · rename_i differ' same'
    cases found'
    exact fits first one found differ'
  · exact table.apart first second one other found found' differ

/-- A written row the constraints allow; `none` is an IntegrityError. -/
def write? (table : DeviceTable) (id : DeviceId) (row : RegisteredDevice) : Option DeviceTable :=
  if fits : Fits table.rows id row then
    some ⟨table.rows.set id row, table.apart_set id row fun _ _ => fits.apart⟩
  else none

def insert? (table : DeviceTable) (id : DeviceId) (row : RegisteredDevice) : Option DeviceTable :=
  match table.rows.get? id with
  | some _ => none
  | none => table.write? id row

def amend (table : DeviceTable) (id : DeviceId) (change : RegisteredDevice → RegisteredDevice)
    (keeps : ∀ device : RegisteredDevice, device.Keeps (change device)) : DeviceTable :=
  match found : table.rows.get? id with
  | none => table
  | some device =>
    ⟨table.rows.set id (change device), table.apart_set id (change device) fun other one found' differ =>
      ((table.apart id other device one found found' differ.symm).of_keeps (keeps device)).symm⟩

def erase (table : DeviceTable) (id : DeviceId) : DeviceTable where
  rows := table.rows.erase id
  apart := by
    intro first second one other found found' differ
    rw [Dict.get?_erase] at found found'
    split at found
    · cases found
    split at found'
    · cases found'
    exact table.apart first second one other found found' differ

def liveOf (table : DeviceTable) (machineId : String) : Option (DeviceId × RegisteredDevice) :=
  table.rows.entries.find? fun entry => entry.2.machineId = machineId ∧ entry.2.Live

def getCurrentDevice (hashToken : String → String) (table : DeviceTable) (credentials : Option String) :
    Except (Nat × String) (DeviceId × RegisteredDevice) :=
  match credentials with
  | none => .error (401, "missing device token")
  | some token =>
    match table.rows.entries.find? fun entry => entry.2.tokenHash = hashToken token with
    | none => .error (401, "invalid device token")
    | some (id, device) =>
      if device.status = .revoked then .error (403, "device token revoked") else .ok (id, device)

end DeviceTable

/-- What the hub has said of a device: the row of a machine was bound to a token, by an enroll whose SELECT saw
    so many events, or an admin's request about it was carried out. -/
inductive DeviceEvent
  | issued (id : DeviceId) (machineId : String) (deviceToken : String) (selectedAt : Nat)
  | revoked (id : DeviceId)
  | deleted (id : DeviceId)
  deriving DecidableEq, Repr

/-- The devices, what the SELECT of each enroll that has not written yet has found, and what was said, in all
    and ahead of each SELECT. -/
structure DeviceHub (ι : Type u) where
  table : DeviceTable := {}
  selected : ι → Option (Option (DeviceId × RegisteredDevice)) := fun _ => none
  log : List DeviceEvent := []
  selectedAt : ι → Nat := fun _ => 0

/-- A request of an accepted token is answered, does not have the form of a `SyncRequest`, or raises. -/
inductive SyncHandling
  | answered (body : List UInt8)
  | invalid (body : List UInt8)
  | raised (body : List UInt8)

namespace SyncHandling

def status : SyncHandling → Nat
  | answered _ => 200
  | invalid _ => 422
  | raised _ => 500

def body : SyncHandling → List UInt8
  | answered body | invalid body | raised body => body

def IsAnswered (handling : SyncHandling) : Prop := ∃ body, handling = .answered body

end SyncHandling

inductive DeviceTurn (ι : Type u)
  | select (request : ι)
  | flush (request : ι)
  | revoke (id : DeviceId)
  | setEnforcement (id : DeviceId) (enforcement : EnforcementMode)
  | delete (id : DeviceId)
  | checkIn (id : DeviceId) (req : SyncRequest) (now : Instant)

namespace DeviceHub

variable {ι : Type u} [DecidableEq ι] (hashToken : String → String) (arrivals : ι → EnrollArrival)

def enrolledRow (arrival : EnrollArrival) : RegisteredDevice where
  name := arrival.req.hostname
  machineId := arrival.req.machineId
  tokenHash := hashToken arrival.rawToken
  agentVersion := some arrival.req.agentVersion
  enrolledAt := arrival.now

def reboundRow (arrival : EnrollArrival) (loaded current : RegisteredDevice) : RegisteredDevice :=
  { current with
    tokenHash := changedColumn loaded.tokenHash (hashToken arrival.rawToken) current.tokenHash
    name := changedColumn loaded.name arrival.req.hostname current.name
    agentVersion := changedColumn loaded.agentVersion (some arrival.req.agentVersion) current.agentVersion
    status := changedColumn loaded.status .active current.status }

def bound (hub : DeviceHub ι) (request : ι) (id : DeviceId) (row : RegisteredDevice)
    (written : Option DeviceTable) : DeviceHub ι :=
  match written with
  | none => hub
  | some table =>
    let issued := .issued id row.machineId (arrivals request).rawToken (hub.selectedAt request)
    { hub with table, log := hub.log ++ [issued] }

/-- The write of an enroll and its commit. Where a constraint objects, or the device that was found is gone,
    the request ends in a 500 and leaves nothing. -/
def flush (hub : DeviceHub ι) (request : ι) : DeviceHub ι :=
  let arrival := arrivals request
  let ended := { hub with selected := Function.update hub.selected request none }
  match hub.selected request with
  | none => hub
  | some none =>
    let row := enrolledRow hashToken arrival
    ended.bound arrivals request arrival.deviceId row (hub.table.insert? arrival.deviceId row)
  | some (some (id, loaded)) =>
    match hub.table.rows.get? id with
    | none => ended
    | some current =>
      let row := reboundRow hashToken arrival loaded current
      ended.bound arrivals request id row (hub.table.write? id row)

def revokeDevice (hub : DeviceHub ι) (id : DeviceId) : DeviceHub ι :=
  match hub.table.rows.get? id with
  | none => hub
  | some _ =>
    let revoke (device : RegisteredDevice) : RegisteredDevice := { device with status := .revoked }
    { hub with
      table := hub.table.amend id revoke fun _ => ⟨rfl, rfl, fun live => absurd rfl live⟩
      log := hub.log ++ [.revoked id] }

def deleteDevice (hub : DeviceHub ι) (id : DeviceId) : DeviceHub ι :=
  match hub.table.rows.get? id with
  | none => hub
  | some _ => { hub with table := hub.table.erase id, log := hub.log ++ [.deleted id] }

theorem recordCheckIn_status (device : Device) (req : SyncRequest) (now : Instant) :
    (recordCheckIn device req now).status = device.status := by
  unfold recordCheckIn
  split <;> rfl

/-- One request of an admin or a device, or one of the two statements of an enroll: what others do may come
    between its SELECT and its write. -/
def step (hub : DeviceHub ι) : DeviceTurn ι → DeviceHub ι
  | .select request =>
    let found := hub.table.liveOf (arrivals request).req.machineId
    { hub with
      selected := Function.update hub.selected request (some found)
      selectedAt := Function.update hub.selectedAt request hub.log.length }
  | .flush request => hub.flush hashToken arrivals request
  | .revoke id => hub.revokeDevice id
  | .setEnforcement id enforcement =>
    let toggle (device : RegisteredDevice) : RegisteredDevice := { device with enforcement }
    { hub with table := hub.table.amend id toggle fun _ => ⟨rfl, rfl, fun live => live⟩ }
  | .delete id => hub.deleteDevice id
  | .checkIn id req now =>
    let seen (device : RegisteredDevice) : RegisteredDevice :=
      { device with toDevice := recordCheckIn device.toDevice req now }
    { hub with
      table := hub.table.amend id seen fun device =>
        ⟨rfl, rfl, fun live => by rwa [RegisteredDevice.Live, recordCheckIn_status] at live⟩ }

/-- How `POST /sync` replies to a token: `handle` is what the request comes to behind `get_current_device`,
    and `refusals` the body a refused token is told it with. -/
def syncReply (handle : DeviceId → SyncHandling) (refusals : Nat × String → List UInt8) (hub : DeviceHub ι)
    (token : String) : HttpOutcome :=
  match hub.table.getCurrentDevice hashToken (some token) with
  | .ok (id, _) => .replied (handle id).status (handle id).body
  | .error (status, detail) => .replied status (refusals (status, detail))

/-- `secrets.token_urlsafe` does not draw the token the device had when the enroll found it. -/
def DrawsFresh (hub : DeviceHub ι) : DeviceTurn ι → Prop
  | .flush request => ∀ id loaded, hub.selected request = some (some (id, loaded)) →
    loaded.tokenHash ≠ hashToken (arrivals request).rawToken
  | _ => True

end DeviceHub

def reinstalled (again : Bool) : EnrollArrival where
  req :=
    { enrollmentCode := "REINSTALL"
      hostname := "tower"
      machineId := "m1"
      agentVersion := "1.4"
      localUsers := ["kid"]
      localPolicies := []
      codeLength := by decide
      hostnameLength := by decide
      machineIdLength := by decide
      agentVersionLength := by decide }
  now := 0
  deviceId := if again then "two" else "one"
  tokenUrlsafe := if again then "b" else "a"

def reinstallTurns : List (DeviceTurn Bool) := [.select false, .flush false, .select true, .flush true]

section Log

variable (id : DeviceId)

def DeviceEvent.bindingOf : DeviceEvent → Option (Option (String × String))
  | .issued one machineId deviceToken _ => if one = id then some (some (machineId, deviceToken)) else none
  | .deleted one => if one = id then some none else none
  | .revoked _ => none

def DeviceEvent.revocationOf : DeviceEvent → Option Bool
  | .revoked one => if one = id then some true else none
  | .deleted one => if one = id then some false else none
  | .issued _ _ _ _ => none

def boundTo (log : List DeviceEvent) : Option (String × String) :=
  (EventLog.last (DeviceEvent.bindingOf id) log).join

def isRevoked (log : List DeviceEvent) : Prop := EventLog.last (DeviceEvent.revocationOf id) log = some true

end Log

end TimekprModel

namespace TimekprProof

open TimekprModel

universe u

section Table

variable {table : DeviceTable}

theorem get?_write? {table' : DeviceTable} {id : DeviceId} {row : RegisteredDevice}
    (written : table.write? id row = some table') (other : DeviceId) :
    table'.rows.get? other = if other = id then some row else table.rows.get? other := by
  unfold DeviceTable.write? at written
  split at written
  · cases written
    exact Dict.get?_set table.rows id row other
  · cases written

theorem get?_amend (id : DeviceId) (change : RegisteredDevice → RegisteredDevice)
    (keeps : ∀ device : RegisteredDevice, device.Keeps (change device)) (other : DeviceId) :
    (table.amend id change keeps).rows.get? other =
      if other = id then (table.rows.get? id).map change else table.rows.get? other := by
  unfold DeviceTable.amend
  split
  · rename_i missing
    split
    · rename_i same
      rw [same, missing]
      rfl
    · rfl
  · rename_i device found
    have written := Dict.get?_set table.rows id (change device) other
    simp only [found, Option.map_some]
    exact written

theorem insert?_eq_some {table' : DeviceTable} {id : DeviceId} {row : RegisteredDevice}
    (inserted : table.insert? id row = some table') :
    table.rows.get? id = none ∧ table.write? id row = some table' := by
  unfold DeviceTable.insert? at inserted
  split at inserted
  · cases inserted
  · rename_i missing
    exact ⟨missing, inserted⟩

theorem find_token_iff (tokenHash : String) (id : DeviceId) (device : RegisteredDevice) :
    table.rows.entries.find? (fun entry => entry.2.tokenHash = tokenHash) = some (id, device) ↔
      table.rows.get? id = some device ∧ device.tokenHash = tokenHash := by
  constructor
  · intro found
    have member := List.mem_of_find?_eq_some found
    have named := List.find?_some found
    exact ⟨(Dict.get?_eq_some table.rows id device).mpr member, of_decide_eq_true named⟩
  · intro ⟨held, named⟩
    have member := (Dict.get?_eq_some table.rows id device).mp held
    cases found : table.rows.entries.find? fun entry => entry.2.tokenHash = tokenHash with
    | none =>
      have none_of := List.find?_eq_none.mp found (id, device) member
      exact absurd (decide_eq_true named) none_of
    | some entry =>
      obtain ⟨other, one⟩ := entry
      have held' := (Dict.get?_eq_some table.rows other one).mpr (List.mem_of_find?_eq_some found)
      have chosen := List.find?_some found
      have named' : one.tokenHash = tokenHash := of_decide_eq_true chosen
      by_cases same : other = id
      · subst same
        rw [held] at held'
        cases held'
        rfl
      · have apart := table.apart other id one device held' held same
        exact absurd (named'.trans named.symm) apart.1

end Table

section Told

variable (hashToken : String → String)

def RowTold (log : List DeviceEvent) (id : DeviceId) : Option RegisteredDevice → Prop
  | none => boundTo id log = none ∧ ¬ isRevoked id log
  | some row =>
    (∃ token, boundTo id log = some (row.machineId, token) ∧ row.tokenHash = hashToken token) ∧
      (row.status = .revoked ↔ isRevoked id log)

def Told {ι : Type u} (hub : DeviceHub ι) : Prop := ∀ id, RowTold hashToken hub.log id (hub.table.rows.get? id)

variable {hashToken}

theorem boundTo_concat (id : DeviceId) (log : List DeviceEvent) (event : DeviceEvent) :
    boundTo id (log ++ [event]) = (event.bindingOf id).getD (boundTo id log) := by
  unfold boundTo
  rw [EventLog.last_concat]
  cases event.bindingOf id <;> rfl

theorem isRevoked_concat (id : DeviceId) (log : List DeviceEvent) (event : DeviceEvent) :
    isRevoked id (log ++ [event]) ↔ match event.revocationOf id with
      | some revoked => revoked = true
      | none => isRevoked id log := by
  unfold isRevoked
  rw [EventLog.last_concat]
  cases event.revocationOf id with
  | none => rfl
  | some revoked => simp

/-- An event about one device leaves what was said of the others. -/
theorem rowTold_concat_other {log : List DeviceEvent} {event : DeviceEvent} {id : DeviceId}
    {row : Option RegisteredDevice} (told : RowTold hashToken log id row) (unbound : event.bindingOf id = none)
    (unrevoked : event.revocationOf id = none) : RowTold hashToken (log ++ [event]) id row := by
  have bound : boundTo id (log ++ [event]) = boundTo id log := by rw [boundTo_concat, unbound, Option.getD_none]
  have revoked : isRevoked id (log ++ [event]) ↔ isRevoked id log := by rw [isRevoked_concat, unrevoked]
  unfold RowTold at told ⊢
  cases row with
  | none => rwa [bound, revoked]
  | some row => rwa [bound, revoked]

theorem rowTold_issued {log : List DeviceEvent} {id : DeviceId} {row : RegisteredDevice} {token : String}
    (selectedAt : Nat) (token_hash : row.tokenHash = hashToken token)
    (status : row.status = .revoked ↔ isRevoked id log) :
    RowTold hashToken (log ++ [.issued id row.machineId token selectedAt]) id (some row) := by
  refine ⟨⟨token, ?_, token_hash⟩, ?_⟩
  · rw [boundTo_concat, DeviceEvent.bindingOf, if_pos rfl, Option.getD_some]
  · rw [isRevoked_concat]
    exact status

theorem rowTold_revoked {log : List DeviceEvent} {id : DeviceId} {row : RegisteredDevice}
    (told : RowTold hashToken log id (some row)) :
    RowTold hashToken (log ++ [.revoked id]) id (some { row with status := .revoked }) := by
  obtain ⟨⟨token, bound, token_hash⟩, _⟩ := told
  refine ⟨⟨token, ?_, token_hash⟩, ?_⟩
  · rw [boundTo_concat]
    exact bound
  · rw [isRevoked_concat]
    simp [DeviceEvent.revocationOf]

theorem rowTold_deleted (log : List DeviceEvent) (id : DeviceId) :
    RowTold hashToken (log ++ [.deleted id]) id none := by
  refine ⟨?_, ?_⟩
  · rw [boundTo_concat, DeviceEvent.bindingOf, if_pos rfl, Option.getD_some]
  · rw [isRevoked_concat]
    simp [DeviceEvent.revocationOf]

theorem rowTold_amended {log : List DeviceEvent} {id : DeviceId} {row changed : RegisteredDevice}
    (told : RowTold hashToken log id (some row)) (keeps : row.Keeps changed)
    (status : changed.status = row.status) : RowTold hashToken log id (some changed) := by
  simp only [RowTold, keeps.machineId, keeps.tokenHash, status]
  exact told

variable {ι : Type u} [DecidableEq ι] {arrivals : ι → EnrollArrival} {hub : DeviceHub ι}

omit [DecidableEq ι] in
theorem told_amend {id : DeviceId} {change : RegisteredDevice → RegisteredDevice}
    {keeps : ∀ device : RegisteredDevice, device.Keeps (change device)} (told : Told hashToken hub)
    (status : ∀ device, (change device).status = device.status) :
    Told hashToken { hub with table := hub.table.amend id change keeps } := by
  intro other
  have before := told other
  show RowTold hashToken hub.log other ((hub.table.amend id change keeps).rows.get? other)
  rw [get?_amend]
  split
  · rename_i same
    rw [← same]
    cases found : hub.table.rows.get? other with
    | none => rwa [found] at before
    | some row =>
      rw [found] at before
      exact rowTold_amended before (keeps row) (status row)
  · exact before

structure Found {ι : Type u} (hub : DeviceHub ι) (request : ι) (id : DeviceId) (loaded : RegisteredDevice) :
    Prop where
  live : loaded.Live
  said : hub.selectedAt request ≤ hub.log.length
  unrevoked : ¬ isRevoked id (hub.log.take (hub.selectedAt request))

def FoundLive {ι : Type u} (hub : DeviceHub ι) : Prop :=
  ∀ request id loaded, hub.selected request = some (some (id, loaded)) → Found hub request id loaded

omit [DecidableEq ι] in
theorem Found.later {hub' : DeviceHub ι} {request : ι} {id : DeviceId} {loaded : RegisteredDevice}
    (found : Found hub request id loaded) (selectedAt : hub'.selectedAt request = hub.selectedAt request)
    (log : hub.log <+: hub'.log) : Found hub' request id loaded := by
  obtain ⟨added, log⟩ := log
  refine ⟨found.live, ?_, ?_⟩
  · rw [selectedAt, ← log, List.length_append]
    exact Nat.le_add_right_of_le found.said
  · rw [selectedAt, ← log, List.take_append_of_le_length found.said]
    exact found.unrevoked

theorem reboundRow_status (arrival : EnrollArrival) {loaded current : RegisteredDevice} (live : loaded.Live) :
    (DeviceHub.reboundRow hashToken arrival loaded current).status = current.status := by
  have active : DeviceStatus.active = loaded.status := by
    cases status : loaded.status with
    | active => rfl
    | revoked => exact absurd status live
  exact if_pos active

/-- The write of an enroll is refused, or it is one row bound to the new token. -/
theorem flush_cases {request : ι} (told : Told hashToken hub) (live : FoundLive hub)
    (fresh : hub.DrawsFresh hashToken arrivals (.flush request)) :
    ((hub.flush hashToken arrivals request).table = hub.table ∧
      (hub.flush hashToken arrivals request).log = hub.log) ∨
    ∃ id row table, hub.table.write? id row = some table ∧
      row.tokenHash = hashToken (arrivals request).rawToken ∧ (row.status = .revoked ↔ isRevoked id hub.log) ∧
      (isRevoked id hub.log → ¬ isRevoked id (hub.log.take (hub.selectedAt request))) ∧
      (hub.flush hashToken arrivals request).table = table ∧
      (hub.flush hashToken arrivals request).log =
        hub.log ++ [.issued id row.machineId (arrivals request).rawToken (hub.selectedAt request)] := by
  unfold DeviceHub.flush
  split
  · exact .inl ⟨rfl, rfl⟩
  · dsimp only
    cases inserted : hub.table.insert? (arrivals request).deviceId
        (DeviceHub.enrolledRow hashToken (arrivals request)) with
    | none => exact .inl ⟨rfl, rfl⟩
    | some table =>
      obtain ⟨missing, wrote⟩ := insert?_eq_some inserted
      have before := told (arrivals request).deviceId
      rw [missing] at before
      have status : (DeviceHub.enrolledRow hashToken (arrivals request)).status = .revoked ↔
          isRevoked (arrivals request).deviceId hub.log := by
        constructor
        · intro revoked
          cases revoked
        · intro revoked
          exact absurd revoked before.2
      exact .inr ⟨_, _, table, wrote, rfl, status, fun revoked => absurd revoked before.2, rfl, rfl⟩
  · rename_i id loaded selected
    split
    · exact .inl ⟨rfl, rfl⟩
    · rename_i current found
      dsimp only
      cases written : hub.table.write? id (DeviceHub.reboundRow hashToken (arrivals request) loaded current) with
      | none => exact .inl ⟨rfl, rfl⟩
      | some table =>
        have before := told id
        rw [found] at before
        have status : (DeviceHub.reboundRow hashToken (arrivals request) loaded current).status = current.status :=
          reboundRow_status (arrivals request) (live request id loaded selected).live
        have token_hash : (DeviceHub.reboundRow hashToken (arrivals request) loaded current).tokenHash =
            hashToken (arrivals request).rawToken := if_neg (Ne.symm (fresh id loaded selected))
        have unrevoked := (live request id loaded selected).unrevoked
        exact .inr ⟨id, _, table, written, token_hash, status ▸ before.2, fun _ => unrevoked, rfl, rfl⟩

theorem told_flush {request : ι} (told : Told hashToken hub) (live : FoundLive hub)
    (fresh : hub.DrawsFresh hashToken arrivals (.flush request)) :
    Told hashToken (hub.flush hashToken arrivals request) := by
  intro other
  rcases flush_cases told live fresh with ⟨table_same, log_same⟩ |
    ⟨id, row, table, wrote, token_hash, status, _, table_eq, log_eq⟩
  · rw [table_same, log_same]
    exact told other
  · rw [table_eq, log_eq, get?_write? wrote]
    split
    · rename_i same
      rw [same]
      exact rowTold_issued _ token_hash status
    · rename_i differ
      exact rowTold_concat_other (told other) (if_neg (Ne.symm differ)) rfl

omit [DecidableEq ι] in
theorem told_revoke {id : DeviceId} (told : Told hashToken hub) : Told hashToken (hub.revokeDevice id) := by
  unfold DeviceHub.revokeDevice
  split
  · exact told
  · rename_i row found
    intro other
    simp only [get?_amend]
    split
    · rename_i same
      have before := told id
      rw [found] at before
      rw [same, found]
      exact rowTold_revoked before
    · rename_i differ
      exact rowTold_concat_other (told other) rfl (if_neg (Ne.symm differ))

omit [DecidableEq ι] in
theorem told_delete {id : DeviceId} (told : Told hashToken hub) : Told hashToken (hub.deleteDevice id) := by
  unfold DeviceHub.deleteDevice
  split
  · exact told
  · intro other
    show RowTold hashToken (hub.log ++ [.deleted id]) other ((hub.table.rows.erase id).get? other)
    rw [Dict.get?_erase]
    split
    · rename_i same
      rw [same]
      exact rowTold_deleted hub.log id
    · rename_i differ
      exact rowTold_concat_other (told other) (if_neg (Ne.symm differ)) (if_neg (Ne.symm differ))

theorem told_step {turn : DeviceTurn ι} (told : Told hashToken hub) (live : FoundLive hub)
    (fresh : hub.DrawsFresh hashToken arrivals turn) : Told hashToken (hub.step hashToken arrivals turn) := by
  cases turn with
  | select request => exact told
  | flush request => exact told_flush told live fresh
  | revoke id => exact told_revoke told
  | setEnforcement id enforcement => exact told_amend told fun _ => rfl
  | delete id => exact told_delete told
  | checkIn id req now => exact told_amend told fun device => DeviceHub.recordCheckIn_status device.toDevice req now

theorem liveOf_found {table : DeviceTable} {machineId : String} {id : DeviceId} {device : RegisteredDevice}
    (found : table.liveOf machineId = some (id, device)) :
    table.rows.get? id = some device ∧ device.Live := by
  have chosen := List.find?_some found
  exact ⟨(Dict.get?_eq_some table.rows id device).mpr (List.mem_of_find?_eq_some found), (of_decide_eq_true chosen).2⟩

theorem select_found {request : ι} {id : DeviceId} {loaded : RegisteredDevice} (told : Told hashToken hub)
    (found : hub.table.liveOf (arrivals request).req.machineId = some (id, loaded)) :
    Found (hub.step hashToken arrivals (.select request)) request id loaded := by
  obtain ⟨held, live⟩ := liveOf_found found
  have row_told := told id
  rw [held] at row_told
  have now : (hub.step hashToken arrivals (.select request)).selectedAt request = hub.log.length :=
    Function.update_self ..
  refine ⟨live, ?_, ?_⟩
  · rw [now]
    exact Nat.le_refl _
  · rw [now]
    show ¬ isRevoked id (hub.log.take hub.log.length)
    rw [List.take_length]
    exact fun revoked => live (row_told.2.mpr revoked)

theorem flush_keeps (hashToken : String → String) (arrivals : ι → EnrollArrival) (hub : DeviceHub ι) (request : ι) :
    (hub.flush hashToken arrivals request).selected = Function.update hub.selected request none ∧
      (hub.flush hashToken arrivals request).selectedAt = hub.selectedAt ∧
      hub.log <+: (hub.flush hashToken arrivals request).log := by
  unfold DeviceHub.flush DeviceHub.bound
  split
  · rename_i idle
    refine ⟨?_, rfl, List.prefix_rfl⟩
    rw [← idle, Function.update_eq_self]
  · dsimp only
    split
    · exact ⟨rfl, rfl, List.prefix_rfl⟩
    · exact ⟨rfl, rfl, List.prefix_append ..⟩
  · split
    · exact ⟨rfl, rfl, List.prefix_rfl⟩
    · dsimp only
      split
      · exact ⟨rfl, rfl, List.prefix_rfl⟩
      · exact ⟨rfl, rfl, List.prefix_append ..⟩

theorem live_step {turn : DeviceTurn ι} (told : Told hashToken hub) (live : FoundLive hub) :
    FoundLive (hub.step hashToken arrivals turn) := by
  cases turn with
  | select request =>
    intro other id loaded found
    by_cases own : other = request
    · subst own
      simp only [DeviceHub.step, Function.update_self, Option.some.injEq] at found
      exact select_found told found
    · simp only [DeviceHub.step, Function.update_of_ne own] at found
      exact (live other id loaded found).later (Function.update_of_ne own ..) List.prefix_rfl
  | flush request =>
    intro other id loaded found
    obtain ⟨selected, selectedAt, log⟩ := flush_keeps hashToken arrivals hub request
    simp only [DeviceHub.step, selected] at found
    by_cases own : other = request
    · subst own
      rw [Function.update_self] at found
      cases found
    · rw [Function.update_of_ne own] at found
      exact (live other id loaded found).later (congrFun selectedAt other) log
  | revoke id =>
    intro other one loaded found
    simp only [DeviceHub.step, DeviceHub.revokeDevice] at found ⊢
    split
    · rename_i missing
      simp only [missing] at found
      exact live other one loaded found
    · rename_i row held
      simp only [held] at found
      exact (live other one loaded found).later rfl (List.prefix_append ..)
  | delete id =>
    intro other one loaded found
    simp only [DeviceHub.step, DeviceHub.deleteDevice] at found ⊢
    split
    · rename_i missing
      simp only [missing] at found
      exact live other one loaded found
    · rename_i row held
      simp only [held] at found
      exact (live other one loaded found).later rfl (List.prefix_append ..)
  | setEnforcement id enforcement =>
    intro other one loaded found
    exact (live other one loaded found).later rfl List.prefix_rfl
  | checkIn id req now =>
    intro other one loaded found
    exact (live other one loaded found).later rfl List.prefix_rfl

end Told

section Answers

variable {hashToken : String → String} {ι : Type u} {hub : DeviceHub ι}

def Holds (hashToken : String → String) (log : List DeviceEvent) (token : String) (id : DeviceId) : Prop :=
  ∃ machineId issued, boundTo id log = some (machineId, issued) ∧ hashToken issued = hashToken token

theorem holds_iff (told : Told hashToken hub) (token : String) (id : DeviceId) :
    Holds hashToken hub.log token id ↔
      ∃ row, hub.table.rows.get? id = some row ∧ row.tokenHash = hashToken token := by
  have row_told := told id
  constructor
  · intro ⟨machineId, issued, bound, same⟩
    cases found : hub.table.rows.get? id with
    | none =>
      rw [found] at row_told
      rw [row_told.1] at bound
      cases bound
    | some row =>
      rw [found] at row_told
      obtain ⟨⟨own, bound', token_hash⟩, _⟩ := row_told
      rw [bound] at bound'
      cases bound'
      exact ⟨row, rfl, token_hash.trans same⟩
  · intro ⟨row, found, token_hash⟩
    rw [found] at row_told
    obtain ⟨⟨own, bound, own_hash⟩, _⟩ := row_told
    exact ⟨row.machineId, own, bound, own_hash.symm.trans token_hash⟩

theorem answer_cases (told : Told hashToken hub) (token : String) :
    (∃ id device, Holds hashToken hub.log token id ∧ ¬ isRevoked id hub.log ∧
      hub.table.getCurrentDevice hashToken (some token) = .ok (id, device)) ∨
    (∃ id, Holds hashToken hub.log token id ∧ isRevoked id hub.log ∧
      hub.table.getCurrentDevice hashToken (some token) = .error (403, "device token revoked")) ∨
    (∀ id, ¬ Holds hashToken hub.log token id) ∧
      hub.table.getCurrentDevice hashToken (some token) = .error (401, "invalid device token") := by
  simp only [DeviceTable.getCurrentDevice]
  cases found : hub.table.rows.entries.find? fun entry => entry.2.tokenHash = hashToken token with
  | none =>
    right
    right
    refine ⟨?_, rfl⟩
    intro id holds
    obtain ⟨row, held, named⟩ := (holds_iff told token id).mp holds
    rw [(find_token_iff (hashToken token) id row).mpr ⟨held, named⟩] at found
    cases found
  | some entry =>
    obtain ⟨id, row⟩ := entry
    have located := (find_token_iff (hashToken token) id row).mp found
    have holds := (holds_iff told token id).mpr ⟨row, located⟩
    have row_told := told id
    rw [located.1] at row_told
    by_cases revoked : row.status = .revoked
    · right
      left
      exact ⟨id, holds, row_told.2.mp revoked, if_pos revoked⟩
    · left
      exact ⟨id, row, holds, fun revoked' => revoked (row_told.2.mpr revoked'), if_neg revoked⟩

theorem holder_unique (told : Told hashToken hub) {token : String} {id other : DeviceId}
    (holds : Holds hashToken hub.log token id) (holds' : Holds hashToken hub.log token other) : id = other := by
  obtain ⟨row, found, named⟩ := (holds_iff told token id).mp holds
  obtain ⟨row', found', named'⟩ := (holds_iff told token other).mp holds'
  by_contra differ
  have apart := hub.table.apart id other row row' found found' differ
  exact apart.1 (named.trans named'.symm)

theorem served_iff (told : Told hashToken hub) (token : String) (id : DeviceId) :
    (∃ device, hub.table.getCurrentDevice hashToken (some token) = .ok (id, device)) ↔
      Holds hashToken hub.log token id ∧ ¬ isRevoked id hub.log := by
  rcases answer_cases told token with ⟨one, device, holds, live, answer⟩ | ⟨one, holds, revoked, answer⟩ |
    ⟨nobody, answer⟩
  · rw [answer]
    constructor
    · rintro ⟨_, same⟩
      cases same
      exact ⟨holds, live⟩
    · rintro ⟨holds', _⟩
      rw [holder_unique told holds' holds]
      exact ⟨device, rfl⟩
  · rw [answer]
    refine ⟨by simp, ?_⟩
    rintro ⟨holds', live⟩
    rw [holder_unique told holds' holds] at live
    exact absurd revoked live
  · rw [answer]
    refine ⟨by simp, ?_⟩
    rintro ⟨holds, _⟩
    exact absurd holds (nobody id)

theorem refused_iff (told : Told hashToken hub) (token : String) :
    hub.table.getCurrentDevice hashToken (some token) = .error (403, "device token revoked") ↔
      ∃ id, Holds hashToken hub.log token id ∧ isRevoked id hub.log := by
  rcases answer_cases told token with ⟨one, device, holds, live, answer⟩ | ⟨one, holds, revoked, answer⟩ |
    ⟨nobody, answer⟩
  · rw [answer]
    refine ⟨by simp, ?_⟩
    rintro ⟨other, holds', revoked⟩
    rw [holder_unique told holds' holds] at revoked
    exact absurd revoked live
  · exact ⟨fun _ => ⟨one, holds, revoked⟩, fun _ => answer⟩
  · rw [answer]
    refine ⟨by simp, ?_⟩
    rintro ⟨id, holds, _⟩
    exact absurd holds (nobody id)

theorem unknown_iff (told : Told hashToken hub) (token : String) :
    hub.table.getCurrentDevice hashToken (some token) = .error (401, "invalid device token") ↔
      ∀ id, ¬ Holds hashToken hub.log token id := by
  rcases answer_cases told token with ⟨one, device, holds, _, answer⟩ | ⟨one, holds, _, answer⟩ |
    ⟨nobody, answer⟩
  · rw [answer]
    exact ⟨by simp, fun nobody => absurd holds (nobody one)⟩
  · rw [answer]
    exact ⟨by simp, fun nobody => absurd holds (nobody one)⟩
  · exact ⟨fun _ => nobody, fun _ => answer⟩

end Answers

section OneHistory

variable {hashToken : String → String} {ι : Type u} [DecidableEq ι] {arrivals : ι → EnrollArrival}
  {hub : DeviceHub ι}

/-- A reply that binds a row of some machine: a device of the machine that is not revoked by then is that row,
    unless the row is one that was revoked after its enroll's SELECT. -/
def OneDevice (before : List DeviceEvent) : DeviceEvent → Prop
  | .issued id machineId _ selectedAt => ∀ other token, boundTo other before = some (machineId, token) →
      ¬ isRevoked other before →
        other = id ∨ isRevoked id before ∧ ¬ isRevoked id (before.take selectedAt)
  | _ => True

theorem oneDevice_flush {request : ι} (told : Told hashToken hub) (live : FoundLive hub)
    (fresh : hub.DrawsFresh hashToken arrivals (.flush request)) (each : EventLog.AtEach OneDevice hub.log) :
    EventLog.AtEach OneDevice (hub.flush hashToken arrivals request).log := by
  rcases flush_cases told live fresh with ⟨_, log_same⟩ | ⟨id, row, table, wrote, _, status, since, _, log_eq⟩
  · rwa [log_same]
  · rw [log_eq]
    apply each.concat
    intro other issued bound other_live
    by_contra neither
    rw [not_or] at neither
    have row_told := told other
    cases found : hub.table.rows.get? other with
    | none =>
      rw [found] at row_told
      rw [row_told.1] at bound
      cases bound
    | some standing =>
      rw [found] at row_told
      obtain ⟨⟨own, bound', _⟩, standing_status⟩ := row_told
      rw [bound, Option.some.injEq, Prod.mk.injEq] at bound'
      have placed := get?_write? wrote id
      rw [if_pos rfl] at placed
      have kept := get?_write? wrote other
      rw [if_neg neither.1, found] at kept
      have apart := table.apart other id standing row kept placed neither.1
      exact apart.2 (fun revoked => other_live (standing_status.mp revoked))
        (fun revoked => neither.2 ⟨status.mp revoked, since (status.mp revoked)⟩) bound'.1.symm

theorem oneDevice_step {turn : DeviceTurn ι} (told : Told hashToken hub) (live : FoundLive hub)
    (fresh : hub.DrawsFresh hashToken arrivals turn) (each : EventLog.AtEach OneDevice hub.log) :
    EventLog.AtEach OneDevice (hub.step hashToken arrivals turn).log := by
  cases turn with
  | flush request => exact oneDevice_flush told live fresh each
  | revoke id =>
    simp only [DeviceHub.step, DeviceHub.revokeDevice]
    split
    · exact each
    · exact each.concat trivial
  | delete id =>
    simp only [DeviceHub.step, DeviceHub.deleteDevice]
    split
    · exact each
    · exact each.concat trivial
  | select request => exact each
  | setEnforcement id enforcement => exact each
  | checkIn id req now => exact each

theorem device_run {turns : List (DeviceTurn ι)}
    (fresh : Runs.StepsMeet (DeviceHub.step hashToken arrivals) (DeviceHub.DrawsFresh hashToken arrivals) {} turns) :
    Told hashToken (Runs.run (DeviceHub.step hashToken arrivals) {} turns) ∧
      EventLog.AtEach OneDevice (Runs.run (DeviceHub.step hashToken arrivals) {} turns).log := by
  have empty : Told hashToken ({} : DeviceHub ι) := fun id => ⟨rfl, by simp [isRevoked]⟩
  have idle : FoundLive ({} : DeviceHub ι) := by
    intro request id loaded found
    cases found
  have all := Runs.run_invariant_of_steps
    (fun hub : DeviceHub ι => Told hashToken hub ∧ FoundLive hub ∧ EventLog.AtEach OneDevice hub.log) {} turns
    ⟨empty, idle, EventLog.atEach_nil OneDevice⟩
    (fun hub turn inv fresh => ⟨told_step inv.1 inv.2.1 fresh, live_step inv.1 inv.2.1,
      oneDevice_step inv.1 inv.2.1 fresh inv.2.2⟩) fresh
  exact ⟨all.1, all.2.2⟩

end OneHistory

section Served

variable {hashToken : String → String} {ι : Type u} [DecidableEq ι] {arrivals : ι → EnrollArrival}

/-- A token is served as the device whose last reply has handed it out, for as long as nobody has revoked or
    deleted that device since: whatever else came between. -/
theorem token_answer_follows_log {turns : List (DeviceTurn ι)}
    (fresh : Runs.StepsMeet (DeviceHub.step hashToken arrivals) (DeviceHub.DrawsFresh hashToken arrivals) {} turns)
    (token : String) :
    let hub := Runs.run (DeviceHub.step hashToken arrivals) {} turns
    let answer := hub.table.getCurrentDevice hashToken (some token)
    (∀ id, (∃ device, answer = .ok (id, device)) ↔ Holds hashToken hub.log token id ∧ ¬ isRevoked id hub.log) ∧
      (answer = .error (403, "device token revoked") ↔
        ∃ id, Holds hashToken hub.log token id ∧ isRevoked id hub.log) ∧
      (answer = .error (401, "invalid device token") ↔ ∀ id, ¬ Holds hashToken hub.log token id) := by
  have told := (device_run fresh).1
  exact ⟨served_iff told token, refused_iff told token, unknown_iff told token⟩

theorem reinstall_fresh :
    Runs.StepsMeet (DeviceHub.step id reinstalled) (DeviceHub.DrawsFresh id reinstalled) {} reinstallTurns := by
  refine ⟨trivial, ?_, trivial, ?_, trivial⟩
  · intro id loaded found
    cases found
  · intro id loaded found
    cases found
    decide

/-- The second install rotates the token, and the first one is unknown from then on. -/
theorem token_answer_follows_log_reinstalled :
    let hub := Runs.run (DeviceHub.step id reinstalled) {} reinstallTurns
    (∃ device, hub.table.getCurrentDevice id (some "tkh_b") = .ok ("one", device)) ∧
      hub.table.getCurrentDevice id (some "tkh_a") = .error (401, "invalid device token") := by
  refine ⟨((token_answer_follows_log reinstall_fresh "tkh_b").1 "one").mpr ⟨⟨"m1", "tkh_b", rfl, rfl⟩, ?_⟩, rfl⟩
  intro revoked
  cases revoked

/-- A machine has one history: as long as its device is neither revoked nor deleted, every enroll that gets
    through is bound to that device, or else to one that was revoked after its SELECT had found it. -/
theorem machine_keeps_device {turns : List (DeviceTurn ι)}
    (fresh : Runs.StepsMeet (DeviceHub.step hashToken arrivals) (DeviceHub.DrawsFresh hashToken arrivals) {} turns)
    {before after : List DeviceEvent} {id other : DeviceId} {machineId token token' : String} {selectedAt : Nat}
    (log : (Runs.run (DeviceHub.step hashToken arrivals) {} turns).log =
      before ++ .issued other machineId token' selectedAt :: after)
    (bound : boundTo id before = some (machineId, token)) (live : ¬ isRevoked id before) :
    other = id ∨ isRevoked other before ∧ ¬ isRevoked other (before.take selectedAt) := by
  rcases (device_run fresh).2 before (.issued other machineId token' selectedAt) after log id token bound live
    with same | revoked
  · exact .inl same.symm
  · exact .inr revoked

theorem machine_keeps_device_reinstalled :
    (Runs.run (DeviceHub.step id reinstalled) {} reinstallTurns).log =
        [.issued "one" "m1" "tkh_a" 0] ++ .issued "one" "m1" "tkh_b" 1 :: [] ∧
      ("one" = "one" ∨ isRevoked "one" [.issued "one" "m1" "tkh_a" 0] ∧
        ¬ isRevoked "one" ([.issued "one" "m1" "tkh_a" 0].take 1)) := by
  refine ⟨rfl, machine_keeps_device reinstall_fresh rfl rfl ?_⟩
  intro revoked
  cases revoked

end Served

section Agent

variable {hashToken : String → String} {ι : Type u} {hub : DeviceHub ι} {F : Type}
  {loads : List UInt8 → Except LoadsError (PyJson F)}
  {handle : DeviceId → SyncHandling} {refusals : Nat × String → List UInt8}

def Accepted (hashToken : String → String) (log : List DeviceEvent) (token : String) : Prop :=
  ∃ id, Holds hashToken log token id ∧ ¬ isRevoked id log

def SyncAnswered (hashToken : String → String) (handle : DeviceId → SyncHandling) (log : List DeviceEvent)
    (token : String) : Prop :=
  ∃ id, Holds hashToken log token id ∧ ¬ isRevoked id log ∧ (handle id).IsAnswered

/-- The bodies are JSON, but for the plain text of a 500. -/
structure BodiesRead (loads : List UInt8 → Except LoadsError (PyJson F)) (handle : DeviceId → SyncHandling)
    (refusals : Nat × String → List UInt8) : Prop where
  refusals : ∀ refusal, Fallible.Succeeds (loads (refusals refusal))
  handled : ∀ id, (∀ body, handle id ≠ .raised body) → Fallible.Succeeds (loads (handle id).body)
  raised : ∀ id body, handle id = .raised body → ∀ error, loads body = .error error → error = .jsonDecodeError

theorem posted {body : List UInt8} (reads : Fallible.Succeeds (loads body)) (status : Nat) :
    ∃ data, post loads (.replied status body) = .ok (status, data) := by
  obtain ⟨data, read⟩ := reads
  by_cases empty : body = []
  · refine ⟨.dict [], ?_⟩
    simp [post, empty]
  · refine ⟨data, ?_⟩
    simp [post, empty, read]

theorem handling_posted (read : BodiesRead loads handle refusals) (id : DeviceId) :
    ∃ data, post loads (.replied (handle id).status (handle id).body) = .ok ((handle id).status, data) := by
  cases handling : handle id with
  | raised body =>
    cases parsed : loads body with
    | ok data =>
      exact posted ⟨data, parsed⟩ 500
    | error error =>
      have plain := read.raised id body handling error parsed
      refine ⟨.dict [], ?_⟩
      by_cases empty : body = []
      · simp [post, empty, SyncHandling.status, SyncHandling.body]
      · simp [post, empty, parsed, plain, succeeded, SyncHandling.status, SyncHandling.body]
  | answered body =>
    have reads := read.handled id (by simp [handling])
    rw [handling] at reads
    exact posted reads 200
  | invalid body =>
    have reads := read.handled id (by simp [handling])
    rw [handling] at reads
    exact posted reads 422

theorem judge_handling (handling : SyncHandling) (data : PyJson F) :
    handling.IsAnswered ∧ judge (.ok (handling.status, data)) = .answer data ∨
      ¬ handling.IsAnswered ∧ judge (.ok (handling.status, data)) = .unreachable := by
  cases handling with
  | answered body => exact .inl ⟨⟨body, rfl⟩, rfl⟩
  | invalid body => exact .inr ⟨nofun, rfl⟩
  | raised body => exact .inr ⟨nofun, rfl⟩

theorem handling_rejected (handling : SyncHandling) : rejected handling.status = false := by
  cases handling <;> rfl

theorem accepted_of_answered {log : List DeviceEvent} {token : String}
    (answered : SyncAnswered hashToken handle log token) : Accepted hashToken log token := by
  obtain ⟨id, holds, live, _⟩ := answered
  exact ⟨id, holds, live⟩

def Judged (hashToken : String → String) (handle : DeviceId → SyncHandling) (log : List DeviceEvent)
    (token : String) (ends : SyncEnd F) : Prop :=
  SyncAnswered hashToken handle log token ∧ (∃ data, ends = .answer data) ∨
    (Accepted hashToken log token ∧ ¬ SyncAnswered hashToken handle log token) ∧ ends = .unreachable ∨
    ¬ Accepted hashToken log token ∧ ends = .revoked

theorem reply_judged (told : Told hashToken hub) (read : BodiesRead loads handle refusals) (token : String) :
    ∃ status data, post loads (hub.syncReply hashToken handle refusals token) = .ok (status, data) ∧
      (rejected status = true ↔ ¬ Accepted hashToken hub.log token) ∧
      Judged hashToken handle hub.log token (judge (.ok (status, data)) : SyncEnd F) := by
  unfold DeviceHub.syncReply
  rcases answer_cases told token with ⟨id, device, holds, live, answer⟩ | ⟨id, holds, revoked, answer⟩ |
    ⟨nobody, answer⟩
  · rw [answer]
    obtain ⟨data, posted⟩ := handling_posted read id
    have accepted : Accepted hashToken hub.log token := ⟨id, holds, live⟩
    refine ⟨_, data, posted, iff_of_false (by simp [handling_rejected]) (not_not_intro accepted), ?_⟩
    rcases judge_handling (handle id) data with ⟨answered, ends⟩ | ⟨unanswered, ends⟩
    · exact .inl ⟨⟨id, holds, live, answered⟩, data, ends⟩
    · refine .inr (.inl ⟨⟨accepted, ?_⟩, ends⟩)
      rintro ⟨other, holds', _, answered⟩
      rw [holder_unique told holds' holds] at answered
      exact unanswered answered
  · rw [answer]
    obtain ⟨data, posted⟩ := posted (read.refusals (403, "device token revoked")) 403
    have unaccepted : ¬ Accepted hashToken hub.log token := by
      rintro ⟨other, holds', live⟩
      rw [holder_unique told holds' holds] at live
      exact live revoked
    exact ⟨403, data, posted, iff_of_true rfl unaccepted, .inr (.inr ⟨unaccepted, rfl⟩)⟩
  · rw [answer]
    obtain ⟨data, posted⟩ := posted (read.refusals (401, "invalid device token")) 401
    have unaccepted : ¬ Accepted hashToken hub.log token := by
      rintro ⟨other, holds, _⟩
      exact nobody other holds
    exact ⟨401, data, posted, iff_of_true rfl unaccepted, .inr (.inr ⟨unaccepted, rfl⟩)⟩

theorem sync_judged (told : Told hashToken hub) (read : BodiesRead loads handle refusals)
    {token : String} (inFile : String) (started : token ≠ "") :
    let client : HubClient := { token := some token, tokenFile := some inFile }
    let ends := client.sync loads (hub.syncReply hashToken handle refusals token)
      (hub.syncReply hashToken handle refusals inFile)
    (¬ Accepted hashToken hub.log token ∧ inFile ≠ "" → Judged hashToken handle hub.log inFile ends) ∧
      (¬ (¬ Accepted hashToken hub.log token ∧ inFile ≠ "") → Judged hashToken handle hub.log token ends) := by
  intro client ends
  obtain ⟨status, data, posted, rejects, judged⟩ := reply_judged told read token
  obtain ⟨status', data', posted', _, judged'⟩ := reply_judged told read inFile
  have running : noToken client.token = false := by simpa [noToken, client] using started
  have fresh_iff : client.hasFreshToken = true ↔ inFile ≠ "" ∧ inFile ≠ token := by
    simp [HubClient.hasFreshToken, noToken, client]
  have ends_eq : ends = if rejected status && client.hasFreshToken then judge (.ok (status', data'))
      else judge (.ok (status, data)) := by
    show HubClient.sync loads client _ _ = _
    unfold HubClient.sync
    rw [running, posted, posted']
    rfl
  constructor
  · intro retried
    rw [rejects.mpr retried.1, Bool.true_and] at ends_eq
    by_cases same : inFile = token
    · have stale : ¬ client.hasFreshToken = true := fun reload => (fresh_iff.mp reload).2 same
      rw [ends_eq, if_neg stale, same]
      exact judged
    · rw [ends_eq, if_pos (fresh_iff.mpr ⟨retried.2, same⟩)]
      exact judged'
  · intro kept
    have once : ¬ (rejected status && client.hasFreshToken) = true := by
      intro both
      obtain ⟨refused, reload⟩ := Bool.and_eq_true_iff.mp both
      exact kept ⟨rejects.mp refused, (fresh_iff.mp reload).1⟩
    rw [ends_eq, if_neg once]
    exact judged

variable [DecidableEq ι] {arrivals : ι → EnrollArrival}

/-- A running agent needs no restart: the token it runs with and the one in its token file count for its sync as
    one, the first unless only the second is that of a device not revoked. -/
theorem agent_served_iff {turns : List (DeviceTurn ι)}
    (fresh : Runs.StepsMeet (DeviceHub.step hashToken arrivals) (DeviceHub.DrawsFresh hashToken arrivals) {} turns)
    (read : BodiesRead loads handle refusals) (token inFile : String) (started : token ≠ "") :
    let hub := Runs.run (DeviceHub.step hashToken arrivals) {} turns
    let client : HubClient := { token := some token, tokenFile := some inFile }
    let ends := client.sync loads (hub.syncReply hashToken handle refusals token)
      (hub.syncReply hashToken handle refusals inFile)
    let accepted := Accepted hashToken hub.log token ∨ inFile ≠ "" ∧ Accepted hashToken hub.log inFile
    let answered := SyncAnswered hashToken handle hub.log token ∨
      ¬ Accepted hashToken hub.log token ∧ inFile ≠ "" ∧ SyncAnswered hashToken handle hub.log inFile
    ((∃ data, ends = .answer data) ↔ answered) ∧ (ends = .unreachable ↔ accepted ∧ ¬ answered) ∧
      (ends = .revoked ↔ ¬ accepted) := by
  intro hub client ends accepted answered
  have judged := sync_judged (device_run fresh).1 read inFile started
  have outcome : answered ∧ (∃ data, ends = .answer data) ∨ (accepted ∧ ¬ answered) ∧ ends = .unreachable ∨
      ¬ accepted ∧ ends = .revoked := by
    by_cases retried : ¬ Accepted hashToken hub.log token ∧ inFile ≠ ""
    · rcases judged.1 retried with ⟨second, data, ends⟩ | ⟨⟨second, unserved⟩, ends⟩ | ⟨second, ends⟩
      · exact .inl ⟨.inr ⟨retried.1, retried.2, second⟩, data, ends⟩
      · refine .inr (.inl ⟨⟨.inr ⟨retried.2, second⟩, ?_⟩, ends⟩)
        rintro (first | ⟨_, _, served⟩)
        · exact retried.1 (accepted_of_answered first)
        · exact unserved served
      · refine .inr (.inr ⟨?_, ends⟩)
        rintro (first | ⟨_, served⟩)
        · exact retried.1 first
        · exact second served
    · rcases judged.2 retried with ⟨first, data, ends⟩ | ⟨⟨first, unserved⟩, ends⟩ | ⟨first, ends⟩
      · exact .inl ⟨.inl first, data, ends⟩
      · refine .inr (.inl ⟨⟨.inl first, ?_⟩, ends⟩)
        rintro (served | ⟨refused, _⟩)
        · exact unserved served
        · exact refused first
      · refine .inr (.inr ⟨?_, ends⟩)
        rintro (served | ⟨given, _⟩)
        · exact first served
        · exact retried ⟨first, given⟩
  have whole : answered → accepted := by
    rintro (first | ⟨_, given, second⟩)
    · exact .inl (accepted_of_answered first)
    · exact .inr ⟨given, accepted_of_answered second⟩
  rcases outcome with ⟨served, data, ends⟩ | ⟨⟨served, unserved⟩, ends⟩ | ⟨unserved, ends⟩
  · rw [ends]
    exact ⟨iff_of_true ⟨data, rfl⟩ served, iff_of_false nofun fun both => both.2 served,
      iff_of_false nofun (not_not_intro (whole served))⟩
  · rw [ends]
    exact ⟨iff_of_false (by simp) unserved, iff_of_true rfl ⟨served, unserved⟩,
      iff_of_false nofun (not_not_intro served)⟩
  · rw [ends]
    exact ⟨iff_of_false (by simp) (mt whole unserved), iff_of_false nofun fun both => unserved both.1,
      iff_of_true rfl unserved⟩

/-- The process started with the first token, which the second install has replaced in its file. -/
theorem agent_served_iff_reinstalled :
    let hub := Runs.run (DeviceHub.step id reinstalled) {} reinstallTurns
    let loads : List UInt8 → Except LoadsError (PyJson Unit) := fun _ => .ok (.dict [])
    let client : HubClient := { token := some "tkh_a", tokenFile := some "tkh_b" }
    let handle (_ : DeviceId) : SyncHandling := .answered []
    ∃ data, client.sync loads (hub.syncReply id handle (fun _ => []) "tkh_a")
      (hub.syncReply id handle (fun _ => []) "tkh_b") = .answer data := by
  intro hub loads client handle
  have read : BodiesRead loads handle (fun _ => []) := by
    refine ⟨fun _ => ⟨_, rfl⟩, fun _ _ => ⟨_, rfl⟩, ?_⟩
    intro _ _ raised
    cases raised
  refine (agent_served_iff reinstall_fresh read "tkh_a" "tkh_b" (by decide)).1.mpr (.inr ⟨?_, by decide, "one", ?_⟩)
  · rintro ⟨one, holds, _⟩
    exact (unknown_iff (device_run reinstall_fresh).1 "tkh_a").mp rfl one holds
  · refine ⟨⟨"m1", "tkh_b", rfl, rfl⟩, ?_, [], rfl⟩
    intro revoked
    cases revoked

end Agent

end TimekprProof
