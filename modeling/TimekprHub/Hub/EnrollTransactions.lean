import TimekprHub.Hub.EnrollSeed
import TimekprHub.Hub.Sync
import TimekprHub.Library.RowTable

namespace TimekprModel

universe u

structure EnrollmentCode where
  expiresAt : Instant
  usedAt : Option Instant := none
  usedByDeviceId : Option DeviceId := none
  deriving DecidableEq, Repr

/-- A device that is not revoked. Its machine is its key, by the partial unique index. -/
structure EnrolledDevice extends Device where
  id : DeviceId
  name : String
  tokenHash : String
  enrolledAt : Instant
  notRevoked : status ≠ .revoked := by decide

abbrev PolicyKey := UserId × Int

structure ProvisionedUser where
  displayName : String
  currentPolicyId : Option PolicyKey := none
  deriving DecidableEq, Repr

structure ProvisionTables (ι : Type u) where
  users : RowTable ι UserId ProvisionedUser
  policies : RowTable ι PolicyKey Policy
  aliases : RowTable ι (DeviceId × String) UserId

inductive ProvisionStage
  | inserting
  /-- The savepoint's INSERT failed: the user is there and is read next. -/
  | existing
  | locking
  | locked (user : ProvisionedUser)
  | seeding (isNew : Bool)
  | aliasing (policy : Policy) (isNew : Bool)

inductive Provision (ι : Type u)
  | waits
  | fails
  | continues (tables : ProvisionTables ι) (stage : ProvisionStage)
  | returns (tables : ProvisionTables ι) (policy : Policy) (isNew : Bool)

namespace ProvisionTables

variable {ι : Type u} [DecidableEq ι] (tables : ProvisionTables ι) (request : ι)

def getCurrentPolicy (user : ProvisionedUser) : Option Policy :=
  user.currentPolicyId.bind (tables.policies.visible request)

def seedFor (snapshot : Option LocalPolicySnapshot) (isNew : Bool) : Policy :=
  match snapshot, isNew with
  | some snapshot, true => snapshot.seed
  | _, _ => createInitialPolicy

/-- `create_initial_policy`. The pointer goes out with the next statement, to a row this transaction has. -/
def seed (localUsername : String) (snapshot : Option LocalPolicySnapshot) (isNew : Bool) : Provision ι :=
  let policy := seedFor snapshot isNew
  match tables.policies.insert request (localUsername, policy.version) policy with
  | .waits => .waits
  | .misses => .fails
  | .done policies =>
    let point (user : ProvisionedUser) := { user with currentPolicyId := some (localUsername, policy.version) }
    match tables.users.update request localUsername (fun _ => true) point with
    | .done users => .continues { tables with users, policies } (.aliasing policy isNew)
    | _ => .fails

def provisionUserAlias (deviceId : DeviceId) (localUsername : String) (snapshot : Option LocalPolicySnapshot) :
    ProvisionStage → Provision ι
  | .inserting =>
    match tables.users.insert request localUsername { displayName := localUsername } with
    | .waits => .waits
    | .misses => .continues tables .existing
    | .done users => .continues { tables with users } (.seeding true)
  | .existing =>
    match tables.users.visible request localUsername with
    | none => .fails
    | some _ => .continues tables .locking
  | .locking =>
    match tables.users.lock request localUsername with
    | .waits => .waits
    | .misses => .fails
    | .done users =>
      match users.visible request localUsername with
      | none => .fails
      | some user => .continues { tables with users } (.locked user)
  | .locked user =>
    match tables.getCurrentPolicy request user with
    | some policy => .continues tables (.aliasing policy false)
    | none => .continues tables (.seeding false)
  | .seeding isNew => tables.seed request localUsername snapshot isNew
  | .aliasing policy isNew =>
    match tables.aliases.insert request (deviceId, localUsername) localUsername with
    | .waits => .waits
    | .misses => .returns tables policy isNew
    | .done aliases => .returns { tables with aliases } policy isNew

end ProvisionTables

structure EnrollArrival where
  req : EnrollRequest
  now : Instant
  deviceId : DeviceId
  tokenUrlsafe : String

def tokenPrefix : String := "tkh_"

def EnrollArrival.rawToken (arrival : EnrollArrival) : String := tokenPrefix ++ arrival.tokenUrlsafe

structure EnrollResponse where
  deviceId : DeviceId
  deviceToken : String
  hubTime : Instant
  hubTz : String
  nextPollMs : Int
  newUsers : List String
  policies : Dict String PolicyPayload
  rebound : Bool
  previouslyEnrolledAt : Option Instant

structure EnrollProgress where
  deviceId : DeviceId
  previouslyEnrolledAt : Option Instant
  rebound : Bool
  newUsers : List String := []
  policies : Dict String PolicyPayload := .empty

inductive EnrollStage
  | received
  | unclaimed
  | refused (status : Nat) (detail : String)
  | claimed
  | selected (existingDevice : Option EnrolledDevice)
  | provisioning (progress : EnrollProgress) (localUsername : String) (stage : ProvisionStage)
      (rest : List String)
  | provisioned (progress : EnrollProgress)
  /-- The code names the device. The commit is next. -/
  | bound (progress : EnrollProgress)
  | committed (response : EnrollResponse)
  | aborted

def EnrollStage.ended : EnrollStage → Bool
  | refused _ _ | committed _ | aborted => true
  | _ => false

inductive EnrollPhase
  | unclaimed
  | claimed
  | selected (existing : Option DeviceId)
  | located (deviceId : DeviceId)
  | bound (deviceId : DeviceId)
  | redeemed (deviceId : DeviceId)
  | aborted
  deriving DecidableEq, Repr

def EnrollStage.phase : EnrollStage → EnrollPhase
  | received | unclaimed | refused _ _ => .unclaimed
  | claimed => .claimed
  | selected existingDevice => .selected (existingDevice.map EnrolledDevice.id)
  | provisioning progress _ _ _ | provisioned progress => .located progress.deviceId
  | bound progress => .bound progress.deviceId
  | committed response => .redeemed response.deviceId
  | aborted => .aborted

def EnrollProgress.next (progress : EnrollProgress) : List String → EnrollStage
  | [] => .provisioned progress
  | localUsername :: rest => .provisioning progress localUsername .inserting rest

def EnrollProgress.add (progress : EnrollProgress) (localUsername : String) (policy : Policy) (isNew : Bool) :
    EnrollProgress :=
  { progress with
    newUsers := if isNew then progress.newUsers ++ [localUsername] else progress.newUsers
    policies := progress.policies.set localUsername (policyToPayload policy) }

structure EnrollRows where
  codes : String → Option EnrollmentCode
  devices : String → Option EnrolledDevice
  users : UserId → Option ProvisionedUser
  policies : PolicyKey → Option Policy
  aliases : DeviceId × String → Option UserId

structure EnrollHub (ι : Type u) where
  codes : RowTable ι String EnrollmentCode
  devices : RowTable ι String EnrolledDevice
  accounts : ProvisionTables ι
  stages : ι → EnrollStage := fun _ => .received

inductive EnrollTurn (ι : Type u)
  | advance (request : ι)
  | abort (request : ι)

def EnrollTurn.request {ι : Type u} : EnrollTurn ι → ι
  | advance request | abort request => request

def changedColumn {α : Type} [DecidableEq α] (loaded value current : α) : α :=
  if value = loaded then current else value

namespace EnrollHub

variable {ι : Type u} [DecidableEq ι] (hub : EnrollHub ι) (request : ι)

def moved (stage : EnrollStage) : EnrollHub ι :=
  { hub with stages := Function.update hub.stages request stage }

def rows {ι : Type u} (hub : EnrollHub ι) : EnrollRows where
  codes := hub.codes.committed
  devices := hub.devices.committed
  users := hub.accounts.users.committed
  policies := hub.accounts.policies.committed
  aliases := hub.accounts.aliases.committed

def commit (response : EnrollResponse) : EnrollHub ι :=
  { hub.moved request (.committed response) with
    codes := hub.codes.commit request
    devices := hub.devices.commit request
    accounts :=
      { users := hub.accounts.users.commit request
        policies := hub.accounts.policies.commit request
        aliases := hub.accounts.aliases.commit request } }

def abort : EnrollHub ι :=
  { hub.moved request .aborted with
    codes := hub.codes.rollback request
    devices := hub.devices.rollback request
    accounts :=
      { users := hub.accounts.users.rollback request
        policies := hub.accounts.policies.rollback request
        aliases := hub.accounts.aliases.rollback request } }

def claimCode (arrival : EnrollArrival) : EnrollHub ι :=
  let free (code : EnrollmentCode) : Bool := code.usedAt = none ∧ arrival.now ≤ code.expiresAt
  let use (code : EnrollmentCode) : EnrollmentCode := { code with usedAt := some arrival.now }
  match hub.codes.update request arrival.req.enrollmentCode free use with
  | .waits => hub
  | .misses => hub.moved request .unclaimed
  | .done codes => { hub.moved request .claimed with codes }

def refusal (arrival : EnrollArrival) : EnrollStage :=
  match hub.codes.visible request arrival.req.enrollmentCode with
  | none => .refused 404 "unknown enrollment code"
  | some code =>
    if code.usedAt.isSome then .refused 409 "enrollment code already used"
    else .refused 410 "enrollment code expired"

variable (hashToken : String → String)

/-- The flush of the device: an UPDATE of the one that was found, else an INSERT. The token is a new one, so
    there is a column to update; `enrolled_at` stays. -/
def flushDevice (arrival : EnrollArrival) (existingDevice : Option EnrolledDevice) : EnrollHub ι :=
  match existingDevice with
  | some loaded =>
    let rebind (current : EnrolledDevice) : EnrolledDevice :=
      { current with
        tokenHash := changedColumn loaded.tokenHash (hashToken arrival.rawToken) current.tokenHash
        name := changedColumn loaded.name arrival.req.hostname current.name
        agentVersion := changedColumn loaded.agentVersion (some arrival.req.agentVersion) current.agentVersion
        status := .active
        notRevoked := by decide }
    let progress : EnrollProgress :=
      { deviceId := loaded.id, previouslyEnrolledAt := some loaded.enrolledAt, rebound := true }
    match hub.devices.update request arrival.req.machineId (fun _ => true) rebind with
    | .waits => hub
    | .misses => hub.abort request
    | .done devices => { hub.moved request (progress.next arrival.req.localUsers) with devices }
  | none =>
    let device : EnrolledDevice :=
      { id := arrival.deviceId
        name := arrival.req.hostname
        tokenHash := hashToken arrival.rawToken
        agentVersion := some arrival.req.agentVersion
        enrolledAt := arrival.now }
    let progress : EnrollProgress :=
      { deviceId := arrival.deviceId, previouslyEnrolledAt := none, rebound := false }
    match hub.devices.insert request arrival.req.machineId device with
    | .waits => hub
    | .misses => hub.abort request
    | .done devices => { hub.moved request (progress.next arrival.req.localUsers) with devices }

def provisionUser (arrival : EnrollArrival) (progress : EnrollProgress) (localUsername : String)
    (stage : ProvisionStage) (rest : List String) : EnrollHub ι :=
  match hub.accounts.provisionUserAlias request progress.deviceId localUsername
      (arrival.req.localPolicies.lookup localUsername) stage with
  | .waits => hub
  | .fails => hub.abort request
  | .continues accounts stage => { hub.moved request (.provisioning progress localUsername stage rest) with accounts }
  | .returns accounts policy isNew =>
    { hub.moved request ((progress.add localUsername policy isNew).next rest) with accounts }

def bindCode (arrival : EnrollArrival) (progress : EnrollProgress) : EnrollHub ι :=
  let name (code : EnrollmentCode) : EnrollmentCode := { code with usedByDeviceId := some progress.deviceId }
  match hub.codes.update request arrival.req.enrollmentCode (fun _ => true) name with
  | .waits => hub
  | .misses => hub.moved request (.bound progress)
  | .done codes => { hub.moved request (.bound progress) with codes }

def respond (settings : Settings) (arrival : EnrollArrival) (progress : EnrollProgress) : EnrollResponse where
  deviceId := progress.deviceId
  deviceToken := arrival.rawToken
  hubTime := arrival.now
  hubTz := settings.hubTz
  nextPollMs := settings.defaultNextPollMs
  newUsers := progress.newUsers
  policies := progress.policies
  rebound := progress.rebound
  previouslyEnrolledAt := progress.previouslyEnrolledAt

variable (settings : Settings) (arrivals : ι → EnrollArrival)

def advance : EnrollHub ι :=
  let arrival := arrivals request
  match hub.stages request with
  | .received => hub.claimCode request arrival
  | .unclaimed => hub.moved request (hub.refusal request arrival)
  | .claimed => hub.moved request (.selected (hub.devices.visible request arrival.req.machineId))
  | .selected existingDevice => hub.flushDevice request hashToken arrival existingDevice
  | .provisioning progress localUsername stage rest =>
    hub.provisionUser request arrival progress localUsername stage rest
  | .provisioned progress => hub.bindCode request arrival progress
  | .bound progress => hub.commit request (respond settings arrival progress)
  | .refused _ _ | .committed _ | .aborted => hub

/-- A request may fail, or lose its connection, before any of its statements. -/
def step (hub : EnrollHub ι) : EnrollTurn ι → EnrollHub ι
  | .advance request => hub.advance request hashToken settings arrivals
  | .abort request => if (hub.stages request).ended then hub else hub.abort request

def Redeemed (hub : EnrollHub ι) (request : ι) : Prop := ∃ response, hub.stages request = .committed response

end EnrollHub

def EnrollRows.begin {ι : Type u} (rows : EnrollRows) : EnrollHub ι where
  codes := { committed := rows.codes }
  devices := { committed := rows.devices }
  accounts :=
    { users := { committed := rows.users }
      policies := { committed := rows.policies }
      aliases := { committed := rows.aliases } }

end TimekprModel
