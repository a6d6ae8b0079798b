import Mathlib.Logic.Function.Basic
import TimekprHub.Agent.Relinquish
import TimekprHub.Hub.SyncRows

namespace TimekprModel

universe u

inductive Delivery
  | lost
  | unheard
  | heard
  deriving DecidableEq, Repr

structure HouseholdTick (σ : Type u) where
  deviceId : DeviceId
  zones : ZoneDatabase
  tzName : String
  agentVersion : String
  enforcer : TimekprEnforcer σ
  device : σ
  managedUsers : List (String × Option UserObservation)
  now : Instant
  /-- What the hub's own clock shows when it handles the request. -/
  hubNow : Instant
  delivery : Delivery

inductive HouseholdAction (σ : Type u)
  | tick (tick : HouseholdTick σ)
  /-- Whatever an admin or an enrollment changes in the users and devices tables. -/
  | administer (users : Dict UserId User) (devices : Dict DeviceId Device)

abbrev Ledger := String → String → Int

/-- The hub and every agent. The ledgers are ghosts: the seconds each agent credited to a user while
    the user's day was the given one. -/
structure Household where
  agents : DeviceId → AgentState := fun _ => {}
  store : HubStore
  credited : DeviceId → Ledger := fun _ _ _ => 0

section Credit

variable (today : String) (now : Instant)

def creditUser (draft : Draft) (managed : String × Option UserObservation) (ledger : Ledger) : Ledger :=
  match managed.2 with
  | none => ledger
  | some obs =>
    let burned := (measure (draft.state.user managed.1) obs today now).burnedThisTickS
    fun username day =>
      ledger username day + if username = managed.1 ∧ day = today then burned else 0

def creditTick (draft : Draft) (ledger : Ledger) : List (String × Option UserObservation) → Ledger
  | [] => ledger
  | managed :: rest =>
    creditTick (draftUser today now draft managed) (creditUser today now draft managed ledger) rest

end Credit

variable {σ : Type u}

namespace HouseholdTick

variable (tick : HouseholdTick σ) (state : AgentState)

def today : String := todayStr tick.zones state tick.tzName tick.now

def draft : Draft := draftTick tick.zones tick.tzName state tick.managedUsers tick.now

def request : SyncRequest := (tick.draft state).request tick.agentVersion tick.now

variable (settings : Settings) (digest : PolicyPayload → String) (store : HubStore)

def committed (req : SyncRequest) : Option (HubStore × SyncResponse) :=
  match tick.delivery with
  | .lost => none
  | .unheard | .heard => sync settings digest store tick.deviceId req tick.hubNow

def reply (req : SyncRequest) : HubOutcome :=
  match tick.delivery with
  | .lost | .unheard => .unreachable
  | .heard => match tick.committed settings digest store req with
    | none => .revoked
    | some (_, response) => .response response

def result : TickResult σ :=
  (runTick tick.zones tick.tzName tick.agentVersion tick.enforcer (tick.reply settings digest store) state
    tick.device tick.managedUsers tick.now).1

end HouseholdTick

namespace Household

variable (settings : Settings) (digest : PolicyPayload → String)

def committed (house : Household) (tick : HouseholdTick σ) : Option (HubStore × SyncResponse) :=
  tick.committed settings digest house.store (tick.request (house.agents tick.deviceId))

def step (house : Household) : HouseholdAction σ → Household
  | .administer users devices => { house with store := { house.store with users, devices } }
  | .tick tick =>
    let state := house.agents tick.deviceId
    { agents := Function.update house.agents tick.deviceId
        (tick.result state settings digest house.store).state
      store := ((house.committed settings digest tick).map Prod.fst).getD house.store
      credited := Function.update house.credited tick.deviceId
        (creditTick (tick.today state) tick.now { state } (house.credited tick.deviceId)
          tick.managedUsers) }

end Household

def laptopTick (now hubNow : Instant) (delivery : Delivery) : HouseholdTick TimekprConfig where
  deviceId := "laptop"
  zones := fun _ => some utc
  tzName := "UTC"
  agentVersion := "0.1"
  enforcer := honestEnforcer (fun _ => false) true
  device := {}
  managedUsers := [("kid", some kidObservation)]
  now
  hubNow
  delivery

def laptopStore : HubStore := { devices := Dict.ofList [("laptop", {})] }

def laptopHousehold : Household where
  store := laptopStore

end TimekprModel

namespace TimekprProof

open TimekprModel

universe u

variable {σ : Type u}

theorem committed_recorded {settings : Settings} {digest : PolicyPayload → String} {store : HubStore}
    {tick : HouseholdTick σ} {req : SyncRequest} {reply : HubStore × SyncResponse}
    (answer : tick.committed settings digest store req = some reply) :
    Recorded tick.deviceId (canonicalStamp tick.hubNow settings.tz).day req.users store reply.1 := by
  have accepted : sync settings digest store tick.deviceId req tick.hubNow = some (reply.1, reply.2) := by
    unfold HouseholdTick.committed at answer
    split at answer
    · cases answer
    · exact answer
    · exact answer
  exact sync_recorded accepted

theorem step_store (settings : Settings) (digest : PolicyPayload → String) (house : Household)
    (tick : HouseholdTick σ) :
    (house.step settings digest (.tick tick)).store = house.store ∧
        house.committed settings digest tick = none ∨
      ∃ response, house.committed settings digest tick =
          some ((house.step settings digest (.tick tick)).store, response) ∧
        Recorded tick.deviceId (canonicalStamp tick.hubNow settings.tz).day
          (tick.request (house.agents tick.deviceId)).users house.store
          (house.step settings digest (.tick tick)).store := by
  cases answer : house.committed settings digest tick with
  | none =>
    refine .inl ⟨?_, rfl⟩
    simp only [Household.step, answer]
    rfl
  | some reply =>
    have stored : (house.step settings digest (.tick tick)).store = reply.1 := by
      simp only [Household.step, answer]
      rfl
    rw [stored]
    exact .inr ⟨reply.2, rfl, committed_recorded answer⟩

theorem step_userOf (settings : Settings) (digest : PolicyPayload → String) (house : Household)
    (action : HouseholdAction σ) (deviceId : DeviceId) (username : String) :
    (house.step settings digest action).store.userOf deviceId username =
      house.store.userOf deviceId username := by
  cases action with
  | administer users devices => rfl
  | tick tick =>
    rcases step_store settings digest house tick with ⟨same, _⟩ | ⟨_, _, recorded⟩
    · rw [same]
    · exact recorded.userOf deviceId username

end TimekprProof
