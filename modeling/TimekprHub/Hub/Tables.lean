import TimekprHub.Hub.PooledWindows
import TimekprHub.Library.Relational

namespace TimekprModel

structure UserRow where
  displayName : String := ""
  currentPolicyId : Option PolicyId := none
  accountingMode : AccountingMode := .wallclock
  offlinePolicy : OfflinePolicy := .capped
  offlineGraceS : Int := 900
  offlineCapS : Int := 1800
  gatedWeekdaysJson : List Weekday := []

structure DeviceRow extends Device where
  name : String

structure UsageCounterRow extends UsageCounter where
  updatedAt : Instant

structure Grant where
  userId : UserId
  day : Date
  seconds : Int
  deriving DecidableEq, Repr

/-- The tables row by row, each with its primary or unique key. -/
structure HubTables where
  users : Dict UserId UserRow := .empty
  policies : Dict PolicyId Policy := .empty
  devices : Dict DeviceId DeviceRow := .empty
  aliases : Dict (DeviceId × String) UserAlias := .empty
  usageCounters : Dict CounterKey UsageCounterRow := .empty
  activityIntervals : List ActivityInterval := []
  grants : List Grant := []
  dayOverrides : Dict (UserId × Date) Int := .empty
  gateReleases : List (UserId × Date) := []
  dayHourOverrides : Dict (UserId × Date) (List AllowedHourInterval) := .empty

namespace HubTables

variable (tables : HubTables)

/-- `policies_by_id.get(user.current_policy_id)`; the pointer is no foreign key. -/
def currentPolicy (row : UserRow) : Option Policy := row.currentPolicyId.bind tables.policies.get?

def isGateReleased (userId : UserId) (day : Date) : Bool := (userId, day) ∈ tables.gateReleases

def user (userId : UserId) (row : UserRow) : User where
  currentPolicy := tables.currentPolicy row
  accountingMode := row.accountingMode
  offlinePolicy := row.offlinePolicy
  offlineGraceS := row.offlineGraceS
  offlineCapS := row.offlineCapS
  gatedWeekdays := row.gatedWeekdaysJson
  dayOverrides := fun day => tables.dayOverrides.get? (userId, day)
  grants := (tables.grants.filter fun grant => grant.userId = userId).map fun grant => (grant.day, grant.seconds)
  gateReleases := tables.isGateReleased userId
  dayHourOverrides := fun day => tables.dayHourOverrides.get? (userId, day)

def store : HubStore where
  users := tables.users.mapWithKey tables.user
  aliases := tables.aliases
  devices := tables.devices.mapValues DeviceRow.toDevice
  usageCounters := tables.usageCounters.mapValues UsageCounterRow.toUsageCounter
  activityIntervals := tables.activityIntervals

theorem store_user {userId : UserId} {row : UserRow} (held : tables.users.get? userId = some row) :
    tables.store.user userId = tables.user userId row := by
  unfold HubStore.user store
  rw [Dict.get?_mapWithKey, held]
  rfl

end HubTables

end TimekprModel
