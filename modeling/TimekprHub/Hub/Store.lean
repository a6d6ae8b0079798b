import TimekprHub.Core.Sync
import TimekprHub.Hub.Policy
import TimekprHub.Library.KeyedLog

namespace TimekprModel

/-- A hub user is known by its canonical username, which is unique. -/
abbrev UserId := String

abbrev DeviceId := String

structure User where
  currentPolicy : Option Policy := none
  accountingMode : AccountingMode := .wallclock
  offlinePolicy : OfflinePolicy := .capped
  offlineGraceS : Int := 900
  offlineCapS : Int := 1800
  gatedWeekdays : List Weekday := []
  dayOverrides : Date → Option Int := fun _ => none
  grants : List (Date × Int) := []
  gateReleases : Date → Bool := fun _ => false
  dayHourOverrides : DayHourOverrides := fun _ => none

structure UserAlias where
  userId : UserId
  policyPushError : Option String := none
  policyPushErrorAt : Option Instant := none
  deriving DecidableEq, Repr

inductive DeviceStatus
  | active
  | revoked
  deriving DecidableEq, Repr

structure Device where
  status : DeviceStatus := .active
  enforcement : EnforcementMode := .enforce
  agentVersion : Option String := none
  clockSkewMs : Option Int := none
  lastSeenAt : Option Instant := none
  lastSyncAt : Option Instant := none
  deriving DecidableEq, Repr

structure CounterKey where
  userId : UserId
  deviceId : DeviceId
  day : Date
  deriving DecidableEq, Repr

structure UsageCounter where
  spentSeconds : Int
  activityState : Option ActivityState
  deriving DecidableEq, Repr

structure ActivityInterval where
  userId : UserId
  deviceId : DeviceId
  day : Date
  start : Instant
  stop : Instant
  windowEndTs : Instant
  deriving DecidableEq, Repr

structure HubStore where
  users : Dict UserId User := .empty
  aliases : Dict (DeviceId × String) UserAlias := .empty
  devices : Dict DeviceId Device := .empty
  usageCounters : Dict CounterKey UsageCounter := .empty
  activityIntervals : List ActivityInterval := []

def ActivityInterval.windowKey (row : ActivityInterval) : DeviceId × Instant :=
  (row.deviceId, row.windowEndTs)

namespace HubStore

/-- An alias's user always has a row: the foreign key says so. -/
def user (store : HubStore) (userId : UserId) : User := (store.users.get? userId).getD {}

def setUser (store : HubStore) (userId : UserId) (user : User) : HubStore :=
  { store with users := store.users.set userId user }

def upsertUsageCounter (store : HubStore) (key : CounterKey) (spentSeconds : Int)
    (activityState : ActivityState) : HubStore :=
  let merged := match store.usageCounters.get? key with
    | none => spentSeconds
    | some held => max held.spentSeconds spentSeconds
  { store with
    usageCounters := store.usageCounters.set key
      { spentSeconds := merged, activityState := some activityState } }

def insertActivityInterval (store : HubStore) (row : ActivityInterval) : HubStore :=
  { store with
    activityIntervals := KeyedLog.insertNew ActivityInterval.windowKey store.activityIntervals row }

end HubStore

end TimekprModel
