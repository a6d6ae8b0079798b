import TimekprHub.Hub.Store
import TimekprHub.Library.Intervals

namespace TimekprModel

def ActivityInterval.range (row : ActivityInterval) : Intervals.Span := ⟨row.start, row.stop⟩

namespace HubStore

variable (store : HubStore) (userId : UserId)

def daySpans (day : Date) : List Intervals.Span :=
  (store.activityIntervals.filter fun row => row.userId = userId ∧ row.day = day).map ActivityInterval.range

def dayCounters (day : Date) : List Int :=
  (store.usageCounters.entries.filter fun entry => entry.1.userId = userId ∧ entry.1.day = day).map
    fun entry => entry.2.spentSeconds

def roundedSeconds (length : Int) : Int := (length + second / 2) / second

def globalSpentWallclock (day : Date) : Int :=
  max (roundedSeconds (Intervals.unionLength (store.daySpans userId day)))
    ((store.dayCounters userId day).max?.getD 0)

def globalSpentParallel (day : Date) : Int := (store.dayCounters userId day).sum

def daysWithData (startDay endDay : Date) : List Date :=
  (((store.activityIntervals.filter fun row => row.userId = userId).map (·.day) ++
    (store.usageCounters.entries.filter fun entry => entry.1.userId = userId).map (·.1.day)).filter
      fun day => startDay ≤ day ∧ day ≤ endDay).dedup

def globalSpentWallclockHistory (startDay endDay : Date) : List (Date × Int) :=
  (store.daysWithData userId startDay endDay).map fun day => (day, store.globalSpentWallclock userId day)

def globalSpentWallclockWindow (startDay endDay : Date) : Int :=
  ((store.globalSpentWallclockHistory userId startDay endDay).map Prod.snd).sum

def globalSpentParallelWindow (startDay endDay : Date) : Int :=
  ((store.usageCounters.entries.filter fun entry =>
    entry.1.userId = userId ∧ startDay ≤ entry.1.day ∧ entry.1.day ≤ endDay).map
      fun entry => entry.2.spentSeconds).sum

end HubStore

def baseDailyLimit (policy : Policy) (day : Date) : Int :=
  policy.dailyLimitsJson.getD day.isoweekday.index 0

def isGatedWeekday (user : User) (day : Date) : Bool := day.isoweekday ∈ user.gatedWeekdays

/-- An override replaces the base, grants add to either, and a gated day is 0 until it is released. -/
def combineLimit (baseS grantsS : Int) (gated released : Bool) : Int :=
  if gated && !released then 0 else max 0 (baseS + grantsS)

def grantsTotal (user : User) (day : Date) : Int :=
  ((user.grants.filter fun grant => grant.1 = day).map Prod.snd).sum

def effectiveDailyLimit (policy : Policy) (user : User) (day : Date) : Int :=
  let baseS := (user.dayOverrides day).getD (baseDailyLimit policy day)
  let gated := isGatedWeekday user day
  let released := if gated then user.gateReleases day else false
  combineLimit baseS (grantsTotal user day) gated released

end TimekprModel
