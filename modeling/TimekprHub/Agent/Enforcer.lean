import TimekprHub.Core.AllowedHours
import TimekprHub.Core.Calendar
import TimekprHub.Core.Convergence

namespace TimekprModel

universe u

inductive Setter
  | timeLeft (op : TimeLeftOp) (seconds : Int)
  | timeLimitForDays (dailyLimitsS : List Int)
  | timeLimitForWeek (limitS : Int)
  | timeLimitForMonth (limitS : Int)
  | allowedDays (weekdays : List String)
  | allowedHours (dayNumber : String) (hours : HourDict)
  | trackInactive (trackInactive : Bool)
  | hideTrayIcon (hide : Bool)
  | lockoutType (lockoutType wakeFrom wakeTo : String)
  | playTimeEnabled (enabled : Bool)
  | playTimeLimitOverride (override : Bool)
  | playTimeUnaccountedIntervals (enabled : Bool)
  | playTimeAllowedDays (weekdays : List String)
  | playTimeLimitsForDays (dailyLimitsS : List Int)
  | playTimeActivities (activities : List (String × String))
  deriving DecidableEq

/-- What `get_applied_policy` read back. A key the readback did not carry is `none`. -/
structure AppliedPolicy where
  limitPerWeek : Option Int
  limitPerMonth : Option Int
  trackInactive : Option Bool
  hideTrayIcon : Option Bool
  lockoutType : Option String
  wakeupHourInterval : Option String
  allowedWeekdays : Option (List String)
  limitsPerWeekdays : Option (List Int)
  allowedHours : String → Option HourDict
  playTimeEnabled : Option Bool
  playTimeLimitOverrideEnabled : Option Bool
  playTimeUnaccountedIntervalsEnabled : Option Bool
  playTimeAllowedWeekdays : Option (List String)
  playTimeLimitsPerWeekdays : Option (List Int)
  playTimeActivities : Option (List (String × String))

/-- The DBUS admin connector in front of a device in state `σ`. `call` is true when timekpr was
    reached and its result is 0; `getAppliedPolicy` is `none` when the config could not be read. -/
structure TimekprEnforcer (σ : Type u) where
  getAppliedPolicy : σ → String → Option AppliedPolicy
  call : σ → String → Setter → Bool × σ

namespace TimekprEnforcer

variable {σ : Type u}

/-- An absent hour is forbidden to timekpr, so an empty dict is refused before the call. -/
def perform (enforcer : TimekprEnforcer σ) (device : σ) (username : String) : Setter → Bool × σ
  | .allowedHours dayNumber hours =>
    if hours = ∅ then (false, device) else enforcer.call device username (.allowedHours dayNumber hours)
  | setter => enforcer.call device username setter

theorem perform_cases (enforcer : TimekprEnforcer σ) (device : σ) (username : String) (setter : Setter) :
    enforcer.perform device username setter = (false, device) ∨
      enforcer.perform device username setter = enforcer.call device username setter := by
  unfold perform
  split
  · split
    · exact .inl rfl
    · exact .inr rfl
  · exact .inr rfl

end TimekprEnforcer

structure UserObservation where
  balanceS : Int
  spentDayS : Int
  limitTodayS : Int
  loggedIn : Bool
  active : Bool
  deriving DecidableEq, Repr

structure ActualTimeSpent where
  balance : Int
  day : Int
  deriving DecidableEq, Repr

/-- What the agent reads of `getUserConfigurationAndInformation(user, "F")`. -/
structure UserInformation where
  actual : Option ActualTimeSpent
  timeSpentBalance : Int
  timeSpentDay : Int
  limitsPerWeekdays : List Int
  deriving DecidableEq, Repr

inductive PyError
  | indexError
  deriving DecidableEq, Repr

/-- `today` is the weekday of the device's own clock. Indexing past the end of the list raises. -/
def getUserObservation (reply : Option UserInformation) (today : Weekday) :
    Except PyError (Option UserObservation) :=
  match reply with
  | none => .ok none
  | some info =>
    match info.limitsPerWeekdays[today.index]? with
    | none => .error .indexError
    | some limitToday =>
      .ok <| some
        { balanceS := (info.actual.map (·.balance)).getD info.timeSpentBalance
          spentDayS := (info.actual.map (·.day)).getD info.timeSpentDay
          limitTodayS := limitToday
          loggedIn := info.actual.isSome
          active := info.actual.isSome }

end TimekprModel
