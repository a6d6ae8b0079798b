import TimekprHub.Agent.Enforcer
import TimekprHub.Library.Reconcile

namespace TimekprModel

inductive ConfigKey
  | timeLeft
  | limitsPerWeekdays
  | limitPerWeek
  | limitPerMonth
  | allowedWeekdays
  | allowedHours (dayNumber : String)
  | trackInactive
  | hideTrayIcon
  | lockout
  | playTimeEnabled
  | playTimeLimitOverrideEnabled
  | playTimeUnaccountedIntervalsEnabled
  | playTimeAllowedWeekdays
  | playTimeLimitsPerWeekdays
  | playTimeActivities
  deriving DecidableEq

def Setter.key : Setter → ConfigKey
  | .timeLeft .. => .timeLeft
  | .timeLimitForDays _ => .limitsPerWeekdays
  | .timeLimitForWeek _ => .limitPerWeek
  | .timeLimitForMonth _ => .limitPerMonth
  | .allowedDays _ => .allowedWeekdays
  | .allowedHours dayNumber _ => .allowedHours dayNumber
  | .trackInactive _ => .trackInactive
  | .hideTrayIcon _ => .hideTrayIcon
  | .lockoutType .. => .lockout
  | .playTimeEnabled _ => .playTimeEnabled
  | .playTimeLimitOverride _ => .playTimeLimitOverrideEnabled
  | .playTimeUnaccountedIntervals _ => .playTimeUnaccountedIntervalsEnabled
  | .playTimeAllowedDays _ => .playTimeAllowedWeekdays
  | .playTimeLimitsForDays _ => .playTimeLimitsPerWeekdays
  | .playTimeActivities _ => .playTimeActivities

structure TimekprConfig where
  limitsPerWeekdays : Option (List Int) := none
  limitPerWeek : Option Int := none
  limitPerMonth : Option Int := none
  allowedWeekdays : Option (List String) := none
  allowedHours : String → Option HourDict := fun _ => none
  trackInactive : Option Bool := none
  hideTrayIcon : Option Bool := none
  lockoutType : Option String := none
  wakeupWindow : Option (String × String) := none
  playTimeEnabled : Option Bool := none
  playTimeLimitOverrideEnabled : Option Bool := none
  playTimeUnaccountedIntervalsEnabled : Option Bool := none
  playTimeAllowedWeekdays : Option (List String) := none
  playTimeLimitsPerWeekdays : Option (List Int) := none
  playTimeActivities : Option (List (String × String)) := none

namespace TimekprConfig

def store (config : TimekprConfig) : Setter → TimekprConfig
  | .timeLeft .. => config
  | .timeLimitForDays limits => { config with limitsPerWeekdays := some limits }
  | .timeLimitForWeek limit => { config with limitPerWeek := some limit }
  | .timeLimitForMonth limit => { config with limitPerMonth := some limit }
  | .allowedDays weekdays => { config with allowedWeekdays := some weekdays }
  | .allowedHours dayNumber hours =>
    { config with
      allowedHours := fun day => if day = dayNumber then some hours else config.allowedHours day }
  | .trackInactive value => { config with trackInactive := some value }
  | .hideTrayIcon value => { config with hideTrayIcon := some value }
  | .lockoutType lockoutType wakeFrom wakeTo =>
    { config with lockoutType := some lockoutType, wakeupWindow := some (wakeFrom, wakeTo) }
  | .playTimeEnabled value => { config with playTimeEnabled := some value }
  | .playTimeLimitOverride value => { config with playTimeLimitOverrideEnabled := some value }
  | .playTimeUnaccountedIntervals value =>
    { config with playTimeUnaccountedIntervalsEnabled := some value }
  | .playTimeAllowedDays weekdays => { config with playTimeAllowedWeekdays := some weekdays }
  | .playTimeLimitsForDays limits => { config with playTimeLimitsPerWeekdays := some limits }
  | .playTimeActivities activities => { config with playTimeActivities := some activities }

/-- The config already has what the setter would write. The wake window counts for 'suspendwake'
    only, the one lockout type that reads it. -/
def holds (config : TimekprConfig) : Setter → Prop
  | .timeLeft .. => True
  | .timeLimitForDays limits => config.limitsPerWeekdays = some limits
  | .timeLimitForWeek limit => config.limitPerWeek = some limit
  | .timeLimitForMonth limit => config.limitPerMonth = some limit
  | .allowedDays weekdays => config.allowedWeekdays = some weekdays
  | .allowedHours dayNumber hours => config.allowedHours dayNumber = some hours
  | .trackInactive value => config.trackInactive = some value
  | .hideTrayIcon value => config.hideTrayIcon = some value
  | .lockoutType lockoutType wakeFrom wakeTo =>
    config.lockoutType = some lockoutType ∧
      (lockoutType = "suspendwake" → config.wakeupWindow = some (wakeFrom, wakeTo))
  | .playTimeEnabled value => config.playTimeEnabled = some value
  | .playTimeLimitOverride value => config.playTimeLimitOverrideEnabled = some value
  | .playTimeUnaccountedIntervals value => config.playTimeUnaccountedIntervalsEnabled = some value
  | .playTimeAllowedDays weekdays => config.playTimeAllowedWeekdays = some weekdays
  | .playTimeLimitsForDays limits => config.playTimeLimitsPerWeekdays = some limits
  | .playTimeActivities activities => config.playTimeActivities = some activities

/-- The exact readback. The wake window is reported as "from;to", for 'suspendwake' only, and hours
    for the seven weekday numbers only. -/
def readback (config : TimekprConfig) : AppliedPolicy where
  limitPerWeek := config.limitPerWeek
  limitPerMonth := config.limitPerMonth
  trackInactive := config.trackInactive
  hideTrayIcon := config.hideTrayIcon
  lockoutType := config.lockoutType
  wakeupHourInterval :=
    if config.lockoutType = some "suspendwake" then
      config.wakeupWindow.map fun window => window.1 ++ ";" ++ window.2
    else none
  allowedWeekdays := config.allowedWeekdays
  limitsPerWeekdays := config.limitsPerWeekdays
  allowedHours := fun day =>
    if day ∈ weekdayTokens.map Weekday.token then config.allowedHours day else none
  playTimeEnabled := config.playTimeEnabled
  playTimeLimitOverrideEnabled := config.playTimeLimitOverrideEnabled
  playTimeUnaccountedIntervalsEnabled := config.playTimeUnaccountedIntervalsEnabled
  playTimeAllowedWeekdays := config.playTimeAllowedWeekdays
  playTimeLimitsPerWeekdays := config.playTimeLimitsPerWeekdays
  playTimeActivities := config.playTimeActivities

theorem holds_store (config : TimekprConfig) (setter : Setter) : (config.store setter).holds setter := by
  cases setter <;> simp [store, holds]

/-- A setter's value is held or not whatever is stored under another key. -/
theorem holds_store_iff (config : TimekprConfig) {setter other : Setter} (differ : setter.key ≠ other.key) :
    (config.store other).holds setter ↔ config.holds setter := by
  cases other with
  | allowedHours written hours =>
    cases setter with
    | allowedHours day wanted =>
      have apart : day ≠ written := fun same => differ (congrArg ConfigKey.allowedHours same)
      simp [store, holds, apart]
    | _ => rfl
  | _ => cases setter <;> first | rfl | exact absurd rfl differ

theorem holds_store_other (config : TimekprConfig) {setter other : Setter} (held : config.holds setter)
    (differ : setter.key ≠ other.key) : (config.store other).holds setter :=
  (config.holds_store_iff differ).mpr held

end TimekprConfig

/-- A device that stores what a setter gives it or refuses the call, and whose readback is exact
    unless the config cannot be read. -/
def honestEnforcer (refuses : Setter → Bool) (readable : Bool) : TimekprEnforcer TimekprConfig where
  getAppliedPolicy config _ := if readable then some config.readback else none
  call config _ setter := if refuses setter then (false, config) else (true, config.store setter)

end TimekprModel

namespace TimekprProof

open TimekprModel

theorem honest_perform (refuses : Setter → Bool) (readable : Bool) (config : TimekprConfig)
    (username : String) (setter : Setter) :
    (honestEnforcer refuses readable).perform config username setter = (true, config.store setter) ∨
      (honestEnforcer refuses readable).perform config username setter = (false, config) := by
  rcases (honestEnforcer refuses readable).perform_cases config username setter with refused | called
  · exact .inr refused
  · rw [called]
    simp only [honestEnforcer]
    split
    · exact .inr rfl
    · exact .inl rfl

theorem honest_refuses (refuses : Setter → Bool) (readable : Bool) (config : TimekprConfig)
    (username : String) (setter : Setter)
    (refused : ((honestEnforcer refuses readable).perform config username setter).1 = false) :
    ((honestEnforcer refuses readable).perform config username setter).2 = config := by
  rcases honest_perform refuses readable config username setter with answer | answer
  · rw [answer] at refused
    cases refused
  · rw [answer]

theorem honest_lawful (refuses : Setter → Bool) (readable : Bool) (username : String) :
    Reconcile.Lawful (fun config => (honestEnforcer refuses readable).perform config username)
      Setter.key TimekprConfig.holds where
  lands := by
    intro config setter taken
    rcases honest_perform refuses readable config username setter with answer | answer
    · simp only [answer]
      exact config.holds_store setter
    · rw [answer] at taken
      cases taken
  frame := by
    intro config setter other differ held
    rcases honest_perform refuses readable config username other with answer | answer
    · simp only [answer]
      exact config.holds_store_other held differ
    · simp only [answer]
      exact held

end TimekprProof
