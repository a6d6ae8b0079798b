import TimekprHub.Agent.Enforcer
import TimekprHub.Core.Policy
import TimekprHub.Library.Reconcile

namespace TimekprModel

universe u v

def allWeekdays : List Weekday := weekdayTokens

def defaultWakeFrom : String := "0"

def defaultWakeTo : String := "23"

/-- timekpr reads LIMITS_PER_WEEKDAYS by position within ALLOWED_WEEKDAYS, so the limits go out in
    the order of the allowed days. -/
def projectDailyLimitsToAllowedDays (dailyLimits : List Int) (sevenLimits : dailyLimits.length = 7)
    (allowedWeekdays : List Weekday) : List Int :=
  allowedWeekdays.map fun day => dailyLimits.get ⟨day.index, sevenLimits ▸ day.index_lt⟩

/-- One policy push: the device as the setters called so far left it, and the record of them.
    `applied` is the readback taken at the start, `none` when the config could not be read. -/
structure Push (σ : Type u) where
  device : σ
  calls : List Setter := []
  applied : Option AppliedPolicy
  ok : Bool := true
  appliedCount : Nat := 0
  skippedCount : Nat := 0
  failed : List String := []

namespace Push

variable {σ : Type u} {α : Type v}

/-- The device's current value for a key; `none` means unknown, and so "push it". -/
def current (push : Push σ) (key : AppliedPolicy → Option α) : Option α := push.applied.bind key

def skipped (push : Push σ) : Push σ := { push with skippedCount := push.skippedCount + 1 }

def written (enforcer : TimekprEnforcer σ) (username : String) (push : Push σ) (label : String)
    (setter : Setter) : Push σ :=
  let answer := enforcer.perform push.device username setter
  { push with
    device := answer.2
    calls := push.calls ++ [setter]
    appliedCount := push.appliedCount + 1
    ok := push.ok && answer.1
    failed := if answer.1 then push.failed else push.failed ++ [label] }

/-- Calls one setter unless the device already holds the value, and tells whether it was called. -/
def step [DecidableEq α] (enforcer : TimekprEnforcer σ) (username : String) (push : Push σ)
    (label : String) (desired : α) (current : Option α) (setter : Setter) : Push σ × Bool :=
  if current = some desired then (push.skipped, false)
  else (push.written enforcer username label setter, true)

end Push

variable {σ : Type u}

def splitOnce (text : String) : List String :=
  match text.toList.dropWhile (· ≠ ';') with
  | [] => [text]
  | _ :: rest => [String.ofList (text.toList.takeWhile (· ≠ ';')), String.ofList rest]

/-- Python's `text or default`: an absent or empty string gives way to the default. -/
def textOr (text : Option String) (default : String) : String :=
  match text with
  | none | some "" => default
  | some text => text

/-- Only for 'suspendwake' does timekpr report a wake window to compare. -/
def currentLockout (applied : Option AppliedPolicy) (lockoutType : LockoutType) : Option (List String) :=
  if lockoutType = .suspendWake then
    applied.bind fun policy => policy.lockoutType.bind fun currentType =>
      policy.wakeupHourInterval.map fun currentWake => currentType :: splitOnce currentWake
  else applied.bind fun policy => policy.lockoutType.map fun currentType => [currentType]

def desiredLockout (lockoutType : LockoutType) (wakeFrom wakeTo : String) : List String :=
  if lockoutType = .suspendWake then [lockoutType.value, wakeFrom, wakeTo] else [lockoutType.value]

def applyLockout (enforcer : TimekprEnforcer σ) (username : String) (policy : PolicyPayload)
    (push : Push σ) : Push σ :=
  let wakeFrom := textOr policy.wakeFrom defaultWakeFrom
  let wakeTo := textOr policy.wakeTo defaultWakeTo
  (push.step enforcer username "setLockoutType" (desiredLockout policy.lockoutType wakeFrom wakeTo)
    (currentLockout push.applied policy.lockoutType)
    (.lockoutType policy.lockoutType.value wakeFrom wakeTo)).1

def pushHoursDay (enforcer : TimekprEnforcer σ) (username : String) (day : String) (payload : HourDict)
    (push : Push σ) : Push σ :=
  (push.step enforcer username ("setAllowedHours(day=" ++ day ++ ")") payload
    (push.current fun applied => applied.allowedHours day) (.allowedHours day payload)).1

/-- A day absent from `allowed_hours` is left untouched. -/
def applyAllowedHours (enforcer : TimekprEnforcer σ) (username : String) (allowedHours : AllowedHoursMap)
    (push : Push σ) : Push σ :=
  allowedHours.entries.foldl (fun push entry =>
    let records := entry.2.map AllowedHourInterval.record
    pushHoursDay enforcer username entry.1 (hoursToDbusPayload records) push) push

def weekdaysOrAll (weekdays : List Weekday) : List Weekday :=
  if weekdays = [] then allWeekdays else weekdays

def applyPlayTime (enforcer : TimekprEnforcer σ) (username : String) (playtime : PlayTimePayload)
    (push : Push σ) : Push σ :=
  let push := (push.step enforcer username "setPlayTimeEnabled" playtime.enabled
    (push.current (·.playTimeEnabled)) (.playTimeEnabled playtime.enabled)).1
  let push := (push.step enforcer username "setPlayTimeLimitOverride" playtime.overrideEnabled
    (push.current (·.playTimeLimitOverrideEnabled)) (.playTimeLimitOverride playtime.overrideEnabled)).1
  let unaccounted := playtime.unaccountedIntervalsEnabled
  let push := (push.step enforcer username "setPlayTimeUnaccountedIntervalsEnabled" unaccounted
    (push.current (·.playTimeUnaccountedIntervalsEnabled)) (.playTimeUnaccountedIntervals unaccounted)).1
  let weekdays := weekdaysOrAll playtime.allowedWeekdays
  let tokens := weekdays.map Weekday.token
  let (push, daysWritten) := push.step enforcer username "setPlayTimeAllowedDays" tokens
    (push.current (·.playTimeAllowedWeekdays)) (.playTimeAllowedDays tokens)
  let projected := projectDailyLimitsToAllowedDays playtime.dailyLimitsS playtime.sevenLimits weekdays
  let push := (push.step enforcer username "setPlayTimeLimitsForDays" projected
    (if daysWritten then none else push.current (·.playTimeLimitsPerWeekdays))
    (.playTimeLimitsForDays projected)).1
  let activities := playtime.activities.map fun activity => (activity.mask, activity.description)
  (push.step enforcer username "setPlayTimeActivities" activities (push.current (·.playTimeActivities))
    (.playTimeActivities activities)).1

/-- A policy without seven daily limits is rejected before the config is read. -/
def applyPolicyPush (enforcer : TimekprEnforcer σ) (device : σ) (username : String)
    (policy : PolicyPayload) : Push σ :=
  if sevenLimits : policy.dailyLimitsS.length = 7 then
    let push : Push σ := { device, applied := enforcer.getAppliedPolicy device username }
    let allowedWeekdays := weekdaysOrAll policy.allowedWeekdays
    let tokens := allowedWeekdays.map Weekday.token
    let (push, weekdaysWritten) := push.step enforcer username "setAllowedDays" tokens
      (push.current (·.allowedWeekdays)) (.allowedDays tokens)
    let projected := projectDailyLimitsToAllowedDays policy.dailyLimitsS sevenLimits allowedWeekdays
    -- The readback is positional within the old weekdays, so a weekday write makes it unknown.
    let push := (push.step enforcer username "setTimeLimitForDays" projected
      (if weekdaysWritten then none else push.current (·.limitsPerWeekdays))
      (.timeLimitForDays projected)).1
    let push := (push.step enforcer username "setTimeLimitForWeek" policy.weeklyLimitS
      (push.current (·.limitPerWeek)) (.timeLimitForWeek policy.weeklyLimitS)).1
    let push := (push.step enforcer username "setTimeLimitForMonth" policy.monthlyLimitS
      (push.current (·.limitPerMonth)) (.timeLimitForMonth policy.monthlyLimitS)).1
    let push := (push.step enforcer username "setTrackInactive" policy.trackInactive
      (push.current (·.trackInactive)) (.trackInactive policy.trackInactive)).1
    let push := (push.step enforcer username "setHideTrayIcon" policy.hideTrayIcon
      (push.current (·.hideTrayIcon)) (.hideTrayIcon policy.hideTrayIcon)).1
    let push := applyLockout enforcer username policy push
    let push := applyAllowedHours enforcer username policy.allowedHours push
    applyPlayTime enforcer username policy.playtime push
  else { device, applied := none, ok := false, failed := ["daily_limits_length"] }

end TimekprModel
