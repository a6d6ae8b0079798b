import TimekprHub.Agent.PolicyPush

namespace TimekprModel

universe u v

structure PushStep where
  label : String
  setter : Setter
  unchanged : Bool

def PushStep.planned (step : PushStep) : Reconcile.Planned Setter := ⟨step.setter, step.unchanged⟩

def allowedDaysStep (applied : Option AppliedPolicy) (policy : PolicyPayload) : PushStep :=
  let tokens := (weekdaysOrAll policy.allowedWeekdays).map Weekday.token
  ⟨"setAllowedDays", .allowedDays tokens, applied.bind (·.allowedWeekdays) = some tokens⟩

def dayLimitsStep (applied : Option AppliedPolicy) (policy : PolicyPayload)
    (sevenLimits : policy.dailyLimitsS.length = 7) : PushStep :=
  let projected := projectDailyLimitsToAllowedDays policy.dailyLimitsS sevenLimits
    (weekdaysOrAll policy.allowedWeekdays)
  ⟨"setTimeLimitForDays", .timeLimitForDays projected,
    (allowedDaysStep applied policy).unchanged &&
      decide (applied.bind (·.limitsPerWeekdays) = some projected)⟩

def scalarSteps (applied : Option AppliedPolicy) (policy : PolicyPayload) : List PushStep :=
  [⟨"setTimeLimitForWeek", .timeLimitForWeek policy.weeklyLimitS,
      applied.bind (·.limitPerWeek) = some policy.weeklyLimitS⟩,
    ⟨"setTimeLimitForMonth", .timeLimitForMonth policy.monthlyLimitS,
      applied.bind (·.limitPerMonth) = some policy.monthlyLimitS⟩,
    ⟨"setTrackInactive", .trackInactive policy.trackInactive,
      applied.bind (·.trackInactive) = some policy.trackInactive⟩,
    ⟨"setHideTrayIcon", .hideTrayIcon policy.hideTrayIcon,
      applied.bind (·.hideTrayIcon) = some policy.hideTrayIcon⟩]

def lockoutStep (applied : Option AppliedPolicy) (policy : PolicyPayload) : PushStep :=
  let wakeFrom := textOr policy.wakeFrom defaultWakeFrom
  let wakeTo := textOr policy.wakeTo defaultWakeTo
  ⟨"setLockoutType", .lockoutType policy.lockoutType.value wakeFrom wakeTo,
    currentLockout applied policy.lockoutType = some (desiredLockout policy.lockoutType wakeFrom wakeTo)⟩

def hoursStep (applied : Option AppliedPolicy) (entry : String × List AllowedHourInterval) : PushStep :=
  let payload := hoursToDbusPayload (entry.2.map AllowedHourInterval.record)
  ⟨"setAllowedHours(day=" ++ entry.1 ++ ")", .allowedHours entry.1 payload,
    (applied.bind fun policy => policy.allowedHours entry.1) = some payload⟩

def playTimeSteps (applied : Option AppliedPolicy) (playtime : PlayTimePayload) : List PushStep :=
  let tokens := (weekdaysOrAll playtime.allowedWeekdays).map Weekday.token
  let projected := projectDailyLimitsToAllowedDays playtime.dailyLimitsS playtime.sevenLimits
    (weekdaysOrAll playtime.allowedWeekdays)
  let activities := playtime.activities.map fun activity => (activity.mask, activity.description)
  let daysKept := decide (applied.bind (·.playTimeAllowedWeekdays) = some tokens)
  [⟨"setPlayTimeEnabled", .playTimeEnabled playtime.enabled,
      applied.bind (·.playTimeEnabled) = some playtime.enabled⟩,
    ⟨"setPlayTimeLimitOverride", .playTimeLimitOverride playtime.overrideEnabled,
      applied.bind (·.playTimeLimitOverrideEnabled) = some playtime.overrideEnabled⟩,
    ⟨"setPlayTimeUnaccountedIntervalsEnabled",
      .playTimeUnaccountedIntervals playtime.unaccountedIntervalsEnabled,
      applied.bind (·.playTimeUnaccountedIntervalsEnabled) =
        some playtime.unaccountedIntervalsEnabled⟩,
    ⟨"setPlayTimeAllowedDays", .playTimeAllowedDays tokens, daysKept⟩,
    ⟨"setPlayTimeLimitsForDays", .playTimeLimitsForDays projected,
      daysKept && decide (applied.bind (·.playTimeLimitsPerWeekdays) = some projected)⟩,
    ⟨"setPlayTimeActivities", .playTimeActivities activities,
      applied.bind (·.playTimeActivities) = some activities⟩]

def pushSteps (applied : Option AppliedPolicy) (policy : PolicyPayload)
    (sevenLimits : policy.dailyLimitsS.length = 7) : List PushStep :=
  [allowedDaysStep applied policy, dayLimitsStep applied policy sevenLimits] ++ scalarSteps applied policy ++
    [lockoutStep applied policy] ++ policy.allowedHours.entries.map (hoursStep applied) ++
    playTimeSteps applied policy.playtime

variable {σ : Type u} {α : Type v}

def Push.take (enforcer : TimekprEnforcer σ) (username : String) (push : Push σ) (step : PushStep) :
    Push σ :=
  if step.unchanged then push.skipped else push.written enforcer username step.label step.setter

variable (enforcer : TimekprEnforcer σ) (username : String) (push : Push σ)

@[simp] theorem take_applied (step : PushStep) :
    (push.take enforcer username step).applied = push.applied := by
  unfold Push.take
  split <;> rfl

@[simp] theorem foldl_take_applied (steps : List PushStep) :
    (steps.foldl (Push.take enforcer username) push).applied = push.applied := by
  induction steps generalizing push with
  | nil => rfl
  | cons step rest ih => rw [List.foldl_cons, ih, take_applied]

@[simp] theorem step_push [DecidableEq α] (label : String) (desired : α) (current : Option α)
    (setter : Setter) :
    (push.step enforcer username label desired current setter).1 =
      push.take enforcer username ⟨label, setter, current = some desired⟩ := by
  by_cases same : current = some desired <;> simp [Push.step, Push.take, same]

@[simp] theorem step_written [DecidableEq α] (label : String) (desired : α) (current : Option α)
    (setter : Setter) :
    (push.step enforcer username label desired current setter).2 = !decide (current = some desired) := by
  by_cases same : current = some desired <;> simp [Push.step, same]

/-- A list is known to be unchanged only where the weekdays it is read by are. -/
theorem unknown_when_written [DecidableEq α] (kept : Bool) (current : Option α) (desired : α) :
    decide ((if (!kept) = true then none else current) = some desired) =
      (kept && decide (current = some desired)) := by
  cases kept <;> simp

theorem applyAllowedHours_eq (allowedHours : AllowedHoursMap) :
    applyAllowedHours enforcer username allowedHours push =
      (allowedHours.entries.map (hoursStep push.applied)).foldl (Push.take enforcer username) push := by
  unfold applyAllowedHours
  generalize allowedHours.entries = entries
  induction entries generalizing push with
  | nil => rfl
  | cons entry rest ih =>
    have first : pushHoursDay enforcer username entry.1
        (hoursToDbusPayload (entry.2.map AllowedHourInterval.record)) push =
        push.take enforcer username (hoursStep push.applied entry) := step_push ..
    rw [List.foldl_cons, ih, List.map_cons, List.foldl_cons, first, take_applied]

theorem applyLockout_eq (policy : PolicyPayload) :
    applyLockout enforcer username policy push =
      push.take enforcer username (lockoutStep push.applied policy) := by
  simp only [applyLockout, step_push, lockoutStep]

theorem applyPlayTime_eq (playtime : PlayTimePayload) :
    applyPlayTime enforcer username playtime push =
      (playTimeSteps push.applied playtime).foldl (Push.take enforcer username) push := by
  simp only [applyPlayTime, playTimeSteps, step_push, step_written, unknown_when_written, Push.current,
    take_applied, List.foldl_cons, List.foldl_nil]

/-- A push takes its planned steps one by one; the plan reads the config once, at the start. -/
theorem applyPolicyPush_eq (device : σ) (policy : PolicyPayload)
    (sevenLimits : policy.dailyLimitsS.length = 7) :
    applyPolicyPush enforcer device username policy =
      (pushSteps (enforcer.getAppliedPolicy device username) policy sevenLimits).foldl
        (Push.take enforcer username)
        { device, applied := enforcer.getAppliedPolicy device username } := by
  simp only [applyPolicyPush, sevenLimits, dite_true, step_push, step_written, unknown_when_written,
    Push.current, take_applied, applyLockout_eq, applyAllowedHours_eq, applyPlayTime_eq,
    foldl_take_applied, pushSteps, allowedDaysStep, dayLimitsStep, scalarSteps, List.foldl_append, List.foldl_cons,
    List.foldl_nil]

end TimekprModel
