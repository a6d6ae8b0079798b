import Mathlib.Algebra.Ring.Int.Defs
import TimekprHub.Core.EffectivePolicy

namespace TimekprModel

abbrev PolicyId := String

/-- One version of a user's policy, as stored. The wake hours are the ones an edit was accepted with. -/
structure Policy where
  version : Int
  dailyLimitsJson : List Int
  allowedHoursJson : AllowedHoursMap := .empty
  allowedWeekdaysJson : List Weekday := []
  weeklyLimitS : Int
  monthlyLimitS : Int
  lockoutType : LockoutType := .lock
  wakeFrom : Option String := none
  wakeTo : Option String := none
  trackInactive : Bool := false
  hideTrayIcon : Bool := false
  playtime : PlayTimePayload := .defaults
  note : Option String := none
  wakeFromPattern : ∀ text ∈ wakeFrom, matchesWakeHour text = true := by simp
  wakeToPattern : ∀ text ∈ wakeTo, matchesWakeHour text = true := by simp

def policyToPayload (policy : Policy) : PolicyPayload where
  version := policy.version
  dailyLimitsS := policy.dailyLimitsJson
  allowedHours := policy.allowedHoursJson
  allowedWeekdays := policy.allowedWeekdaysJson
  weeklyLimitS := policy.weeklyLimitS
  monthlyLimitS := policy.monthlyLimitS
  lockoutType := policy.lockoutType
  wakeFrom := policy.wakeFrom
  wakeTo := policy.wakeTo
  trackInactive := policy.trackInactive
  hideTrayIcon := policy.hideTrayIcon
  playtime := policy.playtime
  note := policy.note.getD ""

def defaultDailyLimitsS : List Int := List.replicate 7 3600

def createInitialPolicy (dailyLimitsS : Option (List Int) := none) (weeklyLimitS : Option Int := none)
    (monthlyLimitS : Option Int := none) (allowedWeekdays : List Weekday := []) : Policy :=
  let limits := dailyLimitsS.getD defaultDailyLimitsS
  { version := 1
    dailyLimitsJson := limits
    allowedWeekdaysJson := if allowedWeekdays = [] then weekdayTokens else allowedWeekdays
    weeklyLimitS := weeklyLimitS.getD limits.sum
    monthlyLimitS := monthlyLimitS.getD (limits.sum * 5) }

def anHourADay : PolicyUpdate where
  dailyLimitsS := List.replicate 7 3600
  weeklyLimitS := 7 * 3600
  monthlyLimitS := 31 * 3600
  sevenLimits := rfl
  withinADay := by decide
  weeklyBounds := by decide
  monthlyBounds := by decide
  wakeFromPattern := by simp
  wakeToPattern := by simp
  noteLength := by decide

def updatePolicy (current : Option Policy) (update : PolicyUpdate) : Policy where
  version := match current with
    | some policy => policy.version + 1
    | none => 1
  dailyLimitsJson := update.dailyLimitsS
  allowedHoursJson := update.allowedHours
  allowedWeekdaysJson := update.allowedWeekdays
  weeklyLimitS := update.weeklyLimitS
  monthlyLimitS := update.monthlyLimitS
  lockoutType := update.lockoutType
  wakeFrom := update.wakeFrom
  wakeTo := update.wakeTo
  trackInactive := update.trackInactive
  hideTrayIcon := update.hideTrayIcon
  playtime := update.playtime
  note := if update.note = "" then none else some update.note
  wakeFromPattern := update.wakeFromPattern
  wakeToPattern := update.wakeToPattern

inductive DayHoursMode
  | unrestricted
  | window (interval : TimeInterval)

def dayHourOverrideIntervals : DayHoursMode → List AllowedHourInterval
  | .unrestricted => unrestrictedWireIntervals
  | .window interval => (intervalsToHours [interval]).filterMap AllowedHourInterval.ofRecord?

abbrev DayHourOverrides := Date → Option (List AllowedHourInterval)

/-- An override for a day the user may not log in at all is rejected. -/
def setUserDayHourOverride (policy : Policy) (overrides : DayHourOverrides) (day : Date)
    (mode : DayHoursMode) : DayHourOverrides :=
  let allowedWeekdays :=
    if policy.allowedWeekdaysJson = [] then weekdayTokens else policy.allowedWeekdaysJson
  if day.isoweekday ∈ allowedWeekdays then
    fun other => if other = day then some (dayHourOverrideIntervals mode) else overrides other
  else overrides

def clearDayHourOverride (overrides : DayHourOverrides) (day : Date) : DayHourOverrides :=
  fun other => if other = day then none else overrides other

def effectivePolicyPayload (digest : PolicyPayload → String) (policy : Policy)
    (override : Option (List AllowedHourInterval)) (day : Date) (applyDayOverrides : Bool := true) :
    PolicyPayload × String :=
  let standing := policyToPayload policy
  let materialized := { standing with allowedHours := materializeAllowedHours standing.allowedHours }
  if applyDayOverrides then
    match override with
    | none => (materialized, policyRevision digest materialized)
    | some intervals =>
      let effective := withDayHourOverride materialized day.isoweekday intervals
      (effective, policyRevision digest effective)
  else (materialized, toString materialized.version ++ "-legacy")

/-- The policy part of one user's `/sync` reply: the payload if the agent needs it, and the revision.
    An agent that reports no revision is gated on the version alone. -/
def policyReply (digest : PolicyPayload → String) (policy : Policy)
    (override : Option (List AllowedHourInterval)) (day : Date) (policyRevisionApplied : Option String)
    (policyVersionApplied : Int) : Option PolicyPayload × String :=
  let (payload, revision) := effectivePolicyPayload digest policy override day policyRevisionApplied.isSome
  match policyRevisionApplied with
  | some applied => (if applied ≠ revision then some payload else none, revision)
  | none => (if policyVersionApplied ≠ policy.version then some payload else none, revision)

theorem effective_revision (digest : PolicyPayload → String) (policy : Policy)
    (override : Option (List AllowedHourInterval)) (day : Date) :
    (effectivePolicyPayload digest policy override day).2 =
      policyRevision digest (effectivePolicyPayload digest policy override day).1 := by
  cases override <;> rfl

theorem effective_separated (digest : PolicyPayload → String) (policy : Policy)
    (override : Option (List AllowedHourInterval)) (day : Date) :
    ∀ text ∈ (effectivePolicyPayload digest policy override day).1.wakeTo, ';' ∉ text.toList := by
  have same : (effectivePolicyPayload digest policy override day).1.wakeTo = policy.wakeTo := by
    cases override <;> rfl
  rw [same]
  intro text given
  exact matchesWakeHour_no_separator (policy.wakeToPattern text given)

theorem policyReply_current (digest : PolicyPayload → String) (policy : Policy)
    (override : Option (List AllowedHourInterval)) (day : Date) (applied : String) (version : Int) :
    policyReply digest policy override day (some applied) version =
      let effective := effectivePolicyPayload digest policy override day
      (if applied ≠ effective.2 then some effective.1 else none, effective.2) := rfl

end TimekprModel
