import TimekprHub.Core.AllowedHours
import TimekprHub.Core.Calendar
import TimekprHub.Library.Dict

namespace TimekprModel

inductive LockoutType
  | lock
  | suspend
  | suspendWake
  | terminate
  | kill
  | shutdown
  deriving DecidableEq, Repr

def LockoutType.value : LockoutType → String
  | lock => "lock"
  | suspend => "suspend"
  | suspendWake => "suspendwake"
  | terminate => "terminate"
  | kill => "kill"
  | shutdown => "shutdown"

inductive OfflinePolicy
  | open
  | capped
  | closed
  deriving DecidableEq, Repr

inductive EnforcementMode
  | enforce
  | observe
  deriving DecidableEq, Repr

inductive AccountingMode
  | wallclock
  | parallel
  deriving DecidableEq, Repr

structure AllowedHourInterval where
  hour : Int
  startMin : Int
  endMin : Int
  unaccounted : Bool := false
  hourBounds : 0 ≤ hour ∧ hour ≤ 23
  startBounds : 0 ≤ startMin ∧ startMin ≤ 59
  endBounds : 0 ≤ endMin ∧ endMin ≤ 60
  deriving DecidableEq, Repr

theorem AllowedHourInterval.onTheHour : 0 ≤ (0 : Int) ∧ (0 : Int) ≤ 59 := by decide

theorem AllowedHourInterval.toTheHour : 0 ≤ (60 : Int) ∧ (60 : Int) ≤ 60 := by decide

def AllowedHourInterval.record (interval : AllowedHourInterval) : HourRecord :=
  { hour := interval.hour
    startMin := interval.startMin
    endMin := interval.endMin
    unaccounted := interval.unaccounted }

def AllowedHourInterval.ofRecord? (record : HourRecord) : Option AllowedHourInterval :=
  if bounds : (0 ≤ record.hour ∧ record.hour ≤ 23) ∧ (0 ≤ record.startMin ∧ record.startMin ≤ 59) ∧
      (0 ≤ record.endMin ∧ record.endMin ≤ 60) then
    some
      { hour := record.hour
        startMin := record.startMin
        endMin := record.endMin
        unaccounted := record.unaccounted
        hourBounds := bounds.1
        startBounds := bounds.2.1
        endBounds := bounds.2.2 }
  else none

structure PlayTimeActivity where
  mask : String
  description : String := ""
  maskLength : 1 ≤ mask.length ∧ mask.length ≤ 255
  descriptionLength : description.length ≤ 255
  noBrackets : ∀ c ∈ mask.toList, c ≠ '[' ∧ c ≠ ']'
  deriving DecidableEq, Repr

/-- The source takes any text for a weekday here, so the JSON API stores unknown ones too. The model has the seven
    weekday numbers only. -/
structure PlayTimePayload where
  enabled : Bool := false
  overrideEnabled : Bool := false
  unaccountedIntervalsEnabled : Bool := true
  allowedWeekdays : List Weekday := weekdayTokens
  dailyLimitsS : List Int := List.replicate 7 0
  activities : List PlayTimeActivity := []
  sevenLimits : dailyLimitsS.length = 7 := by decide
  withinADay : ∀ limit ∈ dailyLimitsS, 0 ≤ limit ∧ limit ≤ 86400 := by decide
  deriving DecidableEq, Repr

def PlayTimePayload.defaults : PlayTimePayload := {}

abbrev AllowedHoursMap := Dict String (List AllowedHourInterval)

/-- The policy as `/sync` sends it. The agent checks the length of `dailyLimitsS` itself. -/
structure PolicyPayload where
  version : Int
  dailyLimitsS : List Int
  allowedHours : AllowedHoursMap := .empty
  allowedWeekdays : List Weekday := []
  weeklyLimitS : Int
  monthlyLimitS : Int
  lockoutType : LockoutType := .lock
  wakeFrom : Option String := none
  wakeTo : Option String := none
  trackInactive : Bool := false
  hideTrayIcon : Bool := false
  playtime : PlayTimePayload := .defaults
  note : String := ""
  deriving DecidableEq

/-- The pattern of `wake_from` and `wake_to`: `^([01]?[0-9]|2[0-3])$`. -/
def matchesWakeHour (text : String) : Bool :=
  match text.toList with
  | [d] => d.isDigit
  | [tens, d] => (tens = '0' || tens = '1') && d.isDigit || tens = '2' && '0' ≤ d && d ≤ '3'
  | _ => false

structure PolicyUpdate where
  dailyLimitsS : List Int
  weeklyLimitS : Int
  monthlyLimitS : Int
  allowedWeekdays : List Weekday := weekdayTokens
  allowedHours : AllowedHoursMap := .empty
  lockoutType : LockoutType := .lock
  wakeFrom : Option String := none
  wakeTo : Option String := none
  trackInactive : Bool := false
  hideTrayIcon : Bool := false
  playtime : PlayTimePayload := .defaults
  note : String := ""
  sevenLimits : dailyLimitsS.length = 7
  withinADay : ∀ limit ∈ dailyLimitsS, 0 ≤ limit ∧ limit ≤ 86400
  weeklyBounds : 0 ≤ weeklyLimitS ∧ weeklyLimitS ≤ 7 * 86400
  monthlyBounds : 0 ≤ monthlyLimitS ∧ monthlyLimitS ≤ 31 * 86400
  wakeFromPattern : ∀ text ∈ wakeFrom, matchesWakeHour text = true
  wakeToPattern : ∀ text ∈ wakeTo, matchesWakeHour text = true
  noteLength : note.length ≤ 500

theorem matchesWakeHour_no_separator {text : String} (hour : matchesWakeHour text = true) :
    ';' ∉ text.toList := by
  unfold matchesWakeHour at hour
  split at hour
  · rename_i d shape
    rw [shape]
    intro member
    simp only [List.mem_singleton] at member
    subst member
    exact absurd hour (by decide)
  · rename_i tens d shape
    rw [shape]
    intro member
    simp only [List.mem_cons, List.not_mem_nil, or_false] at member
    rcases member with same | same
    · subst same
      simp at hour
    · subst same
      simp only [Bool.or_eq_true, Bool.and_eq_true] at hour
      rcases hour with ⟨_, digit⟩ | ⟨_, digit⟩
      · exact absurd digit (by decide)
      · exact absurd digit (by decide)
  · cases hour

end TimekprModel
