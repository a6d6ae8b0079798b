import Mathlib.Data.List.Nodup

namespace TimekprModel

inductive Weekday
  | monday
  | tuesday
  | wednesday
  | thursday
  | friday
  | saturday
  | sunday
  deriving DecidableEq, Repr

namespace Weekday

def index : Weekday → Nat
  | monday => 0
  | tuesday => 1
  | wednesday => 2
  | thursday => 3
  | friday => 4
  | saturday => 5
  | sunday => 6

def token : Weekday → String
  | monday => "1"
  | tuesday => "2"
  | wednesday => "3"
  | thursday => "4"
  | friday => "5"
  | saturday => "6"
  | sunday => "7"

def ofIndex : Nat → Weekday
  | 0 => monday
  | 1 => tuesday
  | 2 => wednesday
  | 3 => thursday
  | 4 => friday
  | 5 => saturday
  | _ => sunday

end Weekday

def weekdayTokens : List Weekday :=
  [.monday, .tuesday, .wednesday, .thursday, .friday, .saturday, .sunday]

theorem Weekday.mem_tokens (day : Weekday) : day ∈ weekdayTokens := by
  cases day <;> decide

theorem Weekday.index_lt (day : Weekday) : day.index < 7 := by
  cases day <;> decide

@[simp] theorem Weekday.ofIndex_index (day : Weekday) : Weekday.ofIndex day.index = day := by
  cases day <;> rfl

theorem Weekday.index_injective : Function.Injective Weekday.index := by
  intro a b same
  rw [← a.ofIndex_index, same, b.ofIndex_index]

theorem Weekday.token_injective : Function.Injective Weekday.token := by
  intro a b same
  cases a <;> cases b <;> first | rfl | exact absurd same (by decide)

/-- A date is its proleptic Gregorian ordinal; day 1 is Monday, January 1 of year 1. -/
abbrev Date := Int

namespace Date

def isLeap (year : Int) : Bool := year % 4 = 0 && (year % 100 ≠ 0 || year % 400 = 0)

def daysBeforeYear (year : Int) : Int :=
  let y := year - 1
  y * 365 + y / 4 - y / 100 + y / 400

def daysInMonth (year month : Int) : Int :=
  if month = 2 then (if isLeap year then 29 else 28)
  else if month = 4 ∨ month = 6 ∨ month = 9 ∨ month = 11 then 30 else 31

def daysBeforeMonth (year month : Int) : Int :=
  [0, 31, 59, 90, 120, 151, 181, 212, 243, 273, 304, 334].getD (month - 1).toNat 0 +
    if month > 2 ∧ isLeap year = true then 1 else 0

def ofYmd (year month day : Int) : Date := daysBeforeYear year + daysBeforeMonth year month + day

/-- `_ord2ymd`: 400-, 100-, 4- and 1-year cycles, then the month by an estimate that is never too small. -/
def ymd (date : Date) : Int × Int × Int :=
  let n := date - 1
  let n400 := n / 146097
  let n := n % 146097
  let n100 := n / 36524
  let n := n % 36524
  let n4 := n / 1461
  let n := n % 1461
  let n1 := n / 365
  let n := n % 365
  let year := n400 * 400 + 1 + n100 * 100 + n4 * 4 + n1
  if n1 = 4 ∨ n100 = 4 then (year - 1, 12, 31)
  else
    let month := (n + 50) / 32
    let preceding := daysBeforeMonth year month
    if preceding > n then
      let month := month - 1
      (year, month, n - (preceding - daysInMonth year month) + 1)
    else (year, month, n - preceding + 1)

def year (date : Date) : Int := date.ymd.1

def month (date : Date) : Int := date.ymd.2.1

def isoweekday (date : Date) : Weekday := .ofIndex ((date - 1) % 7).toNat

def padded (width : Nat) (value : Int) : String :=
  let digits := toString value.toNat
  String.ofList (List.replicate (width - digits.length) '0') ++ digits

def isoformat (date : Date) : String :=
  let (year, month, day) := date.ymd
  padded 4 year ++ "-" ++ padded 2 month ++ "-" ++ padded 2 day

/-- `_isoweek1monday`: the Monday of the ISO week that holds the year's first Thursday. -/
def isoWeek1Monday (year : Int) : Date :=
  let firstday := ofYmd year 1 1
  let firstweekday := (firstday + 6) % 7
  let week1monday := firstday - firstweekday
  if firstweekday > 3 then week1monday + 7 else week1monday

def isocalendar (date : Date) : Int × Int :=
  let week := (date - isoWeek1Monday date.year) / 7
  if week < 0 then (date.year - 1, (date - isoWeek1Monday (date.year - 1)) / 7 + 1)
  else if week ≥ 52 ∧ date ≥ isoWeek1Monday (date.year + 1) then (date.year + 1, 1)
  else (date.year, week + 1)

end Date

/-- An instant, in microseconds since the Unix epoch, UTC. -/
abbrev Instant := Int

def second : Int := 1000000

/-- A time zone is its UTC offset, in microseconds, at every instant. -/
structure ZoneInfo where
  utcoffset : Instant → Int

def utc : ZoneInfo := ⟨fun _ => 0⟩

def epochOrdinal : Int := 719163

structure CanonicalStamp where
  day : Date
  isoYear : Int
  isoWeek : Int
  monthYear : Int
  month : Int
  deriving DecidableEq, Repr

def localDate (instant : Instant) (tz : ZoneInfo) : Date :=
  (instant + tz.utcoffset instant) / (86400 * second) + epochOrdinal

def canonicalStamp (instant : Instant) (tz : ZoneInfo) : CanonicalStamp :=
  let day := localDate instant tz
  { day
    isoYear := day.isocalendar.1
    isoWeek := day.isocalendar.2
    monthYear := day.year
    month := day.month }

def CanonicalStamp.dayStr (stamp : CanonicalStamp) : String := stamp.day.isoformat

theorem Date.isoformat_ne_empty (date : Date) : date.isoformat ≠ "" := by
  intro blank
  have width := congrArg String.length blank
  simp only [Date.isoformat, String.length_append] at width
  have dash : "-".length = 1 := rfl
  have none : "".length = 0 := rfl
  omega

def daysInIsoWeek (anyDayInWeek : Date) : List Date :=
  let monday := anyDayInWeek - anyDayInWeek.isoweekday.index
  (List.range 7).map fun i => monday + i

def monthBounds (anyDayInMonth : Date) : Date × Date :=
  let year := anyDayInMonth.year
  let month := anyDayInMonth.month
  let nextMonthFirst := if month = 12 then Date.ofYmd (year + 1) 1 1 else Date.ofYmd year (month + 1) 1
  (Date.ofYmd year month 1, nextMonthFirst - 1)

example : Date.isoformat 719163 = "1970-01-01" := by decide

example : (canonicalStamp 1798761600000000 utc).dayStr = "2027-01-01" := by decide

end TimekprModel
