import TimekprHub.Core.Calendar
import TimekprHub.Library.PyJson

namespace TimekprModel

/-- A Python `datetime`: its wall clock in microseconds since 1970-01-01, and the UTC offset of an aware
    one. -/
structure Datetime where
  wall : Int
  utcoffset : Option Int
  deriving DecidableEq, Repr

namespace Datetime

/-- An aware value names an instant; the clock of a naive one is read as UTC. -/
def asUtc (value : Datetime) : Instant := value.wall - value.utcoffset.getD 0

def aware (value : Datetime) : Bool := value.utcoffset.isSome

/-- `a <= b`; a naive and an aware value do not compare. -/
def le (a b : Datetime) : Except PyException Bool :=
  if a.aware = b.aware then .ok (a.asUtc ≤ b.asUtc) else .error .typeError

def since (value : Datetime) (now : Instant) : Except PyException Int :=
  if value.aware then .ok (now - value.asUtc) else .error .typeError

end Datetime

namespace IsoFormat

def digitsValue (digits : List Char) : Nat :=
  digits.foldl (fun value c => value * 10 + (c.toNat - '0'.toNat)) 0

def readDigits (count : Nat) (text : List Char) : Option (Int × List Char) :=
  let digits := text.take count
  if digits.length = count ∧ digits.all Char.isDigit then some (digitsValue digits, text.drop count)
  else none

/-- The separator stands between two fields exactly where it was used before. -/
def skipSeparator (separator : Char) (used : Bool) : List Char → Option (List Char)
  | [] => if used then none else some []
  | c :: rest =>
    if used then
      if c = separator then some rest else none
    else some (c :: rest)

def readMonthDay (year : Int) (dashed : Bool) (text : List Char) : Option Date := do
  let (month, rest) ← readDigits 2 text
  let rest ← skipSeparator '-' dashed rest
  let (day, rest) ← readDigits 2 rest
  if rest = [] ∧ 1 ≤ year ∧ 1 ≤ month ∧ month ≤ 12 ∧ 1 ≤ day ∧ day ≤ Date.daysInMonth year month then
    some (Date.ofYmd year month day)
  else none

def maxOrdinal : Int := 3652059

def weeksInYear (year : Int) : Int :=
  let first := Date.isoweekday (Date.ofYmd year 1 1)
  if first = .thursday ∨ first = .wednesday ∧ Date.isLeap year = true then 53 else 52

def ofIsoWeek (year week weekday : Int) : Option Date :=
  let date := Date.isoWeek1Monday year + (week - 1) * 7 + (weekday - 1)
  if 1 ≤ year ∧ 1 ≤ week ∧ week ≤ weeksInYear year ∧ 1 ≤ weekday ∧ weekday ≤ 7 ∧ 1 ≤ date ∧
      date ≤ maxOrdinal then
    some date
  else none

def readWeekday (dashed : Bool) : List Char → Option Int
  | [] => some 1
  | text => do
    let rest ← skipSeparator '-' dashed text
    let (weekday, rest) ← readDigits 1 rest
    if rest = [] then some weekday else none

def readWeekDate (year : Int) (dashed : Bool) (text : List Char) : Option Date := do
  let (week, rest) ← readDigits 2 text
  let weekday ← readWeekday dashed rest
  ofIsoWeek year week weekday

/-- The whole text has to be the date; CPython leaves what follows eight undashed digits unread. -/
def readDate (text : List Char) : Option Date := do
  let (year, rest) ← readDigits 4 text
  match rest with
  | '-' :: 'W' :: rest => readWeekDate year true rest
  | '-' :: rest => readMonthDay year true rest
  | 'W' :: rest => readWeekDate year false rest
  | rest => readMonthDay year false rest

structure Clock where
  hour : Int
  minute : Int := 0
  second : Int := 0
  microsecond : Int := 0

def Clock.microseconds (clock : Clock) : Int :=
  (clock.hour * 3600 + clock.minute * 60 + clock.second) * TimekprModel.second + clock.microsecond

/-- Six digits of the fraction count. -/
def readFraction : List Char → Option Int
  | [] => some 0
  | mark :: digits =>
    if (mark = '.' ∨ mark = ',') ∧ digits ≠ [] ∧ digits.all Char.isDigit then
      some (digitsValue ((digits ++ List.replicate 6 '0').take 6))
    else none

def readSeconds (hour minute : Int) (colons : Bool) : List Char → Option Clock
  | [] => some { hour, minute }
  | text => do
    let rest ← skipSeparator ':' colons text
    let (second, rest) ← readDigits 2 rest
    let microsecond ← readFraction rest
    return { hour, minute, second, microsecond }

def readMinutes (hour : Int) : List Char → Option Clock
  | [] => some { hour }
  | text => do
    let colons := text.head? = some ':'
    let rest ← skipSeparator ':' colons text
    let (minute, rest) ← readDigits 2 rest
    readSeconds hour minute colons rest

def readClock (text : List Char) : Option Clock := do
  let (hour, rest) ← readDigits 2 text
  readMinutes hour rest

/-- An offset is less than a day; its fields are not checked one by one. -/
def readOffset (text : List Char) : Option Int := do
  let clock ← readClock text
  if clock.microseconds < 86400 * second then some clock.microseconds else none

def readZone : List Char → Option (Option Int)
  | [] => some none
  | ['Z'] => some (some 0)
  | '+' :: text => (readOffset text).map some
  | '-' :: text => (readOffset text).map fun offset => some (-offset)
  | _ => none

def opensZone (c : Char) : Bool := c = '+' || c = '-' || c = 'Z'

def readTime (text : List Char) : Option (Int × Option Int) := do
  let clock ← readClock (text.takeWhile fun c => !opensZone c)
  let zone ← readZone (text.dropWhile fun c => !opensZone c)
  if clock.hour < 24 ∧ clock.minute < 60 ∧ clock.second < 60 then some (clock.microseconds, zone) else none

def isDigitAt (text : List Char) (position : Nat) : Bool := text[position]?.any Char.isDigit

/-- Where the date ends. Any character may separate it from the time, so a week date is told from the
    digits after it. -/
def separatorLocation (text : List Char) : Nat :=
  if text.length = 7 then 7
  else if text[4]? = some '-' then
    if text[5]? = some 'W' then
      if text[8]? = some '-' then
        if isDigitAt text 10 then 8 else 10
      else 8
    else 10
  else if text[4]? = some 'W' then
    let digits := 7 + ((text.drop 7).takeWhile Char.isDigit).length
    if digits < 9 then digits
    else if digits % 2 = 0 then 7 else 8
  else 8

def midnight (date : Date) : Int := (date - epochOrdinal) * (86400 * second)

def readDatetime (text : List Char) : Option Datetime := do
  let location := separatorLocation text
  let date ← readDate (text.take location)
  match text.drop location with
  | [] => return ⟨midnight date, none⟩
  | _ :: rest =>
    let (time, zone) ← readTime rest
    return ⟨midnight date + time, zone⟩

end IsoFormat

/-- The ISO 8601 forms with a complete date that it documents; the rest is a ValueError. CPython also reads a
    few malformed clocks, with a fraction of minutes or one stray character before the offset. -/
def fromisoformat (text : String) : Except PyException Datetime :=
  match IsoFormat.readDatetime text.toList with
  | none => .error .valueError
  | some value => .ok value

example : fromisoformat "2026-01-01T10:00:00.5+02:00" = .ok ⟨1767261600500000, some 7200000000⟩ := by decide

example : fromisoformat "yesterday" = .error .valueError := by decide

end TimekprModel
