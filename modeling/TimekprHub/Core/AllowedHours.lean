import Mathlib.Data.Finmap

namespace TimekprModel

structure TimeInterval where
  startMin : Int
  endMin : Int
  unaccounted : Bool := false
  ordered : 0 ≤ startMin ∧ startMin < endMin ∧ endMin ≤ 24 * 60
  deriving DecidableEq, Repr

structure HourRecord where
  hour : Int
  startMin : Int
  endMin : Int
  unaccounted : Bool := false
  deriving DecidableEq, Repr

def unrestricted : List TimeInterval := [{ startMin := 0, endMin := 24 * 60, ordered := by decide }]

def hoursOf (interval : TimeInterval) : List HourRecord :=
  let firstHour := interval.startMin / 60
  let lastHour := (interval.endMin - 1) / 60
  (List.range (lastHour + 1 - firstHour).toNat).map fun k =>
    let hour := firstHour + k
    { hour
      startMin := max (interval.startMin - hour * 60) 0
      endMin := min (interval.endMin - hour * 60) 60
      unaccounted := interval.unaccounted }

def intervalsToHours (intervals : List TimeInterval) : List HourRecord := intervals.flatMap hoursOf

/-- Two intervals that overlap, or that touch the same clock hour. -/
inductive IntervalConflict
  | overlap (first second : TimeInterval)
  | sameHour (first second : TimeInterval) (hour : Int)
  deriving DecidableEq, Repr

/-- Only neighbours in the order of their starts are compared. -/
def validateIntervals (intervals : List TimeInterval) : Except IntervalConflict Unit :=
  let ordered := intervals.mergeSort fun a b => a.startMin ≤ b.startMin
  (ordered.zip ordered.tail).forM fun (a, b) =>
    if b.startMin < a.endMin then .error (.overlap a b)
    else if (a.endMin - 1) / 60 = b.startMin / 60 then .error (.sameHour a b ((a.endMin - 1) / 60))
    else .ok ()

def twoDigits (n : Int) : String := if 0 ≤ n ∧ n < 10 then "0" ++ toString n else toString n

def fmtMinutes (totalMin : Int) : String := twoDigits (totalMin / 60) ++ ":" ++ twoDigits (totalMin % 60)

def TimeInterval.text (interval : TimeInterval) : String :=
  fmtMinutes interval.startMin ++ "–" ++ fmtMinutes interval.endMin

def IntervalConflict.message : IntervalConflict → String
  | overlap first second => first.text ++ " overlaps " ++ second.text
  | sameHour first second hour =>
    first.text ++ " and " ++ second.text ++ " both touch the " ++ twoDigits hour ++
      ":00 hour — timekpr can only store one window per clock hour; the second window must start at the top " ++
      "of the next hour"

def TimeInterval.ofBounds (startMin endMin : Int) : Except String TimeInterval :=
  if ordered : 0 ≤ startMin ∧ startMin < endMin ∧ endMin ≤ 24 * 60 then
    .ok { startMin, endMin, ordered }
  else .error ("invalid interval [" ++ toString startMin ++ ", " ++ toString endMin ++ ")")

/-- One value of the dict `setAllowedHours` takes: STARTMIN, ENDMIN and UACC. -/
structure HourWindow where
  startMin : Int
  endMin : Int
  uacc : Bool
  deriving DecidableEq, Repr

abbrev HourDict := Finmap (fun _ : Int => HourWindow)

def HourRecord.window (record : HourRecord) : HourWindow :=
  { startMin := record.startMin, endMin := record.endMin, uacc := record.unaccounted }

/-- A later record for the same hour replaces an earlier one. -/
def hoursToDbusPayload (records : List HourRecord) : HourDict :=
  records.foldl (fun hours record => hours.insert record.hour record.window) ∅

end TimekprModel
