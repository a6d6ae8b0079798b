import TimekprHub.Core.EffectivePolicy
import Mathlib.Logic.Denumerable
import Mathlib.Logic.Equiv.List

namespace TimekprModel

abbrev TextCode := List Nat

abbrev IntervalCode := Int × Int × Int × Bool

abbrev PlayTimeCode := Bool × Bool × Bool × List Nat × List Int × List (TextCode × TextCode)

abbrev PayloadCode :=
  Int × List Int × List (TextCode × List IntervalCode) × List Nat × Int × Int × Nat × Option TextCode ×
    Option TextCode × Bool × Bool × PlayTimeCode × TextCode

def textCode (text : String) : TextCode := text.toList.map Char.toNat

def AllowedHourInterval.code (interval : AllowedHourInterval) : IntervalCode :=
  (interval.hour, interval.startMin, interval.endMin, interval.unaccounted)

def PlayTimeActivity.code (activity : PlayTimeActivity) : TextCode × TextCode :=
  (textCode activity.mask, textCode activity.description)

def PlayTimePayload.code (playtime : PlayTimePayload) : PlayTimeCode :=
  (playtime.enabled, playtime.overrideEnabled, playtime.unaccountedIntervalsEnabled,
    playtime.allowedWeekdays.map Weekday.index, playtime.dailyLimitsS,
    playtime.activities.map PlayTimeActivity.code)

def LockoutType.index : LockoutType → Nat
  | lock => 0
  | suspend => 1
  | suspendWake => 2
  | terminate => 3
  | kill => 4
  | shutdown => 5

def hoursCode (entry : String × List AllowedHourInterval) : TextCode × List IntervalCode :=
  (textCode entry.1, entry.2.map AllowedHourInterval.code)

def PolicyPayload.code (payload : PolicyPayload) : PayloadCode :=
  (payload.version, payload.dailyLimitsS, payload.allowedHours.entries.map hoursCode,
    payload.allowedWeekdays.map Weekday.index, payload.weeklyLimitS, payload.monthlyLimitS,
    payload.lockoutType.index, payload.wakeFrom.map textCode, payload.wakeTo.map textCode,
    payload.trackInactive, payload.hideTrayIcon, payload.playtime.code, textCode payload.note)

/-- A digest without collisions, for the results that assume there are none: the payload's own number,
    as a tally. -/
def tallyDigest (payload : PolicyPayload) : String :=
  String.ofList (List.replicate (Encodable.encode payload.code) 'x')

theorem textCode_injective : Function.Injective textCode := by
  intro a b same
  have chars : Function.Injective Char.toNat := fun _ _ equal => Char.toNat_inj.mp equal
  exact String.toList_inj.mp (List.map_injective_iff.mpr chars same)

theorem AllowedHourInterval.code_injective : Function.Injective AllowedHourInterval.code := by
  intro a b same
  cases a
  cases b
  simp only [code, Prod.mk.injEq] at same
  obtain ⟨rfl, rfl, rfl, rfl⟩ := same
  rfl

theorem PlayTimeActivity.code_injective : Function.Injective PlayTimeActivity.code := by
  intro a b same
  cases a
  cases b
  simp only [code, Prod.mk.injEq, textCode_injective.eq_iff] at same
  obtain ⟨rfl, rfl⟩ := same
  rfl

theorem PlayTimePayload.code_injective : Function.Injective PlayTimePayload.code := by
  intro a b same
  cases a
  cases b
  simp only [code, Prod.mk.injEq, (List.map_injective_iff.mpr Weekday.index_injective).eq_iff,
    (List.map_injective_iff.mpr PlayTimeActivity.code_injective).eq_iff] at same
  obtain ⟨rfl, rfl, rfl, rfl, rfl, rfl⟩ := same
  rfl

theorem LockoutType.index_injective : Function.Injective LockoutType.index := by
  intro a b same
  cases a <;> cases b <;> first | rfl | cases same

theorem hoursCode_injective : Function.Injective hoursCode := by
  rintro ⟨day, intervals⟩ ⟨day', intervals'⟩ same
  simp only [hoursCode, Prod.mk.injEq, textCode_injective.eq_iff,
    (List.map_injective_iff.mpr AllowedHourInterval.code_injective).eq_iff] at same
  rw [same.1, same.2]

theorem PolicyPayload.code_injective : Function.Injective PolicyPayload.code := by
  rintro ⟨_, _, ⟨_, _⟩, _, _, _, _, _, _, _, _, _, _⟩ ⟨_, _, ⟨_, _⟩, _, _, _, _, _, _, _, _, _, _⟩ same
  simp only [code, Prod.mk.injEq, (List.map_injective_iff.mpr hoursCode_injective).eq_iff,
    (List.map_injective_iff.mpr Weekday.index_injective).eq_iff, LockoutType.index_injective.eq_iff,
    (Option.map_injective textCode_injective).eq_iff, PlayTimePayload.code_injective.eq_iff,
    textCode_injective.eq_iff] at same
  obtain ⟨rfl, rfl, rfl, rfl, rfl, rfl, rfl, rfl, rfl, rfl, rfl, rfl, rfl⟩ := same
  rfl

theorem tallyDigest_injective : Function.Injective tallyDigest := by
  intro a b same
  have counts := congrArg List.length (String.ofList_injective same)
  rw [List.length_replicate, List.length_replicate] at counts
  exact PolicyPayload.code_injective (Encodable.encode_injective counts)

end TimekprModel
