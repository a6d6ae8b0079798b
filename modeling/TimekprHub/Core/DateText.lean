import TimekprHub.Core.CalendarWindows
import TimekprHub.Core.Timestamps
import TimekprHub.Library.PyText

namespace TimekprModel

def DayShaped (text : List Char) : Prop :=
  ∃ year month day, text = year ++ '-' :: (month ++ '-' :: day) ∧ year.length = 4 ∧ month.length = 2 ∧ day.length = 2

end TimekprModel

namespace TimekprProof

open TimekprModel TimekprModel.Date TimekprModel.IsoFormat TimekprProof.Calendar

section Digits

theorem digitsValue_eq (digits : List Char) : digitsValue digits = Nat.ofDigitChars 10 digits 0 := by
  unfold digitsValue Nat.ofDigitChars
  simp only [Nat.mul_comm]

theorem digitsValue_concat (digits : List Char) (c : Char) :
    digitsValue (digits ++ [c]) = digitsValue digits * 10 + (c.toNat - '0'.toNat) := by
  unfold digitsValue
  rw [List.foldl_append]
  rfl

theorem digitsValue_lt {digits : List Char} (plain : digits.all Char.isDigit = true) :
    digitsValue digits < 10 ^ digits.length := by
  induction digits using List.reverseRecOn with
  | nil => decide
  | append_singleton digits c ih =>
    rw [List.all_append, Bool.and_eq_true] at plain
    have before := ih plain.1
    have value := @PyText.isDigit_bounds c (by simpa using plain.2)
    have zero : '0'.toNat = 48 := rfl
    rw [digitsValue_concat, List.length_append, List.length_singleton, Nat.pow_succ]
    omega

theorem digitsValue_injective {digits others : List Char} (plain : digits.all Char.isDigit = true)
    (plain' : others.all Char.isDigit = true) (long : digits.length = others.length)
    (same : digitsValue digits = digitsValue others) : digits = others := by
  induction digits using List.reverseRecOn generalizing others with
  | nil =>
    rw [List.length_nil] at long
    exact (List.length_eq_zero_iff.mp long.symm).symm
  | append_singleton digits c ih =>
    rcases List.eq_nil_or_concat others with rfl | ⟨others, c', rfl⟩
    · simp at long
    · rw [List.concat_eq_append] at *
      rw [List.all_append, Bool.and_eq_true] at plain plain'
      have value := @PyText.isDigit_bounds c (by simpa using plain.2)
      have value' := @PyText.isDigit_bounds c' (by simpa using plain'.2)
      have zero : '0'.toNat = 48 := rfl
      rw [digitsValue_concat, digitsValue_concat] at same
      have first := ih plain.1 plain'.1 (by simpa using long) (by omega)
      have final : c = c' := Char.toNat_inj.mp (by omega)
      rw [first, final]

theorem padded_toList (width : Nat) (value : Int) :
    (padded width value).toList =
      List.replicate (width - (Nat.toDigits 10 value.toNat).length) '0' ++ Nat.toDigits 10 value.toNat := by
  have digits : (toString value.toNat).toList = Nat.toDigits 10 value.toNat := Nat.toList_repr
  unfold padded
  dsimp only
  rw [String.toList_append, String.toList_ofList, digits, ← String.length_toList, digits]

theorem padded_digits {width : Nat} (wide : 0 < width) {value : Int} (nonneg : 0 ≤ value)
    (below : value < 10 ^ width) :
    (padded width value).toList.length = width ∧ (padded width value).toList.all Char.isDigit = true ∧
      (digitsValue (padded width value).toList : Int) = value := by
  have fits : (Nat.toDigits 10 value.toNat).length ≤ width := by
    rw [Nat.length_toDigits_le_iff (by decide) wide]
    have power : ((10 ^ width : Nat) : Int) = 10 ^ width := by push_cast; rfl
    omega
  rw [padded_toList]
  refine ⟨?_, ?_, ?_⟩
  · rw [List.length_append, List.length_replicate]
    omega
  · rw [List.all_append, Bool.and_eq_true]
    constructor
    · simp [Char.isDigit]
    · rw [List.all_eq_true]
      intro c listed
      exact Nat.isDigit_of_mem_toDigits (by decide) (by decide) listed
  · rw [digitsValue_eq, Nat.ofDigitChars_append, Nat.ofDigitChars_replicate_zero, Nat.mul_zero,
      Nat.ofDigitChars_ten_toDigits]
    omega

theorem readDigits_iff {width : Nat} (wide : 0 < width) {text rest : List Char} {value : Int} :
    readDigits width text = some (value, rest) ↔
      (0 ≤ value ∧ value < 10 ^ width) ∧ text = (padded width value).toList ++ rest := by
  unfold readDigits
  dsimp only
  constructor
  · intro read
    split at read
    · rename_i plain
      rw [Option.some.injEq, Prod.mk.injEq] at read
      obtain ⟨rfl, rfl⟩ := read
      have below := digitsValue_lt plain.2
      rw [plain.1] at below
      have below' : (digitsValue (text.take width) : Int) < 10 ^ width := by exact_mod_cast below
      obtain ⟨long, digits, value⟩ := padded_digits wide (Int.natCast_nonneg _) below'
      have same := digitsValue_injective digits plain.2 (long.trans plain.1.symm) (by exact_mod_cast value)
      refine ⟨⟨Int.natCast_nonneg _, below'⟩, ?_⟩
      rw [same, List.take_append_drop]
    · cases read
  · intro ⟨⟨nonneg, below⟩, split⟩
    obtain ⟨long, digits, value_eq⟩ := padded_digits wide nonneg below
    have taken : text.take width = (padded width value).toList := by
      rw [split, List.take_left' long]
    have dropped : text.drop width = rest := by rw [split, List.drop_left' long]
    rw [taken, if_pos ⟨long, digits⟩, dropped, value_eq]

end Digits

section Calendar

theorem ofYmd_within {year month day : Int} (months : 1 ≤ month ∧ month ≤ 12)
    (days : 1 ≤ day ∧ day ≤ daysInMonth year month) :
    Brackets.Within newMonth (12 * year + (month - 1)) (ofYmd year month day) := by
  have sameYear : (12 * year + (month - 1)) / 12 = year := by omega
  have sameMonth : (12 * year + (month - 1)) % 12 + 1 = month := by omega
  have first : newMonth (12 * year + (month - 1)) = daysBeforeYear year + daysBeforeMonth year month + 1 := by
    rw [newMonth, sameYear, sameMonth]
  unfold Brackets.Within
  rw [newMonth_succ, sameYear, sameMonth, first]
  show daysBeforeYear year + daysBeforeMonth year month + 1 ≤ daysBeforeYear year + daysBeforeMonth year month + day ∧
    daysBeforeYear year + daysBeforeMonth year month + day < _
  omega

theorem ymd_ofYmd {year month day : Int} (months : 1 ≤ month ∧ month ≤ 12)
    (days : 1 ≤ day ∧ day ≤ daysInMonth year month) : (ofYmd year month day).ymd = (year, month, day) := by
  obtain ⟨ownMonths, ownDays, back⟩ := ymd_spec (ofYmd year month day)
  have number := Brackets.unique newMonth_strictMono (within_month (ofYmd year month day)) (ofYmd_within months days)
  obtain ⟨date, named⟩ : ∃ date, date = ofYmd year month day := ⟨_, rfl⟩
  rw [← named] at ownMonths ownDays back number ⊢
  have counted : 12 * date.ymd.1 + (date.ymd.2.1 - 1) = 12 * year + (month - 1) := number
  have sameYear : date.ymd.1 = year := by omega
  have sameMonth : date.ymd.2.1 = month := by omega
  have total : @Eq Int (daysBeforeYear date.ymd.1 + daysBeforeMonth date.ymd.1 date.ymd.2.1 + date.ymd.2.2)
      (daysBeforeYear year + daysBeforeMonth year month + day) := back.trans named
  rw [sameYear, sameMonth] at total
  have sameDay : date.ymd.2.2 = day := by omega
  rw [← sameYear, ← sameMonth, ← sameDay]

theorem isoformat_toList (date : Date) :
    date.isoformat.toList = (padded 4 date.ymd.1).toList ++ '-' ::
      ((padded 2 date.ymd.2.1).toList ++ '-' :: (padded 2 date.ymd.2.2).toList) := by
  have dash : "-".toList = ['-'] := rfl
  unfold isoformat
  dsimp only
  simp only [String.toList_append, List.append_assoc, dash, List.cons_append, List.nil_append]

end Calendar

section DayTexts

theorem readMonthDay_iff {year : Int} {text : List Char} {date : Date} :
    readMonthDay year true text = some date ↔ ∃ month day : Int,
      text = (padded 2 month).toList ++ '-' :: (padded 2 day).toList ∧
      1 ≤ year ∧ (1 ≤ month ∧ month ≤ 12) ∧ (1 ≤ day ∧ day ≤ daysInMonth year month) ∧
      ofYmd year month day = date := by
  have month_days (month : Int) : daysInMonth year month ≤ 31 := by
    unfold daysInMonth
    split
    · split <;> omega
    · split <;> omega
  unfold readMonthDay
  simp only [Option.bind_eq_bind, Option.bind_eq_some_iff]
  constructor
  · rintro ⟨⟨month, afterMonth⟩, readMonth, afterDash, dash, ⟨day, rest⟩, readDay, checked⟩
    dsimp only at readMonth dash readDay checked
    split at checked
    · rename_i valid
      obtain ⟨blank, years, low, high, first, final⟩ := valid
      have monthText := ((readDigits_iff (by decide : 0 < 2)).mp readMonth).2
      have dayText := ((readDigits_iff (by decide : 0 < 2)).mp readDay).2
      cases afterMonth with
      | nil => cases dash
      | cons c tail =>
        simp only [skipSeparator, if_true] at dash
        split at dash
        · rename_i dashed
          rw [Option.some.injEq] at dash checked
          refine ⟨month, day, ?_, years, ⟨low, high⟩, ⟨first, final⟩, checked⟩
          rw [monthText, dashed, dash, dayText, blank, List.append_nil]
        · cases dash
    · cases checked
  · rintro ⟨month, day, split, years, months, days, named⟩
    have bound := month_days month
    have readMonth := (readDigits_iff (by decide : 0 < 2)).mpr
      ⟨⟨by omega, by omega⟩, split⟩
    have readDay : readDigits 2 (padded 2 day).toList = some (day, []) :=
      (readDigits_iff (by decide : 0 < 2)).mpr ⟨⟨by omega, by omega⟩, (List.append_nil _).symm⟩
    refine ⟨(month, '-' :: (padded 2 day).toList), readMonth, (padded 2 day).toList, ?_, (day, []), readDay, ?_⟩
    · simp [skipSeparator]
    · dsimp only
      rw [if_pos ⟨rfl, years, months.1, months.2, days⟩, named]

theorem readDate_dashed {year : Int} (nonneg : 0 ≤ year) (below : year < 10 ^ 4) {c : Char} (noWeek : c ≠ 'W')
    (rest : List Char) :
    readDate ((padded 4 year).toList ++ '-' :: c :: rest) = readMonthDay year true (c :: rest) := by
  have read : readDigits 4 ((padded 4 year).toList ++ '-' :: c :: rest) = some (year, '-' :: c :: rest) :=
    (readDigits_iff (by decide : 0 < 4)).mpr ⟨⟨nonneg, below⟩, rfl⟩
  unfold readDate
  rw [read]
  simp only [Option.bind_eq_bind, Option.bind_some]
  have week : ∀ tail, '-' :: c :: rest ≠ '-' :: 'W' :: tail := by
    intro tail same
    rw [List.cons.injEq, List.cons.injEq] at same
    exact noWeek same.2.1
  split
  · rename_i same
    exact absurd same (week _)
  · rename_i same
    rw [List.cons.injEq] at same
    rw [same.2]
  · rename_i same
    rw [List.cons.injEq] at same
    exact absurd same.1 (by decide)
  · rename_i noDash _
    exact absurd rfl (noDash (c :: rest))

theorem readWeekDate_shape (year : Int) (c : Char) (rest : List Char) :
    readWeekDate year true (c :: '-' :: rest) = none := by
  have unread : readDigits 2 (c :: '-' :: rest) = none := by
    unfold readDigits
    simp [Char.isDigit]
  unfold readWeekDate
  rw [unread]
  rfl

theorem readDate_week {year : Int} (nonneg : 0 ≤ year) (below : year < 10 ^ 4) (rest : List Char) :
    readDate ((padded 4 year).toList ++ '-' :: 'W' :: rest) = readWeekDate year true rest := by
  have read : readDigits 4 ((padded 4 year).toList ++ '-' :: 'W' :: rest) = some (year, '-' :: 'W' :: rest) :=
    (readDigits_iff (by decide : 0 < 4)).mpr ⟨⟨nonneg, below⟩, rfl⟩
  unfold readDate
  rw [read]
  rfl

theorem padded_two {value : Int} (nonneg : 0 ≤ value) (below : value < 10 ^ 2) :
    ∃ c d, (padded 2 value).toList = [c, d] ∧ c ≠ 'W' := by
  obtain ⟨long, digits, _⟩ := padded_digits (by decide : 0 < 2) nonneg below
  obtain ⟨c, d, text⟩ := List.length_eq_two.mp long
  rw [text] at digits
  refine ⟨c, d, text, ?_⟩
  rintro rfl
  simp [Char.isDigit] at digits

/-- Of the texts of the form the admin API asks for, those are read that are the `isoformat` of a date, and they
    are read as that date. -/
theorem day_text_iff {year month day : List Char} (fourYear : year.length = 4) (twoMonth : month.length = 2)
    (date : Date) :
    readDate (year ++ '-' :: (month ++ '-' :: day)) = some date ↔
      date.Representable ∧ date.isoformat.toList = year ++ '-' :: (month ++ '-' :: day) := by
  constructor
  · intro read
    cases readYear : readDigits 4 (year ++ '-' :: (month ++ '-' :: day)) with
    | none =>
      rw [readDate, readYear] at read
      cases read
    | some result =>
      obtain ⟨number, rest⟩ := result
      obtain ⟨⟨nonneg, below⟩, split⟩ := (readDigits_iff (by decide : 0 < 4)).mp readYear
      have long := (padded_digits (by decide : 0 < 4) nonneg below).1
      obtain ⟨sameYear, _⟩ := List.append_inj split (fourYear.trans long.symm)
      obtain ⟨c, d, sameMonth⟩ := List.length_eq_two.mp twoMonth
      have shape : month ++ '-' :: day = c :: d :: '-' :: day := by
        rw [sameMonth]
        rfl
      rw [sameYear, shape] at read
      by_cases week : c = 'W'
      · rw [week, readDate_week nonneg below, readWeekDate_shape] at read
        cases read
      · rw [readDate_dashed nonneg below week, readMonthDay_iff] at read
        obtain ⟨m, n, text, years, months, days, named⟩ := read
        have fields := ymd_ofYmd months days
        rw [named] at fields
        refine ⟨?_, ?_⟩
        · show 1 ≤ date.ymd.1 ∧ date.ymd.1 ≤ 9999
          rw [fields]
          dsimp only
          omega
        · rw [isoformat_toList, fields, sameYear, shape, text]
  · intro ⟨years, text⟩
    obtain ⟨months, days, named⟩ := ymd_spec date
    have yearLow : 1 ≤ date.ymd.1 := years.1
    have yearHigh : date.ymd.1 ≤ 9999 := years.2
    obtain ⟨c, d, monthText, noWeek⟩ :=
      padded_two (by omega : 0 ≤ date.ymd.2.1) (by omega : date.ymd.2.1 < 10 ^ 2)
    rw [← text, isoformat_toList, monthText]
    show readDate ((padded 4 date.ymd.1).toList ++ '-' :: c :: (d :: '-' :: (padded 2 date.ymd.2.2).toList)) = _
    rw [readDate_dashed (by omega) (by omega) noWeek, readMonthDay_iff]
    refine ⟨date.ymd.2.1, date.ymd.2.2, ?_, yearLow, months, days, named⟩
    rw [monthText]
    rfl

theorem representable_iff {date : Date} : date.Representable ↔ (1 : Int) ≤ date ∧ date ≤ maxOrdinal := by
  have first : newYear 1 = 1 := newYear_first
  have final : newYear (9999 + 1) = maxOrdinal + 1 := by decide
  have years := @years_within date 1 9999
  rw [first, final] at years
  constructor
  · intro inside
    obtain ⟨low, high⟩ := years.mp inside
    exact ⟨low, Int.lt_add_one_iff.mp high⟩
  · intro inside
    exact years.mpr ⟨inside.1, Int.lt_add_one_iff.mpr inside.2⟩

theorem readMonthDay_representable {year : Int} (fits : year ≤ 9999) {dashed : Bool} {text : List Char} {date : Date}
    (read : readMonthDay year dashed text = some date) : date.Representable := by
  unfold readMonthDay at read
  simp only [Option.bind_eq_bind, Option.bind_eq_some_iff] at read
  obtain ⟨⟨month, afterMonth⟩, _, afterDash, _, ⟨day, rest⟩, _, checked⟩ := read
  dsimp only at checked
  split at checked
  · rename_i valid
    obtain ⟨_, years, low, high, days⟩ := valid
    rw [Option.some.injEq] at checked
    have fields := ymd_ofYmd ⟨low, high⟩ days
    rw [checked] at fields
    show 1 ≤ date.ymd.1 ∧ date.ymd.1 ≤ 9999
    rw [fields]
    exact ⟨years, fits⟩
  · cases checked

theorem readWeekDate_representable {year : Int} {dashed : Bool} {text : List Char} {date : Date}
    (read : readWeekDate year dashed text = some date) : date.Representable := by
  unfold readWeekDate at read
  simp only [Option.bind_eq_bind, Option.bind_eq_some_iff] at read
  obtain ⟨⟨week, afterWeek⟩, _, weekday, _, checked⟩ := read
  unfold ofIsoWeek at checked
  dsimp only at checked
  split at checked
  · rename_i valid
    obtain ⟨_, _, _, _, _, low, high⟩ := valid
    rw [Option.some.injEq] at checked
    rw [checked] at low high
    exact representable_iff.mpr ⟨low, high⟩
  · cases checked

/-- Whatever form a text has, a date read from it has a text of its own. -/
theorem readDate_representable {text : List Char} {date : Date} (read : readDate text = some date) :
    date.Representable := by
  unfold readDate at read
  simp only [Option.bind_eq_bind, Option.bind_eq_some_iff] at read
  obtain ⟨⟨year, rest⟩, readYear, read⟩ := read
  have below := ((readDigits_iff (by decide : 0 < 4)).mp readYear).1.2
  have fits : year ≤ 9999 := by omega
  dsimp only at read
  split at read
  · exact readWeekDate_representable read
  · exact readMonthDay_representable fits read
  · exact readWeekDate_representable read
  · exact readMonthDay_representable fits read

theorem readDate_isoformat {date : Date} (representable : date.Representable) :
    readDate date.isoformat.toList = some date := by
  obtain ⟨months, days, _⟩ := ymd_spec date
  have yearLow : 1 ≤ date.ymd.1 := representable.1
  have yearHigh : date.ymd.1 ≤ 9999 := representable.2
  have year := (padded_digits (by decide : 0 < 4) (by omega : 0 ≤ date.ymd.1) (by omega)).1
  have month := (padded_digits (by decide : 0 < 2) (by omega : 0 ≤ date.ymd.2.1) (by omega)).1
  rw [isoformat_toList]
  exact (day_text_iff year month date).mpr ⟨representable, isoformat_toList date⟩

/-- A date read in any form is read back from its `isoformat`, and of the texts of the admin API's form nothing else
    is read as a date. -/
theorem day_text_round_trip (text : List Char) (date : Date) :
    (readDate text = some date → readDate date.isoformat.toList = some date) ∧
    (DayShaped text → (readDate text = some date ↔ date.Representable ∧ date.isoformat.toList = text)) := by
  constructor
  · intro read
    exact readDate_isoformat (readDate_representable read)
  · rintro ⟨year, month, day, rfl, fourYear, twoMonth, _⟩
    exact day_text_iff fourYear twoMonth date

end DayTexts

end TimekprProof
