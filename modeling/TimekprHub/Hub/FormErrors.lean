import TimekprHub.Hub.EditorHours
import TimekprHub.Hub.PolicyForm

namespace TimekprModel

def FormError.httpStatus? : FormError → Option Nat
  | .invalidTime .. | .invalidHours .. | .noAllowedHours _ | .noAllowedDay | .unknownLockoutType _
  | .invalidFields _ => some 422
  | .valueError _ | .invalidRecord _ | .invalidActivity _ => none

def WholeNumberField (form : Form) (name : String) : Prop :=
  ∀ text, form name = some text → text ≠ "" → (PyText.int? text.toList).isSome = true

def HourMinuteFields (form : Form) (hName mName : String) : Prop :=
  WholeNumberField form hName ∧ WholeNumberField form mName

def DailyLimitFields (form : Form) : Prop :=
  if (form "daily_mode").getD "same" = "same" then HourMinuteFields form "daily_h" "daily_m"
  else ∀ i < 7, HourMinuteFields form ("daily_h_" ++ toString i) ("daily_m_" ++ toString i)

def CapFields (form : Form) (box hName mName : String) : Prop :=
  checkbox form box = true → HourMinuteFields form hName mName

def PlayTimeLimitFields (form : Form) : Prop :=
  ∀ i < 7, HourMinuteFields form ("pt_daily_h_" ++ toString i) ("pt_daily_m_" ++ toString i)

def ActivityLinesValid (form : Form) : Prop :=
  ∀ line ∈ activityLines ((form "pt_activities").getD ""),
    failedChecks (PlayTimeActivity.checks line.1 line.2) = []

def ReadsAsTime (value : String) (total : Int) : Prop :=
  ∃ hh mm h m, value.toList.splitOn ':' = [hh, mm] ∧ PyText.int? hh = some h ∧ PyText.int? mm = some m ∧
    h * 60 + m = total ∧ 0 ≤ total ∧ total ≤ 24 * 60

/-- The hours of a day are given: all of it, a window of two times in order, or some ticked hour. -/
def HoursGiven (form : Form) (day : Weekday) : Prop :=
  let mode := (form ("hours_mode_" ++ day.token)).getD "all"
  if mode = "all" then True
  else if mode = "between" then
    ∃ fromMin toMin, ReadsAsTime ((form ("hours_from_" ++ day.token)).getD "") fromMin ∧
      ReadsAsTime ((form ("hours_to_" ++ day.token)).getD "") toMin ∧ fromMin < toMin
  else ∃ hour, checkbox form (hourBox day hour) = true

def RefusedBeforeCaps (form : Form) : Prop :=
  (∃ day, ¬ HoursGiven form day) ∨ tickedDays form "allowed_weekday_" = [] ∨
    LockoutType.ofValue? ((form "lockout_type").getD "lock") = none

def FieldsConvert (form : Form) : Prop :=
  DailyLimitFields form ∧
    (RefusedBeforeCaps form ∨
      CapFields form "weekly_cap_enabled" "weekly_h" "weekly_m" ∧
        CapFields form "monthly_cap_enabled" "monthly_h" "monthly_m" ∧ PlayTimeLimitFields form ∧
          ActivityLinesValid form)

def UpdateOr422 (form : Form) : Prop :=
  (∃ update, parsePolicyForm form = .ok update) ∨
    ∃ error, parsePolicyForm form = .error error ∧ error.httpStatus? = some 422

end TimekprModel

namespace TimekprProof

open TimekprModel

abbrev Answered {α : Type} (computation : Except FormError α) : Prop :=
  Fallible.FailsWithin (fun error => error.httpStatus? = some 422) computation

abbrev Unanswered {α : Type} (computation : Except FormError α) : Prop :=
  Fallible.FailsWithin (fun error => ¬ error.httpStatus? = some 422) computation

theorem update_or_422 {form : Form} : UpdateOr422 form ↔ Answered (parsePolicyForm form) := by
  unfold UpdateOr422
  cases parsePolicyForm form with
  | error failure => simp
  | ok update => simp

theorem formInt_succeeds {form : Form} {name : String} :
    Fallible.Succeeds (formInt form name) ↔ WholeNumberField form name := by
  unfold formInt WholeNumberField
  cases given : form name with
  | none => exact iff_of_true (Fallible.succeeds_ok 0) (fun _ same => nomatch same)
  | some text =>
    by_cases empty : text = ""
    · subst empty
      exact iff_of_true (Fallible.succeeds_ok 0) (by simp)
    · split
      · rename_i absurdity
        cases absurdity
      · rename_i same
        cases same
        exact absurd rfl empty
      · rename_i shown _ same
        cases same
        cases read : PyText.int? text.toList with
        | none => simp [read, empty]
        | some value => simp [read]

theorem formInt_unanswered (form : Form) (name : String) :
    Unanswered (formInt form name) := by
  unfold formInt
  split
  · exact Fallible.failsWithin_ok 0
  · exact Fallible.failsWithin_ok 0
  · split
    · exact Fallible.failsWithin_ok _
    · exact Fallible.failsWithin_error.mpr (by simp [FormError.httpStatus?])

theorem hmSeconds_succeeds {form : Form} {hName mName : String} :
    Fallible.Succeeds (hmSeconds form hName mName) ↔ HourMinuteFields form hName mName := by
  unfold hmSeconds HourMinuteFields
  rw [Fallible.succeeds_bind, ← formInt_succeeds, ← formInt_succeeds]
  constructor
  · rintro ⟨h, hours, later⟩
    obtain ⟨m, minutes, _⟩ := Fallible.succeeds_bind.mp later
    exact ⟨⟨h, hours⟩, m, minutes⟩
  · rintro ⟨⟨h, hours⟩, m, minutes⟩
    exact ⟨h, hours, Fallible.succeeds_bind.mpr ⟨m, minutes, Fallible.succeeds_pure _⟩⟩

theorem hmSeconds_unanswered (form : Form) (hName mName : String) :
    Unanswered (hmSeconds form hName mName) := by
  refine Fallible.failsWithin_bind.mpr ⟨formInt_unanswered form hName, fun h _ => ?_⟩
  exact Fallible.failsWithin_bind.mpr ⟨formInt_unanswered form mName, fun m _ => Fallible.failsWithin_ok _⟩

theorem hmSeconds_answered {form : Form} {hName mName : String} :
    Answered (hmSeconds form hName mName) ↔ HourMinuteFields form hName mName :=
  (Fallible.failsWithin_iff_succeeds (hmSeconds_unanswered form hName mName)).trans hmSeconds_succeeds

section WeekLimits

variable (form : Form) (hName mName : String)

theorem weekLimits_unanswered :
    Unanswered ((List.range 7).mapM fun i => hmSeconds form (hName ++ toString i) (mName ++ toString i)) :=
  Fallible.failsWithin_mapM fun _ _ => hmSeconds_unanswered form _ _

theorem weekLimits_answered :
    Answered ((List.range 7).mapM fun i => hmSeconds form (hName ++ toString i) (mName ++ toString i)) ↔
      ∀ i < 7, HourMinuteFields form (hName ++ toString i) (mName ++ toString i) := by
  rw [Answered, Fallible.failsWithin_iff_succeeds (weekLimits_unanswered form hName mName),
    Fallible.succeeds_mapM]
  simp only [List.mem_range, hmSeconds_succeeds]

end WeekLimits

theorem dailyLimits_unanswered (form : Form) : Unanswered (parseDailyLimits form) := by
  unfold parseDailyLimits
  split
  · exact Fallible.failsWithin_bind.mpr
      ⟨hmSeconds_unanswered form "daily_h" "daily_m", fun _ _ => Fallible.failsWithin_ok _⟩
  · exact weekLimits_unanswered form "daily_h_" "daily_m_"

theorem dailyLimits_answered {form : Form} : Answered (parseDailyLimits form) ↔ DailyLimitFields form := by
  unfold parseDailyLimits DailyLimitFields
  split
  · rw [Answered, Fallible.failsWithin_bind]
    exact (and_iff_left fun _ _ => Fallible.failsWithin_ok _).trans hmSeconds_answered
  · exact weekLimits_answered form "daily_h_" "daily_m_"

theorem cap_unanswered (form : Form) (box hName mName : String) (uncapped : Int) :
    Unanswered (parseCap form box hName mName uncapped) := by
  unfold parseCap
  split
  · exact hmSeconds_unanswered form hName mName
  · exact Fallible.failsWithin_ok uncapped

theorem cap_answered {form : Form} {box hName mName : String} {uncapped : Int} :
    Answered (parseCap form box hName mName uncapped) ↔ CapFields form box hName mName := by
  unfold parseCap CapFields
  split
  · rename_i ticked
    rw [hmSeconds_answered]
    exact ⟨fun fields _ => fields, fun fields => fields ticked⟩
  · rename_i unticked
    exact iff_of_true (Fallible.failsWithin_ok uncapped) fun ticked => absurd ticked unticked

theorem activities_unanswered (form : Form) : Unanswered (parseActivities form) := by
  apply Fallible.failsWithin_mapM
  intro line _
  show Unanswered ((PlayTimeActivity.validate line.1 line.2).mapError FormError.invalidActivity)
  refine Fallible.failsWithin_mapError.mpr fun fields _ => ?_
  simp [FormError.httpStatus?]

theorem activities_answered {form : Form} : Answered (parseActivities form) ↔ ActivityLinesValid form := by
  rw [Answered, Fallible.failsWithin_iff_succeeds (activities_unanswered form), parseActivities,
    Fallible.succeeds_mapM]
  apply forall₂_congr
  rintro ⟨mask, description⟩ _
  dsimp only
  unfold PlayTimeActivity.validate
  split
  · rename_i valid
    exact iff_of_true (Fallible.succeeds_ok _) valid
  · rename_i invalid
    exact iff_of_false (Fallible.not_succeeds_error _) invalid

theorem parseTimeStr_ok {value field : String} {total : Int} :
    parseTimeStr value field = .ok total ↔ ReadsAsTime value total := by
  unfold parseTimeStr ReadsAsTime
  constructor
  · intro read
    split at read
    · rename_i hh mm parts
      split at read
      · rename_i h m hours minutes
        dsimp only at read
        split at read
        · rename_i within
          cases read
          exact ⟨hh, mm, h, m, parts, hours, minutes, rfl, within⟩
        · cases read
      · cases read
    · cases read
  · rintro ⟨hh, mm, h, m, parts, hours, minutes, rfl, within⟩
    rw [parts]
    dsimp only
    rw [hours, minutes]
    dsimp only
    rw [if_pos within]

theorem parseTimeStr_answered (value field : String) : Answered (parseTimeStr value field) := by
  unfold parseTimeStr
  split
  · split
    · dsimp only
      split
      · exact Fallible.failsWithin_ok _
      · exact Fallible.failsWithin_error.mpr rfl
    · exact Fallible.failsWithin_error.mpr rfl
  · exact Fallible.failsWithin_error.mpr rfl

theorem window_wires (window : TimeInterval) :
    ∃ intervals, wireIntervals (intervalsToHours [window]) = .ok intervals :=
  wireIntervals_succeeds fun _ => records_within

theorem dayHours_answered (form : Form) (day : Weekday) : Answered (parseDayHours form day) := by
  unfold parseDayHours
  dsimp only
  split
  · obtain ⟨intervals, wired⟩ := window_wires ⟨0, 24 * 60, false, by decide⟩
    show Answered (wireIntervals (intervalsToHours [⟨0, 24 * 60, false, by decide⟩]))
    rw [wired]
    exact Fallible.failsWithin_ok intervals
  · split
    · refine Fallible.failsWithin_bind.mpr ⟨parseTimeStr_answered _ _, fun fromMin _ => ?_⟩
      refine Fallible.failsWithin_bind.mpr ⟨parseTimeStr_answered _ _, fun toMin _ => ?_⟩
      refine Fallible.failsWithin_bind.mpr ⟨?_, fun window _ => ?_⟩
      · exact Fallible.failsWithin_mapError.mpr fun _ _ => rfl
      refine Fallible.failsWithin_bind.mpr ⟨?_, fun _ _ => ?_⟩
      · exact Fallible.failsWithin_mapError.mpr fun _ _ => rfl
      obtain ⟨intervals, wired⟩ := window_wires window
      rw [wired]
      exact Fallible.failsWithin_ok intervals
    · split
      · exact Fallible.failsWithin_error.mpr rfl
      · exact Fallible.failsWithin_ok _

theorem dayHours_given {form : Form} {day : Weekday} :
    Fallible.Succeeds (parseDayHours form day) ↔ HoursGiven form day := by
  unfold parseDayHours HoursGiven
  dsimp only
  split
  · exact iff_of_true (window_wires ⟨0, 24 * 60, false, by decide⟩) trivial
  · split
    · constructor
      · intro succeeds
        obtain ⟨fromMin, start, succeeds⟩ := Fallible.succeeds_bind.mp succeeds
        obtain ⟨toMin, stop, succeeds⟩ := Fallible.succeeds_bind.mp succeeds
        obtain ⟨window, built, _⟩ := Fallible.succeeds_bind.mp succeeds
        obtain ⟨startSame, stopSame, _⟩ := ofBounds_ok (Fallible.mapError_ok built)
        have ordered := window.ordered
        exact ⟨fromMin, toMin, parseTimeStr_ok.mp start, parseTimeStr_ok.mp stop, by omega⟩
      · rintro ⟨fromMin, toMin, start, stop, order⟩
        have low : 0 ≤ fromMin := by
          obtain ⟨_, _, _, _, _, _, _, _, within⟩ := start
          exact within.1
        have high : toMin ≤ 24 * 60 := by
          obtain ⟨_, _, _, _, _, _, _, _, within⟩ := stop
          exact within.2
        have built : TimeInterval.ofBounds fromMin toMin = .ok ⟨fromMin, toMin, false, low, order, high⟩ := by
          unfold TimeInterval.ofBounds
          rw [dif_pos ⟨low, order, high⟩]
        refine Fallible.succeeds_bind.mpr ⟨fromMin, parseTimeStr_ok.mpr start, ?_⟩
        refine Fallible.succeeds_bind.mpr ⟨toMin, parseTimeStr_ok.mpr stop, ?_⟩
        refine Fallible.succeeds_bind.mpr ⟨⟨fromMin, toMin, false, low, order, high⟩, by rw [built]; rfl, ?_⟩
        refine Fallible.succeeds_bind.mpr ⟨(), by rw [validate_single]; rfl, ?_⟩
        exact window_wires _
    · split
      · rename_i none
        refine iff_of_false (Fallible.not_succeeds_error _) ?_
        rintro ⟨hour, ticked⟩
        exact (List.filter_eq_nil_iff.mp none) hour (List.mem_finRange hour) ticked
      · rename_i some
        refine iff_of_true (Fallible.succeeds_ok _) ?_
        obtain ⟨hour, listed⟩ := List.exists_mem_of_ne_nil _ some
        exact ⟨hour, (List.mem_filter.mp listed).2⟩

theorem allowedHours_answered (form : Form) : Answered (parseAllowedHours form) := by
  apply Fallible.failsWithin_mapM
  intro day _
  exact Fallible.failsWithin_map.mpr (dayHours_answered form day)

theorem allowedHours_given {form : Form} :
    Fallible.Succeeds (parseAllowedHours form) ↔ ∀ day, HoursGiven form day := by
  rw [parseAllowedHours, Fallible.succeeds_mapM]
  constructor
  · intro each day
    obtain ⟨entry, read⟩ := each day day.mem_tokens
    obtain ⟨hours, parsed, _⟩ := Fallible.map_ok read
    exact dayHours_given.mp ⟨hours, parsed⟩
  · intro given day _
    obtain ⟨hours, parsed⟩ := dayHours_given.mpr (given day)
    exact ⟨(day.token, hours), by rw [parsed]; rfl⟩

theorem lockoutType_answered (form : Form) : Answered (parseLockoutType form) := by
  unfold parseLockoutType
  dsimp only
  split
  · exact Fallible.failsWithin_ok _
  · exact Fallible.failsWithin_error.mpr rfl

theorem lockoutType_known {form : Form} :
    Fallible.Succeeds (parseLockoutType form) ↔
      ¬ LockoutType.ofValue? ((form "lockout_type").getD "lock") = none := by
  unfold parseLockoutType
  dsimp only
  cases LockoutType.ofValue? ((form "lockout_type").getD "lock") with
  | none => exact iff_of_false (Fallible.not_succeeds_error _) (by simp)
  | some lockoutType => exact iff_of_true (Fallible.succeeds_ok lockoutType) (by simp)

theorem not_refused_iff {form : Form} :
    ¬ RefusedBeforeCaps form ↔ Fallible.Succeeds (parseAllowedHours form) ∧
      ¬ tickedDays form "allowed_weekday_" = [] ∧ Fallible.Succeeds (parseLockoutType form) := by
  rw [allowedHours_given, lockoutType_known, RefusedBeforeCaps]
  push Not
  rfl

theorem parsePolicyForm_answered (form : Form) : Answered (parsePolicyForm form) ↔ DailyLimitFields form ∧
    (Fallible.Succeeds (parseAllowedHours form) → ¬ tickedDays form "allowed_weekday_" = [] →
      Fallible.Succeeds (parseLockoutType form) →
        CapFields form "weekly_cap_enabled" "weekly_h" "weekly_m" ∧
          CapFields form "monthly_cap_enabled" "monthly_h" "monthly_m" ∧ PlayTimeLimitFields form ∧
            ActivityLinesValid form ∧ True) := by
  rw [← dailyLimits_answered]
  refine Fallible.failsWithin_bind_unexpected (dailyLimits_unanswered form) fun daily => ?_
  refine Fallible.failsWithin_bind_expected (allowedHours_answered form) fun hours => ?_
  by_cases none : tickedDays form "allowed_weekday_" = []
  · simp only [none, if_true]
    exact iff_of_true (Fallible.failsWithin_error.mpr rfl) fun some => absurd trivial some
  simp only [none, if_false, not_false_eq_true, true_imp_iff]
  refine Fallible.failsWithin_bind_expected (lockoutType_answered form) fun lockout => ?_
  rw [← cap_answered, ← cap_answered, ← activities_answered]
  refine Fallible.failsWithin_bind_unexpected (cap_unanswered form _ _ _ _) fun weekly => ?_
  refine Fallible.failsWithin_bind_unexpected (cap_unanswered form _ _ _ _) fun monthly => ?_
  rw [PlayTimeLimitFields, ← weekLimits_answered form "pt_daily_h_" "pt_daily_m_"]
  refine Fallible.failsWithin_bind_unexpected (weekLimits_unanswered form _ _) fun limits => ?_
  refine Fallible.failsWithin_bind_unexpected (activities_unanswered form) fun activities => ?_
  refine iff_true_intro (Fallible.failsWithin_bind.mpr ⟨?_, fun playtime _ => ?_⟩)
  · exact Fallible.failsWithin_mapError.mpr fun _ _ => rfl
  · exact Fallible.failsWithin_mapError.mpr fun _ _ => rfl

/-- A bad form is a 422, never a server error, exactly when its fields convert. -/
theorem bad_form_is_422_iff (form : Form) : UpdateOr422 form ↔ FieldsConvert form := by
  rw [update_or_422, parsePolicyForm_answered, FieldsConvert]
  by_cases refused : RefusedBeforeCaps form
  · have early : ¬ (Fallible.Succeeds (parseAllowedHours form) ∧
        ¬ tickedDays form "allowed_weekday_" = [] ∧ Fallible.Succeeds (parseLockoutType form)) :=
      fun all => not_refused_iff.mpr all refused
    exact and_congr_right fun _ => iff_of_true
      (fun hours some lockout => absurd ⟨hours, some, lockout⟩ early) (.inl refused)
  · obtain ⟨hours, some, lockout⟩ := not_refused_iff.mp refused
    simp only [hours, some, lockout, refused, not_false_eq_true, true_imp_iff, false_or, and_true]

theorem letters_for_hours_escape :
    let form : Form := fun name => if name = "daily_h" then some "abc" else none
    ¬ UpdateOr422 form ∧ parsePolicyForm form = .error (.valueError "abc") := by
  intro form
  have escapes : parsePolicyForm form = .error (.valueError "abc") := rfl
  refine ⟨?_, escapes⟩
  rw [update_or_422, escapes]
  exact fun answered => absurd (answered _ rfl) (by decide)

end TimekprProof
