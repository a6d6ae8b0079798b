import TimekprHub.Agent.PushSettled
import TimekprHub.Hub.Policy
import TimekprHub.Library.Fallible
import TimekprHub.Library.PyText

namespace TimekprModel

abbrev Form := String → Option String

/-- How a form is refused. The last three leave the parser as the exceptions they are. -/
inductive FormError
  | invalidTime (field value : String)
  | invalidHours (dayName message : String)
  | noAllowedHours (dayName : String)
  | noAllowedDay
  | unknownLockoutType (raw : String)
  | invalidFields (fields : List String)
  | valueError (text : String)
  | invalidRecord (record : HourRecord)
  | invalidActivity (fields : List String)
  deriving DecidableEq, Repr

def failedChecks (checks : List (String × Bool)) : List String :=
  (checks.filter fun check => !check.2).map Prod.fst

def PlayTimeActivity.checks (mask description : String) : List (String × Bool) :=
  [("mask", 1 ≤ mask.length && mask.length ≤ 255 && mask.toList.all fun c => c ≠ '[' && c ≠ ']'),
    ("description", description.length ≤ 255)]

def PlayTimePayload.checks (dailyLimitsS : List Int) : List (String × Bool) :=
  [("daily_limits_s", dailyLimitsS.length = 7 && dailyLimitsS.all fun limit => 0 ≤ limit && limit ≤ 86400)]

structure PolicyFields where
  dailyLimitsS : List Int
  weeklyLimitS : Int
  monthlyLimitS : Int
  allowedWeekdays : List Weekday
  allowedHours : AllowedHoursMap
  lockoutType : LockoutType
  wakeFrom : Option String
  wakeTo : Option String
  trackInactive : Bool
  hideTrayIcon : Bool
  playtime : PlayTimePayload
  note : String

def PolicyFields.checks (fields : PolicyFields) : List (String × Bool) :=
  [("daily_limits_s", fields.dailyLimitsS.length = 7 &&
      fields.dailyLimitsS.all fun limit => 0 ≤ limit && limit ≤ 86400),
    ("weekly_limit_s", 0 ≤ fields.weeklyLimitS && fields.weeklyLimitS ≤ 7 * 86400),
    ("monthly_limit_s", 0 ≤ fields.monthlyLimitS && fields.monthlyLimitS ≤ 31 * 86400),
    ("wake_from", fields.wakeFrom.all matchesWakeHour),
    ("wake_to", fields.wakeTo.all matchesWakeHour),
    ("note", fields.note.length ≤ 500)]

theorem failedChecks_nil {checks : List (String × Bool)} :
    failedChecks checks = [] ↔ ∀ check ∈ checks, check.2 = true := by
  simp [failedChecks]

theorem PlayTimeActivity.checked {mask description : String}
    (valid : failedChecks (PlayTimeActivity.checks mask description) = []) :
    (1 ≤ mask.length ∧ mask.length ≤ 255) ∧ description.length ≤ 255 ∧
      ∀ c ∈ mask.toList, c ≠ '[' ∧ c ≠ ']' := by
  rw [failedChecks_nil] at valid
  simp only [PlayTimeActivity.checks, List.forall_mem_cons, Bool.and_eq_true, decide_eq_true_eq,
    List.all_eq_true] at valid
  exact ⟨valid.1.1, valid.2.1, valid.1.2⟩

theorem PlayTimePayload.checked {dailyLimitsS : List Int}
    (valid : failedChecks (PlayTimePayload.checks dailyLimitsS) = []) :
    dailyLimitsS.length = 7 ∧ ∀ limit ∈ dailyLimitsS, 0 ≤ limit ∧ limit ≤ 86400 := by
  rw [failedChecks_nil] at valid
  simp only [PlayTimePayload.checks, List.forall_mem_cons, Bool.and_eq_true, decide_eq_true_eq,
    List.all_eq_true] at valid
  exact valid.1

structure PolicyFields.Checked (fields : PolicyFields) : Prop where
  sevenLimits : fields.dailyLimitsS.length = 7
  withinADay : ∀ limit ∈ fields.dailyLimitsS, 0 ≤ limit ∧ limit ≤ 86400
  weeklyBounds : 0 ≤ fields.weeklyLimitS ∧ fields.weeklyLimitS ≤ 7 * 86400
  monthlyBounds : 0 ≤ fields.monthlyLimitS ∧ fields.monthlyLimitS ≤ 31 * 86400
  wakeFromPattern : ∀ text ∈ fields.wakeFrom, matchesWakeHour text = true
  wakeToPattern : ∀ text ∈ fields.wakeTo, matchesWakeHour text = true
  noteLength : fields.note.length ≤ 500

theorem PolicyFields.checked {fields : PolicyFields} (valid : failedChecks fields.checks = []) :
    fields.Checked := by
  rw [failedChecks_nil] at valid
  simp only [PolicyFields.checks, List.forall_mem_cons, Bool.and_eq_true, decide_eq_true_eq,
    List.all_eq_true, Option.all_eq_true] at valid
  obtain ⟨daily, weekly, monthly, wakeFrom, wakeTo, note, _⟩ := valid
  exact ⟨daily.1, daily.2, weekly, monthly, wakeFrom, wakeTo, note⟩

def PlayTimeActivity.validate (mask description : String) : Except (List String) PlayTimeActivity :=
  if valid : failedChecks (PlayTimeActivity.checks mask description) = [] then
    .ok
      { mask
        description
        maskLength := (PlayTimeActivity.checked valid).1
        descriptionLength := (PlayTimeActivity.checked valid).2.1
        noBrackets := (PlayTimeActivity.checked valid).2.2 }
  else .error (failedChecks (PlayTimeActivity.checks mask description))

def PlayTimePayload.validate (enabled overrideEnabled unaccountedIntervalsEnabled : Bool)
    (allowedWeekdays : List Weekday) (dailyLimitsS : List Int) (activities : List PlayTimeActivity) :
    Except (List String) PlayTimePayload :=
  if valid : failedChecks (PlayTimePayload.checks dailyLimitsS) = [] then
    .ok
      { enabled
        overrideEnabled
        unaccountedIntervalsEnabled
        allowedWeekdays
        dailyLimitsS
        activities
        sevenLimits := (PlayTimePayload.checked valid).1
        withinADay := (PlayTimePayload.checked valid).2 }
  else .error (failedChecks (PlayTimePayload.checks dailyLimitsS))

def PolicyUpdate.validate (fields : PolicyFields) : Except (List String) PolicyUpdate :=
  if valid : failedChecks fields.checks = [] then
    .ok
      { dailyLimitsS := fields.dailyLimitsS
        weeklyLimitS := fields.weeklyLimitS
        monthlyLimitS := fields.monthlyLimitS
        allowedWeekdays := fields.allowedWeekdays
        allowedHours := fields.allowedHours
        lockoutType := fields.lockoutType
        wakeFrom := fields.wakeFrom
        wakeTo := fields.wakeTo
        trackInactive := fields.trackInactive
        hideTrayIcon := fields.hideTrayIcon
        playtime := fields.playtime
        note := fields.note
        sevenLimits := (PolicyFields.checked valid).sevenLimits
        withinADay := (PolicyFields.checked valid).withinADay
        weeklyBounds := (PolicyFields.checked valid).weeklyBounds
        monthlyBounds := (PolicyFields.checked valid).monthlyBounds
        wakeFromPattern := (PolicyFields.checked valid).wakeFromPattern
        wakeToPattern := (PolicyFields.checked valid).wakeToPattern
        noteLength := (PolicyFields.checked valid).noteLength }
  else .error (failedChecks fields.checks)

def checkbox (form : Form) (name : String) : Bool := (form name).isSome

def tickedDays (form : Form) (box : String) : List Weekday :=
  weekdayTokens.filter fun day => checkbox form (box ++ day.token)

def formInt (form : Form) (name : String) : Except FormError Int :=
  match form name with
  | none | some "" => .ok 0
  | some text =>
    match PyText.int? text.toList with
    | some value => .ok value
    | none => .error (.valueError text)

def hmSeconds (form : Form) (hName mName : String) : Except FormError Int := do
  let h ← formInt form hName
  let m ← formInt form mName
  return max 0 h * 3600 + max 0 (min m 59) * 60

def parseTimeStr (value field : String) : Except FormError Int :=
  match value.toList.splitOn ':' with
  | [hh, mm] =>
    match PyText.int? hh, PyText.int? mm with
    | some h, some m =>
      let total := h * 60 + m
      if 0 ≤ total ∧ total ≤ 24 * 60 then .ok total else .error (.invalidTime field value)
    | _, _ => .error (.invalidTime field value)
  | _ => .error (.invalidTime field value)

def weekdayName : Weekday → String
  | .monday => "Mon"
  | .tuesday => "Tue"
  | .wednesday => "Wed"
  | .thursday => "Thu"
  | .friday => "Fri"
  | .saturday => "Sat"
  | .sunday => "Sun"

def wireIntervals (records : List HourRecord) : Except FormError (List AllowedHourInterval) :=
  records.mapM fun record =>
    match AllowedHourInterval.ofRecord? record with
    | some interval => .ok interval
    | none => .error (.invalidRecord record)

def wholeHour (unaccounted : Bool) (hour : Fin 24) : AllowedHourInterval where
  hour := hour.val
  startMin := 0
  endMin := 60
  unaccounted := unaccounted
  hourBounds := by omega
  startBounds := AllowedHourInterval.onTheHour
  endBounds := AllowedHourInterval.toTheHour

def parseDayHours (form : Form) (day : Weekday) : Except FormError (List AllowedHourInterval) :=
  let mode := (form ("hours_mode_" ++ day.token)).getD "all"
  if mode = "all" then wireIntervals (intervalsToHours unrestricted)
  else if mode = "between" then do
    let fromMin ← parseTimeStr ((form ("hours_from_" ++ day.token)).getD "") (weekdayName day ++ " start time")
    let toMin ← parseTimeStr ((form ("hours_to_" ++ day.token)).getD "") (weekdayName day ++ " end time")
    let interval ← (TimeInterval.ofBounds fromMin toMin).mapError (.invalidHours (weekdayName day))
    (validateIntervals [interval]).mapError fun conflict => .invalidHours (weekdayName day) conflict.message
    wireIntervals (intervalsToHours [interval])
  else
    let checkedHours := (List.finRange 24).filter fun hour =>
      checkbox form ("hh_" ++ day.token ++ "_" ++ toString hour.val)
    if checkedHours = [] then .error (.noAllowedHours (weekdayName day))
    else .ok (checkedHours.map (wholeHour (checkbox form ("unaccounted_" ++ day.token))))

def formDailyLimit (form : Form) (day : Weekday) : Except FormError Int :=
  if (form "daily_mode").getD "same" = "same" then hmSeconds form "daily_h" "daily_m"
  else hmSeconds form ("daily_h_" ++ toString day.index) ("daily_m_" ++ toString day.index)

def parseDailyLimits (form : Form) : Except FormError (List Int) :=
  if (form "daily_mode").getD "same" = "same" then do
    let master ← hmSeconds form "daily_h" "daily_m"
    return List.replicate 7 master
  else (List.range 7).mapM fun i => hmSeconds form ("daily_h_" ++ toString i) ("daily_m_" ++ toString i)

def formPlayTimeLimit (form : Form) (day : Weekday) : Except FormError Int :=
  hmSeconds form ("pt_daily_h_" ++ toString day.index) ("pt_daily_m_" ++ toString day.index)

def parsePlayTimeLimits (form : Form) : Except FormError (List Int) :=
  (List.range 7).mapM fun i => hmSeconds form ("pt_daily_h_" ++ toString i) ("pt_daily_m_" ++ toString i)

def parseAllowedHours (form : Form) : Except FormError (List (String × List AllowedHourInterval)) :=
  weekdayTokens.mapM fun day => (parseDayHours form day).map fun intervals => (day.token, intervals)

def LockoutType.ofValue? (value : String) : Option LockoutType :=
  [LockoutType.lock, .suspend, .suspendWake, .terminate, .kill, .shutdown].find? fun lockoutType =>
    lockoutType.value = value

def parseLockoutType (form : Form) : Except FormError LockoutType :=
  let raw := (form "lockout_type").getD "lock"
  match LockoutType.ofValue? raw with
  | some lockoutType => .ok lockoutType
  | none => .error (.unknownLockoutType raw)

/-- An unticked cap is timekpr's own maximum, not zero. -/
def parseCap (form : Form) (box hName mName : String) (uncapped : Int) : Except FormError Int :=
  if checkbox form box then hmSeconds form hName mName else .ok uncapped

def activityLines (text : String) : List (String × String) :=
  (PyText.splitLines text.toList).filterMap fun line =>
    let line := PyText.strip line
    if line = [] then none
    else
      let (mask, description) := PyText.partition '|' line
      if PyText.strip mask = [] then none
      else some (String.ofList (PyText.strip mask), String.ofList (PyText.strip description))

def parseActivities (form : Form) : Except FormError (List PlayTimeActivity) :=
  (activityLines ((form "pt_activities").getD "")).mapM fun (mask, description) =>
    (PlayTimeActivity.validate mask description).mapError .invalidActivity

/-- `form.get(name) or None`. -/
def formText (form : Form) (name : String) : Option String :=
  match form name with
  | none | some "" => none
  | some text => some text

def parsePolicyForm (form : Form) : Except FormError PolicyUpdate := do
  let dailyLimitsS ← parseDailyLimits form
  let allowedHours ← parseAllowedHours form
  let allowedWeekdays := tickedDays form "allowed_weekday_"
  if allowedWeekdays = [] then throw .noAllowedDay
  let lockoutType ← parseLockoutType form
  let weeklyLimitS ← parseCap form "weekly_cap_enabled" "weekly_h" "weekly_m" (7 * 86400)
  let monthlyLimitS ← parseCap form "monthly_cap_enabled" "monthly_h" "monthly_m" (31 * 86400)
  let ptDailyLimitsS ← parsePlayTimeLimits form
  let ptActivities ← parseActivities form
  let playtime ← (PlayTimePayload.validate (checkbox form "pt_enabled") (checkbox form "pt_override")
    (checkbox form "pt_unaccounted") (tickedDays form "pt_allowed_weekday_") ptDailyLimitsS
    ptActivities).mapError .invalidFields
  (PolicyUpdate.validate
    { dailyLimitsS
      weeklyLimitS
      monthlyLimitS
      allowedWeekdays
      allowedHours := Dict.ofList allowedHours
      lockoutType
      wakeFrom := formText form "wake_from"
      wakeTo := formText form "wake_to"
      trackInactive := checkbox form "track_inactive"
      hideTrayIcon := checkbox form "hide_tray_icon"
      playtime
      note := (form "note").getD "" }).mapError .invalidFields

end TimekprModel

namespace TimekprProof

open TimekprModel

structure ReadFrom (form : Form) (update : PolicyUpdate) : Prop where
  dailyLimitsS : parseDailyLimits form = .ok update.dailyLimitsS
  allowedHours : ∃ entries, parseAllowedHours form = .ok entries ∧ update.allowedHours = Dict.ofList entries
  allowedWeekdays : update.allowedWeekdays = tickedDays form "allowed_weekday_"
  someWeekday : tickedDays form "allowed_weekday_" ≠ []
  lockoutType : parseLockoutType form = .ok update.lockoutType
  weeklyLimitS :
    parseCap form "weekly_cap_enabled" "weekly_h" "weekly_m" (7 * 86400) = .ok update.weeklyLimitS
  monthlyLimitS :
    parseCap form "monthly_cap_enabled" "monthly_h" "monthly_m" (31 * 86400) = .ok update.monthlyLimitS
  wakeFrom : update.wakeFrom = formText form "wake_from"
  wakeTo : update.wakeTo = formText form "wake_to"
  trackInactive : update.trackInactive = checkbox form "track_inactive"
  hideTrayIcon : update.hideTrayIcon = checkbox form "hide_tray_icon"
  playTimeEnabled : update.playtime.enabled = checkbox form "pt_enabled"
  playTimeOverride : update.playtime.overrideEnabled = checkbox form "pt_override"
  playTimeUnaccounted : update.playtime.unaccountedIntervalsEnabled = checkbox form "pt_unaccounted"
  playTimeWeekdays : update.playtime.allowedWeekdays = tickedDays form "pt_allowed_weekday_"
  playTimeLimitsS : parsePlayTimeLimits form = .ok update.playtime.dailyLimitsS
  activities : parseActivities form = .ok update.playtime.activities
  note : update.note = (form "note").getD ""

theorem parsePolicyForm_reads {form : Form} {update : PolicyUpdate}
    (accepted : parsePolicyForm form = .ok update) : ReadFrom form update := by
  unfold parsePolicyForm at accepted
  obtain ⟨daily, readDaily, accepted⟩ := Fallible.bind_ok accepted
  obtain ⟨hours, readHours, accepted⟩ := Fallible.bind_ok accepted
  by_cases none : tickedDays form "allowed_weekday_" = []
  · simp only [none, if_true] at accepted
    cases accepted
  simp only [none, if_false] at accepted
  obtain ⟨lockout, readLockout, accepted⟩ := Fallible.bind_ok accepted
  obtain ⟨weekly, readWeekly, accepted⟩ := Fallible.bind_ok accepted
  obtain ⟨monthly, readMonthly, accepted⟩ := Fallible.bind_ok accepted
  obtain ⟨ptDaily, readPtDaily, accepted⟩ := Fallible.bind_ok accepted
  obtain ⟨activities, readActivities, accepted⟩ := Fallible.bind_ok accepted
  obtain ⟨playtime, readPlaytime, accepted⟩ := Fallible.bind_ok accepted
  have built := Fallible.mapError_ok accepted
  have played := Fallible.mapError_ok readPlaytime
  unfold PlayTimePayload.validate at played
  unfold PolicyUpdate.validate at built
  split at played
  · split at built
    · cases played
      cases built
      exact
        { dailyLimitsS := readDaily
          allowedHours := ⟨hours, readHours, rfl⟩
          allowedWeekdays := rfl
          someWeekday := none
          lockoutType := readLockout
          weeklyLimitS := readWeekly
          monthlyLimitS := readMonthly
          wakeFrom := rfl
          wakeTo := rfl
          trackInactive := rfl
          hideTrayIcon := rfl
          playTimeEnabled := rfl
          playTimeOverride := rfl
          playTimeUnaccounted := rfl
          playTimeWeekdays := rfl
          playTimeLimitsS := readPtDaily
          activities := readActivities
          note := rfl }
    · cases built
  · cases played

theorem mem_tickedDays {form : Form} {box : String} {day : Weekday} :
    day ∈ tickedDays form box ↔ checkbox form (box ++ day.token) = true := by
  rw [tickedDays, List.mem_filter]
  exact and_iff_right day.mem_tokens

theorem week_limit {read : Nat → Except FormError Int} {limits : List Int}
    (succeeds : (List.range 7).mapM read = .ok limits) (day : Weekday) :
    read day.index = .ok (limits.getD day.index 0) := by
  have found : (List.range 7)[day.index]? = some day.index := List.getElem?_range day.index_lt
  obtain ⟨limit, stands, given⟩ := Fallible.mapM_ok_get succeeds found
  rw [given, List.getD_eq_getElem?_getD, stands]
  rfl

theorem parseDailyLimits_day {form : Form} {limits : List Int} (succeeds : parseDailyLimits form = .ok limits)
    (day : Weekday) : formDailyLimit form day = .ok (limits.getD day.index 0) := by
  unfold parseDailyLimits at succeeds
  unfold formDailyLimit
  split at succeeds
  · rename_i same
    obtain ⟨master, read, succeeds⟩ := Fallible.bind_ok succeeds
    have all : List.replicate 7 master = limits := Fallible.pure_ok succeeds
    subst all
    rw [if_pos same, read]
    cases day <;> rfl
  · rename_i differ
    rw [if_neg differ]
    exact week_limit succeeds day

theorem parsePlayTimeLimits_day {form : Form} {limits : List Int}
    (succeeds : parsePlayTimeLimits form = .ok limits) (day : Weekday) :
    formPlayTimeLimit form day = .ok (limits.getD day.index 0) :=
  week_limit succeeds day

theorem wireIntervals_nonempty {records : List HourRecord} {intervals : List AllowedHourInterval}
    (succeeds : wireIntervals records = .ok intervals) (nonempty : records ≠ []) : intervals ≠ [] := by
  have pairs := (Fallible.mapM_ok succeeds).length_eq
  intro empty
  rw [empty, List.length_nil, List.length_eq_zero_iff] at pairs
  exact nonempty pairs

theorem hoursOf_nonempty (interval : TimeInterval) : intervalsToHours [interval] ≠ [] := by
  have ordered := interval.ordered
  have count : (intervalsToHours [interval]).length =
      ((interval.endMin - 1) / 60 + 1 - interval.startMin / 60).toNat := by
    simp [intervalsToHours, hoursOf]
  intro empty
  rw [empty, List.length_nil] at count
  omega

theorem parseDayHours_nonempty {form : Form} {day : Weekday} {intervals : List AllowedHourInterval}
    (succeeds : parseDayHours form day = .ok intervals) : intervals ≠ [] := by
  unfold parseDayHours at succeeds
  dsimp only at succeeds
  split at succeeds
  · exact wireIntervals_nonempty succeeds (hoursOf_nonempty _)
  · split at succeeds
    · obtain ⟨_, _, succeeds⟩ := Fallible.bind_ok succeeds
      obtain ⟨_, _, succeeds⟩ := Fallible.bind_ok succeeds
      obtain ⟨_, _, succeeds⟩ := Fallible.bind_ok succeeds
      obtain ⟨_, _, succeeds⟩ := Fallible.bind_ok succeeds
      exact wireIntervals_nonempty succeeds (hoursOf_nonempty _)
    · split at succeeds
      · cases succeeds
      · rename_i some
        cases succeeds
        exact fun empty => some (List.map_eq_nil_iff.mp empty)

theorem parseAllowedHours_entries {form : Form} {entries : List (String × List AllowedHourInterval)}
    (succeeds : parseAllowedHours form = .ok entries) :
    entries.map Prod.fst = weekdayTokens.map Weekday.token ∧ ∀ entry ∈ entries, entry.2 ≠ [] := by
  constructor
  · have pairs := Fallible.mapM_ok succeeds
    clear succeeds
    generalize weekdayTokens = days at pairs
    induction pairs with
    | nil => rfl
    | cons read _ ih =>
      obtain ⟨hours, _, same⟩ := Fallible.map_ok read
      subst same
      rw [List.map_cons, List.map_cons, ih]
  · intro entry listed
    obtain ⟨day, _, read⟩ := Fallible.mapM_ok_mem succeeds listed
    obtain ⟨hours, parsed, same⟩ := Fallible.map_ok read
    subst same
    exact parseDayHours_nonempty parsed

theorem form_pushable {form : Form} {update : PolicyUpdate} (accepted : parsePolicyForm form = .ok update)
    (current : Option Policy) : Pushable (policyToPayload (updatePolicy current update)) := by
  obtain ⟨entries, parsed, stored⟩ := (parsePolicyForm_reads accepted).allowedHours
  obtain ⟨keys, some⟩ := parseAllowedHours_entries parsed
  have distinct : (entries.map Prod.fst).Nodup := by
    rw [keys]
    decide
  have listed : (policyToPayload (updatePolicy current update)).allowedHours.entries = entries := by
    change update.allowedHours.entries = entries
    rw [stored, Dict.entries_ofList distinct]
  constructor
  · exact update.sevenLimits
  · rw [listed]
    intro entry member
    rw [← keys]
    exact List.mem_map_of_mem member
  · rw [listed]
    exact some
  · exact fun text given => matchesWakeHour_no_separator (update.wakeFromPattern text given)
  · exact fun text given => matchesWakeHour_no_separator (update.wakeToPattern text given)

end TimekprProof
