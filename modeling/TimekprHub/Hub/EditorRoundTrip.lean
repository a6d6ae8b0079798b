import TimekprHub.Core.HoursInverse
import TimekprHub.Hub.EditorActivities
import TimekprHub.Hub.EditorHours
import TimekprHub.Hub.FormErrors

namespace TimekprModel

def splitHm (totalS : Int) : Int × Int := (totalS / 60 / 60, totalS / 60 % 60)

structure PolicyView where
  dailySame : Bool
  dailyMaster : Int × Int
  dailyPerDay : List (Int × Int)
  hoursByDay : List (Weekday × DayHours)
  weeklyEnabled : Bool
  weekly : Int × Int
  monthlyEnabled : Bool
  monthly : Int × Int
  allowedWeekdays : List Weekday
  lockoutType : String
  wakeFrom : String
  wakeTo : String
  trackInactive : Bool
  hideTrayIcon : Bool
  note : String
  playtime : PlayTimePayload
  ptAllowedWeekdays : List Weekday
  ptDaily : List (Int × Int)
  ptActivitiesText : String

def policyViewModel (payload : PolicyPayload) : Except String PolicyView := do
  let hoursByDay ← weekdayTokens.mapM fun day =>
    (classifyDayHours (payload.allowedHours.get? day.token)).map fun shown => (day, shown)
  return {
    dailySame := payload.dailyLimitsS.dedup.length = 1
    dailyMaster := splitHm (payload.dailyLimitsS.headD 0)
    dailyPerDay := payload.dailyLimitsS.map splitHm
    hoursByDay
    weeklyEnabled := payload.weeklyLimitS < 7 * 86400
    weekly := splitHm payload.weeklyLimitS
    monthlyEnabled := payload.monthlyLimitS < 31 * 86400
    monthly := splitHm payload.monthlyLimitS
    allowedWeekdays := if payload.allowedWeekdays = [] then weekdayTokens else payload.allowedWeekdays
    lockoutType := payload.lockoutType.value
    wakeFrom := payload.wakeFrom.getD ""
    wakeTo := payload.wakeTo.getD ""
    trackInactive := payload.trackInactive
    hideTrayIcon := payload.hideTrayIcon
    note := payload.note
    playtime := payload.playtime
    ptAllowedWeekdays := payload.playtime.allowedWeekdays
    ptDaily := payload.playtime.dailyLimitsS.map splitHm
    ptActivitiesText := ptActivitiesText payload.playtime.activities }

def ShowsHm (form : Form) (hName mName : String) (hm : Int × Int) : Prop :=
  form hName = some (toString hm.1) ∧ form mName = some (toString hm.2)

inductive HoursField (day : Weekday) : String → Prop
  | mode : HoursField day ("hours_mode_" ++ day.token)
  | start : HoursField day ("hours_from_" ++ day.token)
  | stop : HoursField day ("hours_to_" ++ day.token)
  | unaccounted : HoursField day ("unaccounted_" ++ day.token)
  | hour (hour : Fin 24) : HoursField day (hourBox day hour)

/-- A time field comes up blank at 24:00, which is no time of the day. -/
def timeSent (minutes : Int) : String := if minutes < 24 * 60 then fmtMinutes minutes else ""

def sentDay (day : Weekday) (shown : DayHours) : Form := fun name =>
  if name = "hours_from_" ++ day.token then some (timeSent shown.fromMin)
  else if name = "hours_to_" ++ day.token then some (timeSent shown.toMin)
  else shownDay day shown name

def EndsAtMidnight (shown : DayHours) : Prop := shown.mode = .between ∧ shown.toMin = 24 * 60

instance (shown : DayHours) : Decidable (EndsAtMidnight shown) := inferInstanceAs (Decidable (_ ∧ _))

/-- What a browser sends of a text area that comes up with this text: a line break right after the tag is not part
    of it, and each line ends in CRLF. -/
def textareaSent (text : String) : String :=
  let content := PyText.universalNewlines text.toList
  let value := if content.head? = some '\n' then content.tail else content
  String.ofList (value.flatMap fun c => if c = '\n' then ['\r', '\n'] else [c])

/-- The page: with an hours override of today it has a notice with a form of its own. -/
structure PolicyPage where
  view : PolicyView
  todayHoursOverride : Option String

/-- What the page sends when it is saved with nothing on it changed, by the fields of the template. A box that is not
    ticked is not sent. The form of the notice ends the one it is nested in, ahead of the Save button, which then
    sends nothing. -/
structure SentUnchanged (page : PolicyPage) (form : Form) : Prop where
  noNotice : page.todayHoursOverride = none
  dailyMode : form "daily_mode" = some (if page.view.dailySame then "same" else "different")
  dailyMaster : ShowsHm form "daily_h" "daily_m" page.view.dailyMaster
  dailyPerDay : ∀ (i : Nat) hm, page.view.dailyPerDay[i]? = some hm →
    ShowsHm form ("daily_h_" ++ toString i) ("daily_m_" ++ toString i) hm
  hours : ∀ day shown, (day, shown) ∈ page.view.hoursByDay → ∀ name, HoursField day name →
    form name = sentDay day shown name
  weeklyBox : checkbox form "weekly_cap_enabled" = page.view.weeklyEnabled
  weekly : ShowsHm form "weekly_h" "weekly_m" page.view.weekly
  monthlyBox : checkbox form "monthly_cap_enabled" = page.view.monthlyEnabled
  monthly : ShowsHm form "monthly_h" "monthly_m" page.view.monthly
  weekdayBoxes : ∀ day : Weekday,
    checkbox form ("allowed_weekday_" ++ day.token) = decide (day ∈ page.view.allowedWeekdays)
  lockoutType : form "lockout_type" = some page.view.lockoutType
  wakeFrom : form "wake_from" = some page.view.wakeFrom
  wakeTo : form "wake_to" = some page.view.wakeTo
  trackInactive : checkbox form "track_inactive" = page.view.trackInactive
  hideTrayIcon : checkbox form "hide_tray_icon" = page.view.hideTrayIcon
  ptEnabled : checkbox form "pt_enabled" = page.view.playtime.enabled
  ptOverride : checkbox form "pt_override" = page.view.playtime.overrideEnabled
  ptUnaccounted : checkbox form "pt_unaccounted" = page.view.playtime.unaccountedIntervalsEnabled
  ptWeekdayBoxes : ∀ day : Weekday,
    checkbox form ("pt_allowed_weekday_" ++ day.token) = decide (day ∈ page.view.ptAllowedWeekdays)
  ptDaily : ∀ (i : Nat) hm, page.view.ptDaily[i]? = some hm →
    ShowsHm form ("pt_daily_h_" ++ toString i) ("pt_daily_m_" ++ toString i) hm
  ptActivities : form "pt_activities" = some (textareaSent page.view.ptActivitiesText)
  note : form "note" = some (textareaSent page.view.note)

def weekHours (hours : Weekday → List AllowedHourInterval) : List (String × List AllowedHourInterval) :=
  weekdayTokens.map fun day => (day.token, hours day)

open Classical in
noncomputable def resavedHours (intervals : List AllowedHourInterval) : List AllowedHourInterval :=
  if WholeDayUnaccounted intervals then unrestrictedWireIntervals else intervals

end TimekprModel

namespace TimekprProof

open TimekprModel

section Numbers

def WholeMinutes (totalS : Int) : Prop := 0 ≤ totalS ∧ totalS ≤ 31 * 86400 ∧ totalS % 60 = 0

theorem toString_reads {number : Int} (small : 0 ≤ number ∧ number < 1000) :
    PyText.int? (toString number).toList = some number := by
  obtain ⟨n, rfl⟩ := Int.eq_ofNat_of_zero_le small.1
  have digits : (toString (n : Int)).toList = Nat.toDigits 10 n := Nat.toList_repr
  have long : (Nat.toDigits 10 n).length ≤ 3 := by
    rw [Nat.length_toDigits_le_iff (by decide) (by decide)]
    omega
  rw [digits]
  apply PyText.int?_toDigits
  exact long.trans (by decide)

theorem formInt_toString {form : Form} {name : String} {number : Int} (small : 0 ≤ number ∧ number < 1000)
    (shown : form name = some (toString number)) : formInt form name = .ok number := by
  have read := toString_reads small
  unfold formInt
  rw [shown]
  split
  · rename_i absent
    cases absent
  · rename_i blank
    rw [Option.some.inj blank] at read
    cases read
  · rename_i text _ same
    rw [← Option.some.inj same, read]

theorem hmSeconds_split {form : Form} {hName mName : String} {totalS : Int} (whole : WholeMinutes totalS)
    (shown : ShowsHm form hName mName (splitHm totalS)) : hmSeconds form hName mName = .ok totalS := by
  obtain ⟨low, high, minutes⟩ := whole
  have hours : 0 ≤ (splitHm totalS).1 ∧ (splitHm totalS).1 < 1000 := by
    unfold splitHm
    dsimp only
    omega
  have rest : 0 ≤ (splitHm totalS).2 ∧ (splitHm totalS).2 < 1000 := by
    unfold splitHm
    dsimp only
    omega
  have total : max 0 (splitHm totalS).1 * 3600 + max 0 (min (splitHm totalS).2 59) * 60 = totalS := by
    unfold splitHm
    dsimp only
    omega
  unfold hmSeconds
  rw [formInt_toString hours shown.1, formInt_toString rest shown.2]
  exact congrArg Except.ok total

theorem hmSeconds_minutes {form : Form} {hName mName : String} {totalS : Int}
    (read : hmSeconds form hName mName = .ok totalS) : 0 ≤ totalS ∧ totalS % 60 = 0 := by
  unfold hmSeconds at read
  obtain ⟨h, _, read⟩ := Fallible.bind_ok read
  obtain ⟨m, _, read⟩ := Fallible.bind_ok read
  have total : max 0 h * 3600 + max 0 (min m 59) * 60 = totalS := Fallible.pure_ok read
  omega

end Numbers

section Hours

variable {day : Weekday} {intervals : List AllowedHourInterval}

theorem parseDayHours_congr {form other : Form} (same : ∀ name, HoursField day name → form name = other name) :
    parseDayHours form day = parseDayHours other day := by
  have hours : ∀ hour : Fin 24, checkbox form ("hh_" ++ day.token ++ "_" ++ toString hour.val) =
      checkbox other ("hh_" ++ day.token ++ "_" ++ toString hour.val) := by
    intro hour
    exact congrArg Option.isSome (same _ (.hour hour))
  have flag : checkbox form ("unaccounted_" ++ day.token) = checkbox other ("unaccounted_" ++ day.token) :=
    congrArg Option.isSome (same _ .unaccounted)
  unfold parseDayHours
  rw [same _ .mode, same _ .start, same _ .stop, flag]
  simp only [hours]

theorem shownDay_ticked (day : Weekday) (shown : DayHours) {hour : Fin 24} (ticked : (hour.val : Int) ∈ shown.hours) :
    shownDay day shown (hourBox day hour) = some "on" := by
  have mode := hourBox_ne day "hours_mode_" hour (by decide) (by decide)
  have start := hourBox_ne day "hours_from_" hour (by decide) (by decide)
  have stop := hourBox_ne day "hours_to_" hour (by decide) (by decide)
  have flag := hourBox_ne day "unaccounted_" hour (by decide) (by decide)
  unfold shownDay
  rw [if_neg mode, if_neg start, if_neg stop, if_neg fun both => flag both.1, if_pos ⟨hour, rfl, ticked⟩]

theorem ofRecord?_of_record (interval : AllowedHourInterval) :
    AllowedHourInterval.ofRecord? interval.record = some interval := by
  unfold AllowedHourInterval.ofRecord?
  exact dif_pos ⟨interval.hourBounds, interval.startBounds, interval.endBounds⟩

theorem wireIntervals_of_records (intervals : List AllowedHourInterval) :
    wireIntervals (intervals.map AllowedHourInterval.record) = .ok intervals := by
  unfold wireIntervals
  apply Fallible.mapM_of_ok
  rw [List.forall₂_map_left_iff]
  apply List.forall₂_same.mpr
  intro interval _
  rw [ofRecord?_of_record]

theorem window_reread {window : TimeInterval} (accounted : window.unaccounted = false)
    (records : intervals.map AllowedHourInterval.record = hoursOf window) :
    parseDayHours (shownDay day (classifyMerged intervals [window])) day = .ok intervals := by
  have wired := wireIntervals_of_records intervals
  rw [records, ← window_records] at wired
  by_cases full : (window.startMin, window.endMin) = fullDay
  · rw [classifyMerged, if_pos full, reread_full accounted full, wired]
  · rw [classifyMerged, if_neg full, if_pos accounted, reread_between window rfl rfl rfl accounted, wired]

theorem wholeHours_sorted (unaccounted : Bool) (ticked : Fin 24 → Bool) :
    ((((List.finRange 24).filter ticked).map (wholeHour unaccounted)).map AllowedHourInterval.record).Pairwise
      fun a b => a.hour < b.hour := by
  rw [List.map_map, List.pairwise_map]
  have ascending : (List.finRange 24).Pairwise fun a b => a < b := List.pairwise_lt_finRange 24
  have kept := ascending.filter ticked
  apply kept.imp
  intro a b before
  show (a.val : Int) < (b.val : Int)
  exact Int.ofNat_lt.mpr before

theorem wholeHours_merged (unaccounted : Bool) (ticked : Fin 24 → Bool) :
    ∃ merged, classifyDayHours (some (((List.finRange 24).filter ticked).map (wholeHour unaccounted))) =
        .ok (classifyMerged (((List.finRange 24).filter ticked).map (wholeHour unaccounted)) merged) ∧
      intervalsToHours merged =
        (((List.finRange 24).filter ticked).map (wholeHour unaccounted)).map AllowedHourInterval.record := by
  have sorted := wholeHours_sorted unaccounted ticked
  have distinct : ((((List.finRange 24).filter ticked).map (wholeHour unaccounted)).map
      AllowedHourInterval.record |>.map HourRecord.hour).Nodup := by
    rw [List.Nodup, List.pairwise_map]
    apply sorted.imp
    intro a b before
    omega
  have within : ∀ record ∈ (((List.finRange 24).filter ticked).map (wholeHour unaccounted)).map
      AllowedHourInterval.record, record.WithinHour := by
    intro record listed
    obtain ⟨interval, whole, rfl⟩ := List.mem_map.mp listed
    obtain ⟨hour, _, rfl⟩ := List.mem_map.mp whole
    show (0 ≤ (0 : Int) ∧ (0 : Int) < 60 ∧ (60 : Int) ≤ 60) ∧ 0 ≤ (hour.val : Int) ∧ (hour.val : Int) ≤ 23
    omega
  obtain ⟨merged, computed, records, _⟩ := hoursToIntervals_reads distinct within
  refine ⟨merged, ?_, ?_⟩
  · simp only [classifyDayHours, computed]
    rfl
  · rw [records]
    apply List.mergeSort_of_pairwise
    apply sorted.imp
    intro a b before
    rw [decide_eq_true_eq]
    omega

theorem wholeHours_reread (unaccounted : Bool) {ticked : Fin 24 → Bool} (some : (List.finRange 24).filter ticked ≠ [])
    (partly : ¬ WholeDayUnaccounted (((List.finRange 24).filter ticked).map (wholeHour unaccounted))) :
    ∃ shown, classifyDayHours (.some (((List.finRange 24).filter ticked).map (wholeHour unaccounted))) = .ok shown ∧
      parseDayHours (shownDay day shown) day =
        .ok (((List.finRange 24).filter ticked).map (wholeHour unaccounted)) := by
  obtain ⟨merged, classified, records⟩ := wholeHours_merged unaccounted ticked
  refine ⟨_, classified, ?_⟩
  have flag := @all_flag unaccounted _ some
  have custom : ∀ shown : DayHours, shown.mode = .custom →
      shown.hours = ((((List.finRange 24).filter ticked).map (wholeHour unaccounted)).map
        AllowedHourInterval.hour).toFinset → shown.unaccounted = unaccounted →
      parseDayHours (shownDay day shown) day =
        .ok (((List.finRange 24).filter ticked).map (wholeHour unaccounted)) := by
    intro shown mode hours same
    rw [reread_custom ticked mode ?_ some, same]
    intro hour
    rw [hours]
    exact mem_hours
  match merged with
  | [] => exact custom _ rfl rfl flag
  | _ :: _ :: _ => exact custom _ rfl rfl flag
  | [window] =>
    rw [window_records] at records
    by_cases accounted : window.unaccounted = false
    · exact window_reread accounted records.symm
    · have notFull : ¬ (window.startMin, window.endMin) = fullDay := by
        intro full
        obtain ⟨start, stop⟩ := Prod.mk.inj full
        apply partly
        intro minute low high
        apply listed_covers.mp
        rw [← records, ← window_records, records_covers]
        exact ⟨window, List.mem_singleton_self _, by omega, by omega, eq_true_of_ne_false accounted⟩
      rw [classifyMerged, if_neg notFull, if_neg accounted]
      exact custom _ rfl rfl flag

theorem day_reread {form : Form} (parsed : parseDayHours form day = .ok intervals)
    (partly : ¬ WholeDayUnaccounted intervals) :
    ∃ shown, classifyDayHours (some intervals) = .ok shown ∧
      parseDayHours (shownDay day shown) day = .ok intervals := by
  rcases parseDayHours_shape parsed with ⟨window, accounted, wired⟩ | ⟨ticked, unaccounted, some, rfl⟩
  · have records := wireIntervals_records wired
    rw [window_records] at records
    exact ⟨_, classify_window records, window_reread accounted records⟩
  · exact wholeHours_reread unaccounted some partly

theorem whole_day_reread {form : Form} (parsed : parseDayHours form day = .ok intervals)
    (whole : WholeDayUnaccounted intervals) :
    classifyDayHours (some intervals) = .ok allDayHours ∧
      parseDayHours (shownDay day allDayHours) day = .ok unrestrictedWireIntervals := by
  constructor
  · rcases parseDayHours_shape parsed with ⟨window, accounted, wired⟩ | ⟨ticked, unaccounted, _, rfl⟩
    · have covers := (window_covers wired).mp (whole 0 (by omega) (by omega))
      exact absurd (accounted.symm.trans covers.2.2) (by decide)
    · have flag : unaccounted = true := (wholeHour_covers.mp (whole 0 (by omega) (by omega))).2
      subst flag
      have every : (List.finRange 24).filter ticked = List.finRange 24 := by
        apply List.filter_eq_self.mpr
        intro hour _
        obtain ⟨⟨other, listed, same⟩, _⟩ :=
          wholeHour_covers.mp (whole (hour.val * 60) (by omega) (by omega))
        have hours : other = hour := Fin.ext (by omega)
        exact hours ▸ (List.mem_filter.mp listed).2
      rw [every]
      have records : ((List.finRange 24).map (wholeHour true)).map AllowedHourInterval.record =
          hoursOf ⟨0, 24 * 60, true, by decide⟩ := by decide
      have full : ((0 : Int), (24 * 60 : Int)) = fullDay := rfl
      rw [classify_window records, classifyMerged, if_pos full]
  · rw [reread_all rfl]
    decide

theorem shown_bounds {shown : DayHours} (classified : classifyDayHours (some intervals) = .ok shown) :
    (0 ≤ shown.fromMin ∧ shown.fromMin < 24 * 60) ∧ (shown.toMin < 24 * 60 ∨ EndsAtMidnight shown) := by
  have seeds : (0 ≤ betweenSeed.1 ∧ betweenSeed.1 < 24 * 60) ∧ betweenSeed.2 < 24 * 60 := by decide
  have zeros : (0 ≤ (0 : Int) ∧ (0 : Int) < 24 * 60) := by decide
  obtain ⟨merged, _, same⟩ := Fallible.map_ok classified
  subst same
  match merged with
  | [] => exact ⟨seeds.1, .inl seeds.2⟩
  | _ :: _ :: _ => exact ⟨zeros, .inl zeros.2⟩
  | [window] =>
    have ordered := window.ordered
    unfold classifyMerged
    dsimp only
    split
    · exact ⟨seeds.1, .inl seeds.2⟩
    · split
      · refine ⟨⟨ordered.1, lt_of_lt_of_le ordered.2.1 ordered.2.2⟩, ?_⟩
        rcases lt_or_eq_of_le ordered.2.2 with before | midnight
        · exact .inl before
        · exact .inr ⟨rfl, midnight⟩
      · exact ⟨zeros, .inl zeros.2⟩

theorem sentDay_shown {shown : DayHours} (start : shown.fromMin < 24 * 60) (stop : shown.toMin < 24 * 60) :
    sentDay day shown = shownDay day shown := by
  funext name
  unfold sentDay timeSent
  rw [if_pos start, if_pos stop]
  split
  · rename_i same
    rw [same, shownDay_from]
  · split
    · rename_i same
      rw [same, shownDay_to]
    · rfl

theorem sentDay_midnight {shown : DayHours} (start : 0 ≤ shown.fromMin ∧ shown.fromMin < 24 * 60)
    (midnight : EndsAtMidnight shown) :
    parseDayHours (sentDay day shown) day = .error (.invalidTime (weekdayName day ++ " end time") "") := by
  have mode : sentDay day shown ("hours_mode_" ++ day.token) = some HoursMode.between.value := by
    have start : "hours_mode_" ++ day.token ≠ "hours_from_" ++ day.token := by cases day <;> decide
    have stop : "hours_mode_" ++ day.token ≠ "hours_to_" ++ day.token := by cases day <;> decide
    unfold sentDay
    rw [if_neg start, if_neg stop, shownDay_mode, midnight.1]
  have fromField : sentDay day shown ("hours_from_" ++ day.token) = some (fmtMinutes shown.fromMin) := by
    unfold sentDay timeSent
    rw [if_pos rfl, if_pos start.2]
  have toField : sentDay day shown ("hours_to_" ++ day.token) = some "" := by
    have other : "hours_to_" ++ day.token ≠ "hours_from_" ++ day.token := by cases day <;> decide
    unfold sentDay timeSent
    rw [if_neg other, if_pos rfl, midnight.2]
    rfl
  have startRead := @parseTimeStr_fmtMinutes shown.fromMin ⟨start.1, by omega⟩
  have notAll : ¬ HoursMode.between.value = "all" := by decide
  have between : HoursMode.between.value = "between" := rfl
  unfold parseDayHours
  rw [mode, fromField, toField]
  simp only [Option.getD_some, notAll, if_false]
  rw [if_pos between, startRead]
  rfl

end Hours

section Texts

theorem universalNewlines_noReturn (text : List Char) : '\r' ∉ PyText.universalNewlines text := by
  fun_induction PyText.universalNewlines text with
  | case1 => simp
  | case2 rest ih => simp [ih]
  | case3 rest _ ih => simp [ih]
  | case4 c rest _ other ih =>
    intro listed
    rcases List.mem_cons.mp listed with same | later
    · exact other same.symm
    · exact ih later

theorem universalNewlines_cons {c : Char} (other : c ≠ '\r') (rest : List Char) :
    PyText.universalNewlines (c :: rest) = c :: PyText.universalNewlines rest := by
  rw [PyText.universalNewlines]
  · intro rest same
    exact absurd same other
  · intro same
    exact other same

theorem universalNewlines_crlf {text : List Char} (plain : '\r' ∉ text) :
    PyText.universalNewlines (text.flatMap fun c => if c = '\n' then ['\r', '\n'] else [c]) = text := by
  induction text with
  | nil => rfl
  | cons c rest ih =>
    rw [List.mem_cons, not_or] at plain
    rw [List.flatMap_cons]
    by_cases newline : c = '\n'
    · rw [if_pos newline, newline]
      show '\n' :: PyText.universalNewlines (rest.flatMap _) = _
      rw [ih plain.2]
    · rw [if_neg newline, List.singleton_append, universalNewlines_cons (Ne.symm plain.1), ih plain.2]

/-- The lines of a text that does not start with a line break are sent as they are. -/
theorem splitLines_textareaSent {text : String} (unbroken : ∀ c ∈ text.toList.head?, PyText.isLineBreak c = false) :
    PyText.splitLines (textareaSent text).toList = PyText.splitLines text.toList := by
  have content : (PyText.universalNewlines text.toList).head? ≠ some '\n' := by
    cases letters : text.toList with
    | nil => simp [PyText.universalNewlines]
    | cons c rest =>
      have first := unbroken c (by rw [letters]; rfl)
      have noReturn : c ≠ '\r' := by
        rintro rfl
        exact absurd first (by decide)
      rw [universalNewlines_cons noReturn, List.head?_cons]
      rintro ⟨⟩
      exact absurd first (by decide)
  unfold textareaSent
  dsimp only
  rw [if_neg content, String.toList_ofList, ← PyText.splitLines_universalNewlines,
    universalNewlines_crlf (universalNewlines_noReturn _), PyText.splitLines_universalNewlines]

end Texts

section Fields

variable {form again : Form} {update : PolicyUpdate}

theorem tickedDays_again {box : String} {days : List Weekday}
    (boxes : ∀ day : Weekday, checkbox again (box ++ day.token) = decide (day ∈ days))
    (listed : ∃ other, days = tickedDays form other) : tickedDays again box = days := by
  obtain ⟨other, rfl⟩ := listed
  unfold tickedDays at boxes ⊢
  apply List.filter_congr
  intro day inWeek
  rw [boxes]
  simp [inWeek]

theorem parseCap_minutes {box hName mName : String} {uncapped cap : Int} (whole : uncapped % 60 = 0)
    (nonneg : 0 ≤ uncapped) (read : parseCap form box hName mName uncapped = .ok cap) : 0 ≤ cap ∧ cap % 60 = 0 := by
  unfold parseCap at read
  split at read
  · exact hmSeconds_minutes read
  · cases read
    exact ⟨nonneg, whole⟩

theorem parseCap_again {box hName mName : String} {uncapped cap : Int} (whole : WholeMinutes cap)
    (below : cap ≤ uncapped) (ticked : checkbox again box = decide (cap < uncapped))
    (shown : ShowsHm again hName mName (splitHm cap)) : parseCap again box hName mName uncapped = .ok cap := by
  unfold parseCap
  rw [ticked]
  by_cases capped : cap < uncapped
  · rw [if_pos (decide_eq_true capped)]
    exact hmSeconds_split whole shown
  · rw [if_neg (by simpa using capped)]
    have same : uncapped = cap := by omega
    rw [same]

theorem weekLimits_again {hName mName : Nat → String} {limits : List Int} (seven : limits.length = 7)
    (whole : ∀ limit ∈ limits, WholeMinutes limit)
    (shown : ∀ (i : Nat) hm, (limits.map splitHm)[i]? = some hm → ShowsHm again (hName i) (mName i) hm) :
    ((List.range 7).mapM fun i => hmSeconds again (hName i) (mName i)) = .ok limits := by
  apply Fallible.mapM_of_ok
  rw [List.forall₂_iff_get]
  refine ⟨by rw [List.length_range, seven], ?_⟩
  intro i inRange inLimits
  have held : limits[i]? = some limits[i] := List.getElem?_eq_getElem inLimits
  have given := shown i (splitHm limits[i]) (by rw [List.getElem?_map, held]; rfl)
  simp only [List.get_eq_getElem, List.getElem_range]
  exact hmSeconds_split (whole _ (List.getElem_mem inLimits)) given

theorem parseDailyLimits_minutes {limits : List Int} (read : parseDailyLimits form = .ok limits) :
    ∀ limit ∈ limits, 0 ≤ limit ∧ limit % 60 = 0 := by
  intro limit listed
  unfold parseDailyLimits at read
  split at read
  · obtain ⟨master, one, read⟩ := Fallible.bind_ok read
    have all : List.replicate 7 master = limits := Fallible.pure_ok read
    rw [← all] at listed
    rw [List.eq_of_mem_replicate listed]
    exact hmSeconds_minutes one
  · obtain ⟨i, _, one⟩ := Fallible.mapM_ok_mem read listed
    exact hmSeconds_minutes one

theorem parsePlayTimeLimits_minutes {limits : List Int} (read : parsePlayTimeLimits form = .ok limits) :
    ∀ limit ∈ limits, 0 ≤ limit ∧ limit % 60 = 0 := by
  intro limit listed
  obtain ⟨i, _, one⟩ := Fallible.mapM_ok_mem read listed
  exact hmSeconds_minutes one

theorem parseDailyLimits_again {limits : List Int} (seven : limits.length = 7)
    (whole : ∀ limit ∈ limits, WholeMinutes limit)
    (mode : again "daily_mode" = some (if limits.dedup.length = 1 then "same" else "different"))
    (master : ShowsHm again "daily_h" "daily_m" (splitHm (limits.headD 0)))
    (perDay : ∀ (i : Nat) hm, (limits.map splitHm)[i]? = some hm →
      ShowsHm again ("daily_h_" ++ toString i) ("daily_m_" ++ toString i) hm) :
    parseDailyLimits again = .ok limits := by
  unfold parseDailyLimits
  rw [mode, Option.getD_some]
  by_cases same : limits.dedup.length = 1
  · rw [if_pos same, if_pos rfl]
    obtain ⟨limit, only⟩ := List.length_eq_one_iff.mp same
    have all : ∀ one ∈ limits, one = limit := by
      intro one listed
      rw [← List.mem_dedup, only] at listed
      exact List.mem_singleton.mp listed
    have replicated : limits = List.replicate 7 limit := List.eq_replicate_iff.mpr ⟨seven, all⟩
    have member : limit ∈ limits := by
      rw [replicated]
      exact List.mem_replicate.mpr ⟨by decide, rfl⟩
    have head : limits.headD 0 = limit := by
      rw [replicated]
      rfl
    rw [head] at master
    rw [hmSeconds_split (whole limit member) master, replicated]
    rfl
  · rw [if_neg same, if_neg (by decide)]
    exact weekLimits_again seven whole perDay

theorem parseLockoutType_again {lockoutType : LockoutType} (shown : again "lockout_type" = some lockoutType.value) :
    parseLockoutType again = .ok lockoutType := by
  unfold parseLockoutType
  rw [shown]
  cases lockoutType <;> rfl

theorem formText_again {name : String} {text : Option String} (filled : text ≠ some "")
    (shown : again name = some (text.getD "")) : formText again name = text := by
  unfold formText
  rw [shown]
  cases text with
  | none => rfl
  | some text =>
    split
    · rename_i absent
      cases absent
    · rename_i blank
      exact absurd (congrArg some (Option.some.inj blank)) filled
    · rename_i other _ same
      exact same.symm

end Fields

section Page

variable {form again : Form} {update : PolicyUpdate}

theorem day_resaved {day : Weekday} {intervals : List AllowedHourInterval}
    (parsed : parseDayHours form day = .ok intervals) :
    ∃ shown, classifyDayHours (some intervals) = .ok shown ∧ parseDayHours (sentDay day shown) day =
      if EndsAtMidnight shown then .error (.invalidTime (weekdayName day ++ " end time") "")
      else .ok (resavedHours intervals) := by
  have each : ∃ shown, classifyDayHours (some intervals) = .ok shown ∧
      parseDayHours (shownDay day shown) day = .ok (resavedHours intervals) := by
    unfold resavedHours
    by_cases whole : WholeDayUnaccounted intervals
    · rw [if_pos whole]
      exact ⟨allDayHours, whole_day_reread parsed whole⟩
    · rw [if_neg whole]
      exact day_reread parsed whole
  obtain ⟨shown, classified, reread⟩ := each
  refine ⟨shown, classified, ?_⟩
  obtain ⟨start, stop⟩ := shown_bounds classified
  by_cases midnight : EndsAtMidnight shown
  · rw [if_pos midnight]
    exact sentDay_midnight start midnight
  · rw [if_neg midnight, sentDay_shown start.2 (stop.resolve_right midnight)]
    exact reread

theorem parseAllowedHours_of {hours : Weekday → List AllowedHourInterval}
    (each : ∀ day, parseDayHours form day = .ok (hours day)) : parseAllowedHours form = .ok (weekHours hours) := by
  unfold parseAllowedHours weekHours
  apply Fallible.mapM_of_ok
  rw [List.forall₂_map_right_iff]
  apply List.forall₂_same.mpr
  intro day _
  rw [each]
  rfl

theorem parseAllowedHours_each {entries : List (String × List AllowedHourInterval)}
    (parsed : parseAllowedHours form = .ok entries) : ∃ hours : Weekday → List AllowedHourInterval,
      (∀ day, parseDayHours form day = .ok (hours day)) ∧ entries = weekHours hours := by
  have each : ∀ day, ∃ intervals, parseDayHours form day = .ok intervals := by
    intro day
    have succeeds : Fallible.Succeeds (parseAllowedHours form) := ⟨entries, parsed⟩
    have one := Fallible.succeeds_mapM.mp succeeds day day.mem_tokens
    exact Fallible.succeeds_map.mp one
  choose hours read using each
  refine ⟨hours, read, ?_⟩
  have whole := parseAllowedHours_of read
  rw [parsed] at whole
  exact Except.ok.inj whole

theorem weekHours_get (hours : Weekday → List AllowedHourInterval) (day : Weekday) :
    (Dict.ofList (weekHours hours)).get? day.token = some (hours day) := by
  have keys : (weekHours hours).map Prod.fst = weekdayTokens.map Weekday.token := by
    unfold weekHours
    rw [List.map_map]
    rfl
  have distinct : ((weekHours hours).map Prod.fst).Nodup := by
    rw [keys]
    decide
  rw [Dict.get?_eq_some, Dict.entries_ofList distinct]
  exact List.mem_map.mpr ⟨day, day.mem_tokens, rfl⟩

theorem playtime_validate_again (playtime : PlayTimePayload) :
    PlayTimePayload.validate playtime.enabled playtime.overrideEnabled playtime.unaccountedIntervalsEnabled
      playtime.allowedWeekdays playtime.dailyLimitsS playtime.activities = .ok playtime := by
  have valid : failedChecks (PlayTimePayload.checks playtime.dailyLimitsS) = [] := by
    rw [failedChecks_nil]
    simp only [PlayTimePayload.checks, List.forall_mem_cons, Bool.and_eq_true, decide_eq_true_eq, List.all_eq_true]
    exact ⟨⟨playtime.sevenLimits, playtime.withinADay⟩, by simp⟩
  unfold PlayTimePayload.validate
  rw [dif_pos valid]

def PolicyUpdate.resent (update : PolicyUpdate) (allowedHours : AllowedHoursMap) (note : String) : PolicyFields :=
  { dailyLimitsS := update.dailyLimitsS
    weeklyLimitS := update.weeklyLimitS
    monthlyLimitS := update.monthlyLimitS
    allowedWeekdays := update.allowedWeekdays
    allowedHours
    lockoutType := update.lockoutType
    wakeFrom := update.wakeFrom
    wakeTo := update.wakeTo
    trackInactive := update.trackInactive
    hideTrayIcon := update.hideTrayIcon
    playtime := update.playtime
    note }

theorem update_validate_again (update : PolicyUpdate) (allowedHours : AllowedHoursMap) {note : String}
    (noteLength : note.length ≤ 500) :
    PolicyUpdate.validate (PolicyUpdate.resent update allowedHours note) =
      .ok { update with allowedHours, note, noteLength } := by
  unfold PolicyUpdate.validate
  rw [dif_pos]
  · rfl
  rw [failedChecks_nil]
  dsimp only [PolicyUpdate.resent]
  simp only [PolicyFields.checks, List.forall_mem_cons, Bool.and_eq_true, decide_eq_true_eq, List.all_eq_true,
    Option.all_eq_true]
  exact ⟨⟨update.sevenLimits, update.withinADay⟩, update.weeklyBounds, update.monthlyBounds, update.wakeFromPattern,
    update.wakeToPattern, noteLength, by simp⟩

theorem update_validate_long (update : PolicyUpdate) (allowedHours : AllowedHoursMap) {note : String}
    (long : ¬ note.length ≤ 500) :
    ¬ Fallible.Succeeds (PolicyUpdate.validate (PolicyUpdate.resent update allowedHours note)) := by
  have failed : failedChecks (PolicyUpdate.resent update allowedHours note).checks ≠ [] := by
    intro valid
    exact long (PolicyFields.checked valid).noteLength
  unfold PolicyUpdate.validate
  rw [dif_neg failed]
  exact Fallible.not_succeeds_error _

theorem formText_filled (form : Form) (name : String) : formText form name ≠ some "" := by
  intro blank
  unfold formText at blank
  split at blank
  · cases blank
  · cases blank
  · rename_i text filled given
    exact filled (Option.some.inj blank)

theorem plain_activities {activities : List PlayTimeActivity} (parsed : parseActivities form = .ok activities) :
    ∀ activity ∈ activities, PlainLine activity := by
  intro activity listed
  have lines := parseActivities_pairs parsed
  apply read_plain
  rw [lines]
  exact List.mem_map_of_mem listed

theorem activities_unbroken {activities : List PlayTimeActivity}
    (plain : ∀ activity ∈ activities, PlainLine activity) :
    ∀ c ∈ (ptActivitiesText activities).toList.head?, PyText.isLineBreak c = false := by
  intro c first
  rw [ptActivitiesText_toList] at first
  cases activities with
  | nil => cases first
  | cons activity rest =>
    apply plain_line (plain activity (List.mem_cons_self ..)) c
    have nonempty : activityLine activity ≠ [] := by simp [activityLine]
    obtain ⟨head, tail, shape⟩ := List.exists_cons_of_ne_nil nonempty
    rw [List.map_cons, shape] at first
    have same : head = c := by
      cases rest with
      | nil => exact Option.some.inj first
      | cons second rest => exact Option.some.inj first
    rw [shape, ← same]
    exact List.mem_cons_self ..

variable {view : PolicyView} {todayHoursOverride : Option String} (current : Option Policy)
  (reads : ReadFrom form update) (viewed : policyViewModel (policyToPayload (updatePolicy current update)) = .ok view)
  (sent : SentUnchanged ⟨view, todayHoursOverride⟩ again)

include reads viewed sent

theorem daily_reread : parseDailyLimits again = .ok update.dailyLimitsS := by
  obtain ⟨hoursByDay, _, built⟩ := Fallible.bind_ok viewed
  have fields := Fallible.pure_ok built
  subst fields
  have daily := parseDailyLimits_minutes reads.dailyLimitsS
  have whole : ∀ limit ∈ update.dailyLimitsS, WholeMinutes limit := by
    intro limit listed
    have bounds := update.withinADay limit listed
    exact ⟨bounds.1, by omega, (daily limit listed).2⟩
  have mode : again "daily_mode" = some (if update.dailyLimitsS.dedup.length = 1 then "same" else "different") := by
    rw [sent.dailyMode]
    show some (if decide (update.dailyLimitsS.dedup.length = 1) = true then _ else _) = _
    simp only [decide_eq_true_eq]
  exact parseDailyLimits_again update.sevenLimits whole mode sent.dailyMaster sent.dailyPerDay

/-- The fields of the page are read back as the policy they show. -/
theorem page_reread {hours : Weekday → List AllowedHourInterval}
    (reread : ∀ day, parseDayHours again day = .ok (hours day)) :
    parsePolicyForm again =
      (PolicyUpdate.validate (PolicyUpdate.resent update (Dict.ofList (weekHours hours))
        (textareaSent update.note))).mapError .invalidFields := by
  have daily := daily_reread current reads viewed sent
  obtain ⟨hoursByDay, _, built⟩ := Fallible.bind_ok viewed
  have fields := Fallible.pure_ok built
  subst fields
  have playtime := parsePlayTimeLimits_minutes reads.playTimeLimitsS
  have playtimeWhole : ∀ limit ∈ update.playtime.dailyLimitsS, WholeMinutes limit := by
    intro limit listed
    have bounds := update.playtime.withinADay limit listed
    exact ⟨bounds.1, by omega, (playtime limit listed).2⟩
  have weekly := parseCap_minutes (by decide) (by decide) reads.weeklyLimitS
  have weeklyWhole : WholeMinutes update.weeklyLimitS := ⟨weekly.1, by have := update.weeklyBounds; omega, weekly.2⟩
  have monthly := parseCap_minutes (by decide) (by decide) reads.monthlyLimitS
  have monthlyWhole : WholeMinutes update.monthlyLimitS :=
    ⟨monthly.1, update.monthlyBounds.2, monthly.2⟩
  have someDay : update.allowedWeekdays ≠ [] := by
    rw [reads.allowedWeekdays]
    exact reads.someWeekday
  have boxes := sent.weekdayBoxes
  have weekdays : tickedDays again "allowed_weekday_" = update.allowedWeekdays :=
    tickedDays_again (fun day => (boxes day).trans (by
      show decide (day ∈ if update.allowedWeekdays = [] then weekdayTokens else update.allowedWeekdays) = _
      rw [if_neg someDay])) ⟨_, reads.allowedWeekdays⟩
  have playtimeDays : tickedDays again "pt_allowed_weekday_" = update.playtime.allowedWeekdays :=
    tickedDays_again sent.ptWeekdayBoxes ⟨_, reads.playTimeWeekdays⟩
  have activities : parseActivities again = .ok update.playtime.activities := by
    have plain := plain_activities reads.activities
    apply parseActivities_of_pairs
    rw [sent.ptActivities, Option.getD_some, activityLines_eq]
    have lines := splitLines_textareaSent (activities_unbroken plain)
    exact (congrArg (List.filterMap readLine) lines).trans (plain_lines plain)
  have wakeFrom : formText again "wake_from" = update.wakeFrom :=
    formText_again (reads.wakeFrom ▸ formText_filled form "wake_from") sent.wakeFrom
  have wakeTo : formText again "wake_to" = update.wakeTo :=
    formText_again (reads.wakeTo ▸ formText_filled form "wake_to") sent.wakeTo
  have note : (again "note").getD "" = textareaSent update.note := by
    rw [sent.note]
    show textareaSent ((if update.note = "" then none else some update.note).getD "") = _
    split
    · rename_i blank
      rw [blank]
      rfl
    · rfl
  unfold parsePolicyForm
  refine (Fallible.bind_eq daily).trans ?_
  refine (Fallible.bind_eq (parseAllowedHours_of reread)).trans ?_
  dsimp only
  rw [weekdays, if_neg someDay]
  refine (Fallible.bind_eq (parseLockoutType_again sent.lockoutType)).trans ?_
  refine (Fallible.bind_eq (parseCap_again weeklyWhole update.weeklyBounds.2 sent.weeklyBox sent.weekly)).trans ?_
  refine (Fallible.bind_eq (parseCap_again monthlyWhole update.monthlyBounds.2 sent.monthlyBox sent.monthly)).trans ?_
  refine (Fallible.bind_eq (weekLimits_again update.playtime.sevenLimits playtimeWhole sent.ptDaily)).trans ?_
  refine (Fallible.bind_eq activities).trans ?_
  rw [sent.ptEnabled, sent.ptOverride, sent.ptUnaccounted, playtimeDays, wakeFrom, wakeTo, sent.trackInactive,
    sent.hideTrayIcon, note]
  dsimp only
  have built := playtime_validate_again update.playtime
  exact Fallible.bind_eq (congrArg (Except.mapError FormError.invalidFields) built)

omit reads viewed sent

theorem view_hours {hours : Weekday → List AllowedHourInterval} (current : Option Policy)
    (stored : update.allowedHours = Dict.ofList (weekHours hours)) {shown : Weekday → DayHours}
    (classified : ∀ day, classifyDayHours (some (hours day)) = .ok (shown day)) :
    ∃ view, policyViewModel (policyToPayload (updatePolicy current update)) = .ok view ∧
      ∀ day one, (day, one) ∈ view.hoursByDay ↔ one = shown day := by
  have each : weekdayTokens.mapM (fun day => (classifyDayHours
      ((policyToPayload (updatePolicy current update)).allowedHours.get? day.token)).map fun shown => (day, shown)) =
      .ok (weekdayTokens.map fun day => (day, shown day)) := by
    apply Fallible.mapM_of_ok
    rw [List.forall₂_map_right_iff]
    apply List.forall₂_same.mpr
    intro day _
    show (classifyDayHours (update.allowedHours.get? day.token)).map _ = _
    rw [stored, weekHours_get, classified]
    rfl
  refine ⟨_, Fallible.bind_of_ok each rfl, ?_⟩
  intro day one
  constructor
  · intro listed
    obtain ⟨other, _, same⟩ := List.mem_map.mp listed
    obtain ⟨rfl, rfl⟩ := Prod.mk.inj same
    rfl
  · rintro rfl
    exact List.mem_map.mpr ⟨day, day.mem_tokens, rfl⟩

theorem unrestricted_accounted : ¬ WholeDayUnaccounted unrestrictedWireIntervals := by
  intro whole
  obtain ⟨interval, listed, covers⟩ := whole 0 (by omega) (by omega)
  have accounted : ∀ interval ∈ unrestrictedWireIntervals, interval.unaccounted = false := by decide
  exact absurd ((accounted interval listed).symm.trans covers.2.2) (by decide)

theorem resaved_iff (intervals : List AllowedHourInterval) :
    resavedHours intervals = intervals ↔ ¬ WholeDayUnaccounted intervals := by
  unfold resavedHours
  constructor
  · intro same whole
    rw [if_pos whole] at same
    rw [← same] at whole
    exact unrestricted_accounted whole
  · intro partly
    exact if_neg partly

theorem hours_resent {hours : Weekday → List AllowedHourInterval} {shown : Weekday → DayHours}
    (each : ∀ day, parseDayHours again day =
      if EndsAtMidnight (shown day) then .error (.invalidTime (weekdayName day ++ " end time") "")
      else .ok (resavedHours (hours day))) :
    (∀ day, ¬ EndsAtMidnight (shown day)) ∧ (∀ day, parseDayHours again day = .ok (resavedHours (hours day))) ∨
      (¬ ∀ day, ¬ EndsAtMidnight (shown day)) ∧
        ∃ day, parseAllowedHours again = .error (.invalidTime (weekdayName day ++ " end time") "") := by
  by_cases daytime : ∀ day, ¬ EndsAtMidnight (shown day)
  · refine .inl ⟨daytime, fun day => ?_⟩
    rw [each, if_neg (daytime day)]
  · right
    refine ⟨daytime, ?_⟩
    have within : Fallible.FailsWithin
        (fun failure => ∃ day, failure = .invalidTime (weekdayName day ++ " end time") "")
        (parseAllowedHours again) := by
      apply Fallible.failsWithin_mapM
      intro day _
      rw [Fallible.failsWithin_map, each]
      split
      · exact Fallible.failsWithin_error.mpr ⟨day, rfl⟩
      · exact Fallible.failsWithin_ok _
    cases parsed : parseAllowedHours again with
    | error failure =>
      obtain ⟨day, rfl⟩ := within failure parsed
      exact ⟨day, rfl⟩
    | ok entries =>
      obtain ⟨others, read, _⟩ := parseAllowedHours_each parsed
      refine absurd (fun day midnight => ?_) daytime
      have failed := each day
      rw [if_pos midnight, read] at failed
      cases failed

theorem resaved_as {hours : Weekday → List AllowedHourInterval}
    (stored : update.allowedHours = Dict.ofList (weekHours hours))
    {noteLength : (textareaSent update.note).length ≤ 500}
    {resaved : PolicyUpdate} (same : resaved = { update with
      allowedHours := Dict.ofList (weekHours fun day => resavedHours (hours day))
      note := textareaSent update.note
      noteLength }) :
    (∀ day : Weekday, resaved.allowedHours.get? day.token = (update.allowedHours.get? day.token).map resavedHours) ∧
      (resaved = update ↔ textareaSent update.note = update.note ∧
        ∀ (day : Weekday) (intervals : List AllowedHourInterval),
          update.allowedHours.get? day.token = some intervals → ¬ WholeDayUnaccounted intervals) := by
  have each : ∀ day : Weekday,
      resaved.allowedHours.get? day.token = (update.allowedHours.get? day.token).map resavedHours := by
    intro day
    rw [same, stored, weekHours_get, weekHours_get]
    rfl
  refine ⟨each, ?_⟩
  constructor
  · intro unchanged
    have note : resaved.note = textareaSent update.note := by rw [same]
    rw [unchanged] at note each
    refine ⟨note.symm, ?_⟩
    intro day intervals held
    have kept := each day
    rw [held, Option.map_some, Option.some.injEq] at kept
    exact (resaved_iff intervals).mp kept.symm
  · rintro ⟨note, partly⟩
    have hours_same : (fun day => resavedHours (hours day)) = hours := by
      funext day
      apply (resaved_iff (hours day)).mpr
      apply partly day
      rw [stored, weekHours_get]
    rw [same, hours_same, ← stored]
    simp only [note]

/-- A page opened on what a form has saved and saved as it came up is accepted again unless a day's window ends at
    midnight, and stores the same policy but for the days that are unaccounted throughout and for what a text area
    does to the note. -/
theorem saved_page_saved_again {form : Form} {update : PolicyUpdate} (accepted : parsePolicyForm form = .ok update)
    (current : Option Policy) (todayHoursOverride : Option String) :
    ∃ view, policyViewModel (policyToPayload (updatePolicy current update)) = .ok view ∧
      ∀ again, SentUnchanged ⟨view, todayHoursOverride⟩ again →
        ((∃ resaved, parsePolicyForm again = .ok resaved) ↔
          (∀ day shown, (day, shown) ∈ view.hoursByDay → ¬ EndsAtMidnight shown) ∧
            (textareaSent update.note).length ≤ 500) ∧
        ((∃ day shown, (day, shown) ∈ view.hoursByDay ∧ EndsAtMidnight shown) →
          ∃ day, parsePolicyForm again = .error (.invalidTime (weekdayName day ++ " end time") "")) ∧
        ∀ resaved, parsePolicyForm again = .ok resaved →
          resaved.note = textareaSent update.note ∧
          resaved = { update with
            allowedHours := resaved.allowedHours
            note := resaved.note
            noteLength := resaved.noteLength } ∧
          (∀ day : Weekday, resaved.allowedHours.get? day.token =
            (update.allowedHours.get? day.token).map resavedHours) ∧
          (resaved = update ↔ textareaSent update.note = update.note ∧
            ∀ (day : Weekday) (intervals : List AllowedHourInterval),
              update.allowedHours.get? day.token = some intervals → ¬ WholeDayUnaccounted intervals) := by
  have reads := parsePolicyForm_reads accepted
  obtain ⟨entries, parsed, stored⟩ := reads.allowedHours
  obtain ⟨hours, read, rfl⟩ := parseAllowedHours_each parsed
  have shows := fun day => day_resaved (read day)
  choose shown classified reread using shows
  obtain ⟨view, viewed, listed⟩ := view_hours current stored classified
  refine ⟨view, viewed, ?_⟩
  intro again sent
  have daytime_iff : (∀ day one, (day, one) ∈ view.hoursByDay → ¬ EndsAtMidnight one) ↔
      ∀ day, ¬ EndsAtMidnight (shown day) := by
    constructor
    · intro daytime day
      exact daytime day (shown day) ((listed day _).mpr rfl)
    · intro daytime day one member
      rw [(listed day one).mp member]
      exact daytime day
  have midnight_iff : (∃ day one, (day, one) ∈ view.hoursByDay ∧ EndsAtMidnight one) ↔
      ¬ ∀ day, ¬ EndsAtMidnight (shown day) := by
    rw [← daytime_iff]
    push Not
    exact Iff.rfl
  rw [daytime_iff, midnight_iff]
  have each : ∀ day, parseDayHours again day =
      if EndsAtMidnight (shown day) then .error (.invalidTime (weekdayName day ++ " end time") "")
      else .ok (resavedHours (hours day)) := by
    intro day
    rw [parseDayHours_congr (sent.hours day (shown day) ((listed day _).mpr rfl))]
    exact reread day
  rcases hours_resent each with ⟨daytime, rereads⟩ | ⟨midnight, day, refused⟩
  · have checked := page_reread current reads viewed sent rereads
    by_cases noteLength : (textareaSent update.note).length ≤ 500
    · rw [update_validate_again update _ noteLength] at checked
      refine ⟨iff_of_true ⟨_, checked⟩ ⟨daytime, noteLength⟩, absurd daytime, ?_⟩
      intro resaved stored_again
      have same := Except.ok.inj (checked.symm.trans stored_again)
      obtain ⟨days, unchanged⟩ := resaved_as stored same.symm
      refine ⟨?_, ?_, days, unchanged⟩
      · rw [← same]
      · rw [← same]
    · have long :=
        update_validate_long update (Dict.ofList (weekHours fun day => resavedHours (hours day))) noteLength
      have failed : ¬ ∃ resaved, parsePolicyForm again = .ok resaved := by
        rintro ⟨resaved, stored_again⟩
        exact long ⟨resaved, Fallible.mapError_ok (checked.symm.trans stored_again)⟩
      exact ⟨iff_of_false failed fun both => noteLength both.2, absurd daytime,
        fun resaved accepted => absurd ⟨resaved, accepted⟩ failed⟩
  · have answered : parsePolicyForm again = .error (.invalidTime (weekdayName day ++ " end time") "") := by
      unfold parsePolicyForm
      rw [Fallible.bind_eq (daily_reread current reads viewed sent), refused]
      rfl
    have failed : ¬ ∃ resaved, parsePolicyForm again = .ok resaved := by
      rw [answered]
      exact Fallible.not_succeeds_error _
    exact ⟨iff_of_false failed fun both => midnight both.1, fun _ => ⟨day, answered⟩,
      fun resaved accepted => absurd ⟨resaved, accepted⟩ failed⟩

def prefixForm (fields : List (String × String)) : Form := fun name =>
  (fields.find? fun field => field.1.toList.isPrefixOf name.toList).map Prod.snd

def openWeek : Form := prefixForm
  [("hh_", "on"), ("hours_mode_", "all"), ("hours_from_", "09:00"), ("hours_to_", "17:00"), ("daily_mode", "same"),
    ("daily_", "0"), ("pt_daily_", "0"), ("weekly_h", "168"), ("weekly_m", "0"), ("monthly_h", "744"),
    ("monthly_m", "0"), ("allowed_weekday_", "on"), ("lockout_type", "lock"), ("wake_", ""), ("pt_activities", ""),
    ("note", "")]

theorem uncapped_bounds : ((0 : Int) ≤ 7 * 86400 ∧ (7 * 86400 : Int) ≤ 7 * 86400) ∧
    (0 : Int) ≤ 31 * 86400 ∧ (31 * 86400 : Int) ≤ 31 * 86400 := by
  omega

def openWeekUpdate : PolicyUpdate :=
  { anHourADay with
    dailyLimitsS := List.replicate 7 0
    weeklyLimitS := 7 * 86400
    monthlyLimitS := 31 * 86400
    allowedWeekdays := weekdayTokens
    allowedHours := Dict.ofList (weekHours fun _ => unrestrictedWireIntervals)
    playtime := { PlayTimePayload.defaults with unaccountedIntervalsEnabled := false, allowedWeekdays := [] }
    sevenLimits := PlayTimePayload.defaults.sevenLimits
    withinADay := PlayTimePayload.defaults.withinADay
    weeklyBounds := uncapped_bounds.1
    monthlyBounds := uncapped_bounds.2 }

theorem open_week_accepted : parsePolicyForm openWeek = .ok openWeekUpdate := by
  rfl

theorem open_week_hours (day : Weekday) {name : String} (field : HoursField day name) :
    openWeek name = shownDay day allDayHours name := by
  have boxes : ∀ hour : Fin 24, openWeek (hourBox day hour) = some "on" := by cases day <;> decide
  have every : ∀ hour : Fin 24, (hour.val : Int) ∈ allDayHours.hours := by decide
  cases field with
  | mode => cases day <;> decide
  | start => cases day <;> decide
  | stop => cases day <;> decide
  | unaccounted => cases day <;> decide
  | hour hour =>
    rw [boxes]
    exact (shownDay_ticked day allDayHours (every hour)).symm

theorem zeros_shown {form : Form} {head tail : String}
    (zeros : ∀ i : Fin 7, form (head ++ toString i.val) = some "0" ∧ form (tail ++ toString i.val) = some "0")
    (i : Nat) (hm : Int × Int) (found : ((List.replicate 7 (0 : Int)).map splitHm)[i]? = some hm) :
    ShowsHm form (head ++ toString i) (tail ++ toString i) hm := by
  obtain ⟨below, rfl⟩ := List.getElem?_eq_some_iff.mp found
  have same : ((List.replicate 7 (0 : Int)).map splitHm)[i] = (0, 0) := by
    rw [List.getElem_map, List.getElem_replicate]
    rfl
  rw [same]
  rw [List.length_map, List.length_replicate] at below
  exact zeros ⟨i, below⟩

theorem open_week_view {view : PolicyView}
    (viewed : policyViewModel (policyToPayload (updatePolicy none openWeekUpdate)) = .ok view) :
    SentUnchanged ⟨view, none⟩ openWeek := by
  obtain ⟨hoursByDay, each, built⟩ := Fallible.bind_ok viewed
  have fields := Fallible.pure_ok built
  subst fields
  have records :
      unrestrictedWireIntervals.map AllowedHourInterval.record = hoursOf ⟨0, 24 * 60, false, by decide⟩ := by
    decide
  have shownAs : ∀ day shown, (day, shown) ∈ hoursByDay → shown = allDayHours := by
    intro day shown listed
    obtain ⟨other, _, one⟩ := Fallible.mapM_ok_mem each listed
    change (classifyDayHours
      ((Dict.ofList (weekHours fun _ => unrestrictedWireIntervals)).get? other.token)).map _ = _ at one
    rw [weekHours_get, classify_window records] at one
    obtain ⟨_, same⟩ := Prod.mk.inj (Except.ok.inj one)
    exact same.symm
  exact
    { noNotice := rfl
      dailyMode := rfl
      dailyMaster := ⟨rfl, rfl⟩
      dailyPerDay := zeros_shown (by decide)
      hours := by
        intro day shown listed name field
        rw [shownAs day shown listed, sentDay_shown (by decide) (by decide)]
        exact open_week_hours day field
      weeklyBox := rfl
      weekly := ⟨rfl, rfl⟩
      monthlyBox := rfl
      monthly := ⟨rfl, rfl⟩
      weekdayBoxes := by
        intro day
        cases day <;> rfl
      lockoutType := rfl
      wakeFrom := rfl
      wakeTo := rfl
      trackInactive := rfl
      hideTrayIcon := rfl
      ptEnabled := rfl
      ptOverride := rfl
      ptUnaccounted := rfl
      ptWeekdayBoxes := by
        intro day
        cases day <;> rfl
      ptDaily := zeros_shown (by decide)
      ptActivities := rfl
      note := rfl }

theorem saved_page_saved_again_open_week : ∃ view resaved,
    policyViewModel (policyToPayload (updatePolicy none openWeekUpdate)) = .ok view ∧
      SentUnchanged ⟨view, none⟩ openWeek ∧ parsePolicyForm openWeek = .ok resaved ∧
      resaved = { openWeekUpdate with
        allowedHours := resaved.allowedHours
        note := resaved.note
        noteLength := resaved.noteLength } := by
  obtain ⟨view, viewed, each⟩ := saved_page_saved_again open_week_accepted none none
  have sent := open_week_view viewed
  obtain ⟨_, _, kept⟩ := each openWeek sent
  obtain ⟨_, same, _⟩ := kept openWeekUpdate open_week_accepted
  exact ⟨view, openWeekUpdate, viewed, sent, open_week_accepted, same⟩

end Page

end TimekprProof
