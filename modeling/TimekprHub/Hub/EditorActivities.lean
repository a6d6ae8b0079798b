import TimekprHub.Hub.PolicyForm

namespace TimekprModel

def ptActivitiesText (activities : List PlayTimeActivity) : String :=
  "\n".intercalate (activities.map fun activity => activity.mask ++ "|" ++ activity.description)

structure PlainLine (activity : PlayTimeActivity) : Prop where
  noBar : '|' ∉ activity.mask.toList
  oneLine : ∀ c ∈ activity.mask.toList ++ activity.description.toList, PyText.isLineBreak c = false
  maskStripped : PyText.strip activity.mask.toList = activity.mask.toList
  descriptionStripped : PyText.strip activity.description.toList = activity.description.toList

def PlayTimeActivity.pair (activity : PlayTimeActivity) : String × String :=
  (activity.mask, activity.description)

end TimekprModel

namespace TimekprProof

open TimekprModel

def activityLine (activity : PlayTimeActivity) : List Char :=
  activity.mask.toList ++ '|' :: activity.description.toList

theorem ptActivitiesText_toList (activities : List PlayTimeActivity) :
    (ptActivitiesText activities).toList = ['\n'].intercalate (activities.map activityLine) := by
  have line : ∀ activity : PlayTimeActivity,
      (activity.mask ++ "|" ++ activity.description).toList = activityLine activity := by
    intro activity
    simp [activityLine]
  rw [ptActivitiesText, String.toList_intercalate, List.map_map]
  congr 1
  apply List.map_congr_left
  intro activity _
  exact line activity

theorem mask_nonempty (activity : PlayTimeActivity) : activity.mask.toList ≠ [] := by
  have length := activity.maskLength.1
  intro empty
  rw [← String.length_toList, empty] at length
  exact absurd length (by decide)

theorem plain_line {activity : PlayTimeActivity} (plain : PlainLine activity) :
    ∀ c ∈ activityLine activity, PyText.isLineBreak c = false := by
  intro c listed
  rcases List.mem_append.mp listed with inMask | inRest
  · exact plain.oneLine c (List.mem_append_left _ inMask)
  · rcases List.mem_cons.mp inRest with rfl | inDescription
    · decide
    · exact plain.oneLine c (List.mem_append_right _ inDescription)

theorem line_stripped {activity : PlayTimeActivity} (plain : PlainLine activity) :
    PyText.strip (activityLine activity) = activityLine activity := by
  obtain ⟨first, rest, shape⟩ := List.exists_cons_of_ne_nil (mask_nonempty activity)
  apply PyText.stripIf_of_ends
  · intro c starts
    have head : c ∈ activity.mask.toList.head? := by
      rw [activityLine, shape] at starts
      rw [shape]
      exact starts
    rw [← plain.maskStripped] at head
    exact PyText.stripIf_first c head
  · intro c ends
    rw [activityLine, List.getLast?_append_cons] at ends
    by_cases described : activity.description.toList = []
    · rw [described] at ends
      cases ends
      decide
    · rw [List.getLast?_cons_of_ne_nil described, ← plain.descriptionStripped] at ends
      exact PyText.stripIf_last c ends

def readLine (line : List Char) : Option (String × String) :=
  let line := PyText.strip line
  if line = [] then none
  else
    let (mask, description) := PyText.partition '|' line
    if PyText.strip mask = [] then none
    else some (String.ofList (PyText.strip mask), String.ofList (PyText.strip description))

theorem activityLines_eq (text : String) :
    activityLines text = (PyText.splitLines text.toList).filterMap readLine := rfl

theorem plain_read {activity : PlayTimeActivity} (plain : PlainLine activity) :
    readLine (activityLine activity) = some activity.pair := by
  have nonempty : activityLine activity ≠ [] := by simp [activityLine]
  unfold readLine
  rw [line_stripped plain]
  dsimp only
  rw [if_neg nonempty, activityLine, PyText.partition_append plain.noBar]
  dsimp only
  rw [plain.maskStripped, if_neg (mask_nonempty activity), plain.descriptionStripped, String.ofList_toList,
    String.ofList_toList]
  rfl

theorem plain_lines {activities : List PlayTimeActivity} (plain : ∀ activity ∈ activities, PlainLine activity) :
    activityLines (ptActivitiesText activities) = activities.map PlayTimeActivity.pair := by
  have lines : ∀ line ∈ activities.map activityLine,
      line ≠ [] ∧ ∀ c ∈ line, PyText.isLineBreak c = false := by
    intro line listed
    obtain ⟨activity, member, rfl⟩ := List.mem_map.mp listed
    exact ⟨by simp [activityLine], plain_line (plain activity member)⟩
  rw [activityLines_eq, ptActivitiesText_toList, PyText.splitLines_intercalate lines, List.filterMap_map]
  induction activities with
  | nil => rfl
  | cons activity rest ih =>
    obtain ⟨first, others⟩ := List.forall_mem_cons.mp plain
    rw [List.filterMap_cons, Function.comp_apply, plain_read first, List.map_cons,
      ih others fun line listed => lines line (List.mem_cons_of_mem _ listed)]

theorem read_plain {text : String} {activity : PlayTimeActivity}
    (read : activity.pair ∈ activityLines text) : PlainLine activity := by
  rw [activityLines_eq] at read
  obtain ⟨line, listed, given⟩ := List.mem_filterMap.mp read
  have bare := PyText.splitLinesFrom_plain (by simp) listed
  unfold readLine at given
  dsimp only at given
  split at given
  · cases given
  · split at given
    · cases given
    · obtain ⟨mask, description⟩ := Prod.mk.inj (Option.some.inj given)
      have maskText : activity.mask.toList = PyText.strip (PyText.partition '|' (PyText.strip line)).1 := by
        rw [← mask, String.toList_ofList]
      have descriptionText :
          activity.description.toList = PyText.strip (PyText.partition '|' (PyText.strip line)).2 := by
        rw [← description, String.toList_ofList]
      constructor
      · intro bar
        rw [maskText] at bar
        exact PyText.partition_bare '|' _ (PyText.mem_stripIf bar)
      · intro c inText
        apply bare
        apply PyText.mem_stripIf
        apply PyText.mem_partition
        rcases List.mem_append.mp inText with inMask | inDescription
        · left
          rw [maskText] at inMask
          exact PyText.mem_stripIf inMask
        · right
          rw [descriptionText] at inDescription
          exact PyText.mem_stripIf inDescription
      · rw [maskText, PyText.strip_idempotent]
      · rw [descriptionText, PyText.strip_idempotent]

theorem validate_pair {mask description : String} {activity : PlayTimeActivity}
    (built : PlayTimeActivity.validate mask description = .ok activity) : activity.pair = (mask, description) := by
  unfold PlayTimeActivity.validate at built
  split at built
  · cases built
    rfl
  · cases built

theorem validate_again (activity : PlayTimeActivity) :
    PlayTimeActivity.validate activity.mask activity.description = .ok activity := by
  have valid : failedChecks (PlayTimeActivity.checks activity.mask activity.description) = [] := by
    rw [failedChecks_nil]
    simp only [PlayTimeActivity.checks, List.forall_mem_cons, Bool.and_eq_true, decide_eq_true_eq,
      List.all_eq_true]
    exact ⟨⟨activity.maskLength, activity.noBrackets⟩, activity.descriptionLength, by simp⟩
  unfold PlayTimeActivity.validate
  rw [dif_pos valid]

theorem parseActivities_pairs {form : Form} {parsed : List PlayTimeActivity}
    (succeeds : parseActivities form = .ok parsed) :
    activityLines ((form "pt_activities").getD "") = parsed.map PlayTimeActivity.pair := by
  have pairs := Fallible.mapM_ok succeeds
  clear succeeds
  generalize activityLines ((form "pt_activities").getD "") = lines at pairs
  induction pairs with
  | nil => rfl
  | cons built _ ih => rw [List.map_cons, ← ih, validate_pair (Fallible.mapError_ok built)]

theorem parseActivities_of_pairs {form : Form} {activities : List PlayTimeActivity}
    (lines : activityLines ((form "pt_activities").getD "") = activities.map PlayTimeActivity.pair) :
    parseActivities form = .ok activities := by
  unfold parseActivities
  rw [lines]
  apply Fallible.mapM_of_ok
  rw [List.forall₂_map_left_iff]
  apply List.forall₂_same.mpr
  intro activity _
  show (PlayTimeActivity.validate activity.mask activity.description).mapError _ = _
  rw [validate_again]
  rfl

/-- Saving the editor as it came up keeps the activities exactly when each of them makes a plain line. -/
theorem saving_keeps_activities_iff {form : Form} {activities : List PlayTimeActivity}
    (unchanged : form "pt_activities" = some (ptActivitiesText activities)) :
    (∃ parsed, parseActivities form = .ok parsed ∧
        parsed.map PlayTimeActivity.pair = activities.map PlayTimeActivity.pair) ↔
      ∀ activity ∈ activities, PlainLine activity := by
  constructor
  · rintro ⟨parsed, succeeds, same⟩ activity listed
    have lines := parseActivities_pairs succeeds
    apply read_plain
    rw [lines, same]
    exact List.mem_map_of_mem listed
  · intro plain
    refine ⟨activities, parseActivities_of_pairs ?_, rfl⟩
    rw [unchanged]
    exact plain_lines plain

def steam : PlayTimeActivity where
  mask := "steam"
  description := "Games"
  maskLength := by decide
  descriptionLength := by decide
  noBrackets := by simp

theorem saving_keeps_activities_steam :
    let form : Form := fun _ => some (ptActivitiesText [steam])
    ∃ parsed, parseActivities form = .ok parsed ∧
      parsed.map PlayTimeActivity.pair = [steam].map PlayTimeActivity.pair := by
  intro form
  have unchanged : form "pt_activities" = some (ptActivitiesText [steam]) := rfl
  apply (saving_keeps_activities_iff unchanged).mpr
  intro activity listed
  rw [List.mem_singleton.mp listed]
  exact ⟨by decide, by simp [steam, PyText.isLineBreak], by decide, by decide⟩

/-- The bar of a mask's alternation is read as the one that ends the mask. -/
theorem alternation_not_kept :
    let browsers : PlayTimeActivity :=
      { steam with mask := "firefox|chrome", maskLength := by decide, noBrackets := by simp }
    ¬ ∃ parsed, parseActivities (fun _ => some (ptActivitiesText [browsers])) = .ok parsed ∧
      parsed.map PlayTimeActivity.pair = [browsers.pair] := by
  rintro browsers ⟨parsed, succeeds, same⟩
  have lines := parseActivities_pairs succeeds
  rw [same] at lines
  have read : browsers.pair ∈ activityLines (ptActivitiesText [browsers]) := by
    show browsers.pair ∈ activityLines ((some (ptActivitiesText [browsers])).getD "")
    rw [lines]
    exact List.mem_singleton_self _
  exact (read_plain read).noBar (by decide)

end TimekprProof
