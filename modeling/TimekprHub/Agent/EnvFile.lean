import Mathlib.Data.Bool.AllAny
import TimekprHub.Library.Dict
import TimekprHub.Library.PyText

namespace TimekprModel

inductive EnvKey
  | hubUrl
  | managedUsers
  | tz
  | caCert
  deriving DecidableEq, Repr

namespace EnvKey

def all : List EnvKey := [hubUrl, managedUsers, tz, caCert]

def name : EnvKey → List Char
  | hubUrl => "TIMEKPR_HUB_URL".toList
  | managedUsers => "TIMEKPR_HUB_MANAGED_USERS".toList
  | tz => "TIMEKPR_HUB_TZ".toList
  | caCert => "TIMEKPR_HUB_CA_CERT".toList

def ofName? (name : List Char) : Option EnvKey := all.find? fun key => key.name = name

end EnvKey

def envEntry? (line : List Char) : Option (EnvKey × List Char) :=
  let line := PyText.strip line
  if line = [] ∨ line.head? = some '#' ∨ '=' ∉ line then none
  else
    let (key, value) := PyText.partition '=' line
    (EnvKey.ofName? (PyText.strip key)).map fun key => (key, PyText.strip value)

/-- A file that is missing or cannot be read is `none`. -/
def readEnvFile : Option (List Char) → Dict EnvKey (List Char)
  | none => .empty
  | some text => .ofList ((PyText.splitLines (PyText.universalNewlines text)).filterMap envEntry?)

def truthy (text : Option (List Char)) : Option (List Char) := text.filter fun text => text ≠ []

def envDefault (environ : EnvKey → Option (List Char)) (values : Dict EnvKey (List Char)) (key : EnvKey) :
    Option (List Char) :=
  (truthy (environ key)).or (truthy (values.get? key))

structure EnvSettings where
  hubUrl : List Char
  managedUsers : List Char
  tz : List Char
  caCert : Option (List Char)
  deriving DecidableEq, Repr

def EnvSettings.value (settings : EnvSettings) : EnvKey → List Char
  | .hubUrl => settings.hubUrl
  | .managedUsers => settings.managedUsers
  | .tz => settings.tz
  | .caCert => settings.caCert.getD []

def envHeader : List (List Char) :=
  ["# Written by `timekpr-hub-agent enroll` -- re-run enroll (with a new".toList,
    "# code) rather than hand-editing this to move a device to a".toList,
    "# different hub or re-manage a different set of users.".toList]

def envLine (settings : EnvSettings) (key : EnvKey) : List Char := key.name ++ '=' :: settings.value key

def writeEnvFile (settings : EnvSettings) : List Char :=
  ['\n'].intercalate (envHeader ++ EnvKey.all.map (envLine settings) ++ [[]])

inductive HubUrlError
  | empty
  | unsupportedScheme (scheme : List Char)
  deriving DecidableEq, Repr

def schemeOf? : List Char → Option (List Char)
  | [] => none
  | c :: rest => if "://".toList <+: c :: rest then some [] else (schemeOf? rest).map fun scheme => c :: scheme

def normalizeHubUrl (raw : List Char) : Except HubUrlError (List Char) :=
  let stripped := PyText.strip raw
  if stripped = [] then .error .empty
  else
    let value := if schemeOf? stripped = none then "http://".toList ++ stripped else stripped
    let scheme := ((schemeOf? value).getD value).map Char.toLower
    if scheme = "http".toList ∨ scheme = "https".toList then .ok (value.rdropWhile fun c => c = '/')
    else .error (.unsupportedScheme scheme)

def parseUsers (text : List Char) : List (List Char) :=
  ((text.splitOn ',').map PyText.strip).filter fun username => username ≠ []

structure EnrollArgs where
  hubUrl : List Char
  users : List Char
  tz : List Char
  caCert : Option (List Char)

/-- What `enroll` writes once the hub has answered with its own time zone. -/
def enrolledSettings (args : EnrollArgs) (hubTz : Option (List Char)) : Except HubUrlError EnvSettings :=
  match normalizeHubUrl args.hubUrl with
  | .error error => .error error
  | .ok hubUrl =>
    .ok
      { hubUrl
        managedUsers := [','].intercalate (parseUsers args.users)
        tz := (truthy hubTz).getD args.tz
        caCert := args.caCert }

/-- Whether a text of the environment stands for what was enrolled. Of the users `run` makes a list. -/
def EnvSettings.Gives (settings : EnvSettings) : EnvKey → List Char → Prop
  | .managedUsers, text => parseUsers text = parseUsers settings.managedUsers
  | .caCert, text => settings.caCert = some text
  | key, text => text = settings.value key

structure RunConfig where
  hubUrl : List Char
  managedUsers : List (List Char)
  tz : List Char
  caCert : Option (List Char)
  deriving DecidableEq, Repr

/-- What `run` without flags works with; `none` is argparse refusing to start it. -/
def runConfig (environ : EnvKey → Option (List Char)) (values : Dict EnvKey (List Char)) : Option RunConfig :=
  match envDefault environ values .hubUrl, envDefault environ values .managedUsers with
  | some hubUrl, some users =>
    some
      { hubUrl
        managedUsers := parseUsers users
        tz := (envDefault environ values .tz).getD "UTC".toList
        caCert := envDefault environ values .caCert }
  | _, _ => none

end TimekprModel

namespace TimekprProof

open TimekprModel

/-- A text that comes back from a line of the file as it went in. -/
def Storable (value : List Char) : Prop :=
  PyText.strip value = value ∧ ∀ c ∈ value, PyText.isLineBreak c = false

section EnvFile

theorem name_plain (key : EnvKey) :
    ∀ c ∈ key.name, PyText.isSpace c = false ∧ PyText.isLineBreak c = false ∧ c ≠ '=' := by
  cases key <;> exact List.all_iff_forall_prop.mp (by decide +kernel)

theorem ofName_name (key : EnvKey) : EnvKey.ofName? key.name = some key := by
  cases key <;> decide +kernel

theorem envLine_head (settings : EnvSettings) (key : EnvKey) : (envLine settings key).head? = some 'T' := by
  cases key <;> rfl

theorem mem_strip {text : List Char} {c : Char} (listed : c ∈ PyText.strip text) : c ∈ text :=
  PyText.mem_stripIf listed

theorem envEntry_storable {line value : List Char} {key : EnvKey}
    (plain : ∀ c ∈ line, PyText.isLineBreak c = false) (entry : envEntry? line = some (key, value)) :
    Storable value := by
  unfold envEntry? at entry
  dsimp only at entry
  split at entry
  · cases entry
  · obtain ⟨_, _, same⟩ := Option.map_eq_some_iff.mp entry
    cases same
    constructor
    · exact PyText.strip_idempotent _
    · intro c listed
      exact plain c (mem_strip (PyText.mem_partition (.inr (mem_strip listed))))

theorem read_storable {file : Option (List Char)} {key : EnvKey} {value : List Char}
    (held : (readEnvFile file).get? key = some value) : Storable value := by
  cases file with
  | none => cases held
  | some text =>
    obtain ⟨line, listed, entry⟩ := List.mem_filterMap.mp (Dict.mem_of_get?_ofList held)
    rw [PyText.splitLines_universalNewlines] at listed
    exact envEntry_storable (PyText.splitLinesFrom_plain (by simp) listed) entry

theorem strip_envLine (settings : EnvSettings) (key : EnvKey) :
    PyText.strip (envLine settings key) = key.name ++ '=' :: (settings.value key).rdropWhile PyText.isSpace := by
  have front : (envLine settings key).dropWhile PyText.isSpace = envLine settings key := by
    obtain ⟨rest, shape⟩ := List.head?_eq_some_iff.mp (envLine_head settings key)
    rw [shape]
    exact List.dropWhile_cons_of_neg (by decide)
  unfold PyText.strip PyText.stripIf
  rw [front]
  exact PyText.rdropWhile_append (by decide) key.name (settings.value key)

theorem envEntry_envLine (settings : EnvSettings) (key : EnvKey) :
    envEntry? (envLine settings key) = some (key, PyText.strip (settings.value key)) := by
  have bare : '=' ∉ key.name := fun listed => (name_plain key _ listed).2.2 rfl
  have nameEnds : PyText.strip key.name = key.name := by
    apply PyText.stripIf_of_ends
    · intro c first
      exact (name_plain key c (List.mem_of_mem_head? first)).1
    · intro c final
      exact (name_plain key c (List.mem_of_mem_getLast? final)).1
  have head : ∀ rest, (key.name ++ '=' :: rest).head? = some 'T' := by
    intro rest
    cases key <;> rfl
  have kept : ∀ rest, ¬ (key.name ++ '=' :: rest = [] ∨ (key.name ++ '=' :: rest).head? = some '#' ∨
      '=' ∉ key.name ++ '=' :: rest) := by
    intro rest either
    rcases either with empty | comment | without
    · simp at empty
    · rw [head] at comment
      exact absurd comment (by decide)
    · exact without (List.mem_append_right _ List.mem_cons_self)
  unfold envEntry?
  rw [strip_envLine]
  dsimp only
  rw [if_neg (kept _), PyText.partition_append bare]
  dsimp only
  rw [nameEnds, ofName_name, Option.map_some]
  unfold PyText.strip
  rw [PyText.stripIf_rdropWhile]

theorem writeEnvFile_lines (settings : EnvSettings) : writeEnvFile settings =
    (envHeader ++ EnvKey.all.map (envLine settings)).flatMap fun line => line ++ ['\n'] := by
  have each : ∀ lines : List (List Char),
      ['\n'].intercalate (lines ++ [[]]) = lines.flatMap fun line => line ++ ['\n'] := by
    intro lines
    induction lines with
    | nil => rfl
    | cons line rest ih =>
      rw [List.flatMap_cons, ← ih]
      cases rest with
      | nil => simp
      | cons second rest => simp only [List.cons_append, List.intercalate_cons_cons]
  exact each _

theorem readEnvFile_plain {settings : EnvSettings}
    (whole : ∀ key, ∀ c ∈ settings.value key, PyText.isLineBreak c = false) (key : EnvKey) :
    (readEnvFile (some (writeEnvFile settings))).get? key = some (PyText.strip (settings.value key)) := by
  have plain : ∀ line ∈ envHeader ++ EnvKey.all.map (envLine settings), ∀ c ∈ line,
      PyText.isLineBreak c = false := by
    intro line listed c member
    rcases List.mem_append.mp listed with header | entry
    · have headers : ∀ c ∈ envHeader.flatten, PyText.isLineBreak c = false :=
        List.all_iff_forall_prop.mp (by decide +kernel)
      exact headers c (List.mem_flatten_of_mem header member)
    · obtain ⟨key, _, rfl⟩ := List.mem_map.mp entry
      rcases List.mem_append.mp member with name | tail
      · exact (name_plain key c name).2.1
      · rcases List.mem_cons.mp tail with rfl | value
        · decide
        · exact whole key c value
  have header : envHeader.filterMap envEntry? = [] := by decide +kernel
  have entries : (EnvKey.all.map (envLine settings)).filterMap envEntry? =
      EnvKey.all.map fun key => (key, PyText.strip (settings.value key)) := by
    rw [List.filterMap_map, ← List.filterMap_eq_map]
    apply List.filterMap_congr
    intro key _
    exact envEntry_envLine settings key
  show (Dict.ofList _).get? key = _
  rw [PyText.splitLines_universalNewlines, writeEnvFile_lines, PyText.splitLines_terminated plain,
    List.filterMap_append, header, entries, List.nil_append, Dict.get?_ofList]
  · cases key <;> rfl
  · exact (by decide : EnvKey.all.Nodup)

/-- agent.env gives back what was written to it exactly when none of the texts has a line break or blank ends. -/
theorem read_written_iff (settings : EnvSettings) :
    (∀ key, (readEnvFile (some (writeEnvFile settings))).get? key = some (settings.value key)) ↔
      ∀ key, Storable (settings.value key) := by
  constructor
  · intro held key
    exact read_storable (held key)
  · intro storable key
    rw [readEnvFile_plain fun key => (storable key).2, (storable key).1]

end EnvFile

section Users

theorem mem_splitOn {separator c : Char} {text piece : List Char} (listed : piece ∈ text.splitOn separator)
    (member : c ∈ piece) : c ≠ separator ∧ c ∈ text := by
  induction text generalizing piece with
  | nil =>
    rw [List.splitOn_nil, List.mem_singleton] at listed
    rw [listed] at member
    cases member
  | cons first rest ih =>
    rw [List.splitOn_cons_eq_if_modifyHead] at listed
    split at listed
    · rcases List.mem_cons.mp listed with rfl | later
      · cases member
      · have inside := ih later member
        exact ⟨inside.1, List.mem_cons_of_mem _ inside.2⟩
    · rename_i differ
      cases pieces : rest.splitOn separator with
      | nil => exact absurd pieces (List.splitOn_ne_nil _ _)
      | cons head others =>
        rw [pieces, List.modifyHead_cons] at listed
        rw [pieces] at ih
        rcases List.mem_cons.mp listed with rfl | later
        · rcases List.mem_cons.mp member with rfl | inside
          · exact ⟨fun same => differ (beq_iff_eq.mpr same), List.mem_cons_self⟩
          · have known := ih List.mem_cons_self inside
            exact ⟨known.1, List.mem_cons_of_mem _ known.2⟩
        · have known := ih (List.mem_cons_of_mem _ later) member
          exact ⟨known.1, List.mem_cons_of_mem _ known.2⟩

structure PlainUser (username : List Char) : Prop where
  nonempty : username ≠ []
  stripped : PyText.strip username = username
  noComma : ',' ∉ username

theorem parseUsers_plain {text username : List Char} (listed : username ∈ parseUsers text) :
    PlainUser username ∧ ∀ c ∈ username, c ∈ text := by
  obtain ⟨member, nonempty⟩ := List.mem_filter.mp listed
  obtain ⟨piece, inside, rfl⟩ := List.mem_map.mp member
  constructor
  · constructor
    · exact of_decide_eq_true nonempty
    · exact PyText.strip_idempotent piece
    · intro comma
      exact (mem_splitOn inside (mem_strip comma)).1 rfl
  · intro c held
    exact (mem_splitOn inside (mem_strip held)).2

variable {users : List (List Char)}

theorem parseUsers_join (plain : ∀ username ∈ users, PlainUser username) :
    parseUsers ([','].intercalate users) = users := by
  by_cases empty : users = []
  · rw [empty]
    rfl
  · have same : users.map PyText.strip = users := by
      rw [List.map_congr_left fun username listed => (plain username listed).stripped, List.map_id']
    unfold parseUsers
    rw [List.splitOn_intercalate ',' (fun username listed => (plain username listed).noComma) empty, same]
    apply List.filter_eq_self.mpr
    intro username listed
    exact decide_eq_true (plain username listed).nonempty

theorem mem_join {c : Char} (listed : c ∈ [','].intercalate users) :
    c = ',' ∨ ∃ username ∈ users, c ∈ username := by
  induction users with
  | nil => cases listed
  | cons username rest ih =>
    cases rest with
    | nil => exact .inr ⟨username, List.mem_cons_self, by simpa using listed⟩
    | cons second rest =>
      rw [List.intercalate_cons_cons, List.mem_append, List.mem_append, List.mem_singleton] at listed
      rcases listed with (own | comma) | later
      · exact .inr ⟨username, List.mem_cons_self, own⟩
      · exact .inl comma
      · rcases ih later with comma | ⟨other, member, held⟩
        · exact .inl comma
        · exact .inr ⟨other, List.mem_cons_of_mem _ member, held⟩

theorem join_head {username : List Char} (nonempty : username ≠ []) (rest : List (List Char)) :
    ([','].intercalate (username :: rest)).head? = username.head? := by
  cases rest with
  | nil => rw [List.intercalate_singleton]
  | cons second rest => rw [List.intercalate_cons_cons, List.append_assoc, List.head?_append_of_ne_nil _ nonempty]

theorem join_last {username : List Char} (nonempty : username ≠ []) (before : List (List Char)) :
    ([','].intercalate (before ++ [username])).getLast? = username.getLast? := by
  induction before with
  | nil => rw [List.nil_append, List.intercalate_singleton]
  | cons first rest ih =>
    have more : rest ++ [username] ≠ [] := by simp
    rw [List.cons_append, List.intercalate_cons_of_ne_nil more, List.getLast?_append, ih]
    cases last : username.getLast? with
    | none => exact absurd (List.getLast?_eq_none_iff.mp last) nonempty
    | some c => rfl

theorem strip_join (plain : ∀ username ∈ users, PlainUser username) :
    PyText.strip ([','].intercalate users) = [','].intercalate users := by
  apply PyText.stripIf_of_ends
  · intro c first
    cases users with
    | nil => cases first
    | cons username rest =>
      have own := plain username List.mem_cons_self
      rw [join_head own.nonempty, ← own.stripped] at first
      exact PyText.stripIf_first c first
  · intro c final
    rcases List.eq_nil_or_concat users with rfl | ⟨before, username, rfl⟩
    · cases final
    · rw [List.concat_eq_append] at plain final
      have own := plain username (by simp)
      rw [join_last own.nonempty, ← own.stripped] at final
      exact PyText.stripIf_last c final

end Users

section Url

theorem prefix_rdropWhile {p : Char → Bool} (front : List Char) (c : Char) (kept : p c = false) (back : List Char) :
    front ++ [c] <+: (front ++ [c] ++ back).rdropWhile p := by
  induction back using List.reverseRecOn with
  | nil =>
    have whole : (front ++ [c] ++ []).rdropWhile p = front ++ [c] := by
      rw [List.append_nil, List.rdropWhile_concat_neg _ _ _ (by simp [kept])]
    exact ⟨[], by rw [whole, List.append_nil]⟩
  | append_singleton back d ih =>
    rw [← List.append_assoc]
    cases dropped : p d with
    | true => rwa [List.rdropWhile_concat_pos _ _ _ dropped]
    | false =>
      rw [List.rdropWhile_concat_neg _ _ _ (by simp [dropped]), List.append_assoc]
      exact List.prefix_append _ _

theorem schemeOf_append {text scheme : List Char} (found : schemeOf? text = some scheme) :
    ∃ rest, text = scheme ++ "://".toList ++ rest := by
  induction text generalizing scheme with
  | nil => cases found
  | cons c tail ih =>
    unfold schemeOf? at found
    split at found
    · rename_i mark
      obtain ⟨rest, whole⟩ := mark
      cases found
      exact ⟨rest, whole.symm⟩
    · obtain ⟨before, inside, same⟩ := Option.map_eq_some_iff.mp found
      obtain ⟨rest, whole⟩ := ih inside
      subst same
      exact ⟨rest, by rw [whole]; rfl⟩

theorem schemeOf_longer {text scheme : List Char} (found : schemeOf? text = some scheme) (more : List Char) :
    schemeOf? (text ++ more) = some scheme := by
  induction text generalizing scheme with
  | nil => cases found
  | cons c tail ih =>
    have long : "://".toList.length ≤ (c :: tail).length := by
      obtain ⟨rest, whole⟩ := schemeOf_append found
      rw [whole, List.length_append, List.length_append]
      omega
    have same : "://".toList <+: c :: (tail ++ more) ↔ "://".toList <+: c :: tail := by
      constructor
      · intro mark
        exact List.prefix_of_prefix_length_le mark (List.prefix_append (c :: tail) more) long
      · intro mark
        exact mark.trans (List.prefix_append (c :: tail) more)
    unfold schemeOf? at found
    rw [List.cons_append, schemeOf?]
    by_cases mark : "://".toList <+: c :: tail
    · rw [if_pos mark] at found
      rw [if_pos (same.mpr mark), found]
    · rw [if_neg mark] at found
      obtain ⟨before, inside, made⟩ := Option.map_eq_some_iff.mp found
      rw [if_neg fun longer => mark (same.mp longer), ih inside, Option.map_some, made]

theorem http_read (text : List Char) : schemeOf? ("http://".toList ++ text) = some "http".toList := by
  have own : schemeOf? "http://".toList = some "http".toList := by decide
  exact schemeOf_longer own text

theorem normalized {raw url : List Char} (accepted : normalizeHubUrl raw = .ok url) :
    ∃ value scheme, schemeOf? value = some scheme ∧
      (scheme.map Char.toLower = "http".toList ∨ scheme.map Char.toLower = "https".toList) ∧
      url = value.rdropWhile fun c => c = '/' := by
  unfold normalizeHubUrl at accepted
  dsimp only at accepted
  split at accepted
  · cases accepted
  · by_cases bare : schemeOf? (PyText.strip raw) = none
    · rw [if_pos bare, http_read, Option.getD_some] at accepted
      split at accepted
      · rename_i known
        cases accepted
        exact ⟨_, _, http_read _, known, rfl⟩
      · cases accepted
    · obtain ⟨scheme, found⟩ := Option.ne_none_iff_exists'.mp bare
      rw [if_neg bare, found, Option.getD_some] at accepted
      split at accepted
      · rename_i known
        cases accepted
        exact ⟨_, scheme, found, known, rfl⟩
      · cases accepted

theorem normalized_ne_nil {raw url : List Char} (accepted : normalizeHubUrl raw = .ok url) : url ≠ [] := by
  obtain ⟨value, scheme, found, _, rfl⟩ := normalized accepted
  obtain ⟨rest, whole⟩ := schemeOf_append found
  have split : value = scheme ++ [':'] ++ ('/' :: '/' :: rest) := by
    rw [whole, List.append_assoc, List.append_assoc]
    rfl
  intro empty
  have front := prefix_rdropWhile (p := fun c => c = '/') scheme ':' (by decide) ('/' :: '/' :: rest)
  rw [← split, empty, List.prefix_nil] at front
  exact absurd front (by simp)

theorem prefix_strip (first : Char) (middle : List Char) (last : Char) (starts : PyText.isSpace first = false)
    (ends : PyText.isSpace last = false) (back : List Char) :
    first :: middle ++ [last] <+: PyText.strip (first :: middle ++ [last] ++ back) := by
  unfold PyText.strip PyText.stripIf
  rw [List.cons_append, List.cons_append, List.dropWhile_cons_of_neg (by simp [starts])]
  exact prefix_rdropWhile (first :: middle) last ends back

theorem strip_of_normalized_scheme {url : List Char} (accepted : normalizeHubUrl url = .ok url) :
    schemeOf? (PyText.strip url) ≠ none := by
  intro bare
  have shape : url = ("http://".toList ++ PyText.strip url).rdropWhile fun c => c = '/' := by
    unfold normalizeHubUrl at accepted
    dsimp only at accepted
    split at accepted
    · cases accepted
    · rw [http_read, Option.getD_some, if_pos (by decide)] at accepted
      exact (Except.ok.inj accepted).symm
  have first : "http:".toList <+: url := by
    rw [shape]
    exact prefix_rdropWhile "http".toList ':' (by decide) ('/' :: '/' :: PyText.strip url)
  obtain ⟨tail, begins⟩ := first
  have host : "http:".toList <+: PyText.strip url := by
    rw [← begins]
    exact prefix_strip 'h' "ttp".toList ':' (by decide) (by decide) tail
  obtain ⟨after, stripped⟩ := host
  have longer : "http://h".toList <+: url := by
    rw [shape, ← stripped]
    exact prefix_rdropWhile "http://".toList 'h' (by decide) ("ttp:".toList ++ after)
  obtain ⟨rest, goes⟩ := longer
  have marked : "http://h".toList <+: PyText.strip url := by
    rw [← goes]
    exact prefix_strip 'h' "ttp://".toList 'h' (by decide) (by decide) rest
  obtain ⟨more, whole⟩ := marked
  have read : schemeOf? (PyText.strip url) = some "http".toList := by
    rw [← whole]
    exact http_read ('h' :: more)
  rw [read] at bare
  cases bare

/-- Normalising again changes nothing exactly when the URL still has its `://` and no blank at an end. -/
theorem normalized_again_iff {raw url : List Char} (accepted : normalizeHubUrl raw = .ok url) :
    normalizeHubUrl url = .ok url ↔ schemeOf? url ≠ none ∧ PyText.strip url = url := by
  obtain ⟨value, scheme, found, known, cut⟩ := normalized accepted
  have settled : url.rdropWhile (fun c => c = '/') = url := by
    rw [cut, List.rdropWhile_idempotent]
  constructor
  · intro again
    have marked := strip_of_normalized_scheme again
    have stripped : (PyText.strip url).rdropWhile (fun c => c = '/') = url := by
      unfold normalizeHubUrl at again
      dsimp only at again
      split at again
      · cases again
      · split at again
        · exact Except.ok.inj again
        · cases again
    have whole : PyText.strip url = url := by
      have inside : (PyText.strip url).Sublist url :=
        (List.rdropWhile_prefix _ _).sublist.trans (List.dropWhile_sublist _)
      have shorter : url.length ≤ (PyText.strip url).length := by
        rw [← congrArg List.length stripped]
        exact (List.rdropWhile_prefix _ _).length_le
      exact inside.eq_of_length_le shorter
    rw [whole] at marked
    exact ⟨marked, whole⟩
  · intro ⟨marked, whole⟩
    obtain ⟨own, read⟩ := Option.ne_none_iff_exists'.mp marked
    obtain ⟨more, longer⟩ := List.rdropWhile_prefix (fun c => decide (c = '/')) value
    have same : scheme = own := by
      have onward := schemeOf_longer read more
      rw [cut, longer, found] at onward
      exact Option.some.inj onward
    unfold normalizeHubUrl
    rw [whole]
    dsimp only
    rw [if_neg (normalized_ne_nil accepted), if_neg marked, read, Option.getD_some, ← same, if_pos known, settled]

theorem normalized_again_local :
    normalizeHubUrl "http://hub.local:8000".toList = .ok "http://hub.local:8000".toList := by
  have accepted : normalizeHubUrl " hub.local:8000/ ".toList = .ok "http://hub.local:8000".toList := by decide +kernel
  exact (normalized_again_iff accepted).mpr ⟨by decide, by decide⟩

/-- A slash with nothing before it loses the mark, and a blank before the slashes comes to light. -/
example : normalizeHubUrl " https:// ".toList = .ok "https:".toList ∧
    normalizeHubUrl "hub.local /".toList = .ok "http://hub.local ".toList := by decide

end Url

section Restart

/-- A variable comes as it was enrolled: the environment has another spelling of it at most, or leaves it to the file,
    which holds a text for it unless there is none. -/
def Kept (environ : EnvKey → Option (List Char)) (settings : EnvSettings) (key : EnvKey) : Prop :=
  match truthy (environ key) with
  | some text => settings.Gives key text
  | none => Storable (settings.value key) ∧ (settings.value key ≠ [] ∨ key = .caCert ∧ settings.caCert = none)

theorem truthy_of_ne_nil {text : List Char} (nonempty : text ≠ []) : truthy (some text) = some text := by
  unfold truthy
  rw [Option.filter_some, if_pos (decide_eq_true nonempty)]

theorem truthy_eq_some {text : Option (List Char)} {value : List Char} :
    truthy text = some value ↔ text = some value ∧ value ≠ [] := by
  unfold truthy
  rw [Option.filter_eq_some_iff, decide_eq_true_eq]

theorem users_storable {text : List Char} (plain : ∀ c ∈ text, PyText.isLineBreak c = false) :
    Storable ([','].intercalate (parseUsers text)) := by
  constructor
  · exact strip_join fun username listed => (parseUsers_plain listed).1
  · intro c listed
    rcases mem_join listed with rfl | ⟨username, member, held⟩
    · decide
    · exact plain c ((parseUsers_plain member).2 c held)

structure Enrolled (settings : EnvSettings) : Prop where
  joined : settings.managedUsers = [','].intercalate (parseUsers settings.managedUsers)
  url : settings.hubUrl ≠ []

theorem enrolled {args : EnrollArgs} {hubTz : Option (List Char)} {settings : EnvSettings}
    (written : enrolledSettings args hubTz = .ok settings) :
    Enrolled settings ∧ parseUsers settings.managedUsers = parseUsers args.users := by
  unfold enrolledSettings at written
  split at written
  · cases written
  · rename_i url accepted
    cases written
    have same := parseUsers_join fun username listed => (@parseUsers_plain args.users username listed).1
    refine ⟨⟨?_, normalized_ne_nil accepted⟩, same⟩
    dsimp only
    rw [same]

def Taken (settings : EnvSettings) (default : Option (List Char)) : EnvKey → Prop
  | .hubUrl => default = some settings.hubUrl
  | .managedUsers => ∃ text, default = some text ∧ parseUsers text = parseUsers settings.managedUsers
  | .tz => default.getD "UTC".toList = settings.tz
  | .caCert => default = settings.caCert

theorem runConfig_iff {environ : EnvKey → Option (List Char)} {values : Dict EnvKey (List Char)}
    {settings : EnvSettings} :
    runConfig environ values =
        some ⟨settings.hubUrl, parseUsers settings.managedUsers, settings.tz, settings.caCert⟩ ↔
      ∀ key, Taken settings (envDefault environ values key) key := by
  unfold runConfig
  constructor
  · intro started
    split at started
    · rename_i url users urlHeld usersHeld
      rw [Option.some.injEq, RunConfig.mk.injEq] at started
      obtain ⟨sameUrl, sameUsers, sameZone, sameBundle⟩ := started
      intro key
      cases key with
      | hubUrl => exact urlHeld.trans (congrArg some sameUrl)
      | managedUsers => exact ⟨users, usersHeld, sameUsers⟩
      | tz => exact sameZone
      | caCert => exact sameBundle
    · cases started
  · intro taken
    obtain ⟨users, usersHeld, sameUsers⟩ := taken .managedUsers
    have url : envDefault environ values .hubUrl = some settings.hubUrl := taken .hubUrl
    have zone : (envDefault environ values .tz).getD "UTC".toList = settings.tz := taken .tz
    have bundle : envDefault environ values .caCert = settings.caCert := taken .caCert
    rw [url, usersHeld]
    dsimp only
    rw [zone, bundle, sameUsers]

variable {environ : EnvKey → Option (List Char)} {settings : EnvSettings} {key : EnvKey}

theorem taken_of_set {values : Dict EnvKey (List Char)} {text : List Char}
    (set : truthy (environ key) = some text) :
    Taken settings (envDefault environ values key) key ↔ settings.Gives key text := by
  unfold envDefault
  rw [set, Option.some_or]
  cases key with
  | hubUrl => exact Option.some_inj
  | managedUsers =>
    constructor
    · intro ⟨other, same, users⟩
      rw [Option.some.inj same]
      exact users
    · intro users
      exact ⟨text, rfl, users⟩
  | tz => exact Iff.rfl
  | caCert => exact eq_comm

theorem envDefault_of_unset {values : Dict EnvKey (List Char)} (unset : truthy (environ key) = none) :
    envDefault environ values key = truthy (values.get? key) := by
  unfold envDefault
  rw [unset, Option.none_or]

/-- Only storable texts come out of the file, so what came out as it went in was storable. -/
theorem storable_of_taken {file : Option (List Char)} (made : Enrolled settings)
    (taken : Taken settings (truthy ((readEnvFile file).get? key)) key) : Storable (settings.value key) := by
  have read : ∀ {value}, truthy ((readEnvFile file).get? key) = some value → Storable value :=
    fun held => read_storable (truthy_eq_some.mp held).1
  cases key with
  | hubUrl => exact read taken
  | managedUsers =>
    obtain ⟨text, held, same⟩ := taken
    show Storable settings.managedUsers
    rw [made.joined, ← same]
    exact users_storable (read held).2
  | tz =>
    show Storable settings.tz
    rw [← show _ = settings.tz from taken]
    cases held : truthy ((readEnvFile file).get? .tz) with
    | none => exact ⟨by decide, List.all_iff_forall_prop.mp (by decide)⟩
    | some zone => exact read held
  | caCert =>
    show Storable (settings.caCert.getD [])
    rw [← show _ = settings.caCert from taken]
    cases held : truthy ((readEnvFile file).get? .caCert) with
    | none =>
      constructor
      · rfl
      · intro c listed
        cases listed
    | some path => exact read held

theorem taken_of_unset (made : Enrolled settings) (storable : Storable (settings.value key)) :
    Taken settings (truthy (some (PyText.strip (settings.value key)))) key ↔
      settings.value key ≠ [] ∨ key = .caCert ∧ settings.caCert = none := by
  rw [storable.1]
  by_cases empty : settings.value key = []
  · rw [empty]
    cases key with
    | hubUrl => exact absurd empty made.url
    | managedUsers =>
      constructor
      · intro ⟨text, held, _⟩
        cases held
      · intro either
        rcases either with filled | ⟨other, _⟩
        · exact absurd rfl filled
        · cases other
    | tz =>
      have zone : settings.tz = [] := empty
      show "UTC".toList = settings.tz ↔ _
      rw [zone]
      constructor
      · intro same
        exact absurd same (by decide)
      · intro either
        rcases either with filled | ⟨other, _⟩
        · exact absurd rfl filled
        · cases other
    | caCert =>
      show none = settings.caCert ↔ _
      constructor
      · intro bundle
        exact .inr ⟨rfl, bundle.symm⟩
      · intro either
        rcases either with filled | ⟨_, bundle⟩
        · exact absurd rfl filled
        · exact bundle.symm
  · rw [truthy_of_ne_nil empty]
    refine iff_of_true ?_ (.inl empty)
    cases key with
    | hubUrl => rfl
    | managedUsers => exact ⟨settings.managedUsers, rfl, rfl⟩
    | tz => rfl
    | caCert =>
      show some (settings.caCert.getD []) = settings.caCert
      cases held : settings.caCert with
      | none => exact absurd (show settings.caCert.getD [] = [] by rw [held]; rfl) empty
      | some path => rfl

/-- An agent enrolled once is started from agent.env as it was enrolled exactly when each variable comes as it was
    enrolled: from the environment, or from the file as a text without a line break or blank ends. -/
theorem run_as_enrolled_iff {args : EnrollArgs} {hubTz : Option (List Char)} {settings : EnvSettings}
    (written : enrolledSettings args hubTz = .ok settings) (environ : EnvKey → Option (List Char))
    (whole : ∀ key, truthy (environ key) ≠ none → ∀ c ∈ settings.value key, PyText.isLineBreak c = false) :
    runConfig environ (readEnvFile (some (writeEnvFile settings))) =
        some ⟨settings.hubUrl, parseUsers args.users, settings.tz, settings.caCert⟩ ↔
      ∀ key, Kept environ settings key := by
  obtain ⟨made, users⟩ := enrolled written
  rw [← users, runConfig_iff]
  constructor
  · intro taken
    have plain : ∀ key, ∀ c ∈ settings.value key, PyText.isLineBreak c = false := by
      intro key
      cases set : truthy (environ key) with
      | none =>
        have own := taken key
        rw [envDefault_of_unset set] at own
        exact (storable_of_taken made own).2
      | some text => exact whole key (by rw [set]; exact Option.some_ne_none text)
    intro key
    have own := taken key
    unfold Kept
    cases set : truthy (environ key) with
    | none =>
      rw [envDefault_of_unset set] at own
      have storable := storable_of_taken made own
      rw [readEnvFile_plain plain] at own
      exact ⟨storable, (taken_of_unset made storable).mp own⟩
    | some text => exact (taken_of_set set).mp own
  · intro kept
    have plain : ∀ key, ∀ c ∈ settings.value key, PyText.isLineBreak c = false := by
      intro key
      have own := kept key
      unfold Kept at own
      cases set : truthy (environ key) with
      | none =>
        rw [set] at own
        exact own.1.2
      | some text => exact whole key (by rw [set]; exact Option.some_ne_none text)
    intro key
    have own := kept key
    unfold Kept at own
    cases set : truthy (environ key) with
    | none =>
      rw [set] at own
      rw [envDefault_of_unset set, readEnvFile_plain plain]
      exact (taken_of_unset made own.1).mpr own.2
    | some text =>
      rw [set] at own
      exact (taken_of_set set).mpr own

def familyArgs : EnrollArgs := ⟨" hub.local:8000/ ".toList, "anna , ben,".toList, "UTC".toList, none⟩

def familySettings : EnvSettings :=
  ⟨"http://hub.local:8000".toList, "anna,ben".toList, "Europe/Berlin".toList, none⟩

/-- The shipped unit has the users in the environment too, here with a blank. -/
def familyEnviron : EnvKey → Option (List Char)
  | .managedUsers => some "anna, ben".toList
  | .tz => some []
  | _ => none

theorem run_as_enrolled_family :
    runConfig familyEnviron (readEnvFile (some (writeEnvFile familySettings))) =
      some ⟨familySettings.hubUrl, parseUsers familyArgs.users, familySettings.tz, familySettings.caCert⟩ := by
  have written : enrolledSettings familyArgs (some "Europe/Berlin".toList) = .ok familySettings := by decide +kernel
  have plain : ∀ key, ∀ c ∈ familySettings.value key, PyText.isLineBreak c = false := by
    intro key
    cases key <;> exact List.all_iff_forall_prop.mp (by decide +kernel)
  refine (run_as_enrolled_iff written familyEnviron fun key _ => plain key).mpr ?_
  intro key
  cases key with
  | hubUrl => exact ⟨⟨by decide +kernel, plain .hubUrl⟩, .inl (by decide)⟩
  | managedUsers => exact (by decide +kernel : parseUsers "anna, ben".toList = parseUsers "anna,ben".toList)
  | tz => exact ⟨⟨by decide +kernel, plain .tz⟩, .inl (by decide)⟩
  | caCert => exact ⟨⟨by decide +kernel, plain .caCert⟩, .inr ⟨rfl, rfl⟩⟩

end Restart

end TimekprProof
