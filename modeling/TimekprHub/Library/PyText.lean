import Mathlib.Data.List.DropRight

namespace PyText

def isSpace (c : Char) : Bool :=
  let n := c.toNat
  (0x09 ≤ n && n ≤ 0x0d) || (0x1c ≤ n && n ≤ 0x20) || n = 0x85 || n = 0xa0 || n = 0x1680 ||
    (0x2000 ≤ n && n ≤ 0x200a) || n = 0x2028 || n = 0x2029 || n = 0x202f || n = 0x205f || n = 0x3000

def stripIf (blank : Char → Bool) (text : List Char) : List Char := (text.dropWhile blank).rdropWhile blank

def strip (text : List Char) : List Char := stripIf isSpace text

def isLineBreak (c : Char) : Bool :=
  let n := c.toNat
  (0x0a ≤ n && n ≤ 0x0d) || (0x1c ≤ n && n ≤ 0x1e) || n = 0x85 || n = 0x2028 || n = 0x2029

/-- `str.splitlines`, with what has been read of the current line. A break at the end opens no line. -/
def splitLinesFrom (line : List Char) : List Char → List (List Char)
  | [] => if line = [] then [] else [line]
  | '\r' :: '\n' :: rest => line :: splitLinesFrom [] rest
  | c :: rest => if isLineBreak c then line :: splitLinesFrom [] rest else splitLinesFrom (line ++ [c]) rest

def splitLines (text : List Char) : List (List Char) := splitLinesFrom [] text

def universalNewlines : List Char → List Char
  | [] => []
  | '\r' :: '\n' :: rest => '\n' :: universalNewlines rest
  | '\r' :: rest => '\n' :: universalNewlines rest
  | c :: rest => c :: universalNewlines rest

def partition (separator : Char) (text : List Char) : List Char × List Char :=
  (text.takeWhile (· ≠ separator), (text.dropWhile (· ≠ separator)).drop 1)

/-- The zero of each run of ten decimal digits. -/
def decimalZeros : List Nat :=
  [0x30, 0x660, 0x6f0, 0x7c0, 0x966, 0x9e6, 0xa66, 0xae6, 0xb66, 0xbe6, 0xc66, 0xce6, 0xd66, 0xde6, 0xe50,
    0xed0, 0xf20, 0x1040, 0x1090, 0x17e0, 0x1810, 0x1946, 0x19d0, 0x1a80, 0x1a90, 0x1b50, 0x1bb0, 0x1c40,
    0x1c50, 0xa620, 0xa8d0, 0xa900, 0xa9d0, 0xa9f0, 0xaa50, 0xabf0, 0xff10, 0x104a0, 0x10d30, 0x11066,
    0x110f0, 0x11136, 0x111d0, 0x112f0, 0x11450, 0x114d0, 0x11650, 0x116c0, 0x11730, 0x118e0, 0x11950,
    0x11c50, 0x11d50, 0x11da0, 0x11f50, 0x16a60, 0x16ac0, 0x16b50, 0x1d7ce, 0x1d7d8, 0x1d7e2, 0x1d7ec,
    0x1d7f6, 0x1e140, 0x1e2f0, 0x1e4f0, 0x1e950, 0x1fbf0]

def decimal? (c : Char) : Option Nat :=
  (decimalZeros.find? fun base => base ≤ c.toNat && c.toNat < base + 10).map fun base => c.toNat - base

/-- Digits, with single underscores between them. -/
def digits? : List Char → Option (List Nat)
  | [] => none
  | [c] => (decimal? c).map fun digit => [digit]
  | c :: '_' :: rest => do
    let digit ← decimal? c
    let digits ← digits? rest
    return digit :: digits
  | c :: rest => do
    let digit ← decimal? c
    let digits ← digits? rest
    return digit :: digits

/-- The blanks `int` skips: of the ASCII characters only the six of C's `isspace`. -/
def isIntSpace (c : Char) : Bool :=
  if c.toNat < 128 then (0x09 ≤ c.toNat && c.toNat ≤ 0x0d) || c = ' ' else isSpace c

def signed : List Char → Bool × List Char
  | '-' :: rest => (true, rest)
  | '+' :: rest => (false, rest)
  | text => (false, text)

/-- The interpreter's default for `sys.set_int_max_str_digits`. -/
def intMaxStrDigits : Nat := 4300

def int? (text : List Char) : Option Int :=
  let (negative, body) := signed (stripIf isIntSpace text)
  match digits? body with
  | none => none
  | some digits =>
    if digits.length ≤ intMaxStrDigits then
      let value : Nat := digits.foldl (fun value digit => value * 10 + digit) 0
      some (if negative then -value else value)
    else none

example : int? " +1_0 ".toList = some 10 := by decide

theorem mem_stripIf {blank : Char → Bool} {text : List Char} {c : Char}
    (listed : c ∈ stripIf blank text) : c ∈ text :=
  (List.dropWhile_sublist blank).subset ((List.rdropWhile_prefix blank _).subset listed)

theorem stripIf_of_ends {blank : Char → Bool} {text : List Char}
    (first : ∀ c ∈ text.head?, blank c = false) (last : ∀ c ∈ text.getLast?, blank c = false) :
    stripIf blank text = text := by
  have front : text.dropWhile blank = text := by
    cases text with
    | nil => rfl
    | cons c rest => rw [List.dropWhile_cons, first c rfl]; rfl
  unfold stripIf
  rw [front, List.rdropWhile_eq_self_iff]
  intro nonempty blankEnd
  have ends := last _ (List.getLast?_eq_some_getLast nonempty)
  rw [ends] at blankEnd
  cases blankEnd

theorem stripIf_first {blank : Char → Bool} {text : List Char} :
    ∀ c ∈ (stripIf blank text).head?, blank c = false := by
  intro c first
  have inner : c ∈ (text.dropWhile blank).head? := by
    obtain ⟨rest, whole⟩ := List.rdropWhile_prefix blank (text.dropWhile blank)
    obtain ⟨tail, shape⟩ := List.head?_eq_some_iff.mp first
    rw [← whole]
    unfold stripIf at shape
    rw [shape]
    rfl
  have found := List.head?_dropWhile_not blank text
  rw [inner] at found
  exact found

theorem stripIf_last {blank : Char → Bool} {text : List Char} :
    ∀ c ∈ (stripIf blank text).getLast?, blank c = false := by
  intro c last
  obtain ⟨nonempty, same⟩ := List.mem_getLast?_eq_getLast last
  rw [same]
  exact eq_false_of_ne_true (List.rdropWhile_last_not _ _ nonempty)

theorem stripIf_concat {blank : Char → Bool} {c : Char} (final : blank c = true) (text : List Char) :
    stripIf blank (text ++ [c]) = stripIf blank text := by
  unfold stripIf
  rw [List.dropWhile_append]
  split
  · rename_i allBlank
    rw [List.isEmpty_iff.mp allBlank, List.dropWhile_cons_of_pos final, List.dropWhile_nil]
  · rw [List.rdropWhile_concat_pos _ _ _ final]

theorem stripIf_rdropWhile (blank : Char → Bool) (text : List Char) :
    stripIf blank (text.rdropWhile blank) = stripIf blank text := by
  induction text using List.reverseRecOn with
  | nil => rfl
  | append_singleton text c ih =>
    cases final : blank c with
    | true => rw [List.rdropWhile_concat_pos _ _ _ final, ih, stripIf_concat final]
    | false => rw [List.rdropWhile_concat_neg _ _ _ (by simp [final])]

theorem rdropWhile_append {blank : Char → Bool} {c : Char} (kept : blank c = false) (before after : List Char) :
    (before ++ c :: after).rdropWhile blank = before ++ c :: after.rdropWhile blank := by
  induction after using List.reverseRecOn with
  | nil => rw [List.rdropWhile_concat_neg _ _ _ (by simp [kept]), List.rdropWhile_nil]
  | append_singleton after d ih =>
    have whole : before ++ c :: (after ++ [d]) = before ++ c :: after ++ [d] := by simp
    rw [whole]
    cases final : blank d with
    | true => rw [List.rdropWhile_concat_pos _ _ _ final, List.rdropWhile_concat_pos _ _ _ final, ih]
    | false =>
      rw [List.rdropWhile_concat_neg _ _ _ (by simp [final]), List.rdropWhile_concat_neg _ _ _ (by simp [final])]
      exact whole.symm

theorem strip_idempotent (text : List Char) : strip (strip text) = strip text :=
  stripIf_of_ends stripIf_first stripIf_last

theorem splitLinesFrom_cons {c : Char} (plain : isLineBreak c = false) (line rest : List Char) :
    splitLinesFrom line (c :: rest) = splitLinesFrom (line ++ [c]) rest := by
  have notReturn : c ≠ '\r' := by
    rintro rfl
    exact absurd plain (by decide)
  rw [splitLinesFrom]
  · simp only [plain, Bool.false_eq_true, if_false]
  · intro rest same
    exact absurd same notReturn

theorem splitLinesFrom_append {text : List Char} (plain : ∀ c ∈ text, isLineBreak c = false)
    (line rest : List Char) : splitLinesFrom line (text ++ rest) = splitLinesFrom (line ++ text) rest := by
  induction text generalizing line with
  | nil => rw [List.nil_append, List.append_nil]
  | cons c text ih =>
    obtain ⟨first, others⟩ := List.forall_mem_cons.mp plain
    rw [List.cons_append, splitLinesFrom_cons first, ih others, List.append_assoc]
    rfl

theorem splitLines_intercalate {lines : List (List Char)}
    (plain : ∀ line ∈ lines, line ≠ [] ∧ ∀ c ∈ line, isLineBreak c = false) :
    splitLines (['\n'].intercalate lines) = lines := by
  unfold splitLines
  induction lines with
  | nil => rfl
  | cons line rest ih =>
    obtain ⟨⟨nonempty, bare⟩, others⟩ := List.forall_mem_cons.mp plain
    cases rest with
    | nil =>
      have whole := splitLinesFrom_append bare [] []
      rw [List.append_nil] at whole
      rw [List.intercalate_singleton, whole, List.nil_append, splitLinesFrom, if_neg nonempty]
    | cons second rest =>
      rw [List.intercalate_cons_cons, List.append_assoc, splitLinesFrom_append bare]
      show line :: splitLinesFrom [] (['\n'].intercalate (second :: rest)) = _
      rw [ih others]

theorem splitLines_terminated {lines : List (List Char)}
    (plain : ∀ line ∈ lines, ∀ c ∈ line, isLineBreak c = false) :
    splitLines (lines.flatMap fun line => line ++ ['\n']) = lines := by
  unfold splitLines
  induction lines with
  | nil => rfl
  | cons line rest ih =>
    obtain ⟨bare, others⟩ := List.forall_mem_cons.mp plain
    rw [List.flatMap_cons, List.append_assoc, splitLinesFrom_append bare]
    show line :: splitLinesFrom [] (rest.flatMap fun line => line ++ ['\n']) = _
    rw [ih others]

theorem splitLinesFrom_universalNewlines (line text : List Char) :
    splitLinesFrom line (universalNewlines text) = splitLinesFrom line text := by
  fun_induction universalNewlines text generalizing line with
  | case1 => rfl
  | case2 rest ih =>
    show line :: splitLinesFrom [] (universalNewlines rest) = line :: splitLinesFrom [] rest
    rw [ih]
  | case3 rest alone ih =>
    have broken : splitLinesFrom line ('\r' :: rest) = line :: splitLinesFrom [] rest := by
      rw [splitLinesFrom.eq_3 line '\r' rest fun more _ same => alone more same]
      rfl
    rw [broken]
    show line :: splitLinesFrom [] (universalNewlines rest) = line :: splitLinesFrom [] rest
    rw [ih]
  | case4 c rest _ other ih =>
    have step : ∀ tail, splitLinesFrom line (c :: tail) =
        if isLineBreak c then line :: splitLinesFrom [] tail else splitLinesFrom (line ++ [c]) tail :=
      fun tail => splitLinesFrom.eq_3 line c tail fun _ same => absurd same other
    rw [step, step, ih, ih]

theorem splitLines_universalNewlines (text : List Char) : splitLines (universalNewlines text) = splitLines text :=
  splitLinesFrom_universalNewlines [] text

theorem splitLinesFrom_plain {start text line : List Char} (plain : ∀ c ∈ start, isLineBreak c = false)
    (listed : line ∈ splitLinesFrom start text) : ∀ c ∈ line, isLineBreak c = false := by
  fun_induction splitLinesFrom start text with
  | case1 => cases listed
  | case2 start nonempty =>
    rw [List.mem_singleton.mp listed]
    exact plain
  | case3 start rest ih =>
    rcases List.mem_cons.mp listed with rfl | later
    · exact plain
    · exact ih (by simp) later
  | case4 start c rest _ broken ih =>
    rcases List.mem_cons.mp listed with rfl | later
    · exact plain
    · exact ih (by simp) later
  | case5 start c rest _ whole ih =>
    refine ih ?_ listed
    intro other member
    rcases List.mem_append.mp member with before | last
    · exact plain other before
    · rw [List.mem_singleton.mp last]
      exact eq_false_of_ne_true whole

theorem partition_append {separator : Char} {before : List Char} (bare : separator ∉ before)
    (after : List Char) : partition separator (before ++ separator :: after) = (before, after) := by
  have other : ∀ c ∈ before, decide (c ≠ separator) = true := by
    intro c listed
    exact decide_eq_true fun same => bare (same ▸ listed)
  unfold partition
  rw [List.takeWhile_append_of_pos other, List.dropWhile_append_of_pos other]
  simp

theorem partition_bare (separator : Char) (text : List Char) : separator ∉ (partition separator text).1 := by
  intro listed
  have differs := List.mem_takeWhile_imp listed
  simp at differs

theorem mem_partition {separator c : Char} {text : List Char}
    (listed : c ∈ (partition separator text).1 ∨ c ∈ (partition separator text).2) : c ∈ text := by
  rcases listed with before | after
  · exact (List.takeWhile_prefix _).subset before
  · exact (List.dropWhile_sublist _).subset ((List.drop_sublist 1 _).subset after)

section Digits

theorem isDigit_bounds {c : Char} (digit : c.isDigit = true) : 48 ≤ c.toNat ∧ c.toNat ≤ 57 := by
  simp only [Char.isDigit, Bool.and_eq_true, decide_eq_true_eq] at digit
  exact digit

theorem decimal?_of_isDigit {c : Char} (digit : c.isDigit = true) : decimal? c = some (c.toNat - 48) := by
  have bounds := isDigit_bounds digit
  have first : decimalZeros.find? (fun base => base ≤ c.toNat && c.toNat < base + 10) = some 48 := by
    unfold decimalZeros
    rw [List.find?_cons_of_pos]
    simp only [Bool.and_eq_true, decide_eq_true_eq]
    omega
  unfold decimal?
  rw [first]
  rfl

theorem digits?_of_isDigit {text : List Char} (nonempty : text ≠ []) (plain : ∀ c ∈ text, c.isDigit = true) :
    digits? text = some (text.map fun c => c.toNat - 48) := by
  induction text with
  | nil => exact absurd rfl nonempty
  | cons c rest ih =>
    obtain ⟨digit, others⟩ := List.forall_mem_cons.mp plain
    cases rest with
    | nil =>
      unfold digits?
      rw [decimal?_of_isDigit digit]
      rfl
    | cons d tail =>
      have second := (List.forall_mem_cons.mp others).1
      have noBar : d ≠ '_' := by
        intro bar
        rw [bar] at second
        exact absurd second (by decide)
      have read := ih (List.cons_ne_nil _ _) others
      rw [digits?.eq_4 c (d :: tail) (by simp) fun more same => noBar (List.cons.inj same).1,
        decimal?_of_isDigit digit, read]
      rfl

theorem isIntSpace_of_isDigit {c : Char} (digit : c.isDigit = true) : isIntSpace c = false := by
  have bounds := isDigit_bounds digit
  have blank : c ≠ ' ' := by
    intro same
    rw [same] at digit
    exact absurd digit (by decide)
  unfold isIntSpace
  rw [if_pos (by omega)]
  simp only [blank, decide_false, Bool.or_false, Bool.and_eq_false_iff, decide_eq_false_iff_not]
  omega

theorem int?_toDigits {number : Nat} (short : (Nat.toDigits 10 number).length ≤ intMaxStrDigits) :
    int? (Nat.toDigits 10 number) = some (number : Int) := by
  have plain : ∀ c ∈ Nat.toDigits 10 number, c.isDigit = true := by
    intro c listed
    exact Nat.isDigit_of_mem_toDigits (by decide) (by decide) listed
  have nonempty : Nat.toDigits 10 number ≠ [] := by
    intro empty
    have long := @Nat.length_toDigits_pos 10 number
    rw [empty] at long
    exact absurd long (by decide)
  have value : (Nat.toDigits 10 number).foldl (fun value c => value * 10 + (c.toNat - 48)) 0 = number := by
    have read := @Nat.ofDigitChars_ten_toDigits number
    have zero : '0'.toNat = 48 := rfl
    unfold Nat.ofDigitChars at read
    simpa only [Nat.mul_comm, zero] using read
  generalize Nat.toDigits 10 number = digits at short plain nonempty value
  have bare : stripIf isIntSpace digits = digits := by
    apply stripIf_of_ends
    · intro c first
      exact isIntSpace_of_isDigit (plain c (List.mem_of_mem_head? first))
    · intro c final
      exact isIntSpace_of_isDigit (plain c (List.mem_of_mem_getLast? final))
  have unsigned : signed digits = (false, digits) := by
    cases digits with
    | nil => rfl
    | cons c rest =>
      have digit := plain c (List.mem_cons_self ..)
      unfold signed
      split
      · rename_i same
        rw [(List.cons.inj same).1] at digit
        exact absurd digit (by decide)
      · rename_i same
        rw [(List.cons.inj same).1] at digit
        exact absurd digit (by decide)
      · rfl
  unfold int?
  rw [bare, unsigned]
  dsimp only
  rw [digits?_of_isDigit nonempty plain]
  dsimp only
  rw [List.length_map, if_pos short, List.foldl_map, value]
  rfl

end Digits

end PyText
