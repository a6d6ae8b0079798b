import Mathlib.Data.List.Induction
import Mathlib.Data.List.Nodup

universe u v w

/-- An insertion-ordered finite map: every key stands once, where it was first written. -/
structure Dict (κ : Type u) (ν : Type v) where
  entries : List (κ × ν)
  nodup : (entries.map Prod.fst).Nodup

namespace Dict

variable {κ : Type u} {ν : Type v} {ω : Type w}

def empty : Dict κ ν := ⟨[], List.nodup_nil⟩

def keys (dict : Dict κ ν) : List κ := dict.entries.map Prod.fst

theorem nodup_entries (dict : Dict κ ν) : dict.entries.Nodup := dict.nodup.of_map Prod.fst

def mapValues (dict : Dict κ ν) (f : ν → ω) : Dict κ ω :=
  ⟨dict.entries.map fun entry => (entry.1, f entry.2), by
    rw [List.map_map]
    exact dict.nodup⟩

variable [DecidableEq κ]

instance [DecidableEq ν] : DecidableEq (Dict κ ν) := fun a b =>
  decidable_of_iff (a.entries = b.entries) ⟨fun same => by cases a; cases b; cases same; rfl,
    fun same => same ▸ rfl⟩

def get? (dict : Dict κ ν) (key : κ) : Option ν := dict.entries.lookup key

theorem lookup_cons (key : κ) (entry : κ × ν) (rest : List (κ × ν)) :
    (entry :: rest).lookup key = if entry.1 = key then some entry.2 else rest.lookup key := by
  rw [List.lookup_cons]
  by_cases same : entry.1 = key
  · simp [same]
  · have differs : (key == entry.1) = false := by simpa using Ne.symm same
    rw [if_neg same, differs]

/-- An existing key keeps its place and takes the new value; a new one goes last. -/
def setIn (key : κ) (value : ν) : List (κ × ν) → List (κ × ν)
  | [] => [(key, value)]
  | entry :: rest => if entry.1 = key then (key, value) :: rest else entry :: setIn key value rest

theorem mem_keys_setIn (key : κ) (value : ν) (entries : List (κ × ν)) (other : κ) :
    other ∈ (setIn key value entries).map Prod.fst ↔ other = key ∨ other ∈ entries.map Prod.fst := by
  induction entries with
  | nil => simp [setIn]
  | cons entry rest ih =>
    simp only [setIn]
    split
    · rename_i same
      simp [same]
    · simp only [List.map_cons, List.mem_cons, ih]
      tauto

theorem nodup_setIn (key : κ) (value : ν) (entries : List (κ × ν))
    (nodup : (entries.map Prod.fst).Nodup) : ((setIn key value entries).map Prod.fst).Nodup := by
  induction entries with
  | nil => simp [setIn]
  | cons entry rest ih =>
    rw [List.map_cons, List.nodup_cons] at nodup
    simp only [setIn]
    split
    · rename_i same
      rw [List.map_cons, List.nodup_cons]
      exact ⟨same ▸ nodup.1, nodup.2⟩
    · rename_i differ
      rw [List.map_cons, List.nodup_cons]
      refine ⟨?_, ih nodup.2⟩
      rw [mem_keys_setIn]
      rintro (same | inside)
      · exact differ same
      · exact nodup.1 inside

def set (dict : Dict κ ν) (key : κ) (value : ν) : Dict κ ν :=
  ⟨setIn key value dict.entries, nodup_setIn key value dict.entries dict.nodup⟩

def ofList (entries : List (κ × ν)) : Dict κ ν :=
  entries.foldl (fun dict entry => dict.set entry.1 entry.2) empty

def update (dict more : Dict κ ν) : Dict κ ν :=
  more.entries.foldl (fun dict entry => dict.set entry.1 entry.2) dict

@[simp] theorem get?_empty (key : κ) : (empty : Dict κ ν).get? key = none := rfl

theorem lookup_setIn (key : κ) (value : ν) (entries : List (κ × ν)) (other : κ) :
    List.lookup other (setIn key value entries) = if other = key then some value else List.lookup other entries := by
  induction entries with
  | nil => simp [setIn, lookup_cons, eq_comm]
  | cons entry rest ih =>
    simp only [setIn]
    split
    · rename_i same
      simp only [lookup_cons, same, eq_comm]
      split <;> rfl
    · rename_i differ
      simp only [lookup_cons, ih]
      split
      · rename_i found
        rw [if_neg (by rw [← found]; exact differ)]
      · rfl

theorem keys_set_of_mem {dict : Dict κ ν} {key : κ} (value : ν) (present : key ∈ dict.keys) :
    (dict.set key value).keys = dict.keys := by
  obtain ⟨entries, nodup⟩ := dict
  simp only [keys, set] at present ⊢
  clear nodup
  induction entries with
  | nil => cases present
  | cons entry rest ih =>
    simp only [setIn]
    split
    · rename_i same
      rw [List.map_cons, List.map_cons, same]
    · rename_i differ
      rw [List.map_cons, List.mem_cons] at present
      rw [List.map_cons, List.map_cons, ih (present.resolve_left (Ne.symm differ))]

theorem get?_set (dict : Dict κ ν) (key : κ) (value : ν) (other : κ) :
    (dict.set key value).get? other = if other = key then some value else dict.get? other :=
  lookup_setIn key value dict.entries other

@[simp] theorem get?_set_same (dict : Dict κ ν) (key : κ) (value : ν) :
    (dict.set key value).get? key = some value := by
  simp [get?_set]

theorem get?_set_other (dict : Dict κ ν) {key other : κ} (value : ν) (differ : other ≠ key) :
    (dict.set key value).get? other = dict.get? other := by
  simp [get?_set, differ]

theorem lookup_eq_some {entries : List (κ × ν)} (nodup : (entries.map Prod.fst).Nodup) (key : κ)
    (value : ν) : List.lookup key entries = some value ↔ (key, value) ∈ entries := by
  induction entries with
  | nil => simp
  | cons entry rest ih =>
    rw [List.map_cons, List.nodup_cons] at nodup
    obtain ⟨name, held⟩ := entry
    simp only [lookup_cons, List.mem_cons, Prod.mk.injEq]
    split
    · rename_i same
      subst same
      have absent : (name, value) ∉ rest := fun member => nodup.1 (List.mem_map.mpr ⟨_, member, rfl⟩)
      simp only [Option.some.injEq, true_and, absent, or_false]
      exact eq_comm
    · rename_i differ
      rw [ih nodup.2]
      constructor
      · exact Or.inr
      · rintro (⟨same, _⟩ | inside)
        · exact absurd same.symm differ
        · exact inside

theorem get?_eq_some (dict : Dict κ ν) (key : κ) (value : ν) :
    dict.get? key = some value ↔ (key, value) ∈ dict.entries :=
  lookup_eq_some dict.nodup key value

omit [DecidableEq κ] in
theorem eq_of_entries {dict other : Dict κ ν} (same : dict.entries = other.entries) : dict = other := by
  cases dict
  cases other
  cases same
  rfl

omit [DecidableEq κ] in
theorem keys_filterMap_sublist (entries : List (κ × ν)) (f : ν → Option ω) :
    ((entries.filterMap fun entry => (f entry.2).map (Prod.mk entry.1)).map Prod.fst).Sublist
      (entries.map Prod.fst) := by
  induction entries with
  | nil => exact .slnil
  | cons entry rest ih =>
    rw [List.filterMap_cons, List.map_cons]
    cases f entry.2 with
    | none => exact ih.cons entry.1
    | some value => exact ih.cons_cons entry.1

theorem mem_of_lookup {key : κ} {value : ν} {entries : List (κ × ν)} (found : List.lookup key entries = some value) :
    (key, value) ∈ entries := by
  induction entries with
  | nil => cases found
  | cons entry rest ih =>
    rw [lookup_cons] at found
    split at found
    · rename_i same
      cases found
      subst same
      exact List.mem_cons_self
    · exact List.mem_cons_of_mem entry (ih found)

theorem lookup_eq_none {key : κ} {entries : List (κ × ν)} :
    List.lookup key entries = none ↔ key ∉ entries.map Prod.fst := by
  induction entries with
  | nil => simp
  | cons entry rest ih =>
    rw [lookup_cons, List.map_cons, List.mem_cons, not_or, ← ih]
    split
    · rename_i same
      simp [same]
    · rename_i differ
      simp [Ne.symm differ]

theorem lookup_filter (keep : κ → Bool) (key : κ) (entries : List (κ × ν)) :
    (entries.filter fun entry => keep entry.1).lookup key = if keep key = true then entries.lookup key else none := by
  induction entries with
  | nil => simp
  | cons entry rest ih =>
    by_cases same : entry.1 = key
    · subst same
      cases kept : keep entry.1 with
      | true => simp [kept, lookup_cons]
      | false => simp [kept, ih]
    · cases kept : keep entry.1 with
      | true => simp [kept, lookup_cons, same, ih]
      | false => simp [kept, lookup_cons, same, ih]

theorem entries_perm {dict other : Dict κ ν} (same : ∀ key, dict.get? key = other.get? key) :
    dict.entries.Perm other.entries := by
  apply (List.perm_ext_iff_of_nodup dict.nodup_entries other.nodup_entries).mpr
  intro entry
  rw [← get?_eq_some dict entry.1 entry.2, ← get?_eq_some other entry.1 entry.2, same]

theorem get?_mapValues (dict : Dict κ ν) (f : ν → ω) (key : κ) :
    (dict.mapValues f).get? key = (dict.get? key).map f := by
  unfold get? mapValues
  dsimp only
  generalize dict.entries = entries
  induction entries with
  | nil => rfl
  | cons entry rest ih =>
    simp only [List.map_cons, lookup_cons]
    split
    · rfl
    · exact ih

theorem get?_update (dict more : Dict κ ν) (key : κ) :
    (dict.update more).get? key = (more.get? key).or (dict.get? key) := by
  unfold update
  rw [get?]
  obtain ⟨entries, nodup⟩ := more
  simp only [get?]
  induction entries generalizing dict with
  | nil => rfl
  | cons entry rest ih =>
    obtain ⟨apart, nodup⟩ := List.nodup_cons.mp nodup
    rw [List.foldl_cons, ih (dict.set entry.1 entry.2) nodup]
    have written := get?_set dict entry.1 entry.2 key
    rw [get?, get?] at written
    rw [written, lookup_cons]
    by_cases same : entry.1 = key
    · subst same
      have none : List.lookup entry.1 rest = none := by
        cases found : List.lookup entry.1 rest with
        | none => rfl
        | some value =>
          have member := (lookup_eq_some nodup entry.1 value).mp found
          exact absurd (List.mem_map_of_mem member) apart
      simp [none]
    · have differs : key ≠ entry.1 := fun eq => same eq.symm
      simp [same, differs]

theorem lookup_map (key : κ) (entries : List (κ × ν)) (f : κ → ν → ω) :
    List.lookup key (entries.map fun entry => (entry.1, f entry.1 entry.2)) =
      (List.lookup key entries).map (f key) := by
  induction entries with
  | nil => rfl
  | cons entry rest ih =>
    by_cases same : entry.1 = key
    · subst same
      simp [lookup_cons]
    · simp [lookup_cons, same, ih]

omit [DecidableEq κ] in
def mapWithKey (dict : Dict κ ν) (f : κ → ν → ω) : Dict κ ω :=
  ⟨dict.entries.map fun entry => (entry.1, f entry.1 entry.2), by
    rw [List.map_map]
    exact dict.nodup⟩

theorem get?_mapWithKey (dict : Dict κ ν) (f : κ → ν → ω) (key : κ) :
    (dict.mapWithKey f).get? key = (dict.get? key).map (f key) :=
  lookup_map key dict.entries f

def others (dict : Dict κ ν) (key : κ) : List (κ × ν) := dict.entries.filter fun entry => entry.1 ≠ key

def filterKeys (dict : Dict κ ν) (keep : κ → Bool) : Dict κ ν :=
  ⟨dict.entries.filter fun entry => keep entry.1, dict.nodup.sublist (List.filter_sublist.map _)⟩

theorem get?_filterKeys (dict : Dict κ ν) (keep : κ → Bool) (key : κ) :
    (dict.filterKeys keep).get? key = if keep key = true then dict.get? key else none :=
  lookup_filter keep key dict.entries

def erase (dict : Dict κ ν) (key : κ) : Dict κ ν := dict.filterKeys fun one => one ≠ key

theorem get?_erase (dict : Dict κ ν) (key other : κ) :
    (dict.erase key).get? other = if other = key then none else dict.get? other := by
  rw [erase, get?_filterKeys]
  by_cases same : other = key
  · rw [if_pos same, if_neg (by simp [same])]
  · rw [if_neg same, if_pos (by simp [same])]

theorem entries_perm_others (dict : Dict κ ν) (key : κ) :
    dict.entries.Perm (((dict.get? key).map (Prod.mk key)).toList ++ dict.others key) := by
  have apart : ∀ entry ∈ dict.others key, entry.1 ≠ key :=
    fun entry member => of_decide_eq_true (List.mem_filter.mp member).2
  have nodup : (((dict.get? key).map (Prod.mk key)).toList ++ dict.others key).Nodup := by
    rw [List.nodup_append]
    refine ⟨?_, dict.nodup_entries.filter _, ?_⟩
    · cases dict.get? key <;> simp
    · intro entry own other member same
      obtain ⟨value, _, rfl⟩ := Option.map_eq_some_iff.mp (Option.mem_toList.mp own)
      exact apart other member (same ▸ rfl)
  apply (List.perm_ext_iff_of_nodup dict.nodup_entries nodup).mpr
  intro entry
  rw [List.mem_append, Option.mem_toList, Option.map_eq_some_iff, others, List.mem_filter,
    decide_eq_true_eq]
  constructor
  · intro member
    by_cases same : entry.1 = key
    · left
      exact ⟨entry.2, (get?_eq_some dict key entry.2).mpr (same ▸ member), same ▸ rfl⟩
    · right
      exact ⟨member, same⟩
  · rintro (⟨value, found, rfl⟩ | ⟨member, _⟩)
    · exact (get?_eq_some dict key value).mp found
    · exact member

theorem others_set (dict : Dict κ ν) (key : κ) (value : ν) :
    ((dict.set key value).others key).Perm (dict.others key) := by
  have nodup := fun dict : Dict κ ν => dict.nodup_entries.filter fun entry => entry.1 ≠ key
  apply (List.perm_ext_iff_of_nodup (nodup _) (nodup _)).mpr
  intro entry
  rw [List.mem_filter, List.mem_filter, decide_eq_true_eq]
  apply and_congr_left
  intro differ
  rw [← get?_eq_some (dict.set key value) entry.1 entry.2, get?_set_other dict value differ,
    ← get?_eq_some dict entry.1 entry.2]

theorem entries_set_perm (dict : Dict κ ν) (key : κ) (value : ν) :
    (dict.set key value).entries.Perm ((key, value) :: dict.others key) := by
  have held := entries_perm_others (dict.set key value) key
  rw [get?_set_same] at held
  exact held.trans ((others_set dict key value).cons _)

theorem setIn_of_absent {key : κ} {entries : List (κ × ν)} (absent : key ∉ entries.map Prod.fst) (value : ν) :
    setIn key value entries = entries ++ [(key, value)] := by
  induction entries with
  | nil => rfl
  | cons entry rest ih =>
    rw [List.map_cons, List.mem_cons, not_or] at absent
    rw [setIn, if_neg (Ne.symm absent.1), ih absent.2]
    rfl

theorem entries_ofList {entries : List (κ × ν)} (nodup : (entries.map Prod.fst).Nodup) :
    (ofList entries).entries = entries := by
  have onto : ∀ dict : Dict κ ν, (∀ entry ∈ entries, entry.1 ∉ dict.keys) →
      (entries.foldl (fun dict entry => dict.set entry.1 entry.2) dict).entries = dict.entries ++ entries := by
    induction entries with
    | nil => simp
    | cons entry rest ih =>
      intro dict fresh
      obtain ⟨apart, nodup⟩ := List.nodup_cons.mp nodup
      have added : (dict.set entry.1 entry.2).entries = dict.entries ++ [entry] :=
        setIn_of_absent (fresh entry (List.mem_cons_self ..)) entry.2
      rw [List.foldl_cons, ih nodup, added, List.append_assoc, List.singleton_append]
      intro other listed taken
      rw [keys, added, List.map_append, List.mem_append] at taken
      rcases taken with before | now
      · exact fresh other (List.mem_cons_of_mem _ listed) before
      · rw [List.map_singleton, List.mem_singleton] at now
        exact apart (now ▸ List.mem_map_of_mem listed)
  exact onto empty (by simp [empty, keys])

theorem get?_ofList {entries : List (κ × ν)} (nodup : (entries.map Prod.fst).Nodup) (key : κ) :
    (ofList entries).get? key = List.lookup key entries := by
  rw [get?, entries_ofList nodup]

theorem mem_of_get?_ofList {entries : List (κ × ν)} {key : κ} {value : ν}
    (held : (ofList entries).get? key = some value) : (key, value) ∈ entries := by
  induction entries using List.reverseRecOn with
  | nil => cases held
  | append_singleton entries entry ih =>
    have step : ofList (entries ++ [entry]) = (ofList entries).set entry.1 entry.2 := by
      unfold ofList
      rw [List.foldl_append, List.foldl_cons, List.foldl_nil]
    rw [step, get?_set] at held
    split at held
    · rename_i same
      cases held
      rw [same]
      exact List.mem_append_right _ (List.mem_singleton_self _)
    · exact List.mem_append_left _ (ih held)

theorem get?_ofList_part {μ : Type w} [DecidableEq μ] (dict : Dict κ ν) (keep : κ → Bool) (part : κ → μ)
    (apart : ∀ one other, keep one = true → keep other = true → part one = part other → one = other)
    (key : κ) (kept : keep key = true) :
    (ofList ((dict.entries.filter fun entry => keep entry.1).map fun entry => (part entry.1, entry.2))).get?
      (part key) = dict.get? key := by
  have distinct : (((dict.entries.filter fun entry => keep entry.1).map fun entry =>
      (part entry.1, entry.2)).map Prod.fst).Nodup := by
    have keys : ((dict.entries.filter fun entry => keep entry.1).map Prod.fst).Nodup :=
      dict.nodup.sublist (List.filter_sublist.map _)
    have parts := List.Nodup.map_on (f := part)
      (by
        intro one inOne other inOther same
        obtain ⟨entry, listed, rfl⟩ := List.mem_map.mp inOne
        obtain ⟨entry', listed', rfl⟩ := List.mem_map.mp inOther
        exact apart _ _ (List.mem_filter.mp listed).2 (List.mem_filter.mp listed').2 same) keys
    rw [List.map_map] at parts ⊢
    exact parts
  rw [get?_ofList distinct]
  ext value
  rw [lookup_eq_some distinct, get?_eq_some, List.mem_map]
  constructor
  · rintro ⟨entry, listed, same⟩
    obtain ⟨member, keptEntry⟩ := List.mem_filter.mp listed
    obtain ⟨sameKey, rfl⟩ := Prod.mk.inj same
    rw [← apart _ _ keptEntry kept sameKey]
    exact member
  · intro member
    exact ⟨(key, value), List.mem_filter.mpr ⟨member, kept⟩, rfl⟩

end Dict
