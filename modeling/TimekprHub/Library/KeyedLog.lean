import Mathlib.Data.List.Basic

namespace KeyedLog

universe u v

variable {ρ : Type u} {κ : Type v} [DecidableEq κ] (key : ρ → κ)

/-- A row whose key is taken is dropped; any other is appended. -/
def insertNew (rows : List ρ) (row : ρ) : List ρ :=
  if key row ∈ rows.map key then rows else rows ++ [row]

def insertAll (rows new : List ρ) : List ρ := new.foldl (insertNew key) rows

def unclaimed (rows : List ρ) : List ρ → List ρ
  | [] => []
  | row :: rest =>
    if key row ∈ rows.map key then unclaimed rows rest else row :: unclaimed (rows ++ [row]) rest

variable {key}

@[simp] theorem insertAll_nil (rows : List ρ) : insertAll key rows [] = rows := rfl

theorem insertAll_append (rows first later : List ρ) :
    insertAll key rows (first ++ later) = insertAll key (insertAll key rows first) later := by
  simp [insertAll, List.foldl_append]

theorem insertAll_eq (rows new : List ρ) : insertAll key rows new = rows ++ unclaimed key rows new := by
  induction new generalizing rows with
  | nil => simp [unclaimed]
  | cons row rest ih =>
    change insertAll key (insertNew key rows row) rest = _
    by_cases taken : key row ∈ rows.map key
    · rw [insertNew, if_pos taken, ih, unclaimed, if_pos taken]
    · rw [insertNew, if_neg taken, ih, unclaimed, if_neg taken, List.append_assoc, List.singleton_append]

variable (key) in
theorem mem_unclaimed (rows new : List ρ) (row : ρ) : row ∈ unclaimed key rows new ↔
    ∃ earlier rest, new = earlier ++ row :: rest ∧ key row ∉ (rows ++ earlier).map key := by
  induction new generalizing rows with
  | nil => simp [unclaimed]
  | cons first new ih =>
    rw [unclaimed]
    by_cases taken : key first ∈ rows.map key
    · rw [if_pos taken, ih]
      constructor
      · rintro ⟨earlier, rest, rfl, free⟩
        refine ⟨first :: earlier, rest, rfl, ?_⟩
        simp only [List.map_append, List.map_cons, List.mem_append, List.mem_cons, not_or] at free ⊢
        refine ⟨free.1, ?_, free.2⟩
        intro same
        exact free.1 (same ▸ taken)
      · rintro ⟨earlier, rest, split, free⟩
        cases earlier with
        | nil =>
          cases split
          rw [List.append_nil] at free
          exact absurd taken free
        | cons head earlier =>
          cases split
          refine ⟨earlier, rest, rfl, ?_⟩
          simp only [List.map_append, List.map_cons, List.mem_append, List.mem_cons, not_or] at free ⊢
          exact ⟨free.1, free.2.2⟩
    · rw [if_neg taken, List.mem_cons, ih]
      constructor
      · rintro (rfl | ⟨earlier, rest, rfl, free⟩)
        · exact ⟨[], new, rfl, by rwa [List.append_nil]⟩
        · rw [List.append_assoc, List.singleton_append] at free
          exact ⟨first :: earlier, rest, rfl, free⟩
      · rintro ⟨earlier, rest, split, free⟩
        cases earlier with
        | nil =>
          cases split
          exact .inl rfl
        | cons head earlier =>
          cases split
          refine .inr ⟨earlier, rest, rfl, ?_⟩
          rwa [List.append_assoc, List.singleton_append]

variable (key) in
theorem mem_insertAll (rows new : List ρ) (row : ρ) :
    row ∈ insertAll key rows new ↔ row ∈ rows ∨ row ∈ unclaimed key rows new := by
  rw [insertAll_eq, List.mem_append]

theorem unclaimed_sublist (rows new : List ρ) :
    (unclaimed key rows new).Sublist (new.filter fun row => key row ∉ rows.map key) := by
  induction new generalizing rows with
  | nil => exact List.Sublist.refl _
  | cons row rest ih =>
    have weaker : (rest.filter fun other => key other ∉ (rows ++ [row]).map key).Sublist
        (rest.filter fun other => key other ∉ rows.map key) := by
      apply List.monotone_filter_right
      intro other free
      simp only [List.map_append, List.mem_append, not_or, decide_eq_true_eq] at free ⊢
      exact free.1
    rw [unclaimed]
    by_cases taken : key row ∈ rows.map key
    · rw [if_pos taken, List.filter_cons_of_neg (by simpa using taken)]
      exact ih rows
    · rw [if_neg taken, List.filter_cons_of_pos (by simpa using taken)]
      exact (ih (rows ++ [row])).trans weaker |>.cons_cons row

theorem unclaimed_fresh {rows new : List ρ} {row : ρ} (inserted : row ∈ unclaimed key rows new) :
    key row ∉ rows.map key :=
  of_decide_eq_true (List.mem_filter.mp ((unclaimed_sublist rows new).subset inserted)).2

theorem unclaimed_unique {rows new : List ρ} {a b : ρ} (first : a ∈ unclaimed key rows new)
    (second : b ∈ unclaimed key rows new) (same : key a = key b) : a = b := by
  induction new generalizing rows with
  | nil => cases first
  | cons row rest ih =>
    rw [unclaimed] at first second
    have fresh : ∀ other ∈ unclaimed key (rows ++ [row]) rest, key other ≠ key row := by
      intro other inserted taken
      apply unclaimed_fresh inserted
      rw [taken]
      exact List.mem_map_of_mem (List.mem_append_right rows (List.mem_singleton_self row))
    split at first
    · rename_i taken
      rw [if_pos taken] at second
      exact ih first second
    · rename_i free
      rw [if_neg free] at second
      rcases List.mem_cons.mp first with rfl | first
      · rcases List.mem_cons.mp second with rfl | second
        · rfl
        · exact absurd same.symm (fresh b second)
      · rcases List.mem_cons.mp second with rfl | second
        · exact absurd same (fresh a first)
        · exact ih first second

theorem key_taken (rows : List ρ) {new : List ρ} {row : ρ} (offered : row ∈ new) :
    key row ∈ (insertAll key rows new).map key := by
  induction new generalizing rows with
  | nil => cases offered
  | cons first rest ih =>
    rcases List.mem_cons.mp offered with rfl | later
    · have here : key row ∈ (insertNew key rows row).map key := by
        unfold insertNew
        split
        · assumption
        · simp
      obtain ⟨holder, stored, same⟩ := List.mem_map.mp here
      apply List.mem_map.mpr
      refine ⟨holder, ?_, same⟩
      change holder ∈ insertAll key (insertNew key rows row) rest
      rw [insertAll_eq]
      exact List.mem_append_left _ stored
    · exact ih (insertNew key rows first) later

theorem mem_insertAll_of_functional {rows new : List ρ}
    (functional : ∀ a ∈ new, ∀ b ∈ new, key a = key b → a = b) (row : ρ) :
    row ∈ insertAll key rows new ↔ row ∈ rows ∨ row ∈ new ∧ key row ∉ rows.map key := by
  rw [mem_insertAll]
  apply or_congr_right
  rw [mem_unclaimed]
  constructor
  · rintro ⟨earlier, rest, rfl, free⟩
    rw [List.map_append, List.mem_append, not_or] at free
    exact ⟨List.mem_append_right earlier (List.mem_cons_self ..), free.1⟩
  · rintro ⟨listed, free⟩
    obtain ⟨earlier, rest, split, first⟩ := List.eq_append_cons_of_mem listed
    refine ⟨earlier, rest, split, ?_⟩
    rw [List.map_append, List.mem_append, not_or]
    refine ⟨free, fun taken => ?_⟩
    obtain ⟨other, inside, same⟩ := List.mem_map.mp taken
    have before : other ∈ new := split ▸ List.mem_append_left _ inside
    have equal := functional other before row listed same
    exact first (equal ▸ inside)

theorem mem_insertAll_congr {new others : List ρ} (same : ∀ row, row ∈ new ↔ row ∈ others)
    (functional : ∀ a ∈ new, ∀ b ∈ new, key a = key b → a = b) (rows : List ρ) (row : ρ) :
    row ∈ insertAll key rows new ↔ row ∈ insertAll key rows others := by
  rw [mem_insertAll_of_functional functional, mem_insertAll_of_functional, same]
  intro a listed b listed'
  exact functional a ((same a).mpr listed) b ((same b).mpr listed')

theorem subset_insertAll (rows new : List ρ) : rows ⊆ insertAll key rows new :=
  fun row kept => (mem_insertAll key rows new row).mpr (.inl kept)

theorem filter_insertAll {keep : ρ → Bool} (byKey : ∀ a b, key a = key b → keep a = keep b) (rows new : List ρ) :
    (insertAll key rows new).filter keep = insertAll key (rows.filter keep) (new.filter keep) := by
  induction new generalizing rows with
  | nil => rfl
  | cons row rest ih =>
    have here : (insertNew key rows row).filter keep =
        if keep row = true then insertNew key (rows.filter keep) row else rows.filter keep := by
      by_cases kept : keep row = true
      · have taken_iff : key row ∈ (rows.filter keep).map key ↔ key row ∈ rows.map key := by
          simp only [List.mem_map, List.mem_filter]
          constructor
          · rintro ⟨other, ⟨listed, _⟩, same⟩
            exact ⟨other, listed, same⟩
          · rintro ⟨other, listed, same⟩
            exact ⟨other, ⟨listed, byKey other row same ▸ kept⟩, same⟩
        rw [if_pos kept]
        unfold insertNew
        by_cases taken : key row ∈ rows.map key
        · rw [if_pos taken, if_pos (taken_iff.mpr taken)]
        · rw [if_neg taken, if_neg fun inside => taken (taken_iff.mp inside), List.filter_append,
            List.filter_cons_of_pos kept, List.filter_nil]
      · rw [if_neg kept]
        unfold insertNew
        split
        · rfl
        · rw [List.filter_append, List.filter_cons_of_neg kept, List.filter_nil, List.append_nil]
    show (insertAll key (insertNew key rows row) rest).filter keep = _
    rw [ih, here, List.filter_cons]
    split <;> rfl

end KeyedLog
