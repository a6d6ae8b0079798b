import Mathlib.Algebra.Order.BigOperators.Group.List
import Mathlib.Algebra.Order.Group.Int
import Mathlib.Algebra.Ring.Int.Defs

namespace GroupedSum

universe u v

variable {α : Type u} {κ : Type v}

def total (weight : α → Int) (rows : List α) : Int := (rows.map weight).sum

variable (weight : α → Int)

@[simp] theorem total_nil : total weight [] = 0 := rfl

@[simp] theorem total_cons (row : α) (rows : List α) :
    total weight (row :: rows) = weight row + total weight rows := List.sum_cons

theorem total_append (first later : List α) :
    total weight (first ++ later) = total weight first + total weight later := by
  simp [total]

theorem total_split (rows : List α) (part : α → Bool) :
    total weight rows = total weight (rows.filter part) + total weight (rows.filter fun row => !part row) := by
  induction rows with
  | nil => rfl
  | cons row rest ih =>
    cases inside : part row <;> simp only [List.filter_cons, inside, total_cons] <;> simp <;> omega

theorem total_eq_groups [DecidableEq κ] (group : α → κ) {groups : List κ} (distinct : groups.Nodup)
    (rows : List α) (listed : ∀ row ∈ rows, group row ∈ groups) :
    total weight rows = (groups.map fun g => total weight (rows.filter fun row => group row = g)).sum := by
  induction groups generalizing rows with
  | nil =>
    cases rows with
    | nil => rfl
    | cons row rest => exact absurd (listed row (List.mem_cons_self ..)) List.not_mem_nil
  | cons g rest ih =>
    obtain ⟨apart, distinct⟩ := List.nodup_cons.mp distinct
    have others := ih distinct (rows.filter fun row => !decide (group row = g))
      (by
        intro row member
        obtain ⟨inside, differs⟩ := List.mem_filter.mp member
        rcases List.mem_cons.mp (listed row inside) with same | later
        · simp [same] at differs
        · exact later)
    have unchanged : ∀ other ∈ rest,
        total weight ((rows.filter fun row => !decide (group row = g)).filter fun row => group row = other) =
          total weight (rows.filter fun row => group row = other) := by
      intro other member
      have differs : other ≠ g := fun same => apart (same ▸ member)
      rw [List.filter_filter]
      congr 1
      apply List.filter_congr
      intro row _
      by_cases same : group row = other
      · simp [same, differs]
      · simp [same]
    rw [List.map_cons, List.sum_cons, total_split weight rows fun row => group row = g, others,
      List.map_congr_left unchanged]

variable {weight}

theorem total_le_of_groups [DecidableEq κ] (group : α → κ) {groups : List κ} (distinct : groups.Nodup)
    (bound : κ → Int) (rows : List α) (listed : ∀ row ∈ rows, group row ∈ groups)
    (bounded : ∀ g ∈ groups, total weight (rows.filter fun row => group row = g) ≤ bound g) :
    total weight rows ≤ (groups.map bound).sum := by
  rw [total_eq_groups weight group distinct rows listed]
  exact List.sum_le_sum bounded

variable (nonneg : ∀ row, 0 ≤ weight row)

include nonneg

theorem total_nonneg (rows : List α) : 0 ≤ total weight rows := by
  induction rows with
  | nil => exact le_refl 0
  | cons row rest ih =>
    have here := nonneg row
    rw [total_cons]
    omega

theorem total_sublist {rows others : List α} (sublist : rows.Sublist others) :
    total weight rows ≤ total weight others := by
  apply (sublist.map weight).sum_le_sum
  intro value listed
  obtain ⟨row, _, rfl⟩ := List.mem_map.mp listed
  exact nonneg row

end GroupedSum
