import Mathlib.Order.MinMax
import Mathlib.Data.List.Basic

namespace HighWater

universe u

variable {α : Type u} [LinearOrder α]

/-- A register that keeps the largest value reported to it. -/
def merge (held : Option α) (reported : α) : α :=
  match held with
  | none => reported
  | some value => max value reported

def mergeAll (held : Option α) (reports : List α) : Option α :=
  reports.foldl (fun held reported => some (merge held reported)) held

theorem mergeAll_append (held : Option α) (first later : List α) :
    mergeAll held (first ++ later) = mergeAll (mergeAll held first) later :=
  List.foldl_append

theorem mergeAll_some (value : α) (reports : List α) :
    mergeAll (some value) reports = (value :: reports).max? := by
  rw [List.max?_cons']
  induction reports generalizing value with
  | nil => rfl
  | cons reported rest ih => exact ih (max value reported)

theorem mergeAll_eq_max? (held : Option α) (reports : List α) :
    mergeAll held reports = (held.toList ++ reports).max? := by
  cases held with
  | none =>
    cases reports with
    | nil => rfl
    | cons reported rest => exact mergeAll_some reported rest
  | some value => exact mergeAll_some value reports

theorem max?_congr {values others : List α} (same : ∀ value, value ∈ values ↔ value ∈ others) :
    values.max? = others.max? := by
  ext value
  rw [List.max?_eq_some_iff, List.max?_eq_some_iff]
  simp only [same]

theorem le_max?_getD {values : List α} {value : α} (listed : value ∈ values) (fallback : α) :
    value ≤ values.max?.getD fallback := by
  cases shown : values.max? with
  | none =>
    rw [List.max?_eq_none_iff] at shown
    rw [shown] at listed
    cases listed
  | some largest => exact (List.max?_eq_some_iff.mp shown).2 value listed

theorem max?_getD_le {values raised : List α} {fallback : α}
    (raises : ∀ value ∈ values, ∃ higher ∈ raised, value ≤ higher)
    (first : values = [] → ∀ value ∈ raised, fallback ≤ value) :
    values.max?.getD fallback ≤ raised.max?.getD fallback := by
  cases shown : values.max? with
  | none =>
    rw [List.max?_eq_none_iff] at shown
    cases later : raised.max? with
    | none => exact le_refl fallback
    | some largest => exact first shown largest (List.max?_eq_some_iff.mp later).1
  | some largest =>
    obtain ⟨higher, listed, le⟩ := raises largest (List.max?_eq_some_iff.mp shown).1
    exact le.trans (le_max?_getD listed fallback)

theorem mergeAll_congr (held : Option α) {reports others : List α}
    (same : ∀ value, value ∈ reports ↔ value ∈ others) : mergeAll held reports = mergeAll held others := by
  rw [mergeAll_eq_max?, mergeAll_eq_max?]
  apply max?_congr
  intro value
  rw [List.mem_append, List.mem_append, same]

theorem le_merge (held : Option α) (reported : α) : ∀ value ∈ held, value ≤ merge held reported := by
  intro value shown
  rw [Option.mem_def] at shown
  rw [shown]
  exact le_max_left value reported

theorem merge_eq (held : Option α) (reported : α) :
    held = some (merge held reported) ∨ merge held reported = reported := by
  cases held with
  | none => exact .inr rfl
  | some value =>
    rcases max_choice value reported with kept | raised
    · exact .inl (congrArg some kept.symm)
    · exact .inr raised

theorem mergeAll_mem {held : Option α} {reports : List α} {value : α}
    (shown : mergeAll held reports = some value) : held = some value ∨ value ∈ reports := by
  induction reports generalizing held with
  | nil => exact .inl shown
  | cons reported rest ih =>
    rcases ih shown with first | later
    · have same : merge held reported = value := Option.some.inj first
      rcases merge_eq held reported with kept | raised
      · exact .inl (same ▸ kept)
      · have member : value = reported := same.symm.trans raised
        exact .inr (member ▸ List.mem_cons_self ..)
    · exact .inr (List.mem_cons_of_mem _ later)

end HighWater
