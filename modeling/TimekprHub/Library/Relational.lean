import Mathlib.Data.List.Dedup
import TimekprHub.Library.Dict

namespace Relational

universe u v w x

variable {ρ : Type u} {κ : Type v} {α : Type w} {β : Type x} [DecidableEq κ]

/-- `GROUP BY key`: one row for each key there is. -/
def aggregate (key : ρ → κ) (agg : List ρ → α) (rows : List ρ) : List (κ × α) :=
  (rows.map key).dedup.map fun k => (k, agg (rows.filter fun row => key row = k))

/-- `FULL OUTER JOIN` on the key; the joined row's key is the one that is not null. -/
def fullOuterJoin (left : List (κ × α)) (right : List (κ × β)) : List (κ × Option α × Option β) :=
  (left.flatMap fun l =>
    match right.filter fun r => r.1 = l.1 with
    | [] => [(l.1, some l.2, none)]
    | found => found.map fun r => (l.1, some l.2, some r.2)) ++
  (right.filter fun r => ∀ l ∈ left, l.1 ≠ r.1).map fun r => (r.1, none, some r.2)

/-- `FROM groups, unnest(members)`: one row for each member of each group. -/
def unnest (groups : List (κ × List α)) : List (κ × α) :=
  groups.flatMap fun group => group.2.map (Prod.mk group.1)

theorem filter_filter_iff {first second both : ρ → Prop} [DecidablePred first] [DecidablePred second]
    [DecidablePred both] (same : ∀ row, second row ∧ first row ↔ both row) (rows : List ρ) :
    (rows.filter fun row => first row).filter (fun row => second row) = rows.filter fun row => both row := by
  rw [List.filter_filter]
  apply List.filter_congr
  intro row _
  rw [Bool.eq_iff_iff, Bool.and_eq_true, decide_eq_true_eq, decide_eq_true_eq, decide_eq_true_eq]
  exact same row

theorem filter_batch [DecidableEq α] (rows : List ρ) (owner : ρ → κ) (day : ρ → α) {k : κ} {keys : List κ}
    (listed : k ∈ keys) (d : α) :
    (rows.filter fun row => owner row ∈ keys ∧ day row = d).filter (fun row => owner row = k) =
      rows.filter fun row => owner row = k ∧ day row = d := by
  apply filter_filter_iff
  intro row
  constructor
  · rintro ⟨own, _, onDay⟩
    exact ⟨own, onDay⟩
  · rintro ⟨rfl, onDay⟩
    exact ⟨rfl, listed, onDay⟩

theorem filter_window [DecidableEq α] [LE α] [DecidableLE α] (rows : List ρ) (owner : ρ → κ) (day : ρ → α)
    (k : κ) {first last d : α} (within : first ≤ d ∧ d ≤ last) :
    (rows.filter fun row => owner row = k ∧ first ≤ day row ∧ day row ≤ last).filter
        (fun row => day row = d) =
      rows.filter fun row => owner row = k ∧ day row = d := by
  apply filter_filter_iff
  intro row
  constructor
  · rintro ⟨onDay, own, _⟩
    exact ⟨own, onDay⟩
  · rintro ⟨own, rfl⟩
    exact ⟨rfl, own, within⟩

theorem aggregate_keys (key : ρ → κ) (agg : List ρ → α) (rows : List ρ) :
    (aggregate key agg rows).map Prod.fst = (rows.map key).dedup := by
  simp [aggregate, List.map_map, Function.comp_def]

theorem aggregate_nodup (key : ρ → κ) (agg : List ρ → α) (rows : List ρ) :
    ((aggregate key agg rows).map Prod.fst).Nodup := by
  rw [aggregate_keys]
  exact List.nodup_dedup _

theorem lookup_map_keys (k : κ) (keys : List κ) (f : κ → α) :
    List.lookup k (keys.map fun other => (other, f other)) = if k ∈ keys then some (f k) else none := by
  induction keys with
  | nil => rfl
  | cons first rest ih =>
    simp only [List.map_cons, Dict.lookup_cons, ih, List.mem_cons]
    by_cases same : first = k
    · subst same
      simp
    · have differs : k ≠ first := fun eq => same eq.symm
      simp [same, differs]

theorem lookup_aggregate (key : ρ → κ) (agg : List ρ → α) (rows : List ρ) (k : κ) :
    List.lookup k (aggregate key agg rows) =
      if (rows.filter fun row => key row = k) = [] then none
      else some (agg (rows.filter fun row => key row = k)) := by
  have present : k ∈ (rows.map key).dedup ↔ (rows.filter fun row => key row = k) ≠ [] := by
    rw [List.mem_dedup, List.mem_map, ne_eq, List.filter_eq_nil_iff]
    push Not
    simp only [decide_eq_true_eq]
  rw [aggregate, lookup_map_keys]
  by_cases absent : (rows.filter fun row => key row = k) = []
  · rw [if_pos absent, if_neg]
    exact fun listed => present.mp listed absent
  · rw [if_neg absent, if_pos (present.mpr absent)]

theorem getD_lookup_aggregate (key : ρ → κ) (agg : List ρ → α) (rows : List ρ) (k : κ) {absent : α}
    (nothing : agg [] = absent) :
    (List.lookup k (aggregate key agg rows)).getD absent =
      agg (rows.filter fun row => key row = k) := by
  rw [lookup_aggregate]
  split
  · rename_i none
    rw [none, nothing]
    rfl
  · rfl

theorem filter_key {entries : List (κ × α)} (nodup : (entries.map Prod.fst).Nodup) (k : κ) :
    (entries.filter fun entry => entry.1 = k) = ((List.lookup k entries).map (Prod.mk k)).toList := by
  induction entries with
  | nil => rfl
  | cons entry rest ih =>
    obtain ⟨apart, nodup⟩ := List.nodup_cons.mp nodup
    by_cases same : entry.1 = k
    · subst same
      have none : (rest.filter fun other => other.1 = entry.1) = [] := by
        rw [List.filter_eq_nil_iff]
        intro other listed same
        apply apart
        rw [← of_decide_eq_true same]
        exact List.mem_map_of_mem listed
      simp [Dict.lookup_cons, none]
    · simp only [List.filter_cons, same, decide_false, Bool.false_eq_true, if_false, ih nodup,
        Dict.lookup_cons]

theorem filter_unnest {groups : List (κ × List α)} (nodup : (groups.map Prod.fst).Nodup) (k : κ) :
    ((unnest groups).filter fun row => row.1 = k) = ((List.lookup k groups).getD []).map (Prod.mk k) := by
  induction groups with
  | nil => rfl
  | cons group rest ih =>
    obtain ⟨apart, nodup⟩ := List.nodup_cons.mp nodup
    have split : unnest (group :: rest) = group.2.map (Prod.mk group.1) ++ unnest rest := by
      simp [unnest]
    rw [split, List.filter_append, ih nodup]
    by_cases same : group.1 = k
    · subst same
      have none : List.lookup group.1 rest = none :=
        Dict.lookup_eq_none.mpr apart
      have all : ((group.2.map (Prod.mk group.1)).filter fun row => row.1 = group.1) =
          group.2.map (Prod.mk group.1) := by
        rw [List.filter_eq_self]
        intro row listed
        obtain ⟨member, _, rfl⟩ := List.mem_map.mp listed
        exact decide_eq_true rfl
      rw [all, none]
      simp [Dict.lookup_cons]
    · have nothing : ((group.2.map (Prod.mk group.1)).filter fun row => row.1 = k) = [] := by
        rw [List.filter_eq_nil_iff]
        intro row listed
        obtain ⟨member, _, rfl⟩ := List.mem_map.mp listed
        exact fun equal => same (of_decide_eq_true equal)
      rw [nothing]
      simp [Dict.lookup_cons, same]

theorem fullOuterJoin_eq (left : List (κ × α)) {right : List (κ × β)}
    (distinct : (right.map Prod.fst).Nodup) :
    fullOuterJoin left right =
      (left.map fun l => (l.1, some l.2, List.lookup l.1 right)) ++
        (right.filter fun r => ∀ l ∈ left, l.1 ≠ r.1).map fun r => (r.1, none, some r.2) := by
  unfold fullOuterJoin
  congr 1
  induction left with
  | nil => rfl
  | cons l rest ih =>
    rw [List.flatMap_cons, ih, List.map_cons, filter_key distinct]
    cases List.lookup l.1 right <;> rfl

theorem lookup_fullOuterJoin (left : List (κ × α)) {right : List (κ × β)}
    (distinct : (right.map Prod.fst).Nodup) (k : κ) :
    List.lookup k (fullOuterJoin left right) =
      match List.lookup k left, List.lookup k right with
      | none, none => none
      | found, other => some (found, other) := by
  have unmatched : (right.filter fun r => ∀ l ∈ left, l.1 ≠ r.1) =
      right.filter fun r => (List.lookup r.1 left).isNone := by
    congr
    funext r
    rw [Bool.eq_iff_iff, decide_eq_true_eq, Option.isNone_iff_eq_none, Dict.lookup_eq_none]
    simp only [List.mem_map, not_exists, not_and, ne_eq]
  rw [fullOuterJoin_eq left distinct, List.lookup_append, unmatched,
    Dict.lookup_map k left fun key value => (some value, List.lookup key right),
    Dict.lookup_map k _ fun _ value => (none, some value),
    Dict.lookup_filter (fun key => (List.lookup key left).isNone) k right]
  cases List.lookup k left with
  | none => cases List.lookup k right <;> rfl
  | some value => rfl

theorem fullOuterJoin_nodup {left : List (κ × α)} {right : List (κ × β)}
    (distinctLeft : (left.map Prod.fst).Nodup) (distinct : (right.map Prod.fst).Nodup) :
    ((fullOuterJoin left right).map Prod.fst).Nodup := by
  rw [fullOuterJoin_eq left distinct, List.map_append, List.nodup_append]
  refine ⟨?_, ?_, ?_⟩
  · simpa only [List.map_map, Function.comp_def] using distinctLeft
  · simp only [List.map_map, Function.comp_def]
    exact distinct.sublist (List.filter_sublist.map _)
  · intro k inLeft other inRight same
    simp only [List.map_map, Function.comp_def, List.mem_map, List.mem_filter] at inLeft inRight
    obtain ⟨l, listed, rfl⟩ := inLeft
    obtain ⟨r, ⟨_, unmatched⟩, rfl⟩ := inRight
    exact of_decide_eq_true unmatched l listed same

end Relational
