import Mathlib.Data.List.Forall2

universe u v w

namespace Fallible

variable {ε : Type u} {α β : Type v} {ι : Type w}

theorem bind_ok {first : Except ε α} {next : α → Except ε β} {result : β}
    (succeeds : first >>= next = .ok result) : ∃ value, first = .ok value ∧ next value = .ok result := by
  cases first with
  | error _ => cases succeeds
  | ok value => exact ⟨value, rfl, succeeds⟩

theorem bind_eq {first : Except ε α} {next : α → Except ε β} {value : α} (came : first = .ok value) :
    first >>= next = next value := by
  subst came
  rfl

theorem bind_of_ok {first : Except ε α} {next : α → Except ε β} {value : α} {result : β}
    (came : first = .ok value) (later : next value = .ok result) : first >>= next = .ok result :=
  (bind_eq came).trans later

theorem pure_ok {value result : α} (succeeds : (pure value : Except ε α) = .ok result) : value = result := by
  cases succeeds
  rfl

theorem mapError_ok {δ : Type w} {first : Except ε α} {rename : ε → δ} {result : α}
    (succeeds : first.mapError rename = .ok result) : first = .ok result := by
  cases first with
  | error _ => cases succeeds
  | ok value => cases succeeds; rfl

theorem map_ok {first : Except ε α} {f : α → β} {result : β} (succeeds : first.map f = .ok result) :
    ∃ value, first = .ok value ∧ f value = result := by
  cases first with
  | error _ => cases succeeds
  | ok value => exact ⟨value, rfl, Except.ok.inj succeeds⟩

theorem mapM_ok {f : ι → Except ε β} {items : List ι} {results : List β}
    (succeeds : items.mapM f = .ok results) :
    List.Forall₂ (fun item result => f item = .ok result) items results := by
  induction items generalizing results with
  | nil =>
    have empty : ([] : List β) = results := pure_ok succeeds
    subst empty
    exact .nil
  | cons item rest ih =>
    rw [List.mapM_cons] at succeeds
    obtain ⟨value, first, succeeds⟩ := bind_ok succeeds
    obtain ⟨values, others, succeeds⟩ := bind_ok succeeds
    have whole : value :: values = results := pure_ok succeeds
    subst whole
    exact .cons first (ih others)

theorem mapM_of_ok {f : ι → Except ε β} {items : List ι} {results : List β}
    (pairs : List.Forall₂ (fun item result => f item = .ok result) items results) :
    items.mapM f = .ok results := by
  induction pairs with
  | nil => rfl
  | cons first _ ih =>
    rw [List.mapM_cons]
    exact bind_of_ok first (bind_of_ok ih rfl)

theorem mapM_ok_get {f : ι → Except ε β} {items : List ι} {results : List β}
    (succeeds : items.mapM f = .ok results) {position : Nat} {item : ι}
    (found : items[position]? = some item) : ∃ result, results[position]? = some result ∧ f item = .ok result := by
  have pairs := mapM_ok succeeds
  obtain ⟨inside, rfl⟩ := List.getElem?_eq_some_iff.mp found
  have bound : position < results.length := pairs.length_eq ▸ inside
  exact ⟨results[position], List.getElem?_eq_getElem bound, pairs.get inside bound⟩

theorem mapM_ok_mem {f : ι → Except ε β} {items : List ι} {results : List β}
    (succeeds : items.mapM f = .ok results) {result : β} (listed : result ∈ results) :
    ∃ item ∈ items, f item = .ok result := by
  have pairs := mapM_ok succeeds
  obtain ⟨position, inside, rfl⟩ := List.getElem_of_mem listed
  have bound : position < items.length := pairs.length_eq ▸ inside
  exact ⟨items[position], List.getElem_mem bound, pairs.get bound inside⟩

def Succeeds (computation : Except ε α) : Prop := ∃ value, computation = .ok value

@[simp] theorem succeeds_ok (value : α) : Succeeds (.ok value : Except ε α) := ⟨value, rfl⟩

@[simp] theorem succeeds_pure (value : α) : Succeeds (pure value : Except ε α) := ⟨value, rfl⟩

@[simp] theorem not_succeeds_error (failure : ε) : ¬ Succeeds (.error failure : Except ε α) := by
  rintro ⟨value, same⟩
  cases same

theorem succeeds_bind {first : Except ε α} {next : α → Except ε β} :
    Succeeds (first >>= next) ↔ ∃ value, first = .ok value ∧ Succeeds (next value) := by
  constructor
  · rintro ⟨result, succeeds⟩
    obtain ⟨value, came, later⟩ := bind_ok succeeds
    exact ⟨value, came, result, later⟩
  · rintro ⟨value, rfl, later⟩
    exact later

theorem succeeds_mapM {f : ι → Except ε β} {items : List ι} :
    Succeeds (items.mapM f) ↔ ∀ item ∈ items, Succeeds (f item) := by
  induction items with
  | nil =>
    rw [List.mapM_nil]
    simp
  | cons item rest ih =>
    rw [List.mapM_cons, succeeds_bind, List.forall_mem_cons, ← ih]
    constructor
    · rintro ⟨value, came, later⟩
      obtain ⟨values, others, _⟩ := succeeds_bind.mp later
      exact ⟨⟨value, came⟩, values, others⟩
    · rintro ⟨⟨value, came⟩, values, others⟩
      exact ⟨value, came, succeeds_bind.mpr ⟨values, others, succeeds_pure _⟩⟩

theorem succeeds_map {first : Except ε α} {f : α → β} : Succeeds (first.map f) ↔ Succeeds first := by
  cases first with
  | error failure => exact iff_of_false (not_succeeds_error failure) (not_succeeds_error failure)
  | ok value => exact iff_of_true (succeeds_ok _) (succeeds_ok value)

theorem foldlM_map {σ : Type v} (read : ι → Except ε β) (step : σ → β → σ) (items : List ι) (start : σ) :
    items.foldlM (fun state item => (read item).map (step state)) start =
      (items.mapM read).map fun values => values.foldl step start := by
  induction items generalizing start with
  | nil => rfl
  | cons item rest ih =>
    rw [List.foldlM_cons, List.mapM_cons]
    cases read item with
    | error failure => rfl
    | ok value =>
      have later := ih (step start value)
      show rest.foldlM _ (step start value) = _
      rw [later]
      cases rest.mapM read with
      | error failure => rfl
      | ok values => rfl

def FailsWithin (expected : ε → Prop) (computation : Except ε α) : Prop :=
  ∀ failure, computation = .error failure → expected failure

variable {expected : ε → Prop}

@[simp] theorem failsWithin_ok (value : α) : FailsWithin expected (.ok value : Except ε α) :=
  fun _ failed => nomatch failed

@[simp] theorem failsWithin_error {failure : ε} :
    FailsWithin expected (.error failure : Except ε α) ↔ expected failure := by
  constructor
  · intro within
    exact within failure rfl
  · rintro within other same
    cases same
    exact within

theorem failsWithin_bind {first : Except ε α} {next : α → Except ε β} :
    FailsWithin expected (first >>= next) ↔
      FailsWithin expected first ∧ ∀ value, first = .ok value → FailsWithin expected (next value) := by
  cases first with
  | error failure =>
    show FailsWithin expected (.error failure : Except ε β) ↔ _
    rw [failsWithin_error, failsWithin_error]
    exact ⟨fun within => ⟨within, fun _ came => nomatch came⟩, And.left⟩
  | ok value =>
    show FailsWithin expected (next value) ↔ _
    constructor
    · intro within
      exact ⟨failsWithin_ok value, fun _ came => Except.ok.inj came ▸ within⟩
    · intro both
      exact both.2 value rfl

theorem failsWithin_mapError {δ : Type w} {expected : δ → Prop} {first : Except ε α} {rename : ε → δ} :
    FailsWithin expected (first.mapError rename) ↔ FailsWithin (fun failure => expected (rename failure)) first := by
  cases first with
  | error failure =>
    show FailsWithin expected (.error (rename failure) : Except δ α) ↔ _
    rw [failsWithin_error, failsWithin_error]
  | ok value => exact iff_of_true (failsWithin_ok value) (failsWithin_ok value)

theorem failsWithin_map {first : Except ε α} {f : α → β} :
    FailsWithin expected (first.map f) ↔ FailsWithin expected first := by
  cases first with
  | error failure => exact failsWithin_error.trans failsWithin_error.symm
  | ok value => exact iff_of_true (failsWithin_ok _) (failsWithin_ok value)

theorem failsWithin_mapM {f : ι → Except ε β} {items : List ι}
    (each : ∀ item ∈ items, FailsWithin expected (f item)) : FailsWithin expected (items.mapM f) := by
  induction items with
  | nil => exact failsWithin_ok []
  | cons item rest ih =>
    obtain ⟨first, others⟩ := List.forall_mem_cons.mp each
    rw [List.mapM_cons]
    refine failsWithin_bind.mpr ⟨first, fun value _ => ?_⟩
    exact failsWithin_bind.mpr ⟨ih others, fun values _ => failsWithin_ok _⟩

theorem failsWithin_iff_succeeds {computation : Except ε α}
    (unexpected : FailsWithin (fun failure => ¬ expected failure) computation) :
    FailsWithin expected computation ↔ Succeeds computation := by
  constructor
  · intro within
    cases computation with
    | error failure => exact absurd (within failure rfl) (unexpected failure rfl)
    | ok value => exact succeeds_ok value
  · rintro ⟨value, rfl⟩
    exact failsWithin_ok value

theorem failsWithin_bind_unexpected {first : Except ε α} {next : α → Except ε β} {later : Prop}
    (unexpected : FailsWithin (fun failure => ¬ expected failure) first)
    (after : ∀ value, FailsWithin expected (next value) ↔ later) :
    FailsWithin expected (first >>= next) ↔ FailsWithin expected first ∧ later := by
  rw [failsWithin_bind, failsWithin_iff_succeeds unexpected]
  constructor
  · rintro ⟨⟨value, came⟩, rest⟩
    exact ⟨⟨value, came⟩, (after value).mp (rest value came)⟩
  · rintro ⟨succeeds, holds⟩
    exact ⟨succeeds, fun value _ => (after value).mpr holds⟩

theorem failsWithin_bind_expected {first : Except ε α} {next : α → Except ε β} {later : Prop}
    (within : FailsWithin expected first) (after : ∀ value, FailsWithin expected (next value) ↔ later) :
    FailsWithin expected (first >>= next) ↔ (Succeeds first → later) := by
  rw [failsWithin_bind, and_iff_right within]
  constructor
  · rintro rest ⟨value, came⟩
    exact (after value).mp (rest value came)
  · intro holds value came
    exact (after value).mpr (holds ⟨value, came⟩)

end Fallible
