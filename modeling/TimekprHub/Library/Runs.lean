namespace Runs

universe u v

variable {σ : Type u} {α : Type v}

def run (step : σ → α → σ) (start : σ) (inputs : List α) : σ := inputs.foldl step start

def StepsMeet (step : σ → α → σ) (cond : σ → α → Prop) : σ → List α → Prop
  | _, [] => True
  | state, input :: rest => cond state input ∧ StepsMeet step cond (step state input) rest

def PairsMeet (step : σ → α → σ) (cond : σ → α → α → Prop) : σ → List α → Prop
  | state, first :: second :: rest =>
    cond state first second ∧ PairsMeet step cond (step state first) (second :: rest)
  | _, _ => True

variable {step : σ → α → σ} {cond : σ → α → Prop}

@[simp] theorem run_nil (start : σ) : run step start [] = start := rfl

@[simp] theorem run_cons (start : σ) (input : α) (rest : List α) :
    run step start (input :: rest) = run step (step start input) rest := rfl

theorem StepsMeet.imp_of_invariant {weaker : σ → α → Prop} {start : σ} {inputs : List α}
    (meet : StepsMeet step cond start inputs) (inv : σ → Prop) (initial : inv start)
    (kept : ∀ state input, inv state → inv (step state input))
    (implies : ∀ state input, inv state → cond state input → weaker state input) :
    StepsMeet step weaker start inputs := by
  induction inputs generalizing start with
  | nil => trivial
  | cons input rest ih => exact ⟨implies start input initial meet.1, ih meet.2 (kept start input initial)⟩

theorem StepsMeet.imp {weaker : σ → α → Prop} {start : σ} {inputs : List α}
    (meet : StepsMeet step cond start inputs) (implies : ∀ state input, cond state input → weaker state input) :
    StepsMeet step weaker start inputs := by
  apply meet.imp_of_invariant (fun _ => True) trivial
  · intro _ _ _
    trivial
  · intro state input _
    exact implies state input

theorem StepsMeet.and {other : σ → α → Prop} {start : σ} {inputs : List α}
    (meet : StepsMeet step cond start inputs) (also : StepsMeet step other start inputs) :
    StepsMeet step (fun state input => cond state input ∧ other state input) start inputs := by
  induction inputs generalizing start with
  | nil => trivial
  | cons input rest ih => exact ⟨⟨meet.1, also.1⟩, ih meet.2 also.2⟩

theorem StepsMeet.iff {given other : σ → α → Prop} {start : σ} {inputs : List α}
    (meet : StepsMeet step given start inputs)
    (same : ∀ state input, given state input → (cond state input ↔ other state input)) :
    StepsMeet step cond start inputs ↔ StepsMeet step other start inputs := by
  induction inputs generalizing start with
  | nil => rfl
  | cons input rest ih => exact and_congr (same start input meet.1) (ih meet.2)

theorem PairsMeet.iff {pair other : σ → α → α → Prop}
    (same : ∀ state first second, pair state first second ↔ other state first second) (start : σ)
    (inputs : List α) : PairsMeet step pair start inputs ↔ PairsMeet step other start inputs := by
  induction inputs generalizing start with
  | nil => rfl
  | cons first rest ih =>
    cases rest with
    | nil => rfl
    | cons second rest =>
      simp only [PairsMeet]
      rw [same, ih]

theorem run_invariant_of_steps (inv : σ → Prop) (start : σ) (inputs : List α) (initial : inv start)
    (preserved : ∀ state input, inv state → cond state input → inv (step state input))
    (meet : StepsMeet step cond start inputs) : inv (run step start inputs) := by
  induction inputs generalizing start with
  | nil => exact initial
  | cons input inputs ih =>
    apply ih (step start input) (preserved start input initial meet.1)
    exact meet.2

theorem run_invariant (inv : σ → Prop) (start : σ) (inputs : List α) (initial : inv start)
    (preserved : ∀ state input, inv state → inv (step state input)) : inv (run step start inputs) := by
  induction inputs generalizing start with
  | nil => exact initial
  | cons input inputs ih => exact ih (step start input) (preserved start input initial)

section Tracked

variable {tracked : σ → List α → Prop}

/-- Where, as long as `tracked` holds of the state and the inputs to come, a step has the invariant exactly
    when it had it before and meets the condition, a run keeps the invariant exactly when all its steps meet
    the condition. -/
theorem run_iff_of_tracked (inv : σ → Prop)
    (kept : ∀ state input rest, tracked state (input :: rest) → tracked (step state input) rest)
    (step_iff : ∀ state input rest, tracked state (input :: rest) →
      (inv (step state input) ↔ inv state ∧ cond state input))
    {start : σ} {inputs : List α} (initial : tracked start inputs) :
    inv (run step start inputs) ↔ inv start ∧ StepsMeet step cond start inputs := by
  induction inputs generalizing start with
  | nil => exact (and_iff_left trivial).symm
  | cons input inputs ih =>
    rw [run_cons, ih (kept start input inputs initial), step_iff start input inputs initial, and_assoc]
    rfl

theorem StepsMeet.iff_of_tracked {other : σ → α → Prop}
    (kept : ∀ state input rest, tracked state (input :: rest) → other state input →
      tracked (step state input) rest)
    (same : ∀ state input rest, tracked state (input :: rest) → (cond state input ↔ other state input))
    {start : σ} {inputs : List α} (initial : tracked start inputs) :
    StepsMeet step cond start inputs ↔ StepsMeet step other start inputs := by
  induction inputs generalizing start with
  | nil => rfl
  | cons input inputs ih =>
    simp only [StepsMeet]
    rw [same start input inputs initial]
    apply and_congr_right
    intro met
    exact ih (kept start input inputs initial met)

end Tracked

theorem run_iff_of_steps (inv aux : σ → Prop) (kept : ∀ state input, aux state → aux (step state input))
    (step_iff : ∀ state input, aux state → (inv (step state input) ↔ inv state ∧ cond state input))
    {start : σ} (initial : aux start) (inputs : List α) :
    inv (run step start inputs) ↔ inv start ∧ StepsMeet step cond start inputs := by
  let tracked : σ → List α → Prop := fun state _ => aux state
  have always : ∀ state input (rest : List α), tracked state (input :: rest) → tracked (step state input) rest :=
    fun state input _ => kept state input
  exact run_iff_of_tracked inv always (fun state input _ => step_iff state input) initial

theorem run_invariant_iff {inv : σ → Prop}
    (step_iff : ∀ state input, inv (step state input) ↔ inv state ∧ cond state input) (start : σ)
    (inputs : List α) : inv (run step start inputs) ↔ inv start ∧ StepsMeet step cond start inputs := by
  have always : ∀ state input, True → (inv (step state input) ↔ inv state ∧ cond state input) :=
    fun state input _ => step_iff state input
  exact run_iff_of_steps inv (fun _ => True) (fun _ _ _ => trivial) always trivial inputs

end Runs
