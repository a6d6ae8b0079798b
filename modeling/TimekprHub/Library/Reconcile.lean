namespace Reconcile

universe u v w x

variable {σ : Type u} {ω : Type v} {φ : Type w}

/-- A device answers whether it took a write. A taken write holds, and a write to one field leaves
    what another field holds. -/
structure Lawful (perform : σ → ω → Bool × σ) (field : ω → φ) (holds : σ → ω → Prop) : Prop where
  lands : ∀ state write, (perform state write).1 = true → holds (perform state write).2 write
  frame : ∀ state write other, field write ≠ field other → holds state write →
    holds (perform state other).2 write

structure Planned (ω : Type v) where
  write : ω
  skip : Bool

def pass (perform : σ → ω → Bool × σ) (state : σ) : List (Planned ω) → List Bool × σ
  | [] => ([], state)
  | planned :: rest =>
    if planned.skip then pass perform state rest
    else
      let answer := perform state planned.write
      let later := pass perform answer.2 rest
      (answer.1 :: later.1, later.2)

variable {perform : σ → ω → Bool × σ} {field : ω → φ} {holds : σ → ω → Prop} {state : σ}
  {planned : Planned ω} {plan : List (Planned ω)}

theorem pass_skip (skipped : planned.skip = true) :
    pass perform state (planned :: plan) = pass perform state plan := by
  simp [pass, skipped]

theorem pass_perform (needed : planned.skip = false) :
    pass perform state (planned :: plan) =
      ((perform state planned.write).1 :: (pass perform (perform state planned.write).2 plan).1,
        (pass perform (perform state planned.write).2 plan).2) := by
  simp [pass, needed]

theorem pass_frame (lawful : Lawful perform field holds) {write : ω} (held : holds state write)
    (untouched : ∀ planned ∈ plan, field write ≠ field planned.write) :
    holds (pass perform state plan).2 write := by
  induction plan generalizing state with
  | nil => exact held
  | cons first rest ih =>
    have other := untouched first (List.mem_cons_self ..)
    have later : ∀ next ∈ rest, field write ≠ field next.write :=
      fun next member => untouched next (List.mem_cons_of_mem _ member)
    cases needed : first.skip with
    | true =>
      rw [pass_skip needed]
      exact ih held later
    | false =>
      rw [pass_perform needed]
      exact ih (lawful.frame state write first.write other held) later

theorem pass_holds (lawful : Lawful perform field holds)
    (distinct : plan.Pairwise fun a b => field a.write ≠ field b.write)
    (taken : ∀ reply ∈ (pass perform state plan).1, reply = true) {planned : Planned ω}
    (member : planned ∈ plan) (skipped : planned.skip = true → holds state planned.write) :
    holds (pass perform state plan).2 planned.write := by
  induction plan generalizing state with
  | nil => cases member
  | cons first rest ih =>
    obtain ⟨apart, distinct⟩ := List.pairwise_cons.mp distinct
    cases needed : first.skip with
    | true =>
      rw [pass_skip needed] at taken ⊢
      rcases List.mem_cons.mp member with rfl | member
      · exact pass_frame lawful (skipped needed) apart
      · exact ih distinct taken member skipped
    | false =>
      rw [pass_perform needed] at taken ⊢
      rcases List.mem_cons.mp member with rfl | member
      · have landed := lawful.lands state planned.write (taken _ (List.mem_cons_self ..))
        exact pass_frame lawful landed apart
      · have differ : field planned.write ≠ field first.write := (apart planned member).symm
        exact ih distinct (fun reply inside => taken reply (List.mem_cons_of_mem _ inside)) member
          fun skip => lawful.frame state planned.write first.write differ (skipped skip)

section View

variable {ν : Type x} {view : σ → ν} {key : φ}

theorem pass_view_other
    (frame : ∀ state write, field write ≠ key → view (perform state write).2 = view state)
    (others : ∀ planned ∈ plan, field planned.write ≠ key) :
    view (pass perform state plan).2 = view state := by
  induction plan generalizing state with
  | nil => rfl
  | cons first rest ih =>
    obtain ⟨other, others⟩ := List.forall_mem_cons.mp others
    cases needed : first.skip with
    | true =>
      rw [pass_skip needed]
      exact ih others
    | false =>
      rw [pass_perform needed]
      exact (ih others).trans (frame state first.write other)

theorem pass_view
    (frame : ∀ state write, field write ≠ key → view (perform state write).2 = view state)
    (distinct : plan.Pairwise fun a b => field a.write ≠ field b.write) (member : planned ∈ plan)
    (own : field planned.write = key) {taken : Bool} {value : ν}
    (answer : ∀ state, view (perform state planned.write).2 = if taken then value else view state) :
    view (pass perform state plan).2 = if !planned.skip && taken then value else view state := by
  induction plan generalizing state with
  | nil => cases member
  | cons first rest ih =>
    obtain ⟨apart, distinct⟩ := List.pairwise_cons.mp distinct
    rcases List.mem_cons.mp member with rfl | member
    · have others : ∀ next ∈ rest, field next.write ≠ key :=
        fun next inside same => apart next inside (own.trans same.symm)
      cases needed : planned.skip with
      | true =>
        rw [pass_skip needed]
        exact pass_view_other frame others
      | false =>
        rw [pass_perform needed]
        exact (pass_view_other frame others).trans (answer state)
    · have other : field first.write ≠ key := fun same => apart planned member (same.trans own.symm)
      cases needed : first.skip with
      | true =>
        rw [pass_skip needed]
        exact ih distinct member
      | false =>
        rw [pass_perform needed, ← frame state first.write other]
        exact ih distinct member

end View

theorem pass_refused
    (refuses : ∀ state write, (perform state write).1 = false → (perform state write).2 = state)
    (refused : ∀ reply ∈ (pass perform state plan).1, reply = false) :
    (pass perform state plan).2 = state := by
  induction plan generalizing state with
  | nil => rfl
  | cons first rest ih =>
    cases needed : first.skip with
    | true =>
      rw [pass_skip needed] at refused ⊢
      exact ih refused
    | false =>
      rw [pass_perform needed] at refused ⊢
      have same := refuses state first.write (refused _ (List.mem_cons_self ..))
      have later := ih fun reply inside => refused reply (List.mem_cons_of_mem _ inside)
      exact later.trans same

end Reconcile
