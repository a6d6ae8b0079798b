import Mathlib.Logic.Function.Basic

namespace RevisionGate

universe u v w

/-- A publisher that sends its payload whenever the subscriber reports another revision, and the
    subscriber's config. `torn` is ghost state: since the last complete write, an incomplete one changed
    the config. -/
structure State (π : Type u) (γ : Type v) (ρ : Type w) where
  payload : π
  config : γ
  reported : ρ
  torn : Bool

variable {π : Type u} {γ : Type v} {ρ : Type w} (revision : π → ρ) (landed : γ → π → Prop)

inductive Step : State π γ ρ → State π γ ρ → Prop
  | publish (state : State π γ ρ) (payload : π) : Step state { state with payload }
  | complete (state : State π γ ρ) (config : γ) (done : landed config state.payload) :
    Step state { state with config, reported := revision state.payload, torn := false }
  | incomplete (state : State π γ ρ) (config : γ) (sent : state.reported ≠ revision state.payload) :
    Step state { state with config, torn := true }
  | refused (state : State π γ ρ) : Step state state

/-- While the config is whole it is what its revision names, and while it is torn the gate is open. -/
structure Inv (state : State π γ ρ) : Prop where
  whole : state.torn = false → ∀ payload, revision payload = state.reported → landed state.config payload
  open_ : state.torn = true → revision state.payload ≠ state.reported

variable {revision landed}

theorem Inv.step (injective : Function.Injective revision) {before after : State π γ ρ}
    (step : Step revision landed before after) (inv : Inv revision landed before)
    (apart : before.torn = true → revision after.payload ≠ before.reported) :
    Inv revision landed after := by
  cases step with
  | publish payload => exact ⟨inv.whole, apart⟩
  | complete config done =>
    constructor
    · intro _ payload same
      rw [injective same]
      exact done
    · intro torn
      cases torn
  | incomplete config sent =>
    constructor
    · intro whole
      cases whole
    · intro _ same
      exact sent same.symm
  | refused => exact inv

theorem Inv.sound {state : State π γ ρ} (inv : Inv revision landed state)
    (same : state.reported = revision state.payload) : landed state.config state.payload := by
  have whole : state.torn = false := by
    rw [Bool.eq_false_iff]
    intro torn
    exact inv.open_ torn same.symm
  exact inv.whole whole state.payload same.symm

end RevisionGate
