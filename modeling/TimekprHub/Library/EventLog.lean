import Mathlib.Data.List.Induction

universe u v

namespace EventLog

variable {ε : Type u} {ν : Type v} (writes : ε → Option ν)

def last (events : List ε) : Option ν := events.reverse.findSome? writes

@[simp] theorem last_nil : last writes ([] : List ε) = none := rfl

theorem last_concat (events : List ε) (event : ε) :
    last writes (events ++ [event]) = (writes event).or (last writes events) := by
  unfold last
  rw [List.reverse_append, List.reverse_singleton, List.singleton_append, List.findSome?_cons]
  cases writes event <;> rfl

variable {writes}

theorem foldl_last {σ : Type u} {step : σ → ε → σ} {field : σ → ν}
    (each : ∀ state event, field (step state event) = (writes event).getD (field state)) (events : List ε)
    (start : σ) :
    field (events.foldl step start) = (last writes events).getD (field start) := by
  induction events using List.reverseRecOn with
  | nil => rfl
  | append_singleton events event ih =>
    rw [List.foldl_append, List.foldl_cons, List.foldl_nil, each, ih, last_concat]
    cases writes event <;> rfl

section Since

/-- The event at the place opens, and none that ends has come since. -/
def Since (opens ends : ε → Prop) (place : Nat) (events : List ε) : Prop :=
  ∃ before event after, events = before ++ event :: after ∧ before.length = place ∧ opens event ∧
    ∀ later ∈ after, ¬ ends later

variable {opens ends : ε → Prop} {place : Nat} {events : List ε}

theorem not_since_nil : ¬ Since opens ends place [] := by
  intro ⟨before, event, after, split, _⟩
  cases before <;> cases split

theorem since_concat {event : ε} :
    Since opens ends place (events ++ [event]) ↔
      place = events.length ∧ opens event ∨ Since opens ends place events ∧ ¬ ends event := by
  constructor
  · intro ⟨before, opener, after, split, placed, opened, silent⟩
    rcases List.eq_nil_or_concat after with rfl | ⟨rest, final, rfl⟩
    · obtain ⟨rfl, same⟩ := List.append_inj' split rfl
      cases same
      exact .inl ⟨placed.symm, opened⟩
    · rw [List.concat_eq_append, ← List.cons_append, ← List.append_assoc] at split
      obtain ⟨rfl, same⟩ := List.append_inj' split rfl
      cases same
      right
      refine ⟨⟨before, opener, rest, rfl, placed, opened, ?_⟩, ?_⟩
      · intro later listed
        exact silent later (by simp [listed])
      · exact silent event (by simp)
  · intro either
    rcases either with ⟨placed, opened⟩ | ⟨⟨before, opener, after, rfl, placed, opened, silent⟩, kept⟩
    · exact ⟨events, event, [], rfl, placed.symm, opened, by simp⟩
    · refine ⟨before, opener, after ++ [event], by simp, placed, opened, ?_⟩
      intro later listed
      rcases List.mem_append.mp listed with earlier | now
      · exact silent later earlier
      · rw [List.mem_singleton.mp now]
        exact kept

theorem Since.get (since : Since opens ends place events) : ∃ event, events[place]? = some event ∧ opens event := by
  obtain ⟨before, event, after, rfl, rfl, opened, _⟩ := since
  exact ⟨event, by simp, opened⟩

theorem Since.lt (since : Since opens ends place events) : place < events.length := by
  obtain ⟨event, found, _⟩ := since.get
  exact (List.getElem?_eq_some_iff.mp found).1

theorem Since.earlier (since : Since opens ends place events) {count : Nat} (placed : place < count) :
    Since opens ends place (events.take count) := by
  obtain ⟨before, event, after, rfl, rfl, opened, silent⟩ := since
  refine ⟨before, event, after.take (count - before.length - 1), ?_, rfl, opened, ?_⟩
  · rw [List.take_append, List.take_of_length_le (Nat.le_of_lt placed)]
    obtain ⟨more, rest⟩ := Nat.exists_eq_add_of_lt placed
    have left : count - before.length = more + 1 := by omega
    rw [left, List.take_succ_cons, Nat.add_sub_cancel]
  · intro later listed
    exact silent later (List.mem_of_mem_take listed)

end Since

section Each

variable (holds : List ε → ε → Prop)

def AtEach (events : List ε) : Prop :=
  ∀ before event after, events = before ++ event :: after → holds before event

theorem atEach_nil : AtEach holds [] := by
  intro before event after split
  cases before <;> cases split

variable {holds}

theorem AtEach.concat {events : List ε} {event : ε} (each : AtEach holds events) (added : holds events event) :
    AtEach holds (events ++ [event]) := by
  intro before one after split
  rcases List.eq_nil_or_concat after with rfl | ⟨rest, final, rfl⟩
  · obtain ⟨rfl, same⟩ := List.append_inj' split rfl
    cases same
    exact added
  · rw [List.concat_eq_append, ← List.cons_append, ← List.append_assoc] at split
    obtain ⟨same, _⟩ := List.append_inj' split rfl
    exact each before one rest same

end Each

end EventLog
