import Mathlib.Data.Fintype.Card
import Mathlib.Data.List.Basic
import Mathlib.Logic.Function.Basic
import Mathlib.Logic.Relation
import Mathlib.Order.WellFounded

namespace LockTable

universe u v w

variable {ι : Type u} {κ : Type v}

section Cycle

variable {r : ι → ι → Prop}

theorem exists_cycle [Finite ι] {members : Set ι} (nonempty : members.Nonempty)
    (closed : ∀ i ∈ members, ∃ j ∈ members, r i j) : ∃ i, Relation.TransGen r i i := by
  by_contra acyclic
  have backwards : IsTrans ι fun a b => Relation.TransGen r b a := ⟨fun _ _ _ ab bc => bc.trans ab⟩
  have irreflexive : Std.Irrefl fun a b => Relation.TransGen r b a := ⟨fun i cycle => acyclic ⟨i, cycle⟩⟩
  have wf := Finite.wellFounded_of_trans_of_irrefl fun a b => Relation.TransGen r b a
  obtain ⟨last, member, least⟩ := wf.has_min members nonempty
  obtain ⟨next, inside, edge⟩ := closed last member
  exact least next inside (.single edge)

end Cycle

variable (locks : ι → List κ)

/-- Transaction `i` has made `state i` steps: it takes its locks in order, and its last step commits and
    releases them all. -/
def held (state : ι → Nat) (i : ι) : List κ :=
  if state i ≤ (locks i).length then (locks i).take (state i) else []

def wanted (state : ι → Nat) (i : ι) : Option κ := (locks i)[state i]?

/-- A transaction waits for another that holds its next lock. It never waits for itself. -/
def WaitsFor (state : ι → Nat) (i j : ι) : Prop :=
  i ≠ j ∧ ∃ lock, wanted locks state i = some lock ∧ lock ∈ held locks state j

def Deadlocked (state : ι → Nat) : Prop := ∃ i, Relation.TransGen (WaitsFor locks state) i i

/-- Some transactions, each cut short before a lock that another of them takes before its own cut, while
    no two of them have a lock in common before their cuts. -/
def Crossing : Prop :=
  ∃ (parties : Set ι) (cut : ι → Nat), parties.Nonempty ∧
    (∀ i ∈ parties, ∀ j ∈ parties, i ≠ j →
      ((locks i).take (cut i)).Disjoint ((locks j).take (cut j))) ∧
    ∀ i ∈ parties, ∃ j ∈ parties, i ≠ j ∧
      ∃ lock, (locks i)[cut i]? = some lock ∧ lock ∈ (locks j).take (cut j)

variable {locks}

theorem held_eq_take {state : ι → Nat} {i : ι} (running : state i ≤ (locks i).length) :
    held locks state i = (locks i).take (state i) := if_pos running

theorem wanted_running {state : ι → Nat} {i : ι} {lock : κ} (wants : wanted locks state i = some lock) :
    state i < (locks i).length := (List.getElem?_eq_some_iff.mp wants).1

variable [DecidableEq ι]

variable (locks) in
inductive Step (state : ι → Nat) : (ι → Nat) → Prop
  | make (i : ι) (running : state i ≤ (locks i).length) (free : ∀ j, ¬ WaitsFor locks state i j) :
    Step state (Function.update state i (state i + 1))

variable (locks) in
def Reachable (state : ι → Nat) : Prop := Relation.ReflTransGen (Step locks) (fun _ => 0) state

variable (locks) in
def Exclusive (state : ι → Nat) : Prop :=
  ∀ i j, i ≠ j → (held locks state i).Disjoint (held locks state j)

theorem held_step {state : ι → Nat} {i : ι} (running : state i ≤ (locks i).length) {lock : κ}
    (holds : lock ∈ held locks (Function.update state i (state i + 1)) i) :
    lock ∈ held locks state i ∨ wanted locks state i = some lock := by
  unfold held at holds
  rw [Function.update_self] at holds
  split at holds
  · rw [List.take_add_one, List.mem_append, Option.mem_toList] at holds
    rw [held_eq_take running]
    exact holds
  · cases holds

theorem held_step_other {state : ι → Nat} {i j : ι} (other : j ≠ i) (steps : Nat) :
    held locks (Function.update state i steps) j = held locks state j := by
  unfold held
  rw [Function.update_of_ne other]

theorem step_exclusive {state later : ι → Nat} (exclusive : Exclusive locks state)
    (step : Step locks state later) : Exclusive locks later := by
  cases step with
  | make i running free =>
    have apart : ∀ j, j ≠ i → ∀ lock, lock ∈ held locks (Function.update state i (state i + 1)) i →
        lock ∉ held locks state j := by
      intro j other lock holds taken
      rcases held_step running holds with before | wants
      · exact exclusive i j (Ne.symm other) before taken
      · exact free j ⟨Ne.symm other, lock, wants, taken⟩
    intro one two differ lock first second
    by_cases own : one = i
    · subst own
      rw [held_step_other (Ne.symm differ)] at second
      exact apart two (Ne.symm differ) lock first second
    · rw [held_step_other own] at first
      by_cases own' : two = i
      · subst own'
        exact apart one own lock second first
      · rw [held_step_other own'] at second
        exact exclusive one two differ first second

theorem reachable_exclusive {state : ι → Nat} (reachable : Reachable locks state) :
    Exclusive locks state := by
  induction reachable with
  | refl =>
    intro i j _ lock holds
    simp [held] at holds
  | tail _ step ih => exact step_exclusive ih step

theorem reachable_advance {state : ι → Nat} {i : ι} (reachable : Reachable locks state)
    (fresh : state i = 0) (cut : Nat) (within : cut ≤ (locks i).length)
    (free : ∀ j, j ≠ i → ((locks i).take cut).Disjoint (held locks state j)) :
    Reachable locks (Function.update state i cut) := by
  induction cut with
  | zero =>
    have same : Function.update state i 0 = state := by
      rw [← fresh]
      exact Function.update_eq_self i state
    rw [same]
    exact reachable
  | succ cut ih =>
    have shorter : (locks i).take cut ⊆ (locks i).take (cut + 1) := by
      rw [List.take_add_one]
      exact List.subset_append_left _ _
    have before := ih (Nat.le_of_succ_le within)
      fun j other => List.disjoint_of_subset_left shorter (free j other)
    have at_cut : Function.update state i cut i = cut := Function.update_self i cut state
    have step : Step locks (Function.update state i cut)
        (Function.update (Function.update state i cut) i (Function.update state i cut i + 1)) := by
      refine .make i ?_ ?_
      · rw [at_cut]
        exact Nat.le_of_succ_le within
      · intro j waits
        obtain ⟨other, lock, wants, taken⟩ := waits
        rw [held_step_other (Ne.symm other)] at taken
        unfold wanted at wants
        rw [at_cut] at wants
        refine free j (Ne.symm other) ?_ taken
        rw [List.take_add_one, wants]
        exact List.mem_append_right _ (List.mem_singleton_self lock)
    rw [at_cut, Function.update_idem] at step
    exact before.tail step

theorem reachable_of_disjoint [Finite ι] {cut : ι → Nat} (within : ∀ i, cut i ≤ (locks i).length)
    (disjoint : ∀ i j, i ≠ j → ((locks i).take (cut i)).Disjoint ((locks j).take (cut j))) :
    Reachable locks cut := by
  have upTo : ∀ started : Finset ι, Reachable locks fun i => if i ∈ started then cut i else 0 := by
    intro started
    induction started using Finset.induction_on with
    | empty => exact .refl
    | insert i started absent ih =>
      have fresh : (if i ∈ started then cut i else 0) = 0 := if_neg absent
      have advanced := reachable_advance ih fresh (cut i) (within i) (by
        intro j other lock own taken
        by_cases begun : j ∈ started
        · simp only [held, if_pos begun, if_pos (within j)] at taken
          exact disjoint i j (Ne.symm other) own taken
        · simp only [held, if_neg begun, Nat.zero_le, if_true, List.take_zero] at taken
          cases taken)
      have same : (Function.update (fun i => if i ∈ started then cut i else 0) i (cut i)) =
          fun j => if j ∈ insert i started then cut j else 0 := by
        funext j
        by_cases own : j = i
        · subst own
          simp
        · simp [own]
      rw [same] at advanced
      exact advanced
  obtain ⟨_⟩ := nonempty_fintype ι
  have whole := upTo Finset.univ
  simp only [Finset.mem_univ, if_true] at whole
  exact whole

omit [DecidableEq ι] in
theorem waits_running {state : ι → Nat} {i j : ι} (waits : WaitsFor locks state i j) :
    state i < (locks i).length := by
  obtain ⟨_, lock, wants, _⟩ := waits
  exact wanted_running wants

theorem crossing_of_deadlocked {state : ι → Nat} (reachable : Reachable locks state)
    (deadlocked : Deadlocked locks state) : Crossing locks := by
  obtain ⟨start, cycle⟩ := deadlocked
  have exclusive := reachable_exclusive reachable
  have running : ∀ i, Relation.TransGen (WaitsFor locks state) i start → state i < (locks i).length := by
    intro i path
    obtain ⟨next, waits, _⟩ := Relation.TransGen.head'_iff.mp path
    exact waits_running waits
  refine ⟨{i | Relation.TransGen (WaitsFor locks state) start i ∧
    Relation.TransGen (WaitsFor locks state) i start}, state, ⟨start, cycle, cycle⟩, ?_, ?_⟩
  · intro i ⟨_, fromI⟩ j ⟨_, fromJ⟩ differ
    have apart := exclusive i j differ
    rw [held_eq_take (running i fromI).le, held_eq_take (running j fromJ).le] at apart
    exact apart
  · intro i ⟨toI, fromI⟩
    obtain ⟨next, waits, back⟩ := Relation.TransGen.head'_iff.mp fromI
    have fromNext := Relation.TransGen.trans_right back cycle
    obtain ⟨differ, lock, wants, taken⟩ := waits
    refine ⟨next, ⟨toI.tail ⟨differ, lock, wants, taken⟩, fromNext⟩, differ, lock, wants, ?_⟩
    rw [held_eq_take (running next fromNext).le] at taken
    exact taken

theorem deadlocked_of_crossing [Finite ι] (crossing : Crossing locks) :
    ∃ state, Reachable locks state ∧ Deadlocked locks state := by
  classical
  obtain ⟨parties, cut, nonempty, disjoint, crossed⟩ := crossing
  have running : ∀ i ∈ parties, cut i ≤ (locks i).length := by
    intro i member
    obtain ⟨_, _, _, lock, wants, _⟩ := crossed i member
    exact (List.getElem?_eq_some_iff.mp wants).1.le
  -- The others have not begun.
  let state : ι → Nat := fun i => if i ∈ parties then cut i else 0
  have inside : ∀ i ∈ parties, state i = cut i := fun i member => if_pos member
  have outside : ∀ i, i ∉ parties → state i = 0 := fun i absent => if_neg absent
  have within : ∀ i, state i ≤ (locks i).length := by
    intro i
    by_cases member : i ∈ parties
    · rw [inside i member]
      exact running i member
    · rw [outside i member]
      exact Nat.zero_le _
  have apart : ∀ i j, i ≠ j → ((locks i).take (state i)).Disjoint ((locks j).take (state j)) := by
    intro i j differ lock first second
    by_cases member : i ∈ parties
    · by_cases member' : j ∈ parties
      · rw [inside i member] at first
        rw [inside j member'] at second
        exact disjoint i member j member' differ first second
      · rw [outside j member'] at second
        cases second
    · rw [outside i member] at first
      cases first
  refine ⟨state, reachable_of_disjoint within apart, exists_cycle nonempty ?_⟩
  intro i member
  obtain ⟨j, member', differ, lock, wants, taken⟩ := crossed i member
  refine ⟨j, member', differ, lock, ?_, ?_⟩
  · rw [wanted, inside i member]
    exact wants
  · rw [held_eq_take (within j), inside j member']
    exact taken

theorem deadlock_reachable_iff [Finite ι] :
    (∃ state, Reachable locks state ∧ Deadlocked locks state) ↔ Crossing locks := by
  constructor
  · intro ⟨state, reachable, deadlocked⟩
    exact crossing_of_deadlocked reachable deadlocked
  · exact deadlocked_of_crossing

theorem not_deadlocked_of_sorted {α : Type w} [LinearOrder α] {rank : κ → α} (injective : Function.Injective rank)
    (sorted : ∀ i, (locks i).Pairwise fun one other => rank one ≤ rank other) {state : ι → Nat}
    (reachable : Reachable locks state) : ¬ Deadlocked locks state := by
  have exclusive := reachable_exclusive reachable
  -- Along a walk the wanted locks only rise.
  have rises : ∀ i j k, WaitsFor locks state i j → WaitsFor locks state j k →
      ∃ first second, wanted locks state i = some first ∧ wanted locks state j = some second ∧
        rank first < rank second := by
    intro i j k ⟨_, first, wants, taken⟩ ⟨differ, second, wants', taken'⟩
    have running := wanted_running wants'
    rw [held_eq_take running.le] at taken
    refine ⟨first, second, wants, wants', lt_of_le_of_ne ?_ (injective.ne ?_)⟩
    · obtain ⟨position, bound, same⟩ := List.mem_take_iff_getElem.mp taken
      obtain ⟨_, same'⟩ := List.getElem?_eq_some_iff.mp wants'
      rw [← same, ← same']
      exact List.pairwise_iff_getElem.mp (sorted j) position (state j) _ running (by omega)
    · intro same
      rw [same, ← held_eq_take running.le] at taken
      exact exclusive j k differ taken taken'
  have walks : ∀ i j k, Relation.TransGen (WaitsFor locks state) i j → WaitsFor locks state j k →
      ∃ first second, wanted locks state i = some first ∧ wanted locks state j = some second ∧
        rank first < rank second := by
    intro i j k walk next
    induction walk using Relation.TransGen.head_induction_on with
    | single edge => exact rises _ j k edge next
    | head edge walk ih =>
      obtain ⟨_, after, _⟩ := Relation.TransGen.head'_iff.mp walk
      obtain ⟨first, middle, wants, wants', below⟩ := rises _ _ _ edge after
      obtain ⟨middle', last, wants'', wants''', below'⟩ := ih
      have same : middle = middle' := Option.some.inj (wants'.symm.trans wants'')
      exact ⟨first, last, wants, wants''', below.trans (same ▸ below')⟩
  intro ⟨i, cycle⟩
  obtain ⟨next, waits, _⟩ := Relation.TransGen.head'_iff.mp cycle
  obtain ⟨first, second, wants, wants', below⟩ := walks i i next cycle waits
  have same : first = second := Option.some.inj (wants.symm.trans wants')
  exact absurd below (same ▸ lt_irrefl (rank first))

end LockTable
