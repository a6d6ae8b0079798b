import Mathlib.Algebra.BigOperators.Group.List.Basic
import Mathlib.Algebra.Ring.Int.Defs
import Mathlib.Data.Int.ConditionallyCompleteOrder
import Mathlib.Data.Int.Interval
import Mathlib.Data.List.Sort
import Mathlib.Order.ConditionallyCompleteLattice.Basic
import Mathlib.Order.Interval.Finset.Basic

namespace Intervals

structure Span where
  start : Int
  stop : Int
  deriving DecidableEq, Repr

/-- The length of a list's union beyond `reach`, for spans in the order of their starts. -/
def sweep (reach : Int) : List Span → Int
  | [] => 0
  | span :: rest => max 0 (span.stop - max span.start reach) + sweep (max reach span.stop) rest

def unionLength (spans : List Span) : Int :=
  match spans.mergeSort fun a b => decide (a.start ≤ b.start) with
  | [] => 0
  | first :: rest => sweep first.start (first :: rest)

def Covered (spans : List Span) (span : Span) : Prop :=
  ∀ t, span.start ≤ t → t < span.stop → ∃ other ∈ spans, other.start ≤ t ∧ t < other.stop

noncomputable def points (spans : List Span) : Finset Int :=
  spans.toFinset.biUnion fun span => Finset.Ico span.start span.stop

def length (span : Span) : Int := max 0 (span.stop - span.start)

theorem mem_points (spans : List Span) (t : Int) :
    t ∈ points spans ↔ ∃ span ∈ spans, span.start ≤ t ∧ t < span.stop := by
  simp [points]

theorem points_subset {spans others : List Span} (subset : spans ⊆ others) :
    points spans ⊆ points others := by
  intro t member
  obtain ⟨span, listed, inside⟩ := (mem_points spans t).mp member
  exact (mem_points others t).mpr ⟨span, subset listed, inside⟩

theorem points_cons {span : Span} {rest : List Span} (later : ∀ next ∈ rest, span.start ≤ next.start)
    (reach : Int) :
    (points (span :: rest)).filter (reach ≤ ·) =
      Finset.Ico (max span.start reach) span.stop ∪
        (points rest).filter (max reach span.stop ≤ ·) := by
  ext t
  simp only [Finset.mem_filter, Finset.mem_union, Finset.mem_Ico, mem_points, List.mem_cons, max_le_iff]
  constructor
  · rintro ⟨⟨other, rfl | listed, start, stop⟩, reached⟩
    · left
      omega
    · have after := later other listed
      by_cases inside : t < span.stop
      · left
        omega
      · right
        exact ⟨⟨other, listed, start, stop⟩, by omega⟩
  · rintro (inside | ⟨⟨other, listed, bounds⟩, reached⟩)
    · exact ⟨⟨span, Or.inl rfl, by omega, by omega⟩, by omega⟩
    · exact ⟨⟨other, Or.inr listed, bounds⟩, by omega⟩

theorem sweep_eq_card {spans : List Span} (sorted : spans.Pairwise fun a b => a.start ≤ b.start)
    (reach : Int) : sweep reach spans = ((points spans).filter (reach ≤ ·)).card := by
  induction spans generalizing reach with
  | nil => rfl
  | cons span rest ih =>
    obtain ⟨later, sorted⟩ := List.pairwise_cons.mp sorted
    have apart : Disjoint (Finset.Ico (max span.start reach) span.stop)
        ((points rest).filter (max reach span.stop ≤ ·)) := by
      rw [Finset.disjoint_left]
      intro t inside beyond
      rw [Finset.mem_Ico] at inside
      rw [Finset.mem_filter] at beyond
      omega
    rw [sweep, ih sorted, points_cons later, Finset.card_union_of_disjoint apart, Int.card_Ico]
    omega

theorem unionLength_eq_card (spans : List Span) : unionLength spans = (points spans).card := by
  have order : (spans.mergeSort fun a b => decide (a.start ≤ b.start)).Pairwise fun a b => a.start ≤ b.start :=
    List.pairwise_mergeSort' (Order.Preimage Span.start (· ≤ ·)) spans
  have same : ∀ span, span ∈ spans.mergeSort (fun a b => decide (a.start ≤ b.start)) ↔ span ∈ spans :=
    fun _ => List.mem_mergeSort
  unfold unionLength
  split
  · rename_i none
    have empty : points spans = ∅ := by
      ext t
      rw [mem_points]
      constructor
      · rintro ⟨span, listed, _⟩
        have member := (same span).mpr listed
        rw [none] at member
        cases member
      · intro absurdity
        cases absurdity
    rw [empty]
    rfl
  · rename_i first rest sorted
    rw [sorted] at order same
    have starts := List.pairwise_cons.mp order
    rw [sweep_eq_card order]
    congr 2
    ext t
    simp only [Finset.mem_filter, mem_points, same]
    constructor
    · exact And.left
    · rintro ⟨span, listed, start, stop⟩
      refine ⟨⟨span, listed, start, stop⟩, ?_⟩
      rcases List.mem_cons.mp ((same span).mpr listed) with rfl | later
      · exact start
      · exact (starts.1 span later).trans start

theorem unionLength_eq_sweep {spans : List Span} (sorted : spans.Pairwise fun a b => a.start ≤ b.start)
    {reach : Int} (before : ∀ span ∈ spans, reach ≤ span.start) : unionLength spans = sweep reach spans := by
  rw [unionLength_eq_card, sweep_eq_card sorted]
  congr 2
  ext t
  rw [Finset.mem_filter]
  constructor
  · intro inside
    obtain ⟨span, listed, start, _⟩ := (mem_points spans t).mp inside
    exact ⟨inside, (before span listed).trans start⟩
  · exact And.left

/-- The spans of a list in the order of their starts, each grown over the later ones it meets. -/
def absorb (current : Span) : List Span → List Span
  | [] => [current]
  | next :: rest =>
    if next.start ≤ current.stop then absorb ⟨current.start, max current.stop next.stop⟩ rest
    else current :: absorb next rest

def merged (spans : List Span) : List Span :=
  match (spans.filter fun span => span.start < span.stop).mergeSort fun a b => decide (a.start ≤ b.start) with
  | [] => []
  | first :: rest => absorb first rest

theorem sum_absorb {current : Span} {rest : List Span} (wide : ∀ span ∈ rest, span.start < span.stop) :
    ((absorb current rest).map fun span => span.stop - span.start).sum =
      current.stop - current.start + sweep current.stop rest := by
  induction rest generalizing current with
  | nil => simp [absorb, sweep]
  | cons next rest ih =>
    have here := wide next (List.mem_cons_self ..)
    have later : ∀ span ∈ rest, span.start < span.stop :=
      fun span listed => wide span (List.mem_cons_of_mem _ listed)
    rw [absorb, sweep]
    split
    · rw [ih later]
      simp only
      omega
    · have reached : max current.stop next.stop = next.stop := by omega
      rw [List.map_cons, List.sum_cons, ih later, reached]
      omega

theorem sum_merged (spans : List Span) :
    ((merged spans).map fun span => span.stop - span.start).sum = unionLength spans := by
  have same : unionLength spans = unionLength (spans.filter fun span => span.start < span.stop) := by
    rw [unionLength_eq_card, unionLength_eq_card]
    congr 2
    ext t
    simp only [mem_points, List.mem_filter, decide_eq_true_eq]
    constructor
    · rintro ⟨span, listed, start, stop⟩
      exact ⟨span, ⟨listed, by omega⟩, start, stop⟩
    · rintro ⟨span, ⟨listed, _⟩, start, stop⟩
      exact ⟨span, listed, start, stop⟩
  have wide : ∀ span ∈ (spans.filter fun span => span.start < span.stop).mergeSort
      (fun a b => decide (a.start ≤ b.start)), span.start < span.stop := by
    intro span listed
    have kept := (List.mergeSort_perm _ _).mem_iff.mp listed
    exact of_decide_eq_true (List.mem_filter.mp kept).2
  rw [same, merged, unionLength]
  split
  · rfl
  · rename_i first rest sorted
    rw [sorted] at wide
    have here := wide first (List.mem_cons_self ..)
    have reached : max first.start first.stop = first.stop := by omega
    rw [sum_absorb fun span listed => wide span (List.mem_cons_of_mem _ listed), sweep, reached]
    omega

theorem unionLength_mono {spans others : List Span} (subset : spans ⊆ others) :
    unionLength spans ≤ unionLength others := by
  rw [unionLength_eq_card, unionLength_eq_card]
  exact Int.ofNat_le.mpr (Finset.card_le_card (points_subset subset))

theorem unionLength_congr {spans others : List Span} (same : ∀ span, span ∈ spans ↔ span ∈ others) :
    unionLength spans = unionLength others :=
  le_antisymm (unionLength_mono fun span => (same span).mp) (unionLength_mono fun span => (same span).mpr)

theorem sweep_le_sum (reach : Int) (spans : List Span) : sweep reach spans ≤ (spans.map length).sum := by
  induction spans generalizing reach with
  | nil => exact le_refl 0
  | cons span rest ih =>
    have later := ih (max reach span.stop)
    simp only [sweep, List.map_cons, List.sum_cons, length]
    omega

theorem unionLength_le_sum (spans : List Span) : unionLength spans ≤ (spans.map length).sum := by
  have total := ((List.mergeSort_perm spans fun a b => decide (a.start ≤ b.start)).map length).sum_eq
  unfold unionLength
  split
  · rename_i none
    rw [none] at total
    exact total.le
  · rename_i first rest sorted
    rw [sorted] at total
    rw [← total]
    exact sweep_le_sum _ _

end Intervals
