import Mathlib.Data.Int.Range
import TimekprHub.Library.Intervals

namespace TimekprModel.IntervalUnion

structure Span where
  startS : Int
  endS : Int
  ordered : startS ≤ endS
  deriving DecidableEq, Repr

def Span.ofBounds (startS endS : Int) : Except String Span :=
  if ordered : endS < startS then .error s!"Span end ({endS}) precedes start ({startS})"
  else .ok { startS, endS, ordered := by omega }

structure Run where
  total : Int
  curStart : Int
  curEnd : Int

def Run.extend (run : Run) (span : Span) : Run :=
  -- Overlapping or touching spans grow the current run.
  if span.startS ≤ run.curEnd then
    { run with curEnd := max run.curEnd span.endS }
  else
    { total := run.total + (run.curEnd - run.curStart), curStart := span.startS, curEnd := span.endS }

def Run.finish (run : Run) : Int := run.total + (run.curEnd - run.curStart)

def unionSeconds (spans : List Span) : Int :=
  match spans.mergeSort fun a b => a.startS ≤ b.startS with
  | [] => 0
  | first :: rest =>
    (rest.foldl Run.extend { total := 0, curStart := first.startS, curEnd := first.endS }).finish

def coveredSeconds (spans : List Span) : Finset Int :=
  spans.foldl (fun covered span => covered ∪ (Int.range span.startS span.endS).toFinset) ∅

def unionSecondsBruteforce (spans : List Span) : Nat := (coveredSeconds spans).card

def Span.range (span : Span) : Intervals.Span := ⟨span.startS, span.endS⟩

end TimekprModel.IntervalUnion

namespace TimekprProof.IntervalUnion

open TimekprModel TimekprModel.IntervalUnion

theorem mem_union_ranges (covered : Finset Int) (spans : List Span) (second : Int) :
    second ∈ spans.foldl (fun covered span => covered ∪ (Int.range span.startS span.endS).toFinset) covered ↔
      second ∈ covered ∨ ∃ span ∈ spans, span.startS ≤ second ∧ second < span.endS := by
  induction spans generalizing covered with
  | nil => simp
  | cons span rest ih =>
    rw [List.foldl_cons, ih, Finset.mem_union, List.mem_toFinset, Int.mem_range_iff, or_assoc]
    simp only [List.mem_cons, exists_eq_or_imp]

theorem mem_coveredSeconds (spans : List Span) (second : Int) :
    second ∈ coveredSeconds spans ↔ ∃ span ∈ spans, span.startS ≤ second ∧ second < span.endS := by
  rw [coveredSeconds, mem_union_ranges]
  simp

theorem coveredSeconds_eq_points (spans : List Span) :
    coveredSeconds spans = Intervals.points (spans.map Span.range) := by
  ext second
  rw [mem_coveredSeconds, Intervals.mem_points]
  simp [Span.range]

theorem finish_extend (run : Run) (span : Span) :
    (run.extend span).finish =
      run.finish + max 0 (span.endS - max span.startS run.curEnd) := by
  have ordered := span.ordered
  unfold Run.extend
  split <;> simp only [Run.finish] <;> omega

theorem curEnd_extend (run : Run) (span : Span) : (run.extend span).curEnd = max run.curEnd span.endS := by
  have ordered := span.ordered
  unfold Run.extend
  split
  · rfl
  · show span.endS = max run.curEnd span.endS
    omega

theorem finish_foldl (run : Run) (spans : List Span) :
    (spans.foldl Run.extend run).finish =
      run.finish + Intervals.sweep run.curEnd (spans.map Span.range) := by
  induction spans generalizing run with
  | nil => simp [Intervals.sweep]
  | cons span rest ih =>
    rw [List.foldl_cons, ih, finish_extend, curEnd_extend, List.map_cons, Intervals.sweep]
    simp only [Span.range]
    omega

theorem unionSeconds_eq_unionLength (spans : List Span) :
    unionSeconds spans = Intervals.unionLength (spans.map Span.range) := by
  have order : (spans.mergeSort fun a b => a.startS ≤ b.startS).Pairwise fun a b => a.startS ≤ b.startS :=
    List.pairwise_mergeSort' (Order.Preimage Span.startS (· ≤ ·)) spans
  have same := (List.mergeSort_perm spans fun a b => decide (a.startS ≤ b.startS)).map Span.range
  rw [← Intervals.unionLength_congr fun span => same.mem_iff, unionSeconds]
  split
  · rename_i none
    rw [none]
    simp [Intervals.unionLength]
  · rename_i first rest sorted
    rw [sorted] at order ⊢
    have starts := List.pairwise_cons.mp order
    have ranges : ((first :: rest).map Span.range).Pairwise fun a b => a.start ≤ b.start :=
      List.pairwise_map.mpr order
    have before : ∀ span ∈ (first :: rest).map Span.range, first.startS ≤ span.start := by
      intro range listed
      obtain ⟨span, member, rfl⟩ := List.mem_map.mp listed
      rcases List.mem_cons.mp member with rfl | later
      · exact le_refl _
      · exact starts.1 span later
    have ordered := first.ordered
    rw [finish_foldl, Intervals.unionLength_eq_sweep ranges before, List.map_cons, Intervals.sweep]
    simp only [Run.finish, Span.range]
    have reached : max first.startS first.endS = first.endS := by omega
    rw [reached]
    omega

theorem unionSeconds_eq_bruteforce (spans : List Span) : unionSeconds spans = unionSecondsBruteforce spans := by
  rw [unionSeconds_eq_unionLength, Intervals.unionLength_eq_card, unionSecondsBruteforce,
    coveredSeconds_eq_points]

theorem unionSeconds_mono {spans others : List Span} (subset : spans ⊆ others) :
    unionSeconds spans ≤ unionSeconds others := by
  rw [unionSeconds_eq_unionLength, unionSeconds_eq_unionLength]
  apply Intervals.unionLength_mono
  exact List.map_subset _ subset

/-- The sweep gives the number of seconds that some span covers, so neither the order of the spans nor
    how often one is listed changes it, and a longer list covers no less. -/
theorem sweep_measures_union (spans : List Span) :
    unionSeconds spans = unionSecondsBruteforce spans ∧
      (∀ second, second ∈ coveredSeconds spans ↔
        ∃ span ∈ spans, span.startS ≤ second ∧ second < span.endS) ∧
      (∀ others, others.Perm spans → unionSeconds others = unionSeconds spans) ∧
      (∀ others, (∀ span, span ∈ others ↔ span ∈ spans) → unionSeconds others = unionSeconds spans) ∧
      ∀ others, spans ⊆ others → unionSeconds spans ≤ unionSeconds others := by
  have listed : ∀ others, (∀ span, span ∈ others ↔ span ∈ spans) → unionSeconds others = unionSeconds spans := by
    intro others same
    apply le_antisymm
    · exact unionSeconds_mono fun span => (same span).mp
    · exact unionSeconds_mono fun span => (same span).mpr
  refine ⟨unionSeconds_eq_bruteforce spans, mem_coveredSeconds spans, ?_, listed, ?_⟩
  · intro others permuted
    exact listed others fun span => permuted.mem_iff
  · intro others subset
    exact unionSeconds_mono subset

end TimekprProof.IntervalUnion
