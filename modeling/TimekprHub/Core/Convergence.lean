import Mathlib.Algebra.Order.Group.Abs
import Mathlib.Algebra.Order.Group.Int

namespace TimekprModel

inductive Op
  | set
  | subtract
  | add
  | noop
  deriving DecidableEq, Repr

inductive TimeLeftOp
  | set
  | subtract
  | add
  deriving DecidableEq, Repr

def Op.timeLeft? : Op → Option TimeLeftOp
  | .set => some .set
  | .subtract => some .subtract
  | .add => some .add
  | .noop => none

structure ConvergenceConfig where
  deadbandS : Int := 5
  hardResetThresholdS : Int := 300
  regressionToleranceS : Int := 90
  deriving DecidableEq, Repr

structure Observation where
  balanceS : Int
  spentLocalS : Int
  limitTodayS : Int
  deriving DecidableEq, Repr

structure HubTarget where
  limitTodayS : Int
  globalSpentS : Int
  deriving DecidableEq, Repr

structure Plan where
  op : Op
  seconds : Int
  newAppliedOffsetS : Int
  reason : String
  deriving DecidableEq, Repr

def targetBalance (observed : Observation) (target : HubTarget) : Int :=
  target.globalSpentS + observed.limitTodayS - target.limitTodayS

def correction (observed : Observation) (target : HubTarget) : Int :=
  targetBalance observed target - observed.balanceS

def needsAbsolute (observed : Observation) (target : HubTarget) (forceAbsolute : Bool)
    (cfg : ConvergenceConfig) : Prop :=
  forceAbsolute = true ∨ observed.balanceS > observed.limitTodayS ∨
    |correction observed target| > cfg.hardResetThresholdS

instance (observed : Observation) (target : HubTarget) (forceAbsolute : Bool) (cfg : ConvergenceConfig) :
    Decidable (needsAbsolute observed target forceAbsolute cfg) :=
  inferInstanceAs (Decidable (_ ∨ _ ∨ _))

/-- The source takes the remembered offset too, and never reads it. -/
def plan (observed : Observation) (target : HubTarget) (_appliedOffsetS : Int) (forceAbsolute : Bool)
    (cfg : ConvergenceConfig := {}) : Plan :=
  let observedOffset := observed.balanceS - observed.spentLocalS
  let correction := correction observed target
  if needsAbsolute observed target forceAbsolute cfg then
    { op := .set
      seconds := target.limitTodayS - target.globalSpentS
      newAppliedOffsetS := targetBalance observed target - observed.spentLocalS
      reason :=
        if forceAbsolute then "force_absolute_rollover"
        else if observed.balanceS > observed.limitTodayS then "balance_exceeds_limit"
        else "large_divergence" }
  else if correction > cfg.deadbandS then
    { op := .subtract
      seconds := correction
      newAppliedOffsetS := observedOffset + correction
      reason := "converge_consume" }
  else if correction < -cfg.deadbandS then
    { op := .add
      seconds := -correction
      newAppliedOffsetS := observedOffset + correction
      reason := "converge_refund" }
  else
    { op := .noop
      seconds := 0
      newAppliedOffsetS := observedOffset
      reason := "within_deadband" }

structure CumulativeState where
  cumLocalS : Int := 0
  rawPrevS : Int := 0
  deriving DecidableEq, Repr

def advanceCumulative (state : CumulativeState) (observedSpentLocalS : Int)
    (cfg : ConvergenceConfig := {}) : CumulativeState :=
  let prev := state.rawPrevS
  let curr := observedSpentLocalS
  let newCum :=
    if curr ≥ prev then state.cumLocalS + (curr - prev)
    -- A small drop is the '=' flush artifact, a large one a genuine local rollover.
    else if prev - curr ≤ cfg.regressionToleranceS then state.cumLocalS
    else state.cumLocalS + curr
  { cumLocalS := newCum, rawPrevS := curr }

def resetForNewCanonicalDay (observedSpentLocalS : Int) : CumulativeState :=
  { cumLocalS := 0, rawPrevS := observedSpentLocalS }

@[simp] theorem advanceCumulative_rawPrevS (state : CumulativeState) (spent : Int)
    (cfg : ConvergenceConfig) : (advanceCumulative state spent cfg).rawPrevS = spent := rfl

theorem advanceCumulative_mono (state : CumulativeState) (spent : Int) (cfg : ConvergenceConfig)
    (nonneg : 0 ≤ spent) : state.cumLocalS ≤ (advanceCumulative state spent cfg).cumLocalS := by
  simp only [advanceCumulative]
  split
  · omega
  · split <;> omega

theorem advanceCumulative_credit (state : CumulativeState) (spent : Int) (cfg : ConvergenceConfig)
    (small : spent < state.rawPrevS → state.rawPrevS - spent ≤ cfg.regressionToleranceS) :
    (advanceCumulative state spent cfg).cumLocalS =
      state.cumLocalS + max 0 (spent - state.rawPrevS) := by
  simp only [advanceCumulative]
  split
  · omega
  · rename_i dropped
    rw [if_pos (small (by omega))]
    omega

theorem plan_cases (observed : Observation) (target : HubTarget) (offset : Int) (force : Bool)
    (cfg : ConvergenceConfig) :
    let result := plan observed target offset force cfg
    (needsAbsolute observed target force cfg ∧ result.op = .set ∧
      result.seconds = target.limitTodayS - target.globalSpentS ∧
      result.newAppliedOffsetS = targetBalance observed target - observed.spentLocalS) ∨
    (¬ needsAbsolute observed target force cfg ∧ cfg.deadbandS < correction observed target ∧
      result.op = .subtract ∧ result.seconds = correction observed target ∧
      result.newAppliedOffsetS = targetBalance observed target - observed.spentLocalS) ∨
    (¬ needsAbsolute observed target force cfg ∧ ¬ cfg.deadbandS < correction observed target ∧
      correction observed target < -cfg.deadbandS ∧
      result.op = .add ∧ result.seconds = -correction observed target ∧
      result.newAppliedOffsetS = targetBalance observed target - observed.spentLocalS) ∨
    (¬ needsAbsolute observed target force cfg ∧ ¬ cfg.deadbandS < correction observed target ∧
      ¬ correction observed target < -cfg.deadbandS ∧
      result.op = .noop ∧ result.newAppliedOffsetS = observed.balanceS - observed.spentLocalS) := by
  intro result
  have offsets : observed.balanceS - observed.spentLocalS + correction observed target =
      targetBalance observed target - observed.spentLocalS := by
    simp only [correction]
    omega
  by_cases absolute : needsAbsolute observed target force cfg
  · left
    simp [result, plan, absolute]
  · by_cases behind : cfg.deadbandS < correction observed target
    · right; left
      simp [result, plan, absolute, behind, offsets]
    · by_cases ahead : correction observed target < -cfg.deadbandS
      · right; right; left
        simp [result, plan, absolute, behind, ahead, offsets]
      · right; right; right
        simp [result, plan, absolute, behind, ahead]

theorem within_limit_of_relative {observed : Observation} {target : HubTarget} {force : Bool}
    {cfg : ConvergenceConfig} (relative : ¬ needsAbsolute observed target force cfg) :
    observed.balanceS ≤ observed.limitTodayS := by
  simp only [needsAbsolute, not_or] at relative
  omega

end TimekprModel
