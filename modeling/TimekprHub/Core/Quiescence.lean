import TimekprHub.Core.PlanEffect

namespace TimekprProof

open TimekprModel

/-- The device after the plan is written, and what the controller decides there when nothing
    else has moved. -/
def replan (daemon : FakeTimekprDaemon) (target : HubTarget) (offset nextOffset : Int) (force : Bool)
    (cfg : ConvergenceConfig) : Plan :=
  plan (daemon.applyPlan (plan daemon.observe target offset force cfg)).observe target nextOffset false cfg

theorem targetBalance_applyPlan (daemon : FakeTimekprDaemon) (result : Plan) (target : HubTarget) :
    targetBalance (daemon.applyPlan result).observe target = targetBalance daemon.observe target := by
  simp [targetBalance]

/-- With a write behind it, the controller rests unless the pool is spent past its limit: the
    written balance then lies above the device's own limit, which asks for '=' again. -/
theorem replan_after_write (daemon : FakeTimekprDaemon) (target : HubTarget) (offset nextOffset : Int)
    (force : Bool) (cfg : ConvergenceConfig)
    (deadband : 0 ≤ cfg.deadbandS) (threshold : 0 ≤ cfg.hardResetThresholdS)
    (lower : -tkLimitPerDay ≤ targetBalance daemon.observe target)
    (upper : targetBalance daemon.observe target ≤ tkLimitPerDay)
    (writes : (plan daemon.observe target offset force cfg).op ≠ .noop) :
    (replan daemon target offset nextOffset force cfg).op = .noop ↔
      target.globalSpentS ≤ target.limitTodayS := by
  have landed := applyPlan_balance daemon target offset force cfg lower upper writes
  have zero : correction (daemon.applyPlan (plan daemon.observe target offset force cfg)).observe target =
      0 := by
    simp only [correction, targetBalance_applyPlan]
    rw [FakeTimekprDaemon.observe_balanceS, landed]
    omega
  rw [replan, plan_noop_iff, needsAbsolute, zero]
  simp only [FakeTimekprDaemon.observe_balanceS, FakeTimekprDaemon.observe_limitTodayS, landed,
    FakeTimekprDaemon.applyPlan_limitTodayS, Bool.false_eq_true, false_or, abs_zero]
  simp only [targetBalance, FakeTimekprDaemon.observe_limitTodayS]
  omega

theorem replan_after_noop (daemon : FakeTimekprDaemon) (target : HubTarget) (offset nextOffset : Int)
    (force : Bool) (cfg : ConvergenceConfig)
    (silent : (plan daemon.observe target offset force cfg).op = .noop) :
    (replan daemon target offset nextOffset force cfg).op = .noop := by
  rw [replan, FakeTimekprDaemon.applyPlan_noop daemon silent, plan_noop_iff]
  have first := (plan_noop_iff daemon.observe target offset force cfg).mp silent
  refine ⟨?_, first.2⟩
  intro absolute
  apply first.1
  rcases absolute with forced | rest
  · cases forced
  · exact Or.inr rest

/-- The controller rests after its own write exactly when the pool is not spent past the hub's
    limit, or when the first call already had nothing to write. -/
theorem plan_quiescent_iff (daemon : FakeTimekprDaemon) (target : HubTarget) (offset nextOffset : Int)
    (force : Bool) (cfg : ConvergenceConfig)
    (deadband : 0 ≤ cfg.deadbandS) (threshold : 0 ≤ cfg.hardResetThresholdS)
    (lower : -tkLimitPerDay ≤ targetBalance daemon.observe target)
    (upper : targetBalance daemon.observe target ≤ tkLimitPerDay) :
    (replan daemon target offset nextOffset force cfg).op = .noop ↔
      target.globalSpentS ≤ target.limitTodayS ∨
        (force = false ∧ daemon.balanceS ≤ daemon.limitTodayS ∧
          |correction daemon.observe target| ≤ cfg.hardResetThresholdS ∧
          |correction daemon.observe target| ≤ cfg.deadbandS) := by
  have settled : (plan daemon.observe target offset force cfg).op = .noop ↔
      force = false ∧ daemon.balanceS ≤ daemon.limitTodayS ∧
        |correction daemon.observe target| ≤ cfg.hardResetThresholdS ∧
        |correction daemon.observe target| ≤ cfg.deadbandS := by
    rw [plan_noop_iff]
    simp only [needsAbsolute, not_or, not_lt, Bool.not_eq_true, gt_iff_lt, and_assoc]
    exact Iff.rfl
  by_cases silent : (plan daemon.observe target offset force cfg).op = .noop
  · constructor
    · intro _
      exact Or.inr (settled.mp silent)
    · intro _
      exact replan_after_noop daemon target offset nextOffset force cfg silent
  · rw [replan_after_write daemon target offset nextOffset force cfg deadband threshold lower upper silent]
    constructor
    · exact Or.inl
    · rintro (inside | quiet)
      · exact inside
      · exact absurd (settled.mpr quiet) silent

theorem plan_quiescent_iff_half_spent :
    (replan { limitTodayS := 3600, balanceS := 1200, spentDayS := 900 }
        { limitTodayS := 3600, globalSpentS := 1800 } 0 300 true {}).op = .noop ↔
      (1800 : Int) ≤ 3600 ∨ (true = false ∧ (1200 : Int) ≤ 3600 ∧
        |correction (FakeTimekprDaemon.observe { limitTodayS := 3600, balanceS := 1200, spentDayS := 900 })
          { limitTodayS := 3600, globalSpentS := 1800 }| ≤ 300 ∧
        |correction (FakeTimekprDaemon.observe { limitTodayS := 3600, balanceS := 1200, spentDayS := 900 })
          { limitTodayS := 3600, globalSpentS := 1800 }| ≤ 5) :=
  plan_quiescent_iff { limitTodayS := 3600, balanceS := 1200, spentDayS := 900 }
    { limitTodayS := 3600, globalSpentS := 1800 } 0 300 true {} (by decide) (by decide) (by decide) (by decide)

/-- Another device spent 400 seconds past the shared hour: '=' is written on every tick. -/
theorem plan_not_quiescent :
    ¬ ∀ (daemon : FakeTimekprDaemon) (target : HubTarget) (offset nextOffset : Int) (force : Bool),
      -tkLimitPerDay ≤ targetBalance daemon.observe target →
      targetBalance daemon.observe target ≤ tkLimitPerDay →
      (replan daemon target offset nextOffset force {}).op = .noop := by
  intro quiescent
  have settles := quiescent { limitTodayS := 3600, balanceS := 4000, spentDayS := 3000 }
    { limitTodayS := 3600, globalSpentS := 4000 } 1000 1000 false (by decide) (by decide)
  revert settles
  decide

end TimekprProof
