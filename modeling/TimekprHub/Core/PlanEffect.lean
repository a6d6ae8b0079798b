import TimekprHub.Timekpr.FakeDaemon

namespace TimekprProof

open TimekprModel

theorem plan_shifted_balance (daemon : FakeTimekprDaemon) (target : HubTarget) (offset : Int) (force : Bool)
    (cfg : ConvergenceConfig) (op : TimeLeftOp)
    (writes : (plan daemon.observe target offset force cfg).op.timeLeft? = some op) :
    daemon.shiftedBalance op (plan daemon.observe target offset force cfg).seconds =
      targetBalance daemon.observe target := by
  rcases plan_cases daemon.observe target offset force cfg with
    ⟨_, kind, seconds, _⟩ | ⟨relative, _, kind, seconds, _⟩ | ⟨relative, _, _, kind, seconds, _⟩ |
    ⟨_, _, _, kind, _⟩
  · rw [kind] at writes
    cases writes
    simp only [FakeTimekprDaemon.shiftedBalance, seconds]
    simp only [targetBalance, FakeTimekprDaemon.observe]
    omega
  · rw [kind] at writes
    cases writes
    have within : daemon.balanceS ≤ daemon.limitTodayS := within_limit_of_relative relative
    simp only [FakeTimekprDaemon.shiftedBalance, seconds, correction, min_eq_left within]
    simp only [FakeTimekprDaemon.observe]
    omega
  · rw [kind] at writes
    cases writes
    have within : daemon.balanceS ≤ daemon.limitTodayS := within_limit_of_relative relative
    simp only [FakeTimekprDaemon.shiftedBalance, seconds, correction, min_eq_left within]
    simp only [FakeTimekprDaemon.observe]
    omega
  · rw [kind] at writes
    cases writes

theorem applyPlan_balance_clamped (daemon : FakeTimekprDaemon) (target : HubTarget) (offset : Int)
    (force : Bool) (cfg : ConvergenceConfig)
    (writes : (plan daemon.observe target offset force cfg).op ≠ .noop) :
    (daemon.applyPlan (plan daemon.observe target offset force cfg)).balanceS =
      FakeTimekprDaemon.clampBalance (targetBalance daemon.observe target) := by
  obtain ⟨op, found⟩ : ∃ op, (plan daemon.observe target offset force cfg).op.timeLeft? = some op := by
    cases kind : (plan daemon.observe target offset force cfg).op
    · exact ⟨.set, rfl⟩
    · exact ⟨.subtract, rfl⟩
    · exact ⟨.add, rfl⟩
    · exact absurd kind writes
  rw [FakeTimekprDaemon.applyPlan_write daemon found, FakeTimekprDaemon.setTimeLeft_balanceS,
    plan_shifted_balance daemon target offset force cfg op found]

theorem applyPlan_balance (daemon : FakeTimekprDaemon) (target : HubTarget) (offset : Int) (force : Bool)
    (cfg : ConvergenceConfig) (lower : -tkLimitPerDay ≤ targetBalance daemon.observe target)
    (upper : targetBalance daemon.observe target ≤ tkLimitPerDay)
    (writes : (plan daemon.observe target offset force cfg).op ≠ .noop) :
    (daemon.applyPlan (plan daemon.observe target offset force cfg)).balanceS =
      targetBalance daemon.observe target := by
  rw [applyPlan_balance_clamped daemon target offset force cfg writes,
    FakeTimekprDaemon.clampBalance_of_range lower upper]

theorem plan_noop_iff (observed : Observation) (target : HubTarget) (offset : Int) (force : Bool)
    (cfg : ConvergenceConfig) :
    (plan observed target offset force cfg).op = .noop ↔
      ¬ needsAbsolute observed target force cfg ∧ |correction observed target| ≤ cfg.deadbandS := by
  have bounds := abs_le (a := correction observed target) (b := cfg.deadbandS)
  rcases plan_cases observed target offset force cfg with
    ⟨absolute, kind, _⟩ | ⟨relative, behind, kind, _⟩ | ⟨relative, _, ahead, kind, _⟩ |
    ⟨relative, notBehind, notAhead, kind, _⟩
  · simp [kind, absolute]
  · simp only [kind, reduceCtorEq, false_iff, not_and, bounds]
    omega
  · simp only [kind, reduceCtorEq, false_iff, not_and, bounds]
    omega
  · simp only [kind, relative, not_false_eq_true, true_and, true_iff, bounds]
    omega

theorem plan_set_iff (observed : Observation) (target : HubTarget) (offset : Int) (force : Bool)
    (cfg : ConvergenceConfig) :
    (plan observed target offset force cfg).op.timeLeft? = some .set ↔
      needsAbsolute observed target force cfg := by
  rcases plan_cases observed target offset force cfg with
    ⟨absolute, kind, _⟩ | ⟨relative, _, kind, _⟩ | ⟨relative, _, _, kind, _⟩ | ⟨relative, _, _, kind, _⟩
  all_goals
    rw [kind]
    simp [Op.timeLeft?, *]

theorem plan_time_left (daemon : FakeTimekprDaemon) (target : HubTarget) :
    daemon.limitTodayS - targetBalance daemon.observe target =
      target.limitTodayS - target.globalSpentS := by
  simp only [targetBalance, FakeTimekprDaemon.observe_limitTodayS]
  omega

theorem plan_one_step_convergence (daemon : FakeTimekprDaemon) (target : HubTarget) (offset : Int)
    (force : Bool) (cfg : ConvergenceConfig)
    (deadband : 0 ≤ cfg.deadbandS)
    (lower : -tkLimitPerDay ≤ targetBalance daemon.observe target)
    (upper : targetBalance daemon.observe target ≤ tkLimitPerDay) :
    let result := plan daemon.observe target offset force cfg
    let after := daemon.applyPlan result
    (result.op ≠ .noop →
      after.limitTodayS - after.balanceS = target.limitTodayS - target.globalSpentS) ∧
    (result.op = .noop →
      |(after.limitTodayS - after.balanceS) - (target.limitTodayS - target.globalSpentS)| ≤
        cfg.deadbandS) ∧
    (result.op = .subtract ∨ result.op = .add →
      min daemon.balanceS daemon.limitTodayS = daemon.balanceS ∧ 0 < result.seconds) ∧
    result.newAppliedOffsetS = after.balanceS - daemon.spentDayS := by
  intro result after
  have timeLeft := plan_time_left daemon target
  have landed := applyPlan_balance daemon target offset force cfg lower upper
  have quiet : result.op = .noop → after = daemon := FakeTimekprDaemon.applyPlan_noop daemon
  refine ⟨?_, ?_, ?_, ?_⟩
  · intro writes
    rw [FakeTimekprDaemon.applyPlan_limitTodayS, landed writes]
    exact timeLeft
  · intro silent
    have small := ((plan_noop_iff daemon.observe target offset force cfg).mp silent).2
    rw [quiet silent, ← timeLeft]
    have residue : daemon.limitTodayS - daemon.balanceS -
        (daemon.limitTodayS - targetBalance daemon.observe target) = correction daemon.observe target := by
      simp only [correction, FakeTimekprDaemon.observe]
      omega
    rw [residue]
    exact small
  · intro relativeOp
    rcases plan_cases daemon.observe target offset force cfg with
      ⟨_, kind, _⟩ | ⟨relative, behind, kind, seconds, _⟩ | ⟨relative, _, ahead, kind, seconds, _⟩ |
      ⟨_, _, _, kind, _⟩
    · change result.op = .set at kind
      simp [kind] at relativeOp
    · refine ⟨min_eq_left (within_limit_of_relative relative), ?_⟩
      change result.seconds = _ at seconds
      omega
    · refine ⟨min_eq_left (within_limit_of_relative relative), ?_⟩
      change result.seconds = _ at seconds
      omega
    · change result.op = .noop at kind
      simp [kind] at relativeOp
  · by_cases silent : result.op = .noop
    · rw [quiet silent]
      rcases plan_cases daemon.observe target offset force cfg with
        ⟨_, kind, _⟩ | ⟨_, _, kind, _⟩ | ⟨_, _, _, kind, _⟩ | ⟨_, _, _, _, remembered⟩
      all_goals first
        | exact remembered
        | exact absurd (kind.symm.trans silent) (by decide)
    · rw [landed silent]
      rcases plan_cases daemon.observe target offset force cfg with
        ⟨_, _, _, remembered⟩ | ⟨_, _, _, _, remembered⟩ | ⟨_, _, _, _, _, remembered⟩ | ⟨_, _, _, kind, _⟩
      · exact remembered
      · exact remembered
      · exact remembered
      · exact absurd kind silent

/-- A device ten minutes ahead of the pool, on a limit the hub has since raised. -/
theorem plan_one_step_convergence_refund :
    let daemon : FakeTimekprDaemon := { limitTodayS := 3600, balanceS := 1200, spentDayS := 900 }
    let target : HubTarget := { limitTodayS := 3800, globalSpentS := 1150 }
    let after := daemon.applyPlan (plan daemon.observe target 0 false)
    after.limitTodayS - after.balanceS = 3800 - 1150 :=
  (plan_one_step_convergence { limitTodayS := 3600, balanceS := 1200, spentDayS := 900 }
    { limitTodayS := 3800, globalSpentS := 1150 } 0 false {} (by decide) (by decide) (by decide)).1
    (by decide)

end TimekprProof
