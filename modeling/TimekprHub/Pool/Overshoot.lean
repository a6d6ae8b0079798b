import Mathlib.Algebra.Order.BigOperators.Group.Finset
import TimekprHub.Core.PlanEffect
import TimekprHub.Library.Runs
import TimekprHub.Pool.Simulation
import TimekprHub.Timekpr.DaemonOps

namespace TimekprProof

open TimekprModel

structure DeviceInv (limit save : Int) (device : SimDevice) : Prop where
  daemon : DaemonInv save device.daemon
  limit : device.daemon.limitTodayS = limit
  behind : device.daemon.spentDayS ≤ device.cum.rawPrevS
  close : device.daemon.spentDayS < device.cum.rawPrevS →
    device.cum.rawPrevS - device.daemon.spentDayS < save
  reported : device.reportedSpentS = device.cum.cumLocalS

abbrev unlocked (limit : Int) (device : SimDevice) : Prop := device.daemon.balanceS < limit

theorem elapse_spentDayS (device : SimDevice) (limit : Int) (activeSeconds idleSeconds : Nat) :
    (device.elapse limit activeSeconds idleSeconds).daemon.spentDayS =
      device.daemon.spentDayS + if unlocked limit device then (activeSeconds : Int) else 0 := by
  simp [SimDevice.elapse, FakeTimekprDaemon.tick_spentDayS, unlocked]

theorem report_credit {limit save : Int} {device : SimDevice} (holds : DeviceInv limit save device)
    (cfg : ConvergenceConfig) (tolerance : save ≤ cfg.regressionToleranceS)
    (activeSeconds idleSeconds : Nat) :
    ((device.elapse limit activeSeconds idleSeconds).report cfg).reportedSpentS ≤
      device.reportedSpentS + if unlocked limit device then (activeSeconds : Int) else 0 := by
  have spent := elapse_spentDayS device limit activeSeconds idleSeconds
  have behind := holds.behind
  have close := holds.close
  have credit := advanceCumulative_credit device.cum
    (device.elapse limit activeSeconds idleSeconds).daemon.spentDayS cfg (by
      rw [spent]
      intro drop
      split at drop <;> split <;> omega)
  change (advanceCumulative device.cum
    (device.elapse limit activeSeconds idleSeconds).daemon.spentDayS cfg).cumLocalS ≤ _
  rw [credit, holds.reported, spent]
  split <;> omega

theorem DeviceInv.turn {limit save : Int} {device : SimDevice} (holds : DeviceInv limit save device)
    (cfg : ConvergenceConfig) (target : HubTarget) (activeSeconds idleSeconds : Nat) :
    DeviceInv limit save
      (((device.elapse limit activeSeconds idleSeconds).report cfg).converge target cfg) := by
  have ticked : DaemonInv save (device.elapse limit activeSeconds idleSeconds).daemon :=
    (holds.daemon.tick activeSeconds _).tick idleSeconds false
  have drop := ticked.applyPlan_drop
    (plan (device.elapse limit activeSeconds idleSeconds).daemon.observe target
      device.appliedOffsetS false cfg)
  refine ⟨ticked.applyPlan _, ?_, drop.1, drop.2, rfl⟩
  simp [SimDevice.converge, SimDevice.report, SimDevice.elapse, holds.limit]

theorem spent_of_unlocked {limit : Int} {device : SimDevice}
    (same : device.daemon.limitTodayS = limit) (cfg : ConvergenceConfig) (spent : Int)
    (deadband : 0 ≤ cfg.deadbandS) (day : limit ≤ tkLimitPerDay)
    (open_ : unlocked limit (device.converge { limitTodayS := limit, globalSpentS := spent } cfg)) :
    spent < limit + cfg.deadbandS := by
  let target : HubTarget := { limitTodayS := limit, globalSpentS := spent }
  have aim : targetBalance device.daemon.observe target = spent := by
    simp only [targetBalance, FakeTimekprDaemon.observe_limitTodayS, same, target]
    omega
  change (device.daemon.applyPlan
    (plan device.daemon.observe target device.appliedOffsetS false cfg)).balanceS < limit at open_
  by_cases silent : (plan device.daemon.observe target device.appliedOffsetS false cfg).op = .noop
  · have small := ((plan_noop_iff _ _ _ _ _).mp silent).2
    rw [FakeTimekprDaemon.applyPlan_noop _ silent] at open_
    rw [correction, aim, abs_le, FakeTimekprDaemon.observe_balanceS] at small
    omega
  · rw [applyPlan_balance_clamped _ _ _ _ _ silent, aim] at open_
    simp only [FakeTimekprDaemon.clampBalance] at open_
    omega

variable {count : Nat}

@[simp] theorem setDevice_same (hub : SimHub count) (i : Fin count) (device : SimDevice) :
    (hub.setDevice i device).devices i = device := by
  simp [SimHub.setDevice]

@[simp] theorem setDevice_limitTodayS (hub : SimHub count) (i : Fin count) (device : SimDevice) :
    (hub.setDevice i device).limitTodayS = hub.limitTodayS := rfl

theorem setDevice_other (hub : SimHub count) {i j : Fin count} (device : SimDevice) (other : j ≠ i) :
    (hub.setDevice i device).devices j = hub.devices j := by
  simp [SimHub.setDevice, other]

@[simp] theorem setDevice_twice (hub : SimHub count) (i : Fin count) (first second : SimDevice) :
    (hub.setDevice i first).setDevice i second = hub.setDevice i second := by
  simp [SimHub.setDevice]

structure PoolInv (limit save : Int) (hub : SimHub count) : Prop where
  shared : hub.limitTodayS = limit
  devices : ∀ i, DeviceInv limit save (hub.devices i)

/-- What the pool has reported, plus one full interval for every device still unlocked. -/
def exposure (limit : Int) (interval : Nat) (hub : SimHub count) : Int :=
  ∑ i, ((hub.devices i).reportedSpentS + if unlocked limit (hub.devices i) then (interval : Int) else 0)

theorem globalSpent_le_exposure (limit : Int) (interval : Nat) (hub : SimHub count) :
    hub.globalSpent ≤ exposure limit interval hub := by
  apply Finset.sum_le_sum
  intro i _
  split <;> omega

theorem exposure_le_globalSpent (limit : Int) (interval : Nat) (hub : SimHub count) :
    exposure limit interval hub ≤ hub.globalSpent + count * interval := by
  have all : ∑ _i : Fin count, (interval : Int) = count * interval := by simp
  rw [SimHub.globalSpent, ← all, ← Finset.sum_add_distrib]
  apply Finset.sum_le_sum
  intro i _
  split <;> omega

theorem runTickForDevice_devices (cfg : ConvergenceConfig) (hub : SimHub count) (i : Fin count)
    (activeSeconds idleSeconds : Nat) :
    ∃ target : HubTarget,
      target.limitTodayS = hub.limitTodayS ∧
      target.globalSpentS = (runTickForDevice cfg hub i activeSeconds idleSeconds).globalSpent ∧
      runTickForDevice cfg hub i activeSeconds idleSeconds =
        hub.setDevice i ((((hub.devices i).elapse hub.limitTodayS activeSeconds idleSeconds).report
          cfg).converge target cfg) := by
  let reported := hub.setDevice i
    (((hub.devices i).elapse hub.limitTodayS activeSeconds idleSeconds).report cfg)
  refine ⟨{ limitTodayS := hub.limitTodayS, globalSpentS := reported.globalSpent }, rfl, ?_, ?_⟩
  · show ∑ j, (reported.devices j).reportedSpentS = ∑ j, _
    apply Finset.sum_congr rfl
    intro j _
    by_cases same : j = i
    · subst same
      simp [runTickForDevice, reported, SimDevice.converge]
    · simp [runTickForDevice, reported, setDevice_other _ _ same]
  · simp [runTickForDevice, reported]

theorem runTickForDevice_inv {limit save : Int} {hub : SimHub count} (holds : PoolInv limit save hub)
    (cfg : ConvergenceConfig) (i : Fin count) (activeSeconds idleSeconds : Nat) :
    PoolInv limit save (runTickForDevice cfg hub i activeSeconds idleSeconds) := by
  obtain ⟨target, _, _, after⟩ := runTickForDevice_devices cfg hub i activeSeconds idleSeconds
  rw [after]
  refine ⟨holds.shared, ?_⟩
  intro j
  by_cases same : j = i
  · subst same
    rw [setDevice_same, holds.shared]
    exact (holds.devices j).turn cfg target activeSeconds idleSeconds
  · rw [setDevice_other _ _ same]
    exact holds.devices j

/-- A turn either locks the device, which spends the interval counted for it, or shows that the
    whole pool was still below the limit. -/
theorem runTickForDevice_exposure {limit save : Int} {hub : SimHub count}
    (holds : PoolInv limit save hub) (cfg : ConvergenceConfig)
    (deadband : 0 ≤ cfg.deadbandS) (tolerance : save ≤ cfg.regressionToleranceS)
    (day : limit ≤ tkLimitPerDay) (i : Fin count) (interval activeSeconds idleSeconds : Nat)
    (bounded : activeSeconds ≤ interval)
    (before : exposure limit interval hub ≤ limit + count * interval + cfg.deadbandS) :
    exposure limit interval (runTickForDevice cfg hub i activeSeconds idleSeconds) ≤
      limit + count * interval + cfg.deadbandS := by
  obtain ⟨target, limits, spent, after⟩ := runTickForDevice_devices cfg hub i activeSeconds idleSeconds
  have device := holds.devices i
  let turned := ((hub.devices i).elapse limit activeSeconds idleSeconds).report cfg
  have shown : (runTickForDevice cfg hub i activeSeconds idleSeconds).devices i =
      turned.converge target cfg := by
    rw [after, setDevice_same, holds.shared]
  have turnedLimit : turned.daemon.limitTodayS = limit := by
    simp [turned, SimDevice.report, SimDevice.elapse, device.limit]
  by_cases stillOpen : unlocked limit (turned.converge target cfg)
  · have target_eq : target = { limitTodayS := limit, globalSpentS := target.globalSpentS } := by
      rw [← holds.shared, ← limits]
    rw [target_eq] at stillOpen
    have below := spent_of_unlocked turnedLimit cfg target.globalSpentS deadband day stillOpen
    have total := exposure_le_globalSpent limit interval
      (runTickForDevice cfg hub i activeSeconds idleSeconds)
    omega
  · apply le_trans _ before
    apply Finset.sum_le_sum
    intro j _
    by_cases same : j = i
    · subst same
      have credit := report_credit device cfg tolerance activeSeconds idleSeconds
      change turned.reportedSpentS ≤ _ at credit
      have kept : (turned.converge target cfg).reportedSpentS = turned.reportedSpentS := rfl
      rw [shown, if_neg stillOpen, kept]
      split at credit <;> split <;> omega
    · rw [after, setDevice_other _ _ same]

theorem freshPool_inv (limit save : Int) : PoolInv limit save (freshPool count limit save) := by
  refine ⟨rfl, ?_⟩
  intro i
  refine ⟨DaemonInv.flushed rfl rfl (le_refl 0), rfl, le_refl 0, ?_, rfl⟩
  intro drop
  simp [freshPool] at drop

theorem freshPool_exposure (limit save : Int) (interval : Nat) (positive : 0 ≤ limit) (margin : Int)
    (nonneg : 0 ≤ margin) :
    exposure limit interval (freshPool count limit save) ≤ limit + count * interval + margin := by
  have total := exposure_le_globalSpent limit interval (freshPool count limit save)
  have zero : (freshPool count limit save).globalSpent = 0 := by simp [SimHub.globalSpent, freshPool]
  omega

/-- Whatever the order of the turns, the pool never reports more than the limit, one interval for
    every device and the deadband. -/
theorem pool_overshoot_bound (cfg : ConvergenceConfig) (limit save : Int) (interval : Nat)
    (positive : 0 ≤ limit) (day : limit ≤ tkLimitPerDay)
    (deadband : 0 ≤ cfg.deadbandS) (tolerance : save ≤ cfg.regressionToleranceS)
    (schedule : List (PoolTick count interval)) :
    (Runs.run (poolStep cfg) (freshPool count limit save) schedule).globalSpent ≤
      limit + count * interval + cfg.deadbandS := by
  have kept : PoolInv limit save (Runs.run (poolStep cfg) (freshPool count limit save) schedule) ∧
      exposure limit interval (Runs.run (poolStep cfg) (freshPool count limit save) schedule) ≤
        limit + count * interval + cfg.deadbandS := by
    apply Runs.run_invariant (fun hub => PoolInv limit save hub ∧
      exposure limit interval hub ≤ limit + count * interval + cfg.deadbandS)
    · exact ⟨freshPool_inv limit save, freshPool_exposure limit save interval positive _ deadband⟩
    · rintro hub turn ⟨holds, before⟩
      refine ⟨runTickForDevice_inv holds cfg turn.device turn.activeS turn.idleS, ?_⟩
      exact runTickForDevice_exposure holds cfg deadband tolerance day turn.device interval turn.activeS
        turn.idleS (Nat.le_of_lt_succ turn.activeS.isLt) before
  exact le_trans (globalSpent_le_exposure limit interval _) kept.2

theorem pool_overshoot_bound_two_devices :
    (Runs.run (poolStep {}) (freshPool 2 3600 30)
      [(⟨0, 10, 0⟩ : PoolTick 2 10), ⟨1, 7, 3⟩, ⟨1, 0, 10⟩, ⟨0, 10, 0⟩]).globalSpent ≤
        3600 + (2 : Nat) * (10 : Nat) + 5 :=
  pool_overshoot_bound {} 3600 30 10 (by decide) (by decide) (by decide) (by decide)
    [⟨0, 10, 0⟩, ⟨1, 7, 3⟩, ⟨1, 0, 10⟩, ⟨0, 10, 0⟩]

end TimekprProof
