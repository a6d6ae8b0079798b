import TimekprHub.Agent.Tick
import TimekprHub.Core.PlanEffect
import TimekprHub.Timekpr.Device

namespace TimekprModel

universe u

def WithinClamp (balance : Int) : Prop := -tkLimitPerDay ≤ balance ∧ balance ≤ tkLimitPerDay

instance (balance : Int) : Decidable (WithinClamp balance) := inferInstanceAs (Decidable (_ ∧ _))

structure ReadsDaemon (obs : UserObservation) (daemon : FakeTimekprDaemon) : Prop where
  balance : obs.balanceS = daemon.balanceS
  spentDay : obs.spentDayS = daemon.spentDayS
  limitToday : obs.limitTodayS = daemon.limitTodayS

def responseTarget (response : SyncUserResponse) : HubTarget :=
  { limitTodayS := response.effectiveLimitTodayS, globalSpentS := response.globalSpentS }

/-- An absolute write is immune to the limit that moved after the reading. A relative one is off by what
    the limit gained over the larger of the old limit and the balance, and a tick without a write by all
    the limit gained. -/
def ConvergesAfterPush (observed : Observation) (target : HubTarget) (newLimitTodayS : Int)
    (forceAbsolute : Bool) (cfg : ConvergenceConfig) : Prop :=
  needsAbsolute observed target forceAbsolute cfg ∨
    |correction observed target| ≤ cfg.deadbandS ∧
      |newLimitTodayS - observed.limitTodayS + correction observed target| ≤ cfg.deadbandS ∨
    cfg.deadbandS < |correction observed target| ∧
      |max newLimitTodayS observed.balanceS - observed.limitTodayS| ≤ cfg.deadbandS

def dayLeftAfter (observed : Observation) (target : HubTarget) (newLimitTodayS : Int) (forceAbsolute : Bool)
    (cfg : ConvergenceConfig) : Int :=
  let targetLeft := target.limitTodayS - target.globalSpentS
  if needsAbsolute observed target forceAbsolute cfg then targetLeft
  else if |correction observed target| ≤ cfg.deadbandS then newLimitTodayS - observed.balanceS
  else targetLeft + (max newLimitTodayS observed.balanceS - observed.limitTodayS)

def fridayDevice : TimekprDevice :=
  { daemon := { limitTodayS := 3600, balanceS := 600, spentDayS := 600 } }

def fridayEnforcer : TimekprEnforcer TimekprDevice := timekprd .friday (fun _ => false) true

def longerDays : PolicyPayload :=
  { version := 2
    dailyLimitsS := List.replicate 7 3700
    weeklyLimitS := 25900
    monthlyLimitS := 108000 }

def longerDaysReply : SyncUserResponse :=
  { username := "kid"
    globalSpentS := 600
    effectiveLimitTodayS := 3700
    effectiveWeekLimitS := 25300
    effectiveMonthLimitS := 107400
    enforcement := some .enforce
    policyVersion := 2
    policyRevision := none
    policy := some longerDays
    offlinePolicy := some .capped
    offlineGraceS := some 900
    offlineCapS := some 1800 }

def fridayObserved (forceAbsolute : Bool) : Observed :=
  { obs := { balanceS := 600, spentDayS := 600, limitTodayS := 3600, loggedIn := true, active := true }
    forceAbsolute
    span := none }

end TimekprModel

namespace TimekprProof

open TimekprModel

universe u

section Plan

variable (daemon : FakeTimekprDaemon) (target : HubTarget) (newLimitTodayS offset : Int) (force : Bool)
  (cfg : ConvergenceConfig)

abbrev movedLimit : FakeTimekprDaemon := { daemon with limitTodayS := newLimitTodayS }

abbrev stalePlan : Plan := plan daemon.observe target offset force cfg

theorem moved_write_balance {op : TimeLeftOp}
    (writes : (stalePlan daemon target offset force cfg).op.timeLeft? = some op)
    (inRange : WithinClamp ((movedLimit daemon newLimitTodayS).shiftedBalance op
      (stalePlan daemon target offset force cfg).seconds)) :
    ((movedLimit daemon newLimitTodayS).applyPlan (stalePlan daemon target offset force cfg)).balanceS =
      (movedLimit daemon newLimitTodayS).shiftedBalance op
        (stalePlan daemon target offset force cfg).seconds := by
  rw [FakeTimekprDaemon.applyPlan_write _ writes, FakeTimekprDaemon.setTimeLeft_balanceS]
  exact FakeTimekprDaemon.clampBalance_of_range inRange.1 inRange.2

theorem moved_limit_day_left
    (inRange : ∀ op, (stalePlan daemon target offset force cfg).op.timeLeft? = some op →
      WithinClamp ((movedLimit daemon newLimitTodayS).shiftedBalance op
        (stalePlan daemon target offset force cfg).seconds)) :
    let after := (movedLimit daemon newLimitTodayS).applyPlan (stalePlan daemon target offset force cfg)
    after.limitTodayS - after.balanceS = dayLeftAfter daemon.observe target newLimitTodayS force cfg := by
  intro after
  have limit : after.limitTodayS = newLimitTodayS := FakeTimekprDaemon.applyPlan_limitTodayS _ _
  have written := fun (op : TimeLeftOp) writes =>
    moved_write_balance daemon target newLimitTodayS offset force cfg writes (inRange op writes)
  have aim : correction daemon.observe target =
      target.globalSpentS + daemon.limitTodayS - target.limitTodayS - daemon.balanceS := rfl
  have small := abs_le (a := correction daemon.observe target) (b := cfg.deadbandS)
  rw [limit]
  unfold dayLeftAfter
  rcases plan_cases daemon.observe target offset force cfg with
    ⟨absolute, kind, seconds, _⟩ | ⟨relative, behind, kind, seconds, _⟩ |
    ⟨relative, _, ahead, kind, seconds, _⟩ | ⟨relative, notBehind, notAhead, kind, _⟩
  · have balance : after.balanceS = _ := written .set (by rw [kind]; rfl)
    rw [balance, seconds, if_pos absolute]
    simp only [FakeTimekprDaemon.shiftedBalance]
    omega
  · have balance : after.balanceS = _ := written .subtract (by rw [kind]; rfl)
    rw [balance, seconds, if_neg relative, if_neg (by omega)]
    simp only [FakeTimekprDaemon.shiftedBalance, aim, FakeTimekprDaemon.observe_balanceS,
      FakeTimekprDaemon.observe_limitTodayS]
    omega
  · have balance : after.balanceS = _ := written .add (by rw [kind]; rfl)
    rw [balance, seconds, if_neg relative, if_neg (by omega)]
    simp only [FakeTimekprDaemon.shiftedBalance, aim, FakeTimekprDaemon.observe_balanceS,
      FakeTimekprDaemon.observe_limitTodayS]
    omega
  · have same : after = movedLimit daemon newLimitTodayS := FakeTimekprDaemon.applyPlan_noop _ kind
    rw [same, if_neg relative, if_pos (by omega)]
    rfl

theorem moved_limit_counters :
    let after := (movedLimit daemon newLimitTodayS).applyPlan (stalePlan daemon target offset force cfg)
    after.spentWeekS =
        (if needsAbsolute daemon.observe target force cfg then daemon.savedSpentWeekS else daemon.spentWeekS) ∧
      after.spentMonthS =
        if needsAbsolute daemon.observe target force cfg then daemon.savedSpentMonthS
        else daemon.spentMonthS := by
  intro after
  have absolute := plan_set_iff daemon.observe target offset force cfg
  rw [FakeTimekprDaemon.applyPlan_spentWeekS, FakeTimekprDaemon.applyPlan_spentMonthS]
  simp only [absolute, and_self]

theorem moved_limit_converges_iff (deadband : 0 ≤ cfg.deadbandS)
    (inRange : ∀ op, (stalePlan daemon target offset force cfg).op.timeLeft? = some op →
      WithinClamp ((movedLimit daemon newLimitTodayS).shiftedBalance op
        (stalePlan daemon target offset force cfg).seconds)) :
    let after := (movedLimit daemon newLimitTodayS).applyPlan (stalePlan daemon target offset force cfg)
    |(after.limitTodayS - after.balanceS) - (target.limitTodayS - target.globalSpentS)| ≤ cfg.deadbandS ↔
      ConvergesAfterPush daemon.observe target newLimitTodayS force cfg := by
  intro after
  have aim : correction daemon.observe target =
      target.globalSpentS + daemon.limitTodayS - target.limitTodayS - daemon.balanceS := rfl
  rw [moved_limit_day_left daemon target newLimitTodayS offset force cfg inRange]
  unfold ConvergesAfterPush dayLeftAfter
  by_cases absolute : needsAbsolute daemon.observe target force cfg
  · simp only [absolute, if_true, true_or, iff_true, sub_self, abs_zero]
    exact deadband
  · by_cases small : |correction daemon.observe target| ≤ cfg.deadbandS
    · have quiet : newLimitTodayS - daemon.balanceS - (target.limitTodayS - target.globalSpentS) =
          newLimitTodayS - daemon.limitTodayS + correction daemon.observe target := by omega
      simp only [absolute, small, if_false, if_true, false_or, true_and, not_lt.mpr small, false_and, or_false,
        FakeTimekprDaemon.observe_balanceS, FakeTimekprDaemon.observe_limitTodayS, quiet]
    · simp only [absolute, small, if_false, false_or, false_and, not_le.mp small, true_and,
        add_sub_cancel_left]

end Plan

variable {σ : Type u} {enforcer : TimekprEnforcer σ} {username : String} {daemonOf : σ → FakeTimekprDaemon}

theorem perform_keepsAccounts (keeps : KeepsAccounts enforcer username daemonOf) (device : σ)
    (obs : UserObservation) (target : HubTarget) (userState : UserState) (force : Bool) {observation : Observation}
    (read : observation = ⟨obs.balanceS, obs.spentDayS, obs.limitTodayS⟩) :
    daemonOf (applyConvergence enforcer device username obs target userState force).device =
      (daemonOf device).applyPlan (plan observation target userState.appliedOffsetS force cfg) := by
  subst read
  unfold applyConvergence FakeTimekprDaemon.applyPlan
  simp only [Bool.false_eq_true, if_false]
  cases (plan ⟨obs.balanceS, obs.spentDayS, obs.limitTodayS⟩ target userState.appliedOffsetS force
    cfg).op.timeLeft? with
  | none => rfl
  | some op => exact keeps.timeLeft device op _

/-- A tick that lands a policy push converges exactly when the limit's move does not spoil the plan made
    before it. -/
theorem push_tick_converges_iff (keeps : KeepsAccounts enforcer username daemonOf) (device : σ)
    (observed : Observed) (userState : UserState) (response : SyncUserResponse) (policy : PolicyPayload)
    (now : Instant) (today : Weekday) (reads : ReadsDaemon observed.obs (daemonOf device))
    (enforced : response.enforcement ≠ some .observe) (carried : response.policy = some policy)
    (landed : (daemonOf (applyPolicyPush enforcer device username policy).device).limitTodayS =
      policy.dailyLimitsS.getD today.index 0)
    (inRange : ∀ op, (stalePlan (daemonOf device) (responseTarget response) userState.appliedOffsetS
        observed.forceAbsolute cfg).op.timeLeft? = some op →
      WithinClamp ((movedLimit (daemonOf device) (policy.dailyLimitsS.getD today.index 0)).shiftedBalance op
        (stalePlan (daemonOf device) (responseTarget response) userState.appliedOffsetS
          observed.forceAbsolute cfg).seconds)) :
    let after := daemonOf (answeredTurn enforcer device username observed userState response now).device
    |(after.limitTodayS - after.balanceS) - (response.effectiveLimitTodayS - response.globalSpentS)| ≤
        cfg.deadbandS ↔
      ConvergesAfterPush (daemonOf device).observe (responseTarget response)
        (policy.dailyLimitsS.getD today.index 0) observed.forceAbsolute cfg := by
  intro after
  have reading : (daemonOf device).observe =
      ⟨observed.obs.balanceS, observed.obs.spentDayS, observed.obs.limitTodayS⟩ := by
    rw [reads.balance, reads.spentDay, reads.limitToday]
    rfl
  obtain ⟨moved, pushed⟩ := push_keepsAccounts keeps device policy
  have limit : moved = policy.dailyLimitsS.getD today.index 0 := by
    rw [← landed, pushed]
  subst limit
  have turn : after = (movedLimit (daemonOf device) (policy.dailyLimitsS.getD today.index 0)).applyPlan
      (stalePlan (daemonOf device) (responseTarget response) userState.appliedOffsetS
        observed.forceAbsolute cfg) := by
    simp only [after, answeredTurn, if_neg enforced, carried, takePolicy]
    rw [perform_keepsAccounts keeps _ _ _ _ _ reading, pushed]
    rfl
  rw [turn]
  exact moved_limit_converges_iff (daemonOf device) (responseTarget response) _ _ _ cfg (by decide) inRange

theorem friday_keepsAccounts : KeepsAccounts fridayEnforcer "kid" TimekprDevice.daemon :=
  timekprd_keepsAccounts .friday true "kid" fun _ _ => rfl

theorem push_tick_converges_iff_first_tick :
    let after := (answeredTurn fridayEnforcer fridayDevice "kid" (fridayObserved true) {} longerDaysReply
      0).device.daemon
    |(after.limitTodayS - after.balanceS) - (3700 - 600)| ≤ 5 ↔
      ConvergesAfterPush fridayDevice.daemon.observe (responseTarget longerDaysReply) 3700 true cfg :=
  push_tick_converges_iff friday_keepsAccounts fridayDevice (fridayObserved true) {} longerDaysReply
    longerDays 0 .friday ⟨rfl, rfl, rfl⟩ (by decide) rfl (by decide) fun op writes => by
      cases writes
      exact ⟨by decide, by decide⟩

/-- The push lands and the day is a hundred seconds longer, for a device that then gets another hundred
    back: 3200 seconds are left where the hub leaves 3100. -/
theorem push_tick_overshoots :
    (applyPolicyPush fridayEnforcer fridayDevice "kid" longerDays).ok = true ∧
      (let after := (answeredTurn fridayEnforcer fridayDevice "kid" (fridayObserved false) {}
        longerDaysReply 0).device.daemon
      after.limitTodayS = 3700 ∧ after.balanceS = 500 ∧
        ¬ |(after.limitTodayS - after.balanceS) - (3700 - 600)| ≤ cfg.deadbandS) := by
  decide

end TimekprProof
