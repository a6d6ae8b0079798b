import TimekprHub.Timekpr.DaemonOps

namespace TimekprModel

structure Metered where
  daemon : FakeTimekprDaemon
  cumulative : CumulativeState

namespace Metered

variable (cfg : ConvergenceConfig)

def observeAfter (metered : Metered) (ops : List DaemonOp) : Metered :=
  let daemon := metered.daemon.applyAll ops
  { daemon, cumulative := advanceCumulative metered.cumulative daemon.spentDayS cfg }

def credit (metered : Metered) (ops : List DaemonOp) : Int :=
  (metered.observeAfter cfg ops).cumulative.cumLocalS - metered.cumulative.cumLocalS

end Metered

structure Metered.Built (metered : Metered) : Prop where
  saved : metered.daemon.savedSpentDayS = 0
  spent : 0 ≤ metered.daemon.spentDayS
  observed : metered.cumulative.rawPrevS = metered.daemon.spentDayS

end TimekprModel

namespace TimekprProof

open TimekprModel

/-- How far `SPENT_DAY` can fall below what was last observed: by an unflushed rest within the
    tolerance, or below what the user used since. -/
def Floor (tolerance prev accrued : Int) (daemon : FakeTimekprDaemon) : Prop :=
  prev ≤ daemon.savedSpentDayS ∨ prev - daemon.savedSpentDayS ≤ tolerance ∨
    daemon.spentDayS ≤ accrued ∨ daemon.savedSpentDayS = 0 ∧ prev ≤ daemon.spentDayS

structure CreditInv (save tolerance prev accrued : Int) (daemon : FakeTimekprDaemon) : Prop where
  disk : daemon.savedSpentDayS = 0 ∨ DaemonInv save daemon
  interval : daemon.saveIntervalS = save
  forward : 0 ≤ accrued
  nonneg : 0 ≤ daemon.savedSpentDayS
  saved : daemon.savedSpentDayS ≤ daemon.spentDayS
  spent : daemon.spentDayS ≤ prev + accrued
  floor : Floor tolerance prev accrued daemon

theorem tick_disk (daemon : FakeTimekprDaemon) (seconds : Nat) (active : Bool) :
    (daemon.tick seconds active).savedSpentDayS = daemon.savedSpentDayS ∨
      (daemon.tick seconds active).savedSpentDayS = (daemon.tick seconds active).spentDayS ∧
        (daemon.tick seconds active).elapsedSinceSaveS = 0 := by
  cases active with
  | false =>
    simp only [FakeTimekprDaemon.tick, FakeTimekprDaemon.elapse]
    split
    · right
      exact ⟨rfl, rfl⟩
    · left
      rfl
  | true =>
    simp only [FakeTimekprDaemon.tick, FakeTimekprDaemon.elapse]
    split
    · right
      exact ⟨rfl, rfl⟩
    · left
      rfl

section Step

variable {save tolerance prev accrued : Int} {daemon : FakeTimekprDaemon}

theorem CreditInv.flushed (holds : CreditInv save tolerance prev accrued daemon)
    {flushed : FakeTimekprDaemon} (interval : flushed.saveIntervalS = save)
    (saved : flushed.savedSpentDayS = flushed.spentDayS) (spent : flushed.spentDayS = daemon.spentDayS)
    (elapsed : flushed.elapsedSinceSaveS = 0) : CreditInv save tolerance prev accrued flushed := by
  have nonneg := holds.nonneg
  have lag := holds.saved
  have bound := holds.spent
  have accrual := holds.forward
  refine ⟨Or.inr (DaemonInv.flushed interval saved (by omega)), interval, accrual, ?_, ?_, ?_, ?_⟩
  · omega
  · omega
  · omega
  · have floor := holds.floor
    unfold Floor at floor ⊢
    omega

theorem CreditInv.tick (holds : CreditInv save tolerance prev accrued daemon) (seconds : Nat)
    (active : Bool) :
    CreditInv save tolerance prev (accrued + if active then (seconds : Int) else 0)
      (daemon.tick seconds active) := by
  have spent := FakeTimekprDaemon.tick_spentDayS daemon seconds active
  have burned : 0 ≤ (if active then (seconds : Int) else 0) := by
    split <;> omega
  generalize (if active then (seconds : Int) else 0) = used at spent burned ⊢
  have nonneg := holds.nonneg
  have lag := holds.saved
  have bound := holds.spent
  have accrual := holds.forward
  have disk := tick_disk daemon seconds active
  have interval : (daemon.tick seconds active).saveIntervalS = save := by
    rw [FakeTimekprDaemon.tick_saveIntervalS]
    exact holds.interval
  refine ⟨?_, interval, ?_, ?_, ?_, ?_, ?_⟩
  · rcases holds.disk with unsaved | inv
    · rcases disk with kept | ⟨flushed, elapsed⟩
      · left
        rw [kept, unsaved]
      · right
        exact DaemonInv.flushed interval flushed (by omega)
    · right
      exact inv.tick seconds active
  · omega
  · omega
  · omega
  · omega
  · have floor := holds.floor
    unfold Floor at floor ⊢
    omega

theorem CreditInv.setTimeLeft (holds : CreditInv save tolerance prev accrued daemon) (op : TimeLeftOp)
    (seconds : Int) : CreditInv save tolerance prev accrued (daemon.setTimeLeft op seconds) := by
  have spent := FakeTimekprDaemon.setTimeLeft_spentDayS daemon op seconds
  have saved := FakeTimekprDaemon.setTimeLeft_savedSpentDayS daemon op seconds
  have interval : (daemon.setTimeLeft op seconds).saveIntervalS = save := by
    rw [FakeTimekprDaemon.setTimeLeft_saveIntervalS]
    exact holds.interval
  have nonneg := holds.nonneg
  have lag := holds.saved
  have bound := holds.spent
  have accrual := holds.forward
  have floor := holds.floor
  unfold Floor at floor
  refine ⟨Or.inr (DaemonInv.flushed interval saved ?_), interval, accrual, ?_, ?_, ?_, ?_⟩
  · rw [FakeTimekprDaemon.setTimeLeft_elapsedSinceSaveS]
  · split at spent <;> omega
  · omega
  · split at spent <;> omega
  · unfold Floor
    split at spent <;> omega

theorem CreditInv.rolloverDay (holds : CreditInv save tolerance prev accrued daemon)
    (newLimitTodayS : Option Int) :
    CreditInv save tolerance prev accrued (daemon.rolloverDay newLimitTodayS) := by
  have nonneg := holds.nonneg
  have lag := holds.saved
  have bound := holds.spent
  refine ⟨Or.inr (DaemonInv.flushed holds.interval rfl (le_refl 0)), holds.interval, holds.forward,
    le_refl 0, le_refl 0, ?_, ?_⟩
  · change 0 ≤ prev + accrued
    omega
  · right; right; left
    exact holds.forward

theorem CreditInv.apply (holds : CreditInv save tolerance prev accrued daemon) (op : DaemonOp) :
    CreditInv save tolerance prev (accrued + op.activeSeconds) (daemon.apply op) := by
  cases op with
  | tick seconds active => exact holds.tick seconds active
  | setTimeLeft op seconds =>
    rw [DaemonOp.activeSeconds, add_zero]
    exact holds.setTimeLeft op seconds
  | rolloverDay newLimitTodayS =>
    rw [DaemonOp.activeSeconds, add_zero]
    exact holds.rolloverDay newLimitTodayS
  | rolloverWeek =>
    rw [DaemonOp.activeSeconds, add_zero]
    exact holds.flushed holds.interval rfl rfl rfl
  | rolloverMonth =>
    rw [DaemonOp.activeSeconds, add_zero]
    exact holds.flushed holds.interval rfl rfl rfl

theorem CreditInv.applyAll (holds : CreditInv save tolerance prev accrued daemon) (ops : List DaemonOp) :
    CreditInv save tolerance prev (accrued + activeSeconds ops) (daemon.applyAll ops) := by
  induction ops generalizing daemon accrued with
  | nil =>
    rw [activeSeconds, add_zero]
    exact holds
  | cons op rest ih =>
    rw [activeSeconds, ← add_assoc]
    exact ih (holds.apply op)

theorem CreditInv.observe (holds : CreditInv save tolerance prev accrued daemon)
    (tolerated : save ≤ tolerance) : CreditInv save tolerance daemon.spentDayS 0 daemon := by
  refine ⟨holds.disk, holds.interval, le_refl 0, holds.nonneg, holds.saved, by omega, ?_⟩
  unfold Floor
  rcases holds.disk with unsaved | inv
  · omega
  · have unflushed := inv.unflushed
    have recent := inv.recent
    omega

theorem CreditInv.credit (holds : CreditInv save tolerance prev accrued daemon)
    {cfg : ConvergenceConfig} (same : tolerance = cfg.regressionToleranceS) {cumulative : CumulativeState}
    (observed : cumulative.rawPrevS = prev) :
    0 ≤ (advanceCumulative cumulative daemon.spentDayS cfg).cumLocalS - cumulative.cumLocalS ∧
      (advanceCumulative cumulative daemon.spentDayS cfg).cumLocalS - cumulative.cumLocalS ≤ accrued := by
  have nonneg := holds.nonneg
  have lag := holds.saved
  have bound := holds.spent
  have accrual := holds.forward
  have floor := holds.floor
  unfold Floor at floor
  simp only [advanceCumulative, observed, ← same]
  split
  · omega
  · split <;> omega

end Step

theorem keeps_spentDayS (daemon : FakeTimekprDaemon) {op : DaemonOp} (keeps : op.KeepsSpentDay) :
    (daemon.apply op).spentDayS = daemon.spentDayS + op.activeSeconds := by
  cases op with
  | tick seconds active => exact FakeTimekprDaemon.tick_spentDayS daemon seconds active
  | setTimeLeft op seconds =>
    rw [DaemonOp.activeSeconds, add_zero]
    cases op with
    | set => exact keeps.elim
    | subtract => rfl
    | add => rfl
  | rolloverDay newLimitTodayS => exact keeps.elim
  | rolloverWeek => exact (add_zero _).symm
  | rolloverMonth => exact (add_zero _).symm

theorem keepsAll_spentDayS (daemon : FakeTimekprDaemon) {ops : List DaemonOp}
    (keeps : ∀ op ∈ ops, op.KeepsSpentDay) :
    (daemon.applyAll ops).spentDayS = daemon.spentDayS + activeSeconds ops := by
  induction ops generalizing daemon with
  | nil => exact (add_zero _).symm
  | cons op rest ih =>
    have here := keeps_spentDayS daemon (keeps op (List.mem_cons_self ..))
    have later := ih (daemon.apply op) fun next member => keeps next (List.mem_cons_of_mem _ member)
    rw [activeSeconds, ← add_assoc, ← here]
    exact later

section Run

variable {cfg : ConvergenceConfig} {start : Metered}

structure ObservedInv (cfg : ConvergenceConfig) (save credited used : Int) (metered : Metered) : Prop where
  inv : CreditInv save cfg.regressionToleranceS metered.daemon.spentDayS 0 metered.daemon
  observed : metered.cumulative.rawPrevS = metered.daemon.spentDayS
  total : metered.cumulative.cumLocalS - credited ≤ used

theorem ObservedInv.observeAfter {save credited used : Int} {metered : Metered}
    (holds : ObservedInv cfg save credited used metered) (tolerated : save ≤ cfg.regressionToleranceS)
    (ops : List DaemonOp) :
    0 ≤ metered.credit cfg ops ∧ metered.credit cfg ops ≤ activeSeconds ops ∧
      ObservedInv cfg save credited (used + activeSeconds ops) (metered.observeAfter cfg ops) := by
  have after := holds.inv.applyAll ops
  rw [zero_add] at after
  obtain ⟨nonneg, bounded⟩ := after.credit rfl holds.observed
  have total := holds.total
  refine ⟨nonneg, bounded, after.observe tolerated, rfl, ?_⟩
  simp only [Metered.observeAfter]
  omega

theorem ObservedInv.run {save credited used : Int} {metered : Metered}
    (holds : ObservedInv cfg save credited used metered) (tolerated : save ≤ cfg.regressionToleranceS)
    (segments : List (List DaemonOp)) :
    ObservedInv cfg save credited (used + activeSeconds segments.flatten)
      (Runs.run (Metered.observeAfter cfg) metered segments) := by
  induction segments generalizing metered used with
  | nil =>
    rw [List.flatten_nil, activeSeconds, add_zero]
    exact holds
  | cons segment rest ih =>
    obtain ⟨_, _, observed⟩ := holds.observeAfter tolerated segment
    rw [List.flatten_cons, activeSeconds_append, ← add_assoc]
    exact ih observed

theorem ObservedInv.built (cfg : ConvergenceConfig) (built : start.Built) :
    ObservedInv cfg start.daemon.saveIntervalS start.cumulative.cumLocalS 0 start := by
  have unsaved := built.saved
  have spent := built.spent
  refine ⟨⟨Or.inl unsaved, rfl, le_refl 0, by omega, by omega, by omega, ?_⟩, built.observed, by omega⟩
  unfold Floor
  omega

/-- Whatever happens to the daemon and whenever it is observed, an observation credits at most what
    the user used since the one before, and exactly that if nothing else moved `SPENT_DAY`. -/
theorem credit_within_use (cfg : ConvergenceConfig) (start : Metered) (built : start.Built)
    (saves : start.daemon.saveIntervalS ≤ cfg.regressionToleranceS) (segments : List (List DaemonOp))
    (segment : List DaemonOp) :
    let observed := Runs.run (Metered.observeAfter cfg) start segments
    0 ≤ observed.credit cfg segment ∧
      observed.credit cfg segment ≤ activeSeconds segment ∧
      ((∀ op ∈ segment, op.KeepsSpentDay) → observed.credit cfg segment = activeSeconds segment) ∧
      observed.cumulative.cumLocalS - start.cumulative.cumLocalS ≤ activeSeconds segments.flatten := by
  intro observed
  have holds := (ObservedInv.built cfg built).run saves segments
  rw [zero_add] at holds
  obtain ⟨nonneg, bounded, _⟩ := holds.observeAfter saves segment
  refine ⟨nonneg, bounded, ?_, holds.total⟩
  intro keeps
  have used := activeSeconds_nonneg segment
  have spent := keepsAll_spentDayS observed.daemon keeps
  have raw : observed.cumulative.rawPrevS = observed.daemon.spentDayS := holds.observed
  simp only [Metered.credit, Metered.observeAfter, advanceCumulative, raw, spent]
  rw [if_pos (by omega)]
  omega

/-- Five seconds lost to a '=' write, after a night and another hundred seconds of use. -/
theorem credit_within_use_reload :
    let observed := Runs.run (Metered.observeAfter {}) { daemon := {}, cumulative := {} }
      [[.tick 100 true, .rolloverDay none, .tick 100 true]]
    0 ≤ observed.credit {} [.tick 5 true, .setTimeLeft .set 60, .tick 7 true] ∧
      observed.credit {} [.tick 5 true, .setTimeLeft .set 60, .tick 7 true] ≤ 12 := by
  have bound := credit_within_use {} { daemon := {}, cumulative := {} }
    ⟨rfl, by decide, rfl⟩ (by decide) [[.tick 100 true, .rolloverDay none, .tick 100 true]]
    [.tick 5 true, .setTimeLeft .set 60, .tick 7 true]
  exact ⟨bound.1, bound.2.1⟩

end Run

end TimekprProof
