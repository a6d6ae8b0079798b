import TimekprHub.Library.Runs
import TimekprHub.Timekpr.FakeDaemon

namespace TimekprModel

inductive DaemonOp
  | tick (seconds : Nat) (active : Bool)
  | setTimeLeft (op : TimeLeftOp) (seconds : Int)
  | rolloverDay (newLimitTodayS : Option Int)
  | rolloverWeek
  | rolloverMonth
  deriving DecidableEq, Repr

namespace FakeTimekprDaemon

def apply (daemon : FakeTimekprDaemon) : DaemonOp → FakeTimekprDaemon
  | .tick seconds active => daemon.tick seconds active
  | .setTimeLeft op seconds => daemon.setTimeLeft op seconds
  | .rolloverDay newLimitTodayS => daemon.rolloverDay newLimitTodayS
  | .rolloverWeek => daemon.rolloverWeek
  | .rolloverMonth => daemon.rolloverMonth

def applyAll (daemon : FakeTimekprDaemon) (ops : List DaemonOp) : FakeTimekprDaemon :=
  Runs.run apply daemon ops

end FakeTimekprDaemon

def DaemonOp.activeSeconds : DaemonOp → Int
  | .tick seconds active => if active then seconds else 0
  | .setTimeLeft _ _ | .rolloverDay _ | .rolloverWeek | .rolloverMonth => 0

def activeSeconds : List DaemonOp → Int
  | [] => 0
  | op :: rest => op.activeSeconds + activeSeconds rest

/-- Neither a '=' write nor a day rollover: `SPENT_DAY` only moves with the user's activity. -/
def DaemonOp.KeepsSpentDay : DaemonOp → Prop
  | .setTimeLeft .set _ => False
  | .rolloverDay _ => False
  | _ => True

theorem DaemonOp.activeSeconds_nonneg (op : DaemonOp) : 0 ≤ op.activeSeconds := by
  unfold DaemonOp.activeSeconds
  split
  · split <;> omega
  all_goals exact le_refl 0

theorem activeSeconds_nonneg (ops : List DaemonOp) : 0 ≤ activeSeconds ops := by
  induction ops with
  | nil => exact le_refl 0
  | cons op rest ih =>
    have here := op.activeSeconds_nonneg
    simp only [activeSeconds]
    omega

theorem activeSeconds_append (first later : List DaemonOp) :
    activeSeconds (first ++ later) = activeSeconds first + activeSeconds later := by
  induction first with
  | nil => simp [activeSeconds]
  | cons op rest ih =>
    simp only [List.cons_append, activeSeconds, ih]
    omega

end TimekprModel

namespace TimekprProof

open TimekprModel

/-- What the daemon has in memory and not on disk is at most what elapsed since the last save,
    which is less than one save interval. -/
structure DaemonInv (save : Int) (daemon : FakeTimekprDaemon) : Prop where
  interval : daemon.saveIntervalS = save
  saved : daemon.savedSpentDayS ≤ daemon.spentDayS
  unflushed : daemon.spentDayS - daemon.savedSpentDayS ≤ daemon.elapsedSinceSaveS
  recent : daemon.savedSpentDayS = daemon.spentDayS ∨ daemon.elapsedSinceSaveS < save

theorem DaemonInv.flushed {save : Int} {daemon : FakeTimekprDaemon} (interval : daemon.saveIntervalS = save)
    (flushed : daemon.savedSpentDayS = daemon.spentDayS) (elapsed : 0 ≤ daemon.elapsedSinceSaveS) :
    DaemonInv save daemon := by
  refine ⟨interval, ?_, ?_, Or.inl flushed⟩ <;> omega

theorem DaemonInv.elapse {save : Int} {daemon : FakeTimekprDaemon} (holds : DaemonInv save daemon)
    (seconds : Nat) : DaemonInv save (daemon.elapse seconds) := by
  obtain ⟨interval, saved, unflushed, recent⟩ := holds
  simp only [FakeTimekprDaemon.elapse]
  split
  · exact DaemonInv.flushed interval rfl (le_refl 0)
  · rename_i notDue
    simp only [ge_iff_le, not_le, interval] at notDue
    exact ⟨interval, saved, by simp only; omega, Or.inr notDue⟩

theorem DaemonInv.tick {save : Int} {daemon : FakeTimekprDaemon} (holds : DaemonInv save daemon)
    (seconds : Nat) (active : Bool) : DaemonInv save (daemon.tick seconds active) := by
  cases active with
  | false => exact holds.elapse seconds
  | true =>
    obtain ⟨interval, saved, unflushed, recent⟩ := holds
    simp only [FakeTimekprDaemon.tick, FakeTimekprDaemon.elapse]
    split
    · exact DaemonInv.flushed interval rfl (le_refl 0)
    · rename_i notDue
      simp only [FakeTimekprDaemon.accrue, ge_iff_le, not_le, interval] at notDue
      refine ⟨interval, ?_, ?_, Or.inr notDue⟩ <;> simp only [FakeTimekprDaemon.accrue] <;> omega

theorem DaemonInv.setTimeLeft {save : Int} {daemon : FakeTimekprDaemon} (holds : DaemonInv save daemon)
    (op : TimeLeftOp) (seconds : Int) : DaemonInv save (daemon.setTimeLeft op seconds) := by
  apply DaemonInv.flushed
  · rw [FakeTimekprDaemon.setTimeLeft_saveIntervalS]
    exact holds.interval
  · exact FakeTimekprDaemon.setTimeLeft_savedSpentDayS _ _ _
  · rw [FakeTimekprDaemon.setTimeLeft_elapsedSinceSaveS]

theorem DaemonInv.applyPlan {save : Int} {daemon : FakeTimekprDaemon} (holds : DaemonInv save daemon)
    (result : Plan) : DaemonInv save (daemon.applyPlan result) := by
  simp only [FakeTimekprDaemon.applyPlan]
  split
  · exact holds.setTimeLeft _ _
  · exact holds

theorem DaemonInv.applyPlan_drop {save : Int} {daemon : FakeTimekprDaemon} (holds : DaemonInv save daemon)
    (result : Plan) :
    (daemon.applyPlan result).spentDayS ≤ daemon.spentDayS ∧
      ((daemon.applyPlan result).spentDayS < daemon.spentDayS →
        daemon.spentDayS - (daemon.applyPlan result).spentDayS < save) := by
  obtain ⟨_, saved, unflushed, recent⟩ := holds
  simp only [FakeTimekprDaemon.applyPlan]
  split
  · rw [FakeTimekprDaemon.setTimeLeft_spentDayS]
    split <;> omega
  · omega

end TimekprProof
