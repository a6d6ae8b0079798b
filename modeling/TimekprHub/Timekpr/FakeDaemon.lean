import TimekprHub.Core.Convergence

namespace TimekprModel

def tkLimitPerDay : Int := 86400

/-- timekpr's accounting as `FakeTimekprDaemon` models it. The `saved` fields are what is on
    disk, which is what a '=' write reads back. -/
structure FakeTimekprDaemon where
  limitTodayS : Int := 86400
  saveIntervalS : Int := 30
  balanceS : Int := 0
  spentDayS : Int := 0
  spentWeekS : Int := 0
  spentMonthS : Int := 0
  savedSpentDayS : Int := 0
  savedSpentWeekS : Int := 0
  savedSpentMonthS : Int := 0
  elapsedSinceSaveS : Int := 0
  deriving DecidableEq, Repr

namespace FakeTimekprDaemon

def flush (daemon : FakeTimekprDaemon) : FakeTimekprDaemon :=
  { daemon with
    savedSpentDayS := daemon.spentDayS
    savedSpentWeekS := daemon.spentWeekS
    savedSpentMonthS := daemon.spentMonthS
    elapsedSinceSaveS := 0 }

def accrue (daemon : FakeTimekprDaemon) (seconds : Nat) : FakeTimekprDaemon :=
  { daemon with
    balanceS := daemon.balanceS + seconds
    spentDayS := daemon.spentDayS + seconds
    spentWeekS := daemon.spentWeekS + seconds
    spentMonthS := daemon.spentMonthS + seconds }

def elapse (daemon : FakeTimekprDaemon) (seconds : Nat) : FakeTimekprDaemon :=
  let elapsed := { daemon with elapsedSinceSaveS := daemon.elapsedSinceSaveS + seconds }
  if elapsed.elapsedSinceSaveS ≥ elapsed.saveIntervalS then elapsed.flush else elapsed

/-- `seconds` is a `Nat`: the source raises on a negative length. -/
def tick (daemon : FakeTimekprDaemon) (seconds : Nat) : Bool → FakeTimekprDaemon
  | true => (daemon.accrue seconds).elapse seconds
  | false => daemon.elapse seconds

def clampBalance (balance : Int) : Int := max (min balance tkLimitPerDay) (-tkLimitPerDay)

def shiftedBalance (daemon : FakeTimekprDaemon) : TimeLeftOp → Int → Int
  | .set, seconds => daemon.limitTodayS - seconds
  | .subtract, seconds => min daemon.balanceS daemon.limitTodayS + seconds
  | .add, seconds => min daemon.balanceS daemon.limitTodayS - seconds

/-- Only '=' reloads the saved counters, discarding what accrued since the last flush. -/
def reloadSpent (daemon : FakeTimekprDaemon) : TimeLeftOp → FakeTimekprDaemon
  | .set =>
    { daemon with
      spentDayS := daemon.savedSpentDayS
      spentWeekS := daemon.savedSpentWeekS
      spentMonthS := daemon.savedSpentMonthS }
  | .subtract => daemon
  | .add => daemon

def setTimeLeft (daemon : FakeTimekprDaemon) (op : TimeLeftOp) (seconds : Int) : FakeTimekprDaemon :=
  flush { daemon.reloadSpent op with balanceS := clampBalance (daemon.shiftedBalance op seconds) }

def rolloverDay (daemon : FakeTimekprDaemon) (newLimitTodayS : Option Int) : FakeTimekprDaemon :=
  flush { daemon with balanceS := 0, spentDayS := 0, limitTodayS := newLimitTodayS.getD daemon.limitTodayS }

def rolloverWeek (daemon : FakeTimekprDaemon) : FakeTimekprDaemon :=
  flush { daemon with spentWeekS := 0 }

def rolloverMonth (daemon : FakeTimekprDaemon) : FakeTimekprDaemon :=
  flush { daemon with spentMonthS := 0 }

def observe (daemon : FakeTimekprDaemon) : Observation :=
  { balanceS := daemon.balanceS, spentLocalS := daemon.spentDayS, limitTodayS := daemon.limitTodayS }

def applyPlan (daemon : FakeTimekprDaemon) (result : Plan) : FakeTimekprDaemon :=
  match result.op.timeLeft? with
  | some op => daemon.setTimeLeft op result.seconds
  | none => daemon

@[simp] theorem observe_balanceS (daemon : FakeTimekprDaemon) : daemon.observe.balanceS = daemon.balanceS :=
  rfl

@[simp] theorem observe_spentLocalS (daemon : FakeTimekprDaemon) :
    daemon.observe.spentLocalS = daemon.spentDayS := rfl

@[simp] theorem observe_limitTodayS (daemon : FakeTimekprDaemon) :
    daemon.observe.limitTodayS = daemon.limitTodayS := rfl

@[simp] theorem setTimeLeft_balanceS (daemon : FakeTimekprDaemon) (op : TimeLeftOp) (seconds : Int) :
    (daemon.setTimeLeft op seconds).balanceS = clampBalance (daemon.shiftedBalance op seconds) := rfl

@[simp] theorem setTimeLeft_limitTodayS (daemon : FakeTimekprDaemon) (op : TimeLeftOp) (seconds : Int) :
    (daemon.setTimeLeft op seconds).limitTodayS = daemon.limitTodayS := by
  cases op <;> rfl

@[simp] theorem setTimeLeft_saveIntervalS (daemon : FakeTimekprDaemon) (op : TimeLeftOp) (seconds : Int) :
    (daemon.setTimeLeft op seconds).saveIntervalS = daemon.saveIntervalS := by
  cases op <;> rfl

@[simp] theorem setTimeLeft_elapsedSinceSaveS (daemon : FakeTimekprDaemon) (op : TimeLeftOp)
    (seconds : Int) : (daemon.setTimeLeft op seconds).elapsedSinceSaveS = 0 := rfl

@[simp] theorem setTimeLeft_savedSpentDayS (daemon : FakeTimekprDaemon) (op : TimeLeftOp) (seconds : Int) :
    (daemon.setTimeLeft op seconds).savedSpentDayS = (daemon.setTimeLeft op seconds).spentDayS := rfl

theorem setTimeLeft_spentDayS (daemon : FakeTimekprDaemon) (op : TimeLeftOp) (seconds : Int) :
    (daemon.setTimeLeft op seconds).spentDayS =
      if op = .set then daemon.savedSpentDayS else daemon.spentDayS := by
  cases op <;> rfl

theorem clampBalance_of_range {balance : Int} (lower : -tkLimitPerDay ≤ balance)
    (upper : balance ≤ tkLimitPerDay) : clampBalance balance = balance := by
  simp only [clampBalance]
  omega

@[simp] theorem elapse_limitTodayS (daemon : FakeTimekprDaemon) (seconds : Nat) :
    (daemon.elapse seconds).limitTodayS = daemon.limitTodayS := by
  simp only [elapse]
  split <;> rfl

@[simp] theorem elapse_saveIntervalS (daemon : FakeTimekprDaemon) (seconds : Nat) :
    (daemon.elapse seconds).saveIntervalS = daemon.saveIntervalS := by
  simp only [elapse]
  split <;> rfl

@[simp] theorem elapse_balanceS (daemon : FakeTimekprDaemon) (seconds : Nat) :
    (daemon.elapse seconds).balanceS = daemon.balanceS := by
  simp only [elapse]
  split <;> rfl

@[simp] theorem elapse_spentDayS (daemon : FakeTimekprDaemon) (seconds : Nat) :
    (daemon.elapse seconds).spentDayS = daemon.spentDayS := by
  simp only [elapse]
  split <;> rfl

@[simp] theorem tick_limitTodayS (daemon : FakeTimekprDaemon) (seconds : Nat) (active : Bool) :
    (daemon.tick seconds active).limitTodayS = daemon.limitTodayS := by
  cases active <;> simp [tick, accrue]

@[simp] theorem tick_saveIntervalS (daemon : FakeTimekprDaemon) (seconds : Nat) (active : Bool) :
    (daemon.tick seconds active).saveIntervalS = daemon.saveIntervalS := by
  cases active <;> simp [tick, accrue]

theorem tick_spentDayS (daemon : FakeTimekprDaemon) (seconds : Nat) (active : Bool) :
    (daemon.tick seconds active).spentDayS = daemon.spentDayS + if active then (seconds : Int) else 0 := by
  cases active <;> simp [tick, accrue]

theorem applyPlan_noop (daemon : FakeTimekprDaemon) {result : Plan} (quiet : result.op = .noop) :
    daemon.applyPlan result = daemon := by
  simp [applyPlan, quiet, Op.timeLeft?]

theorem applyPlan_write (daemon : FakeTimekprDaemon) {result : Plan} {op : TimeLeftOp}
    (writes : result.op.timeLeft? = some op) :
    daemon.applyPlan result = daemon.setTimeLeft op result.seconds := by
  simp [applyPlan, writes]

theorem applyPlan_spentWeekS (daemon : FakeTimekprDaemon) (result : Plan) :
    (daemon.applyPlan result).spentWeekS =
      if result.op.timeLeft? = some .set then daemon.savedSpentWeekS else daemon.spentWeekS := by
  unfold applyPlan
  cases result.op.timeLeft? with
  | none => rfl
  | some op => cases op <;> rfl

theorem applyPlan_spentMonthS (daemon : FakeTimekprDaemon) (result : Plan) :
    (daemon.applyPlan result).spentMonthS =
      if result.op.timeLeft? = some .set then daemon.savedSpentMonthS else daemon.spentMonthS := by
  unfold applyPlan
  cases result.op.timeLeft? with
  | none => rfl
  | some op => cases op <;> rfl

@[simp] theorem applyPlan_limitTodayS (daemon : FakeTimekprDaemon) (result : Plan) :
    (daemon.applyPlan result).limitTodayS = daemon.limitTodayS := by
  simp only [applyPlan]
  split <;> simp

@[simp] theorem applyPlan_saveIntervalS (daemon : FakeTimekprDaemon) (result : Plan) :
    (daemon.applyPlan result).saveIntervalS = daemon.saveIntervalS := by
  simp only [applyPlan]
  split <;> simp

end FakeTimekprDaemon

end TimekprModel
