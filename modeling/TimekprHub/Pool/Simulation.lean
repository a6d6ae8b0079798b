import Mathlib.Algebra.BigOperators.Fin
import TimekprHub.Timekpr.FakeDaemon

namespace TimekprModel

structure SimDevice where
  daemon : FakeTimekprDaemon
  cum : CumulativeState := {}
  appliedOffsetS : Int := 0
  reportedSpentS : Int := 0
  deriving DecidableEq, Repr

structure SimHub (count : Nat) where
  limitTodayS : Int
  devices : Fin count → SimDevice

def SimHub.globalSpent {count : Nat} (hub : SimHub count) : Int :=
  ∑ i, (hub.devices i).reportedSpentS

def SimHub.setDevice {count : Nat} (hub : SimHub count) (i : Fin count) (device : SimDevice) :
    SimHub count :=
  { hub with devices := Function.update hub.devices i device }

/-- Real activity, then idle time. A device whose balance is at or over the limit is locked,
    and accounts no activity. -/
def SimDevice.elapse (device : SimDevice) (limitTodayS : Int) (activeSeconds idleSeconds : Nat) :
    SimDevice :=
  let active := decide (device.daemon.balanceS < limitTodayS)
  { device with daemon := (device.daemon.tick activeSeconds active).tick idleSeconds false }

def SimDevice.report (device : SimDevice) (cfg : ConvergenceConfig) : SimDevice :=
  let cum := advanceCumulative device.cum device.daemon.spentDayS cfg
  { device with cum := cum, reportedSpentS := cum.cumLocalS }

def SimDevice.converge (device : SimDevice) (target : HubTarget) (cfg : ConvergenceConfig) : SimDevice :=
  let result := plan device.daemon.observe target device.appliedOffsetS false cfg
  { device with
    daemon := device.daemon.applyPlan result
    appliedOffsetS := result.newAppliedOffsetS }

def runTickForDevice {count : Nat} (cfg : ConvergenceConfig) (hub : SimHub count) (i : Fin count)
    (activeSeconds idleSeconds : Nat) : SimHub count :=
  let reported := hub.setDevice i
    (((hub.devices i).elapse hub.limitTodayS activeSeconds idleSeconds).report cfg)
  let target : HubTarget := { limitTodayS := hub.limitTodayS, globalSpentS := reported.globalSpent }
  reported.setDevice i ((reported.devices i).converge target cfg)

structure PoolTick (count interval : Nat) where
  device : Fin count
  activeS : Fin (interval + 1)
  idleS : Nat

def poolStep {count interval : Nat} (cfg : ConvergenceConfig) (hub : SimHub count)
    (turn : PoolTick count interval) : SimHub count :=
  runTickForDevice cfg hub turn.device turn.activeS turn.idleS

def freshPool (count : Nat) (limit save : Int) : SimHub count where
  limitTodayS := limit
  devices := fun _ => { daemon := { limitTodayS := limit, saveIntervalS := save } }

end TimekprModel
