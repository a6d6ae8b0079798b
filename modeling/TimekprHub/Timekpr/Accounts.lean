import Mathlib.Logic.Function.Basic
import TimekprHub.Agent.DraftUser
import TimekprHub.Agent.OfflineEstimate
import TimekprHub.Agent.TickCalls
import TimekprHub.Timekpr.CreditBound
import TimekprHub.Timekpr.Device

namespace TimekprModel

universe u

variable {τ : Type u}

def perUser (enforcer : TimekprEnforcer τ) : TimekprEnforcer (String → τ) where
  getAppliedPolicy accounts username := enforcer.getAppliedPolicy (accounts username) username
  call accounts username setter :=
    let answer := enforcer.call (accounts username) username setter
    (answer.1, Function.update accounts username answer.2)

end TimekprModel

namespace TimekprProof

open TimekprModel

universe u

section PerUser

variable {τ : Type u} {enforcer : TimekprEnforcer τ}

theorem perUser_perform (accounts : String → τ) (username : String) (setter : Setter) :
    ((perUser enforcer).perform accounts username setter).2 =
      Function.update accounts username (enforcer.perform (accounts username) username setter).2 := by
  unfold TimekprEnforcer.perform
  split
  · split
    · exact (Function.update_eq_self username accounts).symm
    · rfl
  · rfl

theorem perUser_performAll (kept : String → τ → Prop)
    (keeps : ∀ username account setter, kept username account →
      kept username (enforcer.perform account username setter).2)
    {accounts : String → τ} (held : ∀ username, kept username (accounts username))
    (calls : List (String × Setter)) (username : String) :
    kept username ((perUser enforcer).performAll accounts calls username) := by
  induction calls generalizing accounts with
  | nil => exact held username
  | cons call rest ih =>
    apply ih
    intro other
    change kept other (((perUser enforcer).perform accounts call.1 call.2).2 other)
    rw [perUser_perform]
    by_cases own : other = call.1
    · subst own
      rw [Function.update_self]
      exact keeps call.1 _ call.2 (held call.1)
    · rw [Function.update_of_ne own]
      exact held other

end PerUser

section Credit

variable {save tolerance prev accrued : Int}

theorem CreditInv.limited {daemon : FakeTimekprDaemon} (holds : CreditInv save tolerance prev accrued daemon)
    (limitTodayS : Int) : CreditInv save tolerance prev accrued { daemon with limitTodayS } := by
  refine ⟨?_, holds.interval, holds.forward, holds.nonneg, holds.saved, holds.spent, holds.floor⟩
  rcases holds.disk with unsaved | inv
  · exact .inl unsaved
  · exact .inr ⟨inv.interval, inv.saved, inv.unflushed, inv.recent⟩

theorem CreditInv.called {device : TimekprDevice}
    (holds : CreditInv save tolerance prev accrued device.daemon) (today : Weekday) (refuses : Setter → Bool)
    (readable : Bool) (username : String) (setter : Setter) :
    CreditInv save tolerance prev accrued
      ((timekprd today refuses readable).call device username setter).2.daemon := by
  by_cases config : setter.key ≠ .timeLeft
  · obtain ⟨limitTodayS, same⟩ := timekprd_call_config today refuses readable username device config
    rw [same]
    exact holds.limited limitTodayS
  · cases setter with
    | timeLeft op seconds =>
      simp only [timekprd]
      split
      · exact holds
      · exact holds.setTimeLeft op seconds
    | _ => exact absurd (by intro same; cases same) config

theorem CreditInv.performed {device : TimekprDevice}
    (holds : CreditInv save tolerance prev accrued device.daemon) (today : Weekday) (refuses : Setter → Bool)
    (readable : Bool) (username : String) (setter : Setter) :
    CreditInv save tolerance prev accrued
      ((timekprd today refuses readable).perform device username setter).2.daemon := by
  rcases (timekprd today refuses readable).perform_cases device username setter with refused | called
  · rw [refused]
    exact holds
  · rw [called]
    exact holds.called today refuses readable username setter

end Credit

section Credited

def Credited (today : String) (daemon : FakeTimekprDaemon) (userState : UserState) (active : Int) : Prop :=
  ∃ save prev accrued, save ≤ cfg.regressionToleranceS ∧
    CreditInv save cfg.regressionToleranceS prev accrued daemon ∧
    userState.countedOn today + accrued ≤ active ∧
    (userState.day = today → userState.rawPrevS = prev) ∧ (userState.day = "" → prev = 0)

variable {today : String} {daemon : FakeTimekprDaemon} {userState : UserState} {active : Int}

theorem Credited.bounds (credited : Credited today daemon userState active) :
    userState.countedOn today ≤ active ∧ 0 ≤ daemon.spentDayS := by
  obtain ⟨save, prev, accrued, _, inv, total, _⟩ := credited
  have forward := inv.forward
  have nonneg := inv.nonneg
  have saved := inv.saved
  omega

theorem Credited.perform {device : TimekprDevice} (credited : Credited today device.daemon userState active)
    (weekday : Weekday) (refuses : Setter → Bool) (readable : Bool) (username : String) (setter : Setter) :
    Credited today ((timekprd weekday refuses readable).perform device username setter).2.daemon userState
      active := by
  obtain ⟨save, prev, accrued, tolerated, inv, rest⟩ := credited
  exact ⟨save, prev, accrued, tolerated, inv.performed weekday refuses readable username setter, rest⟩

theorem Credited.use (credited : Credited today daemon userState active) (op : DaemonOp) :
    Credited today (daemon.apply op) userState (active + op.activeSeconds) := by
  obtain ⟨save, prev, accrued, tolerated, inv, total, rest⟩ := credited
  refine ⟨save, prev, accrued + op.activeSeconds, tolerated, inv.apply op, ?_, rest⟩
  omega

theorem Credited.congr (credited : Credited today daemon userState active) {other : UserState}
    (day : other.day = userState.day) (counter : other.cumLocalS = userState.cumLocalS)
    (reading : other.rawPrevS = userState.rawPrevS) : Credited today daemon other active := by
  unfold Credited UserState.countedOn at credited ⊢
  rw [day, counter, reading]
  exact credited

theorem Credited.measure (credited : Credited today daemon userState active) (named : today ≠ "")
    {obs : UserObservation} (read : obs.spentDayS = daemon.spentDayS) (now : Instant) :
    Credited today daemon (TimekprModel.measure userState obs today now).userState active := by
  obtain ⟨save, prev, accrued, tolerated, inv, total, reading, fresh⟩ := credited
  have forward := inv.forward
  have observed : ∀ measured : UserState, measured.day = today → measured.rawPrevS = obs.spentDayS →
      measured.cumLocalS ≤ active → Credited today daemon measured active := by
    intro measured day raw within
    refine ⟨save, daemon.spentDayS, 0, tolerated, inv.observe tolerated, ?_, ?_, ?_⟩
    · unfold UserState.countedOn
      rw [if_pos day, add_zero]
      exact within
    · intro _
      rw [raw, read]
    · intro empty
      rw [day] at empty
      exact absurd empty named
  by_cases same : userState.day = today
  · have counter := measure_counter named same obs now
    have before : userState.countedOn today = userState.counter.cumLocalS := if_pos same
    have raw : userState.counter.rawPrevS = prev := reading same
    have bounded := (inv.credit rfl raw).2
    apply observed _ rfl
    · exact congrArg CumulativeState.rawPrevS counter
    · have after := congrArg CumulativeState.cumLocalS counter
      simp only [UserState.counter] at after bounded before
      rw [after, read]
      omega
  · have none : userState.countedOn today = 0 := if_neg same
    by_cases first : userState.day = ""
    · have within := inv.spent
      have start := fresh first
      apply observed _ rfl
      · simp only [TimekprModel.measure, advanceDay, if_pos first]
      · simp only [TimekprModel.measure, advanceDay, if_pos first]
        omega
    · apply observed _ rfl
      · simp only [TimekprModel.measure, advanceDay, if_neg first, if_pos same, resetForNewCanonicalDay]
      · simp only [TimekprModel.measure, advanceDay, if_neg first, if_pos same, resetForNewCanonicalDay]
        omega

theorem Credited.begins (saved : daemon.savedSpentDayS = 0) (spent : daemon.spentDayS = 0)
    (tolerated : daemon.saveIntervalS ≤ cfg.regressionToleranceS) (elsewhere : userState.day ≠ today) :
    Credited today daemon userState 0 := by
  refine ⟨daemon.saveIntervalS, 0, 0, tolerated,
    ⟨.inl saved, rfl, le_refl 0, by omega, by omega, by omega, ?_⟩, ?_, ?_, fun _ => rfl⟩
  · left
    omega
  · unfold UserState.countedOn
    rw [if_neg elsewhere]
    exact le_refl 0
  · intro same
    exact absurd same elsewhere

end Credited

end TimekprProof
