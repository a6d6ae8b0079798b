import TimekprHub.Agent.PushPlan
import TimekprHub.Timekpr.Config
import TimekprHub.Timekpr.FakeDaemon

namespace TimekprModel

universe u

structure TimekprDevice where
  config : TimekprConfig := {}
  daemon : FakeTimekprDaemon := {}

structure Presence where
  loggedIn : Bool
  active : Bool
  deriving DecidableEq, Repr

namespace TimekprDevice

/-- timekpr reads LIMITS_PER_WEEKDAYS by position within ALLOWED_WEEKDAYS. A day without an entry keeps
    the limit it has. -/
def limitFor (config : TimekprConfig) (today : Weekday) (limitTodayS : Int) : Int :=
  let weekdays := config.allowedWeekdays.getD (weekdayTokens.map Weekday.token)
  let limits := config.limitsPerWeekdays.getD []
  (limits[weekdays.idxOf today.token]?).getD limitTodayS

def configure (today : Weekday) (device : TimekprDevice) (setter : Setter) : TimekprDevice :=
  let config := device.config.store setter
  { config
    daemon := { device.daemon with limitTodayS := limitFor config today device.daemon.limitTodayS } }

def read (device : TimekprDevice) (presence : Presence) : UserObservation where
  balanceS := device.daemon.balanceS
  spentDayS := device.daemon.spentDayS
  limitTodayS := device.daemon.limitTodayS
  loggedIn := presence.loggedIn
  active := presence.active

end TimekprDevice

/-- A device that takes every setter it does not refuse, on a day that is `today` for its own clock. -/
def timekprd (today : Weekday) (refuses : Setter → Bool) (readable : Bool) :
    TimekprEnforcer TimekprDevice where
  getAppliedPolicy device _ := if readable then some device.config.readback else none
  call device _ setter :=
    if refuses setter then (false, device)
    else
      match setter with
      | .timeLeft op seconds => (true, { device with daemon := device.daemon.setTimeLeft op seconds })
      | setter => (true, device.configure today setter)

/-- What a device does to its accounting: `setTimeLeft` is the daemon's, and a config setter can move
    the day's limit but nothing else. -/
structure KeepsAccounts {σ : Type u} (enforcer : TimekprEnforcer σ) (username : String)
    (daemonOf : σ → FakeTimekprDaemon) : Prop where
  timeLeft : ∀ device op seconds,
    daemonOf (enforcer.perform device username (.timeLeft op seconds)).2 =
      (daemonOf device).setTimeLeft op seconds
  config : ∀ device setter, setter.key ≠ .timeLeft → ∃ limitTodayS,
    daemonOf (enforcer.perform device username setter).2 = { daemonOf device with limitTodayS }

end TimekprModel

namespace TimekprProof

open TimekprModel

universe u

theorem timekprd_call_config (today : Weekday) (refuses : Setter → Bool) (readable : Bool)
    (username : String) (device : TimekprDevice) {setter : Setter} (config : setter.key ≠ .timeLeft) :
    ∃ limitTodayS, ((timekprd today refuses readable).call device username setter).2.daemon =
      { device.daemon with limitTodayS } := by
  simp only [timekprd]
  split
  · exact ⟨_, rfl⟩
  · cases setter with
    | timeLeft op seconds => exact absurd rfl config
    | _ => exact ⟨_, rfl⟩

theorem timekprd_keepsAccounts (today : Weekday) {refuses : Setter → Bool} (readable : Bool)
    (username : String) (accepts : ∀ op seconds, refuses (.timeLeft op seconds) = false) :
    KeepsAccounts (timekprd today refuses readable) username TimekprDevice.daemon where
  timeLeft device op seconds := by
    simp [TimekprEnforcer.perform, timekprd, accepts]
  config device setter config := by
    rcases (timekprd today refuses readable).perform_cases device username setter with refused | called
    · rw [refused]
      exact ⟨_, rfl⟩
    · rw [called]
      exact timekprd_call_config today refuses readable username device config

theorem timekprd_timeLeft_config (today : Weekday) (refuses : Setter → Bool) (readable : Bool)
    (username : String) (device : TimekprDevice) (op : TimeLeftOp) (seconds : Int) :
    ((timekprd today refuses readable).perform device username (.timeLeft op seconds)).2.config =
      device.config := by
  simp only [TimekprEnforcer.perform, timekprd]
  split <;> rfl

section Push

variable {σ : Type u} {enforcer : TimekprEnforcer σ} {username : String}
  {daemonOf : σ → FakeTimekprDaemon}

theorem pushSteps_config (applied : Option AppliedPolicy) (policy : PolicyPayload)
    (sevenLimits : policy.dailyLimitsS.length = 7) :
    ∀ step ∈ pushSteps applied policy sevenLimits, step.setter.key ≠ .timeLeft := by
  intro step planned
  simp only [pushSteps, List.mem_append, List.mem_cons, List.not_mem_nil, or_false, List.mem_map,
    scalarSteps, playTimeSteps] at planned
  rcases planned with ((((rfl | rfl) | rfl | rfl | rfl | rfl) | rfl) | ⟨entry, _, rfl⟩) |
    rfl | rfl | rfl | rfl | rfl | rfl
  all_goals
    intro same
    cases same

theorem take_keepsAccounts (keeps : KeepsAccounts enforcer username daemonOf) (push : Push σ)
    {step : PushStep} (config : step.setter.key ≠ .timeLeft) :
    ∃ limitTodayS, daemonOf (push.take enforcer username step).device =
      { daemonOf push.device with limitTodayS } := by
  unfold Push.take
  split
  · exact ⟨_, rfl⟩
  · exact keeps.config push.device step.setter config

theorem foldl_take_keepsAccounts (keeps : KeepsAccounts enforcer username daemonOf) (push : Push σ)
    {steps : List PushStep} (config : ∀ step ∈ steps, step.setter.key ≠ .timeLeft) :
    ∃ limitTodayS, daemonOf (steps.foldl (Push.take enforcer username) push).device =
      { daemonOf push.device with limitTodayS } := by
  induction steps generalizing push with
  | nil => exact ⟨_, rfl⟩
  | cons step rest ih =>
    obtain ⟨_, here⟩ := take_keepsAccounts keeps push (config step (List.mem_cons_self ..))
    obtain ⟨_, later⟩ := ih (push.take enforcer username step)
      fun next member => config next (List.mem_cons_of_mem _ member)
    rw [here] at later
    exact ⟨_, later⟩

theorem push_keepsAccounts (keeps : KeepsAccounts enforcer username daemonOf) (device : σ)
    (policy : PolicyPayload) :
    ∃ limitTodayS, daemonOf (applyPolicyPush enforcer device username policy).device =
      { daemonOf device with limitTodayS } := by
  by_cases sevenLimits : policy.dailyLimitsS.length = 7
  · rw [applyPolicyPush_eq _ _ _ _ sevenLimits]
    apply foldl_take_keepsAccounts keeps
    exact pushSteps_config _ policy sevenLimits
  · refine ⟨(daemonOf device).limitTodayS, ?_⟩
    simp [applyPolicyPush, sevenLimits]

end Push

end TimekprProof
