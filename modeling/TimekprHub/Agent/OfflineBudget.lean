import TimekprHub.Core.PlanEffect
import TimekprHub.Timekpr.Accounts

namespace TimekprModel

namespace TimekprDevice

def timeLeftS (device : TimekprDevice) : Int := device.daemon.limitTodayS - device.daemon.balanceS

/-- How long a user can go on: timekpr ends the session when nothing is left. -/
def grantedS (device : TimekprDevice) (seconds : Nat) : Nat := min seconds device.timeLeftS.toNat

def stretch (device : TimekprDevice) (activeSeconds idleSeconds : Nat) : TimekprDevice :=
  let used := device.grantedS activeSeconds
  { device with daemon := (device.daemon.tick used true).tick (activeSeconds - used + idleSeconds) false }

end TimekprDevice

structure OutageTurn where
  activeSeconds : String → Nat
  idleSeconds : String → Nat
  managedUsers : List (String × Option Presence)
  distinct : (managedUsers.map Prod.fst).Nodup
  now : Instant

structure Outage where
  state : AgentState
  accounts : String → TimekprDevice
  usedS : String → Int := fun _ => 0

def OutageTurn.stretched (turn : OutageTurn) (accounts : String → TimekprDevice) : String → TimekprDevice :=
  fun username => (accounts username).stretch (turn.activeSeconds username) (turn.idleSeconds username)

def OutageTurn.readings (turn : OutageTurn) (accounts : String → TimekprDevice) :
    List (String × Option UserObservation) :=
  turn.managedUsers.map fun managed => (managed.1, managed.2.map (accounts managed.1).read)

/-- What an outage grants under 'capped', from the last contact on. -/
def UserState.offlineAllowanceS (userState : UserState) : Int :=
  min userState.lastEffectiveLimitTodayS (userState.lastGlobalSpentS + userState.lastOfflineCapS) -
    userState.lastGlobalSpentS

structure AgentSite where
  zones : ZoneDatabase
  tzName : String
  agentVersion : String
  weekday : Weekday

def AgentSite.timekpr (site : AgentSite) : TimekprEnforcer (String → TimekprDevice) :=
  perUser (timekprd site.weekday (fun _ => false) true)

def outageStep (site : AgentSite) (outage : Outage) (turn : OutageTurn) : Outage :=
  let accounts := turn.stretched outage.accounts
  let result := (runTick site.zones site.tzName site.agentVersion site.timekpr (fun _ => .unreachable) outage.state
    accounts (turn.readings accounts) turn.now).1
  { state := result.state
    accounts := result.device
    usedS := fun username =>
      outage.usedS username + (outage.accounts username).grantedS (turn.activeSeconds username) }

/-- The most a user can use in an outage, seen from its start: a '=' write takes back up to `save` seconds. -/
def Outage.budgetS (outage : Outage) (save : Int) (username : String) : Int :=
  let timeLeftS := max (outage.accounts username).timeLeftS 0
  let userState := outage.state.user username
  match userState.lastOfflinePolicy with
  | .capped => max timeLeftS (userState.offlineAllowanceS + 2 * save)
  | .closed | .open => timeLeftS

def OutageTurn.Reads (turn : OutageTurn) (username : String) : Prop :=
  ∃ presence, (username, some presence) ∈ turn.managedUsers

def OutageTurn.SameDay (site : AgentSite) (username : String) (outage : Outage) (turn : OutageTurn) : Prop :=
  todayStr site.zones outage.state site.tzName turn.now = (outage.state.user username).day

instance (site : AgentSite) (username : String) (outage : Outage) (turn : OutageTurn) :
    Decidable (turn.SameDay site username outage) := inferInstanceAs (Decidable (_ = _))

def offlineAim (userState : UserState) (limitTodayS : Int) (now : Instant) : Option HubTarget :=
  if offlineIdle userState now then none
  else
    match userState.lastOfflinePolicy with
    | .capped => some (offlineTarget userState)
    | .closed => some { limitTodayS, globalSpentS := limitTodayS }
    | .open => none

end TimekprModel

namespace TimekprProof

open TimekprModel

universe u

section OneUser

variable {τ : Type u} {enforcer : TimekprEnforcer τ} {username : String}

theorem perUser_performAll_own (accounts : String → τ) (calls : List (String × Setter)) :
    (perUser enforcer).performAll accounts calls username =
      enforcer.performAll (accounts username) (ownCalls username (callsFor username calls)) := by
  induction calls generalizing accounts with
  | nil => rfl
  | cons call rest ih =>
    have later := ih ((perUser enforcer).perform accounts call.1 call.2).2
    have split : callsFor username (call :: rest) = callsFor username [call] ++ callsFor username rest :=
      callsFor_append username [call] rest
    rw [split, ownCalls_append, performAll_append]
    refine later.trans ?_
    rw [perUser_perform]
    by_cases own : call.1 = username
    · subst own
      rw [Function.update_self]
      have single : callsFor call.1 [call] = [call.2] := callsFor_own call.1 [call.2]
      rw [single]
      rfl
    · rw [Function.update_of_ne (Ne.symm own)]
      have none : callsFor username [call] = [] := callsFor_other own [call.2]
      rw [none]
      rfl

end OneUser

section Turn

def planCalls (result : Plan) : List Setter :=
  match result.op.timeLeft? with
  | none => []
  | some op => [.timeLeft op result.seconds]

theorem applyConvergence_calls {σ : Type u} (enforcer : TimekprEnforcer σ) (device : σ) (username : String)
    (obs : UserObservation) (target : HubTarget) (userState : UserState) :
    (applyConvergence enforcer device username obs target userState false).calls =
      planCalls (plan ⟨obs.balanceS, obs.spentDayS, obs.limitTodayS⟩ target userState.appliedOffsetS
        false cfg) := by
  unfold applyConvergence planCalls
  dsimp only
  rw [if_neg Bool.false_ne_true]
  cases (plan ⟨obs.balanceS, obs.spentDayS, obs.limitTodayS⟩ target userState.appliedOffsetS false cfg).op.timeLeft?
    <;> rfl

theorem unreachableTurn_calls {σ : Type u} (enforcer : TimekprEnforcer σ) (device : σ) (username : String)
    (observed : Observed) (userState : UserState) (now : Instant) :
    (unreachableTurn enforcer device username observed userState now).calls =
      match offlineAim userState observed.obs.limitTodayS now with
      | none => []
      | some target =>
        planCalls (plan ⟨observed.obs.balanceS, observed.obs.spentDayS, observed.obs.limitTodayS⟩ target
          userState.appliedOffsetS false cfg) := by
  have idle := bufferUnsentSpan_offlineIdle userState observed.span now
  obtain ⟨target, policy⟩ := offlineTarget_buffered userState observed.span
  have offset := bufferUnsentSpan_appliedOffsetS userState observed.span
  unfold unreachableTurn offlineAim
  generalize bufferUnsentSpan userState observed.span = buffered at idle target policy offset
  unfold applyOfflinePolicy
  by_cases waiting : offlineIdle userState now
  · rw [if_pos waiting, if_pos (idle.mpr waiting)]
  · rw [if_neg waiting, if_neg fun held => waiting (idle.mp held), policy]
    cases userState.lastOfflinePolicy with
    | «open» => rfl
    | capped =>
      dsimp only
      rw [← target, ← offset]
      exact applyConvergence_calls ..
    | closed =>
      dsimp only
      rw [← offset]
      exact applyConvergence_calls ..

theorem planCalls_daemon (weekday : Weekday) (username : String) (device : TimekprDevice) (result : Plan) :
    ((timekprd weekday (fun _ => false) true).performAll device (ownCalls username (planCalls result))).daemon =
      device.daemon.applyPlan result := by
  unfold planCalls FakeTimekprDaemon.applyPlan
  cases result.op.timeLeft? with
  | none => rfl
  | some op => rfl

end Turn

section Step

variable (site : AgentSite) (outage : Outage) (turn : OutageTurn) (username : String)

/-- What a turn of the outage does for one user: it is not read, or measured and maybe written to. -/
inductive OutageTurned (seen : Prop) (before : UserState) (daemon : FakeTimekprDaemon) (today : String)
    (now : Instant) : UserState → FakeTimekprDaemon → Prop
  | unread (unseen : ¬ seen) : OutageTurned seen before daemon today now before daemon
  | waits {obs : UserObservation} {pendingSpans : List ActiveSpan} {appliedOffsetS : Int}
      (spent : obs.spentDayS = daemon.spentDayS)
      (idle : offlineAim (measure before obs today now).userState daemon.limitTodayS now = none) :
      OutageTurned seen before daemon today now
        { (measure before obs today now).userState with pendingSpans, appliedOffsetS } daemon
  | converges {obs : UserObservation} {target : HubTarget} {pendingSpans : List ActiveSpan}
      {offset appliedOffsetS : Int} (spent : obs.spentDayS = daemon.spentDayS)
      (aimed : offlineAim (measure before obs today now).userState daemon.limitTodayS now = some target) :
      OutageTurned seen before daemon today now
        { (measure before obs today now).userState with pendingSpans, appliedOffsetS }
        (daemon.applyPlan (plan daemon.observe target offset false cfg))

theorem unreachable_turned {σ : Type u} (enforcer : TimekprEnforcer σ) (device : σ) (username : String)
    (weekday : Weekday) (account : TimekprDevice) (presence : Presence) (before : UserState) (today : String)
    (now : Instant) (forceAbsolute : Bool) (span : Option ActiveSpan) (seen : Prop) :
    let obs := account.read presence
    let turn := unreachableTurn enforcer device username ⟨obs, forceAbsolute, span⟩
      (measure before obs today now).userState now
    OutageTurned seen before account.daemon today now turn.userState
      ((timekprd weekday (fun _ => false) true).performAll account (ownCalls username turn.calls)).daemon := by
  intro obs turn
  obtain ⟨pendingSpans, appliedOffsetS, frame⟩ := unreachableTurn_frame enforcer device username
    ⟨obs, forceAbsolute, span⟩ (measure before obs today now).userState now
  have calls : turn.calls =
      match offlineAim (measure before obs today now).userState account.daemon.limitTodayS now with
      | none => []
      | some target => planCalls (plan account.daemon.observe target
          (measure before obs today now).userState.appliedOffsetS false cfg) :=
    unreachableTurn_calls enforcer device username ⟨obs, forceAbsolute, span⟩
      (measure before obs today now).userState now
  rw [frame]
  show OutageTurned _ _ _ _ _ _ ((timekprd weekday (fun _ => false) true).performAll account
    (ownCalls username turn.calls)).daemon
  rw [calls]
  cases aim : offlineAim (measure before obs today now).userState account.daemon.limitTodayS now with
  | none => exact .waits rfl aim
  | some target =>
    dsimp only
    rw [planCalls_daemon]
    exact .converges rfl aim

theorem unreachable_tick (state : AgentState) (accounts : String → TimekprDevice) (now : Instant)
    {managed : List (String × Option UserObservation)} (distinct : (managed.map Prod.fst).Nodup)
    {seen : Prop} (listed : seen → ∃ obs, (username, some obs) ∈ managed)
    (read : ∀ {obs}, (username, some obs) ∈ managed → ∃ presence, obs = (accounts username).read presence) :
    let result := (runTick site.zones site.tzName site.agentVersion site.timekpr (fun _ => .unreachable) state
      accounts managed now).1
    OutageTurned seen (state.user username) (accounts username).daemon (todayStr site.zones state site.tzName now)
      now (result.state.user username) (result.device username).daemon := by
  intro result
  have performed : result.device username = (timekprd site.weekday (fun _ => false) true).performAll
      (accounts username) (ownCalls username (callsFor username result.calls)) := by
    rw [← perUser_performAll_own]
    exact congrFun (runTick_performed ..) username
  rw [performed]
  have drafted := draft_user (todayStr site.zones state site.tzName now) now username { state } distinct rfl rfl
  cases drafted with
  | unread user unseen _ =>
    rcases runTick_user site.zones site.tzName site.agentVersion site.timekpr (fun _ => .unreachable) state
      accounts managed now defaultPollMs username with ⟨same, silent⟩ | ⟨observed, _, known, _⟩
    · have kept : result.state.user username = state.user username := same.trans user
      have quiet : callsFor username result.calls = [] := silent
      rw [kept, quiet]
      apply OutageTurned.unread
      intro wanted
      obtain ⟨obs, found⟩ := listed wanted
      exact draft_reads (todayStr site.zones state site.tzName now) now { state } found unseen
    · exact absurd (known.symm.trans unseen) (Option.some_ne_none _)
  | read obs found user known _ =>
    obtain ⟨presence, rfl⟩ := read found
    obtain ⟨device, _, same, calls⟩ := runTick_observed site.zones site.tzName site.agentVersion site.timekpr
      (fun _ => .unreachable) state accounts managed now defaultPollMs known
    have drafted : (draftTick site.zones site.tzName state managed now).state.user username =
        (measure (state.user username) ((accounts username).read presence)
          (todayStr site.zones state site.tzName now) now).userState := user
    rw [drafted] at same calls
    have turned := unreachable_turned site.timekpr device username site.weekday
      (accounts username) presence (state.user username) (todayStr site.zones state site.tzName now) now
      (measure (state.user username) ((accounts username).read presence)
        (todayStr site.zones state site.tzName now) now).forceAbsolute
      (measure (state.user username) ((accounts username).read presence)
        (todayStr site.zones state site.tzName now) now).span seen
    rw [show result.state.user username = _ from same, show callsFor username result.calls = _ from calls]
    exact turned

theorem outageStep_turned :
    OutageTurned (turn.Reads username) (outage.state.user username) (turn.stretched outage.accounts username).daemon
      (todayStr site.zones outage.state site.tzName turn.now) turn.now
      ((outageStep site outage turn).state.user username)
      ((outageStep site outage turn).accounts username).daemon := by
  apply unreachable_tick
  · have names : (turn.readings (turn.stretched outage.accounts)).map Prod.fst = turn.managedUsers.map Prod.fst := by
      unfold OutageTurn.readings
      rw [List.map_map]
      rfl
    rw [names]
    exact turn.distinct
  · intro reads
    obtain ⟨presence, listed⟩ := reads
    exact ⟨_, List.mem_map.mpr ⟨_, listed, rfl⟩⟩
  · intro obs listed
    obtain ⟨entry, _, same⟩ := List.mem_map.mp listed
    obtain ⟨rfl, given⟩ := Prod.mk.inj same
    obtain ⟨presence, _, shown⟩ := Option.map_eq_some_iff.mp given
    exact ⟨presence, shown.symm⟩

end Step

section Ledger

/-- A device that follows the allowance, or is locked for good. Of the time used only `used - credited - unread` can
    escape the agent's count: what a '=' of the contact took back, and what one of the first write did. -/
structure AllowanceSettled (allowance save left used credited unread unsaved : Int) : Prop where
  escaped : used - credited - unread ≤ 2 * save
  follows : 0 ≤ left ∧ left - (allowance - credited) + unread + max (-unread) 0 ≤ 5 ∧
      -(5 + save) ≤ left - (allowance - credited) + unread ∨
    left ≤ 0 ∧ allowance ≤ credited ∧ unsaved = 0 ∧ unread ≤ 0

/-- What an outage has come to for a user under 'capped', in seconds. `unread` is what timekpr shows as spent
    beyond the last reading, `unsaved` what it has not saved. -/
structure WithinAllowance (allowance save bound left used credited unread unsaved : Int) : Prop where
  counted : 0 ≤ credited
  memory : 0 ≤ unsaved ∧ unsaved ≤ save
  behind : -save ≤ unread
  budget : used + max left 0 ≤ bound
  phase : used - credited - unread ≤ save ∨ AllowanceSettled allowance save left used credited unread unsaved

variable {allowance save bound left used credited unread unsaved : Int}

theorem AllowanceSettled.use (settled : AllowanceSettled allowance save left used credited unread unsaved)
    {seconds unsavedLater : Int} (forward : 0 ≤ seconds) (granted : seconds ≤ max left 0)
    (memory : 0 ≤ unsavedLater) (rests : seconds = 0 → unsavedLater ≤ unsaved) :
    AllowanceSettled allowance save (left - seconds) (used + seconds) credited (unread + seconds) unsavedLater := by
  obtain ⟨escaped, ⟨opened, above, below⟩ | ⟨locked, spent, flushed, read⟩⟩ := settled
  · exact ⟨by omega, .inl ⟨by omega, by omega, by omega⟩⟩
  · have still : seconds = 0 := by omega
    have kept := rests still
    exact ⟨by omega, .inr ⟨by omega, spent, by omega, by omega⟩⟩

theorem AllowanceSettled.read (settled : AllowanceSettled allowance save left used credited unread unsaved) :
    AllowanceSettled allowance save left used (credited + max unread 0) 0 unsaved := by
  obtain ⟨escaped, ⟨opened, above, below⟩ | ⟨locked, spent, flushed, read⟩⟩ := settled
  · exact ⟨by omega, .inl ⟨opened, by omega, by omega⟩⟩
  · exact ⟨by omega, .inr ⟨locked, by omega, flushed, by omega⟩⟩

theorem AllowanceSettled.budget (settled : AllowanceSettled allowance save left used credited unread unsaved) :
    used + max left 0 ≤ max used (allowance + 2 * save + 5) := by
  obtain ⟨escaped, ⟨opened, above, below⟩ | ⟨locked, spent, flushed, read⟩⟩ := settled
  · omega
  · omega

theorem WithinAllowance.use (within : WithinAllowance allowance save bound left used credited unread unsaved)
    {seconds unsavedLater : Int} (forward : 0 ≤ seconds) (granted : seconds ≤ max left 0)
    (memory : 0 ≤ unsavedLater ∧ unsavedLater ≤ save) (rests : seconds = 0 → unsavedLater ≤ unsaved) :
    WithinAllowance allowance save bound (left - seconds) (used + seconds) credited (unread + seconds)
      unsavedLater := by
  obtain ⟨counted, _, behind, budget, phase⟩ := within
  refine ⟨counted, memory, by omega, by omega, ?_⟩
  rcases phase with first | settled
  · left
    omega
  · right
    exact settled.use forward granted memory.1 rests

theorem WithinAllowance.read (within : WithinAllowance allowance save bound left used credited unread unsaved) :
    WithinAllowance allowance save bound left used (credited + max unread 0) 0 unsaved := by
  obtain ⟨counted, memory, behind, budget, phase⟩ := within
  refine ⟨by omega, memory, by omega, budget, ?_⟩
  rcases phase with first | settled
  · left
    omega
  · right
    exact settled.read

theorem WithinAllowance.rest (within : WithinAllowance allowance save bound left used credited 0 unsaved)
    (opened : 0 ≤ left) (above : left - (allowance - credited) ≤ 5) (below : -5 ≤ left - (allowance - credited)) :
    AllowanceSettled allowance save left used credited 0 unsaved := by
  obtain ⟨_, memory, _, _, phase⟩ := within
  refine ⟨?_, .inl ⟨opened, by omega, by omega⟩⟩
  rcases phase with first | settled
  · omega
  · exact settled.escaped

theorem WithinAllowance.write (within : WithinAllowance allowance save bound left used credited 0 unsaved)
    {limit taken : Int} (day : 0 ≤ limit ∧ limit ≤ 86400) (short : save ≤ 90) (fits : allowance ≤ 86400)
    (room : allowance + 2 * save ≤ bound)
    (takes : taken = 0 ∨ taken = unsaved ∧ (left < 0 ∨ 300 < |left - (allowance - credited)|)) :
    let leftLater := limit - max (min (limit - (allowance - credited)) 86400) (-86400)
    AllowanceSettled allowance save leftLater used credited (-taken) 0 ∧
      WithinAllowance allowance save bound leftLater used credited (-taken) 0 := by
  intro leftLater
  obtain ⟨counted, held, behind, budget, phase⟩ := within
  have bounds := abs_le (a := left - (allowance - credited)) (b := 300)
  rw [← not_lt] at bounds
  have escaped : used - credited - (-taken) ≤ 2 * save ∧ used - credited ≤ 2 * save := by
    -- a device that follows the allowance and is not behind on its day is never far enough off for a '='
    rcases phase with first | ⟨later, ⟨opened, above, below⟩ | ⟨locked, spent, flushed, read⟩⟩
    · omega
    · rcases takes with none | ⟨all, negative | far⟩
      · omega
      · omega
      · have near := bounds.mpr ⟨by omega, by omega⟩
        exact absurd far near
    · omega
  by_cases unspent : credited ≤ allowance
  · have reached : leftLater = allowance - credited := by
      show limit - max (min (limit - (allowance - credited)) 86400) (-86400) = _
      omega
    rw [reached]
    have settled : AllowanceSettled allowance save (allowance - credited) used credited (-taken) 0 :=
      ⟨escaped.1, .inl ⟨by omega, by omega, by omega⟩⟩
    exact ⟨settled, counted, by omega, by omega, by omega, .inr settled⟩
  · have none : leftLater ≤ 0 := by
      show limit - max (min (limit - (allowance - credited)) 86400) (-86400) ≤ 0
      omega
    have settled : AllowanceSettled allowance save leftLater used credited (-taken) 0 :=
      ⟨escaped.1, .inr ⟨none, by omega, rfl, by omega⟩⟩
    exact ⟨settled, counted, by omega, by omega, by omega, .inr settled⟩

end Ledger

section Stretch

variable {save : Int} (device : TimekprDevice) (activeSeconds idleSeconds : Nat)

theorem grantedS_le : (device.grantedS activeSeconds : Int) ≤ max device.timeLeftS 0 := by
  unfold TimekprDevice.grantedS
  omega

theorem stretch_memory (memory : DaemonInv save device.daemon) :
    DaemonInv save (device.stretch activeSeconds idleSeconds).daemon :=
  (memory.tick _ true).tick _ false

theorem stretch_limit : (device.stretch activeSeconds idleSeconds).daemon.limitTodayS =
    device.daemon.limitTodayS := by
  simp [TimekprDevice.stretch]

theorem stretch_spent : (device.stretch activeSeconds idleSeconds).daemon.spentDayS =
    device.daemon.spentDayS + device.grantedS activeSeconds := by
  simp [TimekprDevice.stretch, FakeTimekprDaemon.tick_spentDayS]

theorem stretch_timeLeft : (device.stretch activeSeconds idleSeconds).timeLeftS =
    device.timeLeftS - device.grantedS activeSeconds := by
  unfold TimekprDevice.timeLeftS
  rw [stretch_limit]
  simp only [TimekprDevice.stretch, FakeTimekprDaemon.tick, FakeTimekprDaemon.elapse_balanceS,
    FakeTimekprDaemon.accrue]
  omega

theorem DaemonInv.unsaved {daemon : FakeTimekprDaemon} (memory : DaemonInv save daemon) (positive : 0 ≤ save) :
    0 ≤ daemon.spentDayS - daemon.savedSpentDayS ∧ daemon.spentDayS - daemon.savedSpentDayS ≤ save := by
  obtain ⟨_, saved, unflushed, recent⟩ := memory
  omega

theorem stretch_rests (memory : DaemonInv save device.daemon) (rests : (device.grantedS activeSeconds : Int) = 0) :
    (device.stretch activeSeconds idleSeconds).daemon.spentDayS -
        (device.stretch activeSeconds idleSeconds).daemon.savedSpentDayS ≤
      device.daemon.spentDayS - device.daemon.savedSpentDayS := by
  have spent := stretch_spent device activeSeconds idleSeconds
  have saved := memory.saved
  have first := tick_disk device.daemon (device.grantedS activeSeconds) true
  have later := tick_disk (device.daemon.tick (device.grantedS activeSeconds) true)
    (activeSeconds - device.grantedS activeSeconds + idleSeconds) false
  have used := FakeTimekprDaemon.tick_spentDayS device.daemon (device.grantedS activeSeconds) true
  rw [if_pos rfl] at used
  unfold TimekprDevice.stretch at spent ⊢
  dsimp only at spent ⊢
  omega

end Stretch

section Budget

variable {save bound used : Int} {userState : UserState} {daemon : FakeTimekprDaemon}

def BudgetKept (save bound used : Int) (userState : UserState) (daemon : FakeTimekprDaemon) : Prop :=
  match userState.lastOfflinePolicy with
  | .capped =>
    WithinAllowance userState.offlineAllowanceS save bound (daemon.limitTodayS - daemon.balanceS) used
      (userState.cumLocalS - userState.cumLocalAtContactS) (daemon.spentDayS - userState.rawPrevS)
      (daemon.spentDayS - daemon.savedSpentDayS)
  | .closed | .open => used + max (daemon.limitTodayS - daemon.balanceS) 0 ≤ bound

theorem budgetKept_capped (capped : userState.lastOfflinePolicy = .capped) :
    BudgetKept save bound used userState daemon ↔
      WithinAllowance userState.offlineAllowanceS save bound (daemon.limitTodayS - daemon.balanceS) used
        (userState.cumLocalS - userState.cumLocalAtContactS) (daemon.spentDayS - userState.rawPrevS)
        (daemon.spentDayS - daemon.savedSpentDayS) := by
  unfold BudgetKept
  rw [capped]

theorem budgetKept_uncapped (uncapped : userState.lastOfflinePolicy ≠ .capped) :
    BudgetKept save bound used userState daemon ↔
      used + max (daemon.limitTodayS - daemon.balanceS) 0 ≤ bound := by
  unfold BudgetKept
  cases policy : userState.lastOfflinePolicy with
  | capped => exact absurd policy uncapped
  | closed => rfl
  | «open» => rfl

theorem BudgetKept.stretch {device : TimekprDevice} (kept : BudgetKept save bound used userState device.daemon)
    (memory : DaemonInv save device.daemon) (positive : 0 ≤ save) (activeSeconds idleSeconds : Nat) :
    BudgetKept save bound (used + device.grantedS activeSeconds) userState
      (device.stretch activeSeconds idleSeconds).daemon := by
  have granted := grantedS_le device activeSeconds
  have left := stretch_timeLeft device activeSeconds idleSeconds
  unfold TimekprDevice.timeLeftS at granted left
  by_cases capped : userState.lastOfflinePolicy = .capped
  · have within := (budgetKept_capped capped).mp kept
    have later := (stretch_memory device activeSeconds idleSeconds memory).unsaved positive
    have rests := stretch_rests device activeSeconds idleSeconds memory
    have unread : (device.stretch activeSeconds idleSeconds).daemon.spentDayS - userState.rawPrevS =
        device.daemon.spentDayS - userState.rawPrevS + device.grantedS activeSeconds := by
      rw [stretch_spent]
      omega
    rw [budgetKept_capped capped, left, unread]
    exact within.use (Int.natCast_nonneg _) granted later rests
  · have within := (budgetKept_uncapped capped).mp kept
    rw [budgetKept_uncapped capped, left]
    omega

theorem offlineAim_cases {limitTodayS : Int} {now : Instant} {target : HubTarget}
    (aimed : offlineAim userState limitTodayS now = some target) :
    userState.lastOfflinePolicy = .capped ∧ target = offlineTarget userState ∨
      userState.lastOfflinePolicy = .closed ∧ target = { limitTodayS, globalSpentS := limitTodayS } := by
  unfold offlineAim at aimed
  split at aimed
  · cases aimed
  · cases policy : userState.lastOfflinePolicy with
    | capped =>
      rw [policy] at aimed
      exact .inl ⟨rfl, (Option.some.inj aimed).symm⟩
    | closed =>
      rw [policy] at aimed
      exact .inr ⟨rfl, (Option.some.inj aimed).symm⟩
    | «open» =>
      rw [policy] at aimed
      cases aimed

theorem applyPlan_cases (daemon : FakeTimekprDaemon) (target : HubTarget) (offset : Int) :
    let after := daemon.applyPlan (plan daemon.observe target offset false cfg)
    (after = daemon ∧ daemon.balanceS ≤ daemon.limitTodayS ∧ |correction daemon.observe target| ≤ 5) ∨
      (after.balanceS = FakeTimekprDaemon.clampBalance (targetBalance daemon.observe target) ∧
        after.savedSpentDayS = after.spentDayS ∧
        ∃ taken, after.spentDayS = daemon.spentDayS - taken ∧
          (taken = 0 ∨ taken = daemon.spentDayS - daemon.savedSpentDayS ∧
            (daemon.limitTodayS < daemon.balanceS ∨ 300 < |correction daemon.observe target|))) := by
  intro after
  by_cases quiet : (plan daemon.observe target offset false cfg).op = .noop
  · obtain ⟨relative, small⟩ := (plan_noop_iff daemon.observe target offset false cfg).mp quiet
    exact .inl ⟨FakeTimekprDaemon.applyPlan_noop daemon quiet, within_limit_of_relative relative, small⟩
  · right
    refine ⟨applyPlan_balance_clamped daemon target offset false cfg quiet, ?_⟩
    obtain ⟨op, writes⟩ : ∃ op, (plan daemon.observe target offset false cfg).op.timeLeft? = some op := by
      cases kind : (plan daemon.observe target offset false cfg).op with
      | noop => exact absurd kind quiet
      | _ => exact ⟨_, rfl⟩
    have written : after = daemon.setTimeLeft op (plan daemon.observe target offset false cfg).seconds :=
      FakeTimekprDaemon.applyPlan_write daemon writes
    rw [written]
    refine ⟨FakeTimekprDaemon.setTimeLeft_savedSpentDayS _ _ _, ?_⟩
    rw [FakeTimekprDaemon.setTimeLeft_spentDayS]
    by_cases absolute : op = .set
    · subst absolute
      have needed := (plan_set_iff daemon.observe target offset false cfg).mp writes
      rw [if_pos rfl]
      refine ⟨daemon.spentDayS - daemon.savedSpentDayS, by omega, .inr ⟨rfl, ?_⟩⟩
      rcases needed with forced | far
      · cases forced
      · exact far
    · rw [if_neg absolute]
      exact ⟨0, by omega, .inl rfl⟩

/-- A reading books what timekpr shows as spent since the last one; a drop within the tolerance books nothing. -/
theorem BudgetKept.measured {obs : UserObservation} {today : String} {pendingSpans : List ActiveSpan}
    {appliedOffsetS : Int} (kept : BudgetKept save bound used userState daemon) (named : today ≠ "")
    (sameDay : userState.day = today) (spent : obs.spentDayS = daemon.spentDayS) (short : save ≤ 90)
    (now : Instant) :
    BudgetKept save bound used { (measure userState obs today now).userState with pendingSpans, appliedOffsetS }
      daemon := by
  by_cases capped : userState.lastOfflinePolicy = .capped
  · have within := (budgetKept_capped capped).mp kept
    have counter := measure_counter named sameDay obs now
    have small : obs.spentDayS < userState.rawPrevS →
        userState.rawPrevS - obs.spentDayS ≤ cfg.regressionToleranceS := by
      intro _
      have behind := within.behind
      have tolerance : cfg.regressionToleranceS = 90 := rfl
      omega
    have credit := (congrArg CumulativeState.cumLocalS counter).trans
      (advanceCumulative_credit userState.counter obs.spentDayS cfg small)
    have booked : (measure userState obs today now).userState.cumLocalS - userState.cumLocalAtContactS =
        userState.cumLocalS - userState.cumLocalAtContactS + max (daemon.spentDayS - userState.rawPrevS) 0 := by
      rw [← spent, max_comm]
      have whole : (measure userState obs today now).userState.cumLocalS =
          userState.cumLocalS + max 0 (obs.spentDayS - userState.rawPrevS) := credit
      omega
    have read : daemon.spentDayS - (measure userState obs today now).userState.rawPrevS = 0 := by
      have last : (measure userState obs today now).userState.rawPrevS = obs.spentDayS :=
        congrArg CumulativeState.rawPrevS counter
      omega
    have later := within.read
    rw [← booked, ← read] at later
    have held : ({ (measure userState obs today now).userState with
        pendingSpans, appliedOffsetS } : UserState).lastOfflinePolicy = .capped := capped
    exact (budgetKept_capped held).mpr later
  · have held : ({ (measure userState obs today now).userState with
        pendingSpans, appliedOffsetS } : UserState).lastOfflinePolicy ≠ .capped := capped
    exact (budgetKept_uncapped held).mpr ((budgetKept_uncapped capped).mp kept)

theorem BudgetKept.converged {target : HubTarget} (kept : BudgetKept save bound used userState daemon)
    (read : daemon.spentDayS - userState.rawPrevS = 0) {now : Instant}
    (aimed : offlineAim userState daemon.limitTodayS now = some target) (short : save ≤ 90)
    (day : 0 ≤ daemon.limitTodayS ∧ daemon.limitTodayS ≤ 86400) (fits : userState.offlineAllowanceS ≤ 86400)
    (room : userState.lastOfflinePolicy = .capped → userState.offlineAllowanceS + 2 * save ≤ bound) (offset : Int) :
    let after := daemon.applyPlan (plan daemon.observe target offset false cfg)
    BudgetKept save bound used userState after ∧ (userState.lastOfflinePolicy = .capped →
      BudgetKept save (max used (userState.offlineAllowanceS + 2 * save + 5)) used userState after) := by
  intro after
  have limit : after.limitTodayS = daemon.limitTodayS := FakeTimekprDaemon.applyPlan_limitTodayS _ _
  rcases offlineAim_cases aimed with ⟨capped, aim⟩ | ⟨closed, aim⟩
  · have within := (budgetKept_capped capped).mp kept
    rw [read] at within
    have counted := within.counted
    have aims : targetBalance daemon.observe target = daemon.limitTodayS -
        (userState.offlineAllowanceS - (userState.cumLocalS - userState.cumLocalAtContactS)) := by
      rw [aim]
      unfold targetBalance offlineTarget UserState.offlineAllowanceS
      simp only [FakeTimekprDaemon.observe_limitTodayS]
      omega
    have corrects : correction daemon.observe target = daemon.limitTodayS - daemon.balanceS -
        (userState.offlineAllowanceS - (userState.cumLocalS - userState.cumLocalAtContactS)) := by
      unfold correction
      rw [aims, FakeTimekprDaemon.observe_balanceS]
      omega
    have both : AllowanceSettled userState.offlineAllowanceS save (after.limitTodayS - after.balanceS) used
          (userState.cumLocalS - userState.cumLocalAtContactS) (after.spentDayS - userState.rawPrevS)
          (after.spentDayS - after.savedSpentDayS) ∧
        WithinAllowance userState.offlineAllowanceS save bound (after.limitTodayS - after.balanceS) used
          (userState.cumLocalS - userState.cumLocalAtContactS) (after.spentDayS - userState.rawPrevS)
          (after.spentDayS - after.savedSpentDayS) := by
      rcases applyPlan_cases daemon target offset with
        ⟨quiet, opened, small⟩ | ⟨balance, saved, taken, spent, takes⟩
      · rw [corrects] at small
        have bounds := abs_le.mp small
        rw [show after = daemon from quiet, read]
        exact ⟨within.rest (by omega) bounds.2 bounds.1, within⟩
      · have unread : after.spentDayS - userState.rawPrevS = -taken := by
          have left : after.spentDayS = daemon.spentDayS - taken := spent
          omega
        rw [limit, show after.balanceS = _ from balance, aims, show after.savedSpentDayS = _ from saved, sub_self,
          unread]
        apply within.write day short fits (room capped)
        rw [← corrects]
        rcases takes with none | ⟨all, past | far⟩
        · exact .inl none
        · exact .inr ⟨all, .inl (by omega)⟩
        · exact .inr ⟨all, .inr far⟩
    obtain ⟨settled, later⟩ := both
    refine ⟨(budgetKept_capped capped).mpr later, ?_⟩
    intro _
    exact (budgetKept_capped capped).mpr { later with budget := settled.budget }
  · have uncapped : userState.lastOfflinePolicy ≠ .capped := by
      rw [closed]
      decide
    have within := (budgetKept_uncapped uncapped).mp kept
    refine ⟨(budgetKept_uncapped uncapped).mpr ?_, fun capped => absurd capped uncapped⟩
    rcases applyPlan_cases daemon target offset with ⟨quiet, _⟩ | ⟨balance, _⟩
    · rw [show after = daemon from quiet]
      exact within
    · have aims : targetBalance daemon.observe target = daemon.limitTodayS := by
        rw [aim]
        unfold targetBalance
        simp only [FakeTimekprDaemon.observe_limitTodayS]
        omega
      rw [limit, show after.balanceS = _ from balance, aims]
      unfold FakeTimekprDaemon.clampBalance tkLimitPerDay
      omega

theorem BudgetKept.turned {seen : Prop} {before after : UserState} {later : FakeTimekprDaemon} {today : String}
    {now : Instant} (kept : BudgetKept save bound used before daemon)
    (turned : OutageTurned seen before daemon today now after later) (named : today ≠ "")
    (sameDay : before.day = today) (short : save ≤ 90)
    (day : 0 ≤ daemon.limitTodayS ∧ daemon.limitTodayS ≤ 86400) (fits : before.offlineAllowanceS ≤ 86400)
    (room : before.lastOfflinePolicy = .capped → before.offlineAllowanceS + 2 * save ≤ bound) :
    BudgetKept save bound used after later ∧
      (seen → before.lastOfflinePolicy = .capped → ¬ offlineIdle before now →
        BudgetKept save (max used (before.offlineAllowanceS + 2 * save + 5)) used after later) := by
  cases turned with
  | unread unseen => exact ⟨kept, fun seen => absurd seen unseen⟩
  | waits spent idle =>
    rename_i obs pendingSpans appliedOffsetS
    refine ⟨kept.measured named sameDay spent short now, ?_⟩
    intro _ capped due
    have policy : (measure before obs today now).userState.lastOfflinePolicy = .capped := capped
    have late : ¬ offlineIdle (measure before obs today now).userState now := due
    unfold offlineAim at idle
    rw [if_neg late, policy] at idle
    cases idle
  | converges spent aimed =>
    rename_i obs target pendingSpans offset appliedOffsetS
    have measured : BudgetKept save bound used
        { (measure before obs today now).userState with pendingSpans, appliedOffsetS } daemon :=
      kept.measured named sameDay spent short now
    have read : daemon.spentDayS - (measure before obs today now).userState.rawPrevS = 0 := by
      have last : (measure before obs today now).userState.rawPrevS = obs.spentDayS :=
        congrArg CumulativeState.rawPrevS (measure_counter named sameDay obs now)
      omega
    obtain ⟨same, settled⟩ := measured.converged read aimed short day fits room offset
    exact ⟨same, fun _ capped _ => settled capped⟩

end Budget

section Run

variable {site : AgentSite} {username : String} {save : Int}

/-- How an outage begins: the contact has just booked what was spent, and timekpr has saved it but for a moment. -/
structure OutageBegins (start : Outage) (username : String) (save : Int) : Prop where
  memory : DaemonInv save (start.accounts username).daemon
  short : 0 ≤ save ∧ save ≤ 90
  limit : 0 ≤ (start.accounts username).daemon.limitTodayS ∧ (start.accounts username).daemon.limitTodayS ≤ 86400
  named : (start.state.user username).day ≠ ""
  counted : (start.state.user username).cumLocalAtContactS ≤ (start.state.user username).cumLocalS
  read : (start.state.user username).rawPrevS - save ≤ (start.accounts username).daemon.spentDayS
  fits : (start.state.user username).offlineAllowanceS ≤ 86400
  unused : start.usedS username = 0

structure OutageGoes (start : Outage) (username : String) (save bound : Int) (outage : Outage) : Prop where
  memory : DaemonInv save (outage.accounts username).daemon
  limit : (outage.accounts username).daemon.limitTodayS = (start.accounts username).daemon.limitTodayS
  day : (outage.state.user username).day = (start.state.user username).day
  policy : (outage.state.user username).lastOfflinePolicy = (start.state.user username).lastOfflinePolicy
  allowance : (outage.state.user username).offlineAllowanceS = (start.state.user username).offlineAllowanceS
  budget : BudgetKept save bound (outage.usedS username) (outage.state.user username)
    (outage.accounts username).daemon

theorem OutageTurned.kept {seen : Prop} {before after : UserState} {daemon later : FakeTimekprDaemon}
    {today : String} {now : Instant} (turned : OutageTurned seen before daemon today now after later)
    (sameDay : today = before.day) (memory : DaemonInv save daemon) :
    DaemonInv save later ∧ later.limitTodayS = daemon.limitTodayS ∧ after.day = before.day ∧
      after.lastOfflinePolicy = before.lastOfflinePolicy ∧ after.offlineAllowanceS = before.offlineAllowanceS := by
  cases turned with
  | unread _ => exact ⟨memory, rfl, rfl, rfl, rfl⟩
  | waits _ _ => exact ⟨memory, rfl, sameDay, rfl, rfl⟩
  | converges _ _ =>
    exact ⟨memory.applyPlan _, FakeTimekprDaemon.applyPlan_limitTodayS _ _, sameDay, rfl, rfl⟩

theorem budgetS_left (start : Outage) (username : String) (save : Int) :
    max (start.accounts username).timeLeftS 0 ≤ start.budgetS save username := by
  unfold Outage.budgetS
  dsimp only
  cases (start.state.user username).lastOfflinePolicy with
  | capped => exact le_max_left _ _
  | closed => exact le_refl _
  | «open» => exact le_refl _

theorem OutageBegins.goes {start : Outage} (begins : OutageBegins start username save) :
    OutageGoes start username save (start.budgetS save username) start := by
  obtain ⟨memory, positive, _, _, counted, read, _, unused⟩ := begins
  have unsaved := memory.unsaved positive.1
  have budget := budgetS_left start username save
  unfold TimekprDevice.timeLeftS at budget
  refine ⟨memory, rfl, rfl, rfl, rfl, ?_⟩
  by_cases capped : (start.state.user username).lastOfflinePolicy = .capped
  · rw [budgetKept_capped capped, unused]
    exact ⟨by omega, unsaved, by omega, by omega, .inl (by omega)⟩
  · rw [budgetKept_uncapped capped, unused]
    omega

variable {start outage : Outage} {bound : Int}

theorem OutageGoes.step (goes : OutageGoes start username save bound outage)
    (begins : OutageBegins start username save) {turn : OutageTurn} (sameDay : turn.SameDay site username outage)
    (room : (start.state.user username).lastOfflinePolicy = .capped →
      (start.state.user username).offlineAllowanceS + 2 * save ≤ bound) :
    let after := outageStep site outage turn
    OutageGoes start username save bound after ∧
      (turn.Reads username → (start.state.user username).lastOfflinePolicy = .capped →
        ¬ offlineIdle (outage.state.user username) turn.now → OutageGoes start username save
          (max (after.usedS username) ((start.state.user username).offlineAllowanceS + 2 * save + 5)) after) := by
  intro after
  obtain ⟨memory, limit, day, policy, allowance, budget⟩ := goes
  have turned := outageStep_turned site outage turn username
  have used := budget.stretch memory begins.short.1 (turn.activeSeconds username) (turn.idleSeconds username)
  have memoryUsed : DaemonInv save (turn.stretched outage.accounts username).daemon :=
    stretch_memory _ _ _ memory
  have limitUsed : (turn.stretched outage.accounts username).daemon.limitTodayS =
      (start.accounts username).daemon.limitTodayS := (stretch_limit _ _ _).trans limit
  obtain ⟨memoryLater, limitLater, dayLater, policyLater, allowanceLater⟩ := turned.kept sameDay memoryUsed
  have named : todayStr site.zones outage.state site.tzName turn.now ≠ "" := by
    rw [sameDay, day]
    exact begins.named
  rw [← limitUsed] at limit
  have within := begins.limit
  rw [← limitUsed] at within
  rw [← policy, ← allowance] at room
  obtain ⟨kept, settles⟩ := used.turned turned named sameDay.symm begins.short.2 within
    (allowance ▸ begins.fits) room
  refine ⟨⟨memoryLater, limitLater.trans limitUsed, dayLater.trans day, policyLater.trans policy,
    allowanceLater.trans allowance, kept⟩, ?_⟩
  intro reads capped due
  have settled := settles reads (policy.trans capped) due
  rw [allowance] at settled
  exact ⟨memoryLater, limitLater.trans limitUsed, dayLater.trans day, policyLater.trans policy,
    allowanceLater.trans allowance, settled⟩

theorem OutageGoes.run (goes : OutageGoes start username save bound outage)
    (begins : OutageBegins start username save)
    (room : (start.state.user username).lastOfflinePolicy = .capped →
      (start.state.user username).offlineAllowanceS + 2 * save ≤ bound) {turns : List OutageTurn}
    (sameDay : Runs.StepsMeet (outageStep site) (OutageTurn.SameDay site username) outage turns) :
    OutageGoes start username save bound (Runs.run (outageStep site) outage turns) :=
  Runs.run_invariant_of_steps (OutageGoes start username save bound) outage turns goes
    (fun _ _ held met => (held.step begins met room).1) sameDay

end Run

end TimekprProof
