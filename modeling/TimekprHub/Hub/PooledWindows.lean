import TimekprHub.Agent.PushConverge
import TimekprHub.Hub.Household
import TimekprHub.Timekpr.DaemonOps

namespace TimekprModel

/-- What timekpr holds a user to today. A week's or month's limit that was never pushed is `none`. -/
structure EnforcedLimits where
  dayS : Int
  weekS : Option Int
  monthS : Option Int
  deriving DecidableEq, Repr

def TimekprDevice.limits (device : TimekprDevice) : EnforcedLimits where
  dayS := device.daemon.limitTodayS
  weekS := device.config.limitPerWeek
  monthS := device.config.limitPerMonth

def PolicyPayload.limits (policy : PolicyPayload) (today : Weekday) (limitTodayS : Int) : EnforcedLimits where
  dayS :=
    if today ∈ weekdaysOrAll policy.allowedWeekdays then policy.dailyLimitsS.getD today.index 0
    else limitTodayS
  weekS := some policy.weeklyLimitS
  monthS := some policy.monthlyLimitS

def windowLeft (limit : Option Int) (spentS dayLeft : Int) : Int :=
  match limit with
  | some limitS => limitS - spentS
  | none => dayLeft

def TimekprDevice.usableS (device : TimekprDevice) : Int :=
  let dayLeft := device.daemon.limitTodayS - device.daemon.balanceS
  min dayLeft (min (windowLeft device.config.limitPerWeek device.daemon.spentWeekS dayLeft)
    (windowLeft device.config.limitPerMonth device.daemon.spentMonthS dayLeft))

namespace HubStore

variable (store : HubStore) (userId : UserId)

def daySpent (day : Date) : Int :=
  match (store.user userId).accountingMode with
  | .wallclock => store.globalSpentWallclock userId day
  | .parallel => store.globalSpentParallel userId day

def windowSpent (startDay endDay : Date) : Int :=
  match (store.user userId).accountingMode with
  | .wallclock => store.globalSpentWallclockWindow userId startDay endDay
  | .parallel => store.globalSpentParallelWindow userId startDay endDay

def weekSpent (day : Date) : Int :=
  let weekStart := (daysInIsoWeek day).headD day
  store.windowSpent userId weekStart (weekStart + 6)

def monthSpent (day : Date) : Int := store.windowSpent userId (monthBounds day).1 (monthBounds day).2

end HubStore

structure DevicePool where
  agents : DeviceId → AgentState := fun _ => {}
  devices : DeviceId → TimekprDevice := fun _ => {}
  store : HubStore

structure DeviceTick where
  deviceId : DeviceId
  zones : ZoneDatabase
  tzName : String
  agentVersion : String
  weekday : Weekday
  refuses : Setter → Bool
  readable : Bool
  presence : Presence
  now : Instant
  hubNow : Instant

inductive DeviceAction
  | use (deviceId : DeviceId) (op : DaemonOp)
  | tick (tick : DeviceTick)
  | administer (users : Dict UserId User) (devices : Dict DeviceId Device)

section Pool

-- `account` is the user's local name on each device.
variable (settings : Settings) (digest : PolicyPayload → String) (account : DeviceId → String)

namespace DeviceTick

variable (pool : DevicePool) (tick : DeviceTick)

def username : String := account tick.deviceId

def enforcer : TimekprEnforcer TimekprDevice := timekprd tick.weekday tick.refuses tick.readable

def device : TimekprDevice := pool.devices tick.deviceId

def day : Date := (canonicalStamp tick.hubNow settings.tz).day

def inHousehold : HouseholdTick TimekprDevice where
  deviceId := tick.deviceId
  zones := tick.zones
  tzName := tick.tzName
  agentVersion := tick.agentVersion
  enforcer := tick.enforcer
  device := tick.device pool
  managedUsers := [(tick.username account, some ((tick.device pool).read tick.presence))]
  now := tick.now
  hubNow := tick.hubNow
  delivery := .heard

def measured : Measured :=
  let state := pool.agents tick.deviceId
  measure (state.user (tick.username account)) ((tick.device pool).read tick.presence)
    (todayStr tick.zones state tick.tzName tick.now) tick.now

def userRequest : SyncUserRequest :=
  syncUser (tick.username account) ((tick.device pool).read tick.presence) (tick.measured account pool)

def request : SyncRequest where
  agentTime := tick.now
  agentVersion := tick.agentVersion
  users := [tick.userRequest account pool]

def resolved : HubStore × UserId × Policy :=
  let device := (pool.store.devices.get? tick.deviceId).getD {}
  resolveUser
    { pool.store with
      devices := pool.store.devices.set tick.deviceId
        (recordCheckIn device (tick.request account pool) tick.hubNow) }
    tick.deviceId (tick.username account)

def userId : UserId := (tick.resolved account pool).2.1

def policy : Policy := (tick.resolved account pool).2.2

def recorded : HubStore :=
  recordUsage
    (recordPushError (tick.resolved account pool).1 tick.deviceId (tick.userId account pool)
      (tick.userRequest account pool) tick.hubNow)
    tick.deviceId (tick.userId account pool) (tick.day settings) (tick.userRequest account pool)

def target : HubTarget where
  limitTodayS := effectiveDailyLimit (tick.policy account pool)
    ((tick.recorded settings account pool).user (tick.userId account pool)) (tick.day settings)
  globalSpentS := (tick.recorded settings account pool).daySpent (tick.userId account pool) (tick.day settings)

def PoolUsedUp : Prop :=
  (tick.policy account pool).weeklyLimitS ≤
      (tick.recorded settings account pool).weekSpent (tick.userId account pool) (tick.day settings) ∨
    (tick.policy account pool).monthlyLimitS ≤
      (tick.recorded settings account pool).monthSpent (tick.userId account pool) (tick.day settings)

def payload : Option PolicyPayload :=
  (policyReply digest (tick.policy account pool)
    (((tick.recorded settings account pool).user (tick.userId account pool)).dayHourOverrides
      (tick.day settings))
    (tick.day settings) (tick.userRequest account pool).policyRevisionApplied
    (tick.userRequest account pool).policyVersionApplied).1

def limits : EnforcedLimits :=
  match tick.payload settings digest account pool with
  | none => (tick.device pool).limits
  | some policy => policy.limits tick.weekday (tick.device pool).daemon.limitTodayS

/-- The write is absolute, and so takes the device's counters back to what is saved. -/
def Absolute : Prop :=
  needsAbsolute (tick.device pool).daemon.observe (tick.target settings account pool)
    (tick.measured account pool).forceAbsolute cfg

instance : Decidable (tick.Absolute settings account pool) :=
  inferInstanceAs (Decidable (needsAbsolute _ _ _ _))

def plan : Plan :=
  TimekprModel.plan (tick.device pool).daemon.observe (tick.target settings account pool)
    (tick.measured account pool).userState.appliedOffsetS (tick.measured account pool).forceAbsolute cfg

def dayLeft : Int :=
  dayLeftAfter (tick.device pool).daemon.observe (tick.target settings account pool)
    (tick.limits settings digest account pool).dayS (tick.measured account pool).forceAbsolute cfg

def ownWeekS : Int :=
  if tick.Absolute settings account pool then (tick.device pool).daemon.savedSpentWeekS
  else (tick.device pool).daemon.spentWeekS

def ownMonthS : Int :=
  if tick.Absolute settings account pool then (tick.device pool).daemon.savedSpentMonthS
  else (tick.device pool).daemon.spentMonthS

end DeviceTick

namespace DevicePool

variable (pool : DevicePool)

def step : DeviceAction → DevicePool
  | .use deviceId op =>
    let device := pool.devices deviceId
    { pool with
      devices := Function.update pool.devices deviceId { device with daemon := device.daemon.apply op } }
  | .administer users devices => { pool with store := { pool.store with users, devices } }
  | .tick tick =>
    let household := tick.inHousehold account pool
    let state := pool.agents tick.deviceId
    let result := household.result state settings digest pool.store
    let committed := household.committed settings digest pool.store (household.request state)
    { agents := Function.update pool.agents tick.deviceId result.state
      devices := Function.update pool.devices tick.deviceId result.device
      store := (committed.map Prod.fst).getD pool.store }

end DevicePool

/-- `/sync` succeeds and the device enforces, a policy that is pushed lands, and what is written is in
    timekpr's range. -/
structure TickLands (pool : DevicePool) (tick : DeviceTick) : Prop where
  enforcing : ∃ device ∈ pool.store.devices.get? tick.deviceId, device.status ≠ .revoked ∧
    device.enforcement = .enforce
  takesTimeLeft : ∀ op seconds, tick.refuses (.timeLeft op seconds) = false
  pushLands : ∀ policy ∈ tick.payload settings digest account pool,
    (applyPolicyPush tick.enforcer (tick.device pool) (tick.username account) policy).device.limits =
      policy.limits tick.weekday (tick.device pool).daemon.limitTodayS
  inRange : ∀ op ∈ (tick.plan settings account pool).op.timeLeft?,
    WithinClamp (({ (tick.device pool).daemon with
        limitTodayS := (tick.limits settings digest account pool).dayS }).shiftedBalance op
      (tick.plan settings account pool).seconds)

def StepLands (pool : DevicePool) : DeviceAction → Prop
  | .tick tick => TickLands settings digest account pool tick
  | .use _ _ | .administer _ _ => True

def WindowsEnforced (pool : DevicePool) (action : DeviceAction) : Prop :=
  match action with
  | .tick tick =>
    tick.PoolUsedUp settings account pool →
      ((pool.step settings digest account action).devices tick.deviceId).usableS ≤ cfg.deadbandS
  | .use _ _ | .administer _ _ => True

/-- Once the pool has used up the week or the month, the day is used up too, or what the device itself
    has counted of its week or its month. -/
def UsedUpHere (pool : DevicePool) : DeviceAction → Prop
  | .tick tick =>
    tick.PoolUsedUp settings account pool →
      let limits := tick.limits settings digest account pool
      let dayLeft := tick.dayLeft settings digest account pool
      dayLeft ≤ cfg.deadbandS ∨
        windowLeft limits.weekS (tick.ownWeekS settings account pool) dayLeft ≤ cfg.deadbandS ∨
        windowLeft limits.monthS (tick.ownMonthS settings account pool) dayLeft ≤ cfg.deadbandS
  | .use _ _ | .administer _ _ => True

end Pool

def twoMachines : DevicePool where
  store :=
    { users := Dict.ofList
        [("kid",
          { currentPolicy := some (createInitialPolicy (some (List.replicate 7 7200)) (some 3600) none)
            accountingMode := .parallel })]
      devices := Dict.ofList [("laptop", {}), ("tablet", {})] }

def kidTickOn (deviceId : DeviceId) (now : Instant) : DeviceTick where
  deviceId
  zones := fun _ => some utc
  tzName := "UTC"
  agentVersion := "0.1"
  weekday := .friday
  refuses := fun _ => false
  readable := true
  presence := ⟨true, true⟩
  now
  hubNow := now

def halfAnHourOnEach : List DeviceAction :=
  [.use "laptop" (.tick 1800 true), .tick (kidTickOn "laptop" (noonPlus 0)),
    .use "tablet" (.tick 1800 true), .tick (kidTickOn "tablet" (noonPlus 60)),
    .tick (kidTickOn "laptop" (noonPlus 120))]

end TimekprModel

namespace TimekprProof

open TimekprModel

variable {settings : Settings} {digest : PolicyPayload → String} {account : DeviceId → String}
  {pool : DevicePool} {tick : DeviceTick}

section Figures

variable (digest) (store : HubStore) (device : Device) (userId : UserId) (policy : Policy) (day : Date)
  (req : SyncUserRequest)

theorem userResponse_figures :
    let response := userResponse digest store device userId policy day req
    response.globalSpentS = store.daySpent userId day ∧
      response.effectiveWeekLimitS = max 0 (policy.weeklyLimitS - store.weekSpent userId day) ∧
      response.effectiveMonthLimitS = max 0 (policy.monthlyLimitS - store.monthSpent userId day) := by
  simp only [userResponse, HubStore.daySpent, HubStore.weekSpent, HubStore.monthSpent, HubStore.windowSpent]
  cases (store.user userId).accountingMode with
  | wallclock => exact ⟨rfl, rfl, rfl⟩
  | parallel => exact ⟨rfl, rfl, rfl⟩

theorem userResponse_frame :
    let response := userResponse digest store device userId policy day req
    response.username = req.username ∧
      response.effectiveLimitTodayS = effectiveDailyLimit policy (store.user userId) day ∧
      response.enforcement = some device.enforcement ∧
      response.policy = (policyReply digest policy ((store.user userId).dayHourOverrides day) day
        req.policyRevisionApplied req.policyVersionApplied).1 :=
  ⟨rfl, rfl, rfl, rfl⟩

end Figures

section Tick

variable (settings digest account pool tick)

abbrev replyTo (device : Device) : SyncUserResponse :=
  userResponse digest (tick.recorded settings account pool) device (tick.userId account pool)
    (tick.policy account pool) (tick.day settings) (tick.userRequest account pool)

abbrev readUser : Observed where
  obs := (tick.device pool).read tick.presence
  forceAbsolute := (tick.measured account pool).forceAbsolute
  span := (tick.measured account pool).span

theorem tick_committed {device : Device} (found : pool.store.devices.get? tick.deviceId = some device)
    (active : device.status ≠ .revoked) :
    ∃ answer : SyncResponse, answer.users = [replyTo settings digest account pool tick device] ∧
      (tick.inHousehold account pool).committed settings digest pool.store (tick.request account pool) =
        some (tick.recorded settings account pool, answer) := by
  refine ⟨{ hubTime := tick.hubNow
            hubTz := settings.hubTz
            day := (canonicalStamp tick.hubNow settings.tz).dayStr
            nextPollMs := some settings.defaultNextPollMs
            users := [replyTo settings digest account pool tick device] }, rfl, ?_⟩
  have row : (pool.store.devices.get? tick.deviceId).getD {} = device := by
    rw [found]
    rfl
  have users : (tick.request account pool).users = [tick.userRequest account pool] := rfl
  have name : (tick.userRequest account pool).username = tick.username account := rfl
  have resolved : resolveUser
      { pool.store with
        devices := pool.store.devices.set tick.deviceId
          (recordCheckIn device (tick.request account pool) tick.hubNow) }
      tick.deviceId (tick.username account) = tick.resolved account pool := by
    simp only [DeviceTick.resolved, row]
  change sync settings digest pool.store tick.deviceId (tick.request account pool) tick.hubNow = _
  simp only [sync, found, if_neg active, users, syncUsers, syncOneUser, name, resolved]
  rfl

theorem tick_device {device : Device} (found : pool.store.devices.get? tick.deviceId = some device)
    (active : device.status ≠ .revoked) :
    ((pool.step settings digest account (.tick tick)).devices tick.deviceId) =
      (answeredTurn tick.enforcer (tick.device pool) (tick.username account) (readUser account pool tick)
        (tick.measured account pool).userState (replyTo settings digest account pool tick device)
        tick.now).device := by
  obtain ⟨answer, users, committed⟩ := tick_committed settings digest account pool tick found active
  have replied : (tick.inHousehold account pool).reply settings digest pool.store
      (tick.request account pool) = .response answer := by
    simp only [HouseholdTick.reply, committed]
    rfl
  have listed : answer.byUsername (tick.username account) =
      some (replyTo settings digest account pool tick device) := by
    have named : (replyTo settings digest account pool tick device).username = tick.username account :=
      (userResponse_frame ..).1
    simp only [SyncResponse.byUsername, users, List.reverse_singleton, List.find?_singleton, named,
      decide_true, if_true]
  have finished : ∀ outcome : HubOutcome, (finishTick tick.enforcer (tick.device pool)
      (draftTick tick.zones tick.tzName (pool.agents tick.deviceId)
        (tick.inHousehold account pool).managedUsers tick.now) tick.now outcome).device =
      (userTurn tick.enforcer (tick.device pool) (tick.username account) (readUser account pool tick)
        (tick.measured account pool).userState tick.now outcome).device := by
    intro outcome
    have measured := AgentState.user_setUser_same (pool.agents tick.deviceId) (tick.username account)
      (tick.measured account pool).userState
    rw [← measured]
    rfl
  simp only [DevicePool.step, Function.update_self, HouseholdTick.result, runTick]
  refine (finished _).trans ?_
  change (userTurn _ _ _ _ _ _ ((tick.inHousehold account pool).reply settings digest pool.store
    (tick.request account pool))).device = _
  rw [replied]
  simp only [userTurn, listed]

theorem replyTo_spec (device : Device) :
    let reply := replyTo settings digest account pool tick device
    responseTarget reply = tick.target settings account pool ∧
      reply.policy = tick.payload settings digest account pool ∧ reply.enforcement = some device.enforcement := by
  intro reply
  obtain ⟨spent, _, _⟩ := userResponse_figures digest (tick.recorded settings account pool) device
    (tick.userId account pool) (tick.policy account pool) (tick.day settings) (tick.userRequest account pool)
  obtain ⟨_, limit, enforcement, payload⟩ := userResponse_frame digest (tick.recorded settings account pool)
    device (tick.userId account pool) (tick.policy account pool) (tick.day settings)
    (tick.userRequest account pool)
  refine ⟨?_, payload, enforcement⟩
  unfold responseTarget
  rw [limit, spent]
  rfl

end Tick

section Lands

variable {settings : Settings} {digest : PolicyPayload → String} {account : DeviceId → String}
  {pool : DevicePool} {tick : DeviceTick}

theorem keeps_accounts (takes : ∀ op seconds, tick.refuses (.timeLeft op seconds) = false) :
    KeepsAccounts tick.enforcer (tick.username account) TimekprDevice.daemon :=
  timekprd_keepsAccounts tick.weekday tick.readable (tick.username account) takes

theorem taken_limits (lands : TickLands settings digest account pool tick) (userState : UserState)
    (version : Int) (revision : Option String) :
    let taken := (takePolicy tick.enforcer (tick.device pool) (tick.username account) userState
      (tick.payload settings digest account pool) version revision).device
    taken.limits = tick.limits settings digest account pool ∧
      taken.daemon = { (tick.device pool).daemon with
        limitTodayS := (tick.limits settings digest account pool).dayS } := by
  intro taken
  cases carried : tick.payload settings digest account pool with
  | none =>
    have same : tick.limits settings digest account pool = (tick.device pool).limits := by
      simp only [DeviceTick.limits, carried]
    have kept : taken = tick.device pool := by
      simp only [taken, carried, takePolicy]
    rw [same, kept]
    exact ⟨rfl, rfl⟩
  | some policy =>
    have same : tick.limits settings digest account pool =
        policy.limits tick.weekday (tick.device pool).daemon.limitTodayS := by
      simp only [DeviceTick.limits, carried]
    have pushed : taken =
        (applyPolicyPush tick.enforcer (tick.device pool) (tick.username account) policy).device := by
      simp only [taken, carried, takePolicy]
    obtain ⟨moved, daemon⟩ := push_keepsAccounts (keeps_accounts lands.takesTimeLeft) (tick.device pool) policy
    have limits := lands.pushLands policy carried
    rw [same, pushed, ← limits]
    refine ⟨rfl, ?_⟩
    rw [TimekprDevice.limits, daemon]

theorem converged_config (device : TimekprDevice) (obs : UserObservation) (target : HubTarget)
    (userState : UserState) (force : Bool) :
    (applyConvergence tick.enforcer device (tick.username account) obs target userState force).device.config =
      device.config := by
  unfold applyConvergence
  simp only [Bool.false_eq_true, if_false]
  cases (plan ⟨obs.balanceS, obs.spentDayS, obs.limitTodayS⟩ target userState.appliedOffsetS force
    cfg).op.timeLeft? with
  | none => rfl
  | some op => exact timekprd_timeLeft_config tick.weekday tick.refuses tick.readable _ device op _

theorem converged_daemon (lands : TickLands settings digest account pool tick) {taken : TimekprDevice}
    {limitTodayS : Int} (daemon : taken.daemon = { (tick.device pool).daemon with limitTodayS })
    (target : HubTarget) (userState : UserState) (force : Bool) :
    (applyConvergence tick.enforcer taken (tick.username account)
        ((tick.device pool).read tick.presence) target userState force).device.daemon =
      ({ (tick.device pool).daemon with limitTodayS }).applyPlan
        (plan (tick.device pool).daemon.observe target userState.appliedOffsetS force cfg) := by
  have reading : (tick.device pool).daemon.observe =
      ⟨((tick.device pool).read tick.presence).balanceS, ((tick.device pool).read tick.presence).spentDayS,
        ((tick.device pool).read tick.presence).limitTodayS⟩ := rfl
  rw [perform_keepsAccounts (keeps_accounts lands.takesTimeLeft) taken _ target userState force reading, daemon]

theorem tick_landed (lands : TickLands settings digest account pool tick) :
    let after := (pool.step settings digest account (.tick tick)).devices tick.deviceId
    let limits := tick.limits settings digest account pool
    after.config.limitPerWeek = limits.weekS ∧ after.config.limitPerMonth = limits.monthS ∧
      after.daemon = ({ (tick.device pool).daemon with limitTodayS := limits.dayS }).applyPlan
        (tick.plan settings account pool) := by
  intro after limits
  obtain ⟨device, found, active, enforcing⟩ := lands.enforcing
  obtain ⟨target, carried, enforced⟩ := replyTo_spec settings digest account pool tick device
  have heeded : ¬ (replyTo settings digest account pool tick device).enforcement = some .observe := by
    rw [enforced, enforcing]
    decide
  have turn := tick_device settings digest account pool tick found active
  simp only [responseTarget] at target
  simp only [answeredTurn, if_neg heeded, carried, target] at turn
  generalize ({ rememberContact (tick.measured account pool).userState (readUser account pool tick).span
    (replyTo settings digest account pool tick device) tick.now with lastEnforcement := .enforce } :
      UserState) = told at turn
  generalize (replyTo settings digest account pool tick device).policyVersion = version at turn
  generalize (replyTo settings digest account pool tick device).policyRevision = revision at turn
  obtain ⟨shown, accounts⟩ := taken_limits lands told version revision
  generalize (takePolicy tick.enforcer (tick.device pool) (tick.username account) told
    (tick.payload settings digest account pool) version revision).device = taken at turn shown accounts
  have same : after = _ := turn
  refine ⟨?_, ?_, ?_⟩
  · rw [same, converged_config]
    exact congrArg EnforcedLimits.weekS shown
  · rw [same, converged_config]
    exact congrArg EnforcedLimits.monthS shown
  · rw [same, converged_daemon lands accounts]
    unfold DeviceTick.plan plan
    rfl

theorem tick_usable (lands : TickLands settings digest account pool tick) :
    let limits := tick.limits settings digest account pool
    let dayLeft := tick.dayLeft settings digest account pool
    ((pool.step settings digest account (.tick tick)).devices tick.deviceId).usableS =
      min dayLeft (min (windowLeft limits.weekS (tick.ownWeekS settings account pool) dayLeft)
        (windowLeft limits.monthS (tick.ownMonthS settings account pool) dayLeft)) := by
  intro limits dayLeft
  obtain ⟨week, month, daemon⟩ := tick_landed lands
  have day := moved_limit_day_left (tick.device pool).daemon (tick.target settings account pool)
    (tick.limits settings digest account pool).dayS (tick.measured account pool).userState.appliedOffsetS
    (tick.measured account pool).forceAbsolute cfg lands.inRange
  have counters := moved_limit_counters (tick.device pool).daemon (tick.target settings account pool)
    (tick.limits settings digest account pool).dayS (tick.measured account pool).userState.appliedOffsetS
    (tick.measured account pool).forceAbsolute cfg
  have ownWeek : ((pool.step settings digest account (.tick tick)).devices
      tick.deviceId).daemon.spentWeekS = tick.ownWeekS settings account pool := by
    rw [daemon]
    exact counters.1
  have ownMonth : ((pool.step settings digest account (.tick tick)).devices
      tick.deviceId).daemon.spentMonthS = tick.ownMonthS settings account pool := by
    rw [daemon]
    exact counters.2
  have left : ((pool.step settings digest account (.tick tick)).devices tick.deviceId).daemon.limitTodayS -
      ((pool.step settings digest account (.tick tick)).devices tick.deviceId).daemon.balanceS = dayLeft := by
    rw [daemon]
    exact day
  simp only [TimekprDevice.usableS, week, month, ownWeek, ownMonth, left]
  rfl

end Lands

section Run

variable (settings digest account)

theorem step_windows_iff {action : DeviceAction} (lands : StepLands settings digest account pool action) :
    WindowsEnforced settings digest account pool action ↔ UsedUpHere settings digest account pool action := by
  cases action with
  | use deviceId op => rfl
  | administer users devices => rfl
  | tick tick =>
    have usable := tick_usable lands
    simp only [WindowsEnforced, UsedUpHere, usable, min_le_iff]

/-- Over any run of the devices, the week and the month are enforced over the pool exactly when every
    tick that finds them used up there finds a day, a week or a month used up on its own device too. -/
theorem pool_windows_enforced_iff (pool : DevicePool) (actions : List DeviceAction)
    (lands : Runs.StepsMeet (DevicePool.step settings digest account) (StepLands settings digest account)
      pool actions) :
    Runs.StepsMeet (DevicePool.step settings digest account) (WindowsEnforced settings digest account) pool
        actions ↔
      Runs.StepsMeet (DevicePool.step settings digest account) (UsedUpHere settings digest account) pool
        actions :=
  lands.iff fun _ _ lands => step_windows_iff settings digest account lands

end Run

section Machines

abbrev oneVersion : PolicyPayload → String := fun _ => "0"

abbrev kidOnAll : DeviceId → String := fun _ => "kid"

/-- An hour on one machine is an hour of its own week. -/
theorem pool_windows_enforced_iff_one_machine :
    Runs.StepsMeet (DevicePool.step {} oneVersion kidOnAll) (WindowsEnforced {} oneVersion kidOnAll)
      twoMachines [.use "laptop" (.tick 3600 true), .tick (kidTickOn "laptop" (noonPlus 0))] :=
  (pool_windows_enforced_iff {} oneVersion kidOnAll twoMachines
    [.use "laptop" (.tick 3600 true), .tick (kidTickOn "laptop" (noonPlus 0))]
    ⟨trivial, ⟨by decide, fun _ _ => rfl, by decide, by decide⟩, trivial⟩).mpr
      ⟨trivial, fun _ => Or.inr (Or.inl (by decide)), trivial⟩

/-- The hour of the week is used up in the pool, and the laptop, on which half of it was spent, still has
    its own half. -/
theorem pool_week_outlived :
    Runs.StepsMeet (DevicePool.step {} oneVersion kidOnAll) (StepLands {} oneVersion kidOnAll) twoMachines
        halfAnHourOnEach ∧
      (Runs.run (DevicePool.step {} oneVersion kidOnAll) twoMachines
        (halfAnHourOnEach.take 4)).store.weekSpent "kid" (Date.ofYmd 2027 1 1) = 3600 ∧
      ((Runs.run (DevicePool.step {} oneVersion kidOnAll) twoMachines halfAnHourOnEach).devices
        "laptop").usableS = 1800 ∧
      ¬ Runs.StepsMeet (DevicePool.step {} oneVersion kidOnAll) (WindowsEnforced {} oneVersion kidOnAll)
        twoMachines halfAnHourOnEach := by
  have lands : Runs.StepsMeet (DevicePool.step {} oneVersion kidOnAll) (StepLands {} oneVersion kidOnAll)
      twoMachines halfAnHourOnEach :=
    ⟨trivial, ⟨by decide, fun _ _ => rfl, by decide, by decide⟩, trivial,
      ⟨by decide, fun _ _ => rfl, by decide, by decide⟩, ⟨by decide, fun _ _ => rfl, by decide, by decide⟩,
      trivial⟩
  refine ⟨lands, by decide, by decide, ?_⟩
  intro enforced
  have left := enforced.2.2.2.2.1 (Or.inl (by decide))
  exact absurd left (by decide)

end Machines

end TimekprProof
