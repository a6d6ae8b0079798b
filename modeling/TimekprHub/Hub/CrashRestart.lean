import TimekprHub.Hub.BurnOnce
import TimekprHub.Timekpr.Accounts

namespace TimekprModel

/-- One agent, the machine it runs on and the hub. `saved` is what state.json holds, and so what the
    agent has in memory between two ticks, restarted or not. The active seconds are a ghost. -/
structure AgentHost where
  saved : AgentState := {}
  accounts : String → TimekprDevice := fun _ => {}
  store : HubStore
  active : String → Int := fun _ => 0

/-- A tick of the agent. One that is killed has made so many of its setter calls and saves nothing. -/
structure HostTick where
  zones : ZoneDatabase
  tzName : String
  agentVersion : String
  weekday : Weekday
  refuses : Setter → Bool
  readable : Bool
  seen : List (String × Option Presence)
  now : Instant
  hubNow : Instant
  delivery : Delivery
  killedAfter : Option Nat

inductive HostAction
  | use (username : String) (op : DaemonOp)
  | tick (tick : HostTick)
  | administer (users : Dict UserId User) (devices : Dict DeviceId Device)

def HostTick.inHousehold (tick : HostTick) (deviceId : DeviceId) (accounts : String → TimekprDevice) :
    HouseholdTick (String → TimekprDevice) where
  deviceId
  zones := tick.zones
  tzName := tick.tzName
  agentVersion := tick.agentVersion
  enforcer := perUser (timekprd tick.weekday tick.refuses tick.readable)
  device := accounts
  managedUsers := tick.seen.map fun seen => (seen.1, seen.2.map (accounts seen.1).read)
  now := tick.now
  hubNow := tick.hubNow
  delivery := tick.delivery

namespace AgentHost

variable (settings : Settings) (digest : PolicyPayload → String) (deviceId : DeviceId) (host : AgentHost)

def ticking (tick : HostTick) : HouseholdTick (String → TimekprDevice) :=
  tick.inHousehold deviceId host.accounts

def committed (tick : HostTick) : Option (HubStore × SyncResponse) :=
  (host.ticking deviceId tick).committed settings digest host.store
    ((host.ticking deviceId tick).request host.saved)

def step : HostAction → AgentHost
  | .use username op =>
    let account := host.accounts username
    { host with
      accounts := Function.update host.accounts username { account with daemon := account.daemon.apply op }
      active := Function.update host.active username (host.active username + op.activeSeconds) }
  | .administer users devices => { host with store := { host.store with users, devices } }
  | .tick tick =>
    let store := ((host.committed settings digest deviceId tick).map Prod.fst).getD host.store
    let result := (host.ticking deviceId tick).result host.saved settings digest host.store
    match tick.killedAfter with
    | none => { host with saved := result.state, accounts := result.device, store }
    | some made =>
      { host with
        accounts := (host.ticking deviceId tick).enforcer.performAll host.accounts (result.calls.take made)
        store }

end AgentHost

structure BeginsDay (day : Date) (host : AgentHost) : Prop where
  saved : ∀ username, (host.accounts username).daemon.savedSpentDayS = 0
  spent : ∀ username, (host.accounts username).daemon.spentDayS = 0
  flushes : ∀ username, (host.accounts username).daemon.saveIntervalS ≤ cfg.regressionToleranceS
  elsewhere : ∀ username, (host.saved.user username).day ≠ day.isoformat
  nothingPending : ∀ username, (host.saved.user username).pendingSpans = []
  named : ∀ deviceId username, host.store.userOf deviceId username = username
  noRows : ∀ row ∈ host.store.activityIntervals, row.day ≠ day
  noCounters : ∀ userId deviceId, host.store.spent ⟨userId, deviceId, day⟩ = none
  unused : ∀ username, host.active username = 0

def HostOnDay (settings : Settings) (day : Date) (deviceId : DeviceId) (host : AgentHost) : HostAction → Prop
  | .use _ _ | .administer _ _ => True
  | .tick tick =>
    (host.ticking deviceId tick).today host.saved = day.isoformat ∧
      (canonicalStamp tick.hubNow settings.tz).day = day ∧ (tick.seen.map Prod.fst).Nodup

/-- A tick that is killed with its sync committed had no time of its own to report. -/
def LosesNoSpan (settings : Settings) (digest : PolicyPayload → String) (deviceId : DeviceId)
    (host : AgentHost) : HostAction → Prop
  | .use _ _ | .administer _ _ => True
  | .tick tick => tick.killedAfter ≠ none → host.committed settings digest deviceId tick ≠ none →
      ∀ username observed,
        ((host.ticking deviceId tick).draft host.saved).observations.get? username = some observed →
        ∀ span ∈ observed.span, span.length = 0

def hostTick (now : Instant) (delivery : Delivery) (killedAfter : Option Nat) : HostTick where
  zones := fun _ => some utc
  tzName := "UTC"
  agentVersion := "0.1"
  weekday := .friday
  refuses := fun _ => false
  readable := true
  seen := [("kid", some ⟨true, true⟩)]
  now
  hubNow := now
  delivery
  killedAfter

def laptopHost : AgentHost where
  store := laptopStore

end TimekprModel

namespace TimekprProof

open TimekprModel

variable {settings : Settings} {digest : PolicyPayload → String} {deviceId : DeviceId} {day : Date}
  {host : AgentHost}

structure NeverOvercharged (deviceId : DeviceId) (day : Date) (host : AgentHost) : Prop where
  named : ∀ device username, host.store.userOf device username = username
  own : ∀ row ∈ host.store.activityIntervals, row.day = day → row.deviceId = deviceId
  budget : ∀ username, SpanBudget day host.store deviceId username (host.saved.user username)
    (host.saved.user username).pendingSpans
  credited : ∀ username, Credited day.isoformat (host.accounts username).daemon
    (host.saved.user username) (host.active username)
  counters : ∀ username device, ∀ seconds ∈ host.store.spent ⟨username, device, day⟩,
    seconds ≤ host.active username

section Bound

theorem union_le_stored (own : ∀ row ∈ host.store.activityIntervals, row.day = day → row.deviceId = deviceId)
    (username : String) : Intervals.unionLength (host.store.daySpans username day) ≤
      host.store.storedLength ⟨username, deviceId, day⟩ := by
  have lengths := Intervals.unionLength_le_sum (host.store.daySpans username day)
  rw [HubStore.daySpans, List.map_map] at lengths
  refine lengths.trans (le_of_eq ?_)
  have same : host.store.activityIntervals.filter (fun row => row.userId = username ∧ row.day = day) =
      host.store.activityIntervals.filter fun row =>
        (⟨row.userId, row.deviceId, row.day⟩ : CounterKey) = ⟨username, deviceId, day⟩ := by
    apply List.filter_congr
    intro row listed
    rw [decide_eq_decide]
    constructor
    · intro matched
      obtain ⟨user, onDay⟩ := matched
      rw [user, onDay, own row listed onDay]
    · intro keyed
      cases keyed
      exact ⟨rfl, rfl⟩
  rw [same]
  rfl

theorem wallclock_within_active (inv : NeverOvercharged deviceId day host) (username : String) :
    host.store.globalSpentWallclock username day ≤ host.active username := by
  have union := union_le_stored inv.own username
  have budget := inv.budget username
  have unsent := unsentLength_nonneg host.store deviceId (host.saved.user username).pendingSpans
  have nonneg := budget_counter_nonneg budget
  obtain ⟨counted, _⟩ := (inv.credited username).bounds
  unfold SpanBudget at budget
  apply max_le
  · have rounded := roundedSeconds_mono (union.trans (by omega :
      _ ≤ second * (host.saved.user username).countedOn day.isoformat))
    refine rounded.trans ?_
    simp only [HubStore.roundedSeconds, second]
    omega
  · cases shown : (host.store.dayCounters username day).max? with
    | none => exact nonneg.trans counted
    | some largest =>
      have listed := (List.max?_eq_some_iff.mp shown).1
      obtain ⟨device, held⟩ := (mem_dayCounters host.store username day largest).mp listed
      exact inv.counters username device largest held

end Bound

section Tick

variable {tick : HostTick}

theorem host_drafted (today : (host.ticking deviceId tick).today host.saved = day.isoformat)
    (distinct : (tick.seen.map Prod.fst).Nodup) (username : String) :
    DraftedUser day.isoformat tick.now username (host.ticking deviceId tick).managedUsers
      (host.saved.user username) ((host.ticking deviceId tick).draft host.saved) := by
  apply tick_drafted (host.ticking deviceId tick) today
  have names : (host.ticking deviceId tick).managedUsers.map Prod.fst = tick.seen.map Prod.fst := by
    simp only [AgentHost.ticking, HostTick.inHousehold, List.map_map]
    rfl
  rw [names]
  exact distinct

theorem host_reading {username : String} {obs : UserObservation}
    (listed : (username, some obs) ∈ (host.ticking deviceId tick).managedUsers) :
    obs.spentDayS = (host.accounts username).daemon.spentDayS := by
  obtain ⟨⟨name, presence⟩, _, same⟩ := List.mem_map.mp listed
  cases presence with
  | none => cases same
  | some presence =>
    cases same
    rfl

theorem draft_credited (inv : NeverOvercharged deviceId day host) {username : String}
    (drafted : DraftedUser day.isoformat tick.now username (host.ticking deviceId tick).managedUsers
      (host.saved.user username) ((host.ticking deviceId tick).draft host.saved)) :
    Credited day.isoformat (host.accounts username).daemon
      (((host.ticking deviceId tick).draft host.saved).state.user username) (host.active username) := by
  have before := inv.credited username
  cases drafted with
  | unread state _ _ =>
    rw [state]
    exact before
  | read obs listed state _ _ =>
    rw [state]
    exact before.measure (Date.isoformat_ne_empty day) (host_reading listed) tick.now

theorem draft_spanBudget (inv : NeverOvercharged deviceId day host) {username : String}
    (drafted : DraftedUser day.isoformat tick.now username (host.ticking deviceId tick).managedUsers
      (host.saved.user username) ((host.ticking deviceId tick).draft host.saved)) :
    SpanBudget day host.store deviceId username
      (((host.ticking deviceId tick).draft host.saved).state.user username)
      (offered ((host.ticking deviceId tick).draft host.saved) username) := by
  apply draft_budget (Date.isoformat_ne_empty day) _ (inv.budget username) drafted
  intro obs listed
  rw [host_reading listed]
  exact (inv.credited username).bounds.2

theorem performed_credited (deviceId : DeviceId) (tick : HostTick) {users : String → UserState}
    (credited : ∀ username, Credited day.isoformat (host.accounts username).daemon (users username)
      (host.active username)) (calls : List (String × Setter)) (username : String) :
    Credited day.isoformat
      ((host.ticking deviceId tick).enforcer.performAll host.accounts calls username).daemon (users username)
      (host.active username) := by
  refine perUser_performAll (fun username (account : TimekprDevice) =>
    Credited day.isoformat account.daemon (users username) (host.active username)) ?_ credited calls username
  intro username account setter held
  exact held.perform tick.weekday tick.refuses tick.readable username setter

theorem committed_own {later : HubStore} {reqs : List SyncUserRequest}
    (own : ∀ row ∈ host.store.activityIntervals, row.day = day → row.deviceId = deviceId)
    (recorded : Recorded deviceId day reqs host.store later) :
    ∀ row ∈ later.activityIntervals, row.day = day → row.deviceId = deviceId := by
  intro row stored onDay
  rcases (recorded_rows recorded row).mp stored with old | ⟨earlier, rest, split, _⟩
  · exact own row old onDay
  · have reported : row ∈ host.store.reportedRows deviceId day reqs := by
      rw [split]
      exact List.mem_append_right _ (List.mem_cons_self ..)
    exact reportedRow_device reported

theorem killed_budget {later : HubStore} (inv : NeverOvercharged deviceId day host)
    (recorded : Recorded deviceId day ((host.ticking deviceId tick).draft host.saved).syncUsers host.store
      later) {username : String}
    (drafted : DraftedUser day.isoformat tick.now username (host.ticking deviceId tick).managedUsers
      (host.saved.user username) ((host.ticking deviceId tick).draft host.saved))
    (nothing : ∀ observed,
      ((host.ticking deviceId tick).draft host.saved).observations.get? username = some observed →
      ∀ span ∈ observed.span, span.length = 0) :
    SpanBudget day later deviceId username (host.saved.user username)
      (host.saved.user username).pendingSpans := by
  have budget := inv.budget username
  have total := committed_total (inv.named deviceId) recorded drafted
  have pending : (((host.ticking deviceId tick).draft host.saved).state.user username).pendingSpans =
      (host.saved.user username).pendingSpans := by
    cases drafted with
    | unread state _ _ => rw [state]
    | read obs _ state _ _ =>
      obtain ⟨_, _, _, same⟩ := measure_frame day.isoformat tick.now (host.saved.user username) obs
      rw [state, same]
  have own : host.store.unsentLength deviceId
      ((((host.ticking deviceId tick).draft host.saved).observations.get? username).bind
        Observed.span).toList ≤ 0 := by
    refine (unsentLength_le_length host.store deviceId _).trans ?_
    cases found : ((host.ticking deviceId tick).draft host.saved).observations.get? username with
    | none => exact le_refl 0
    | some observed =>
      cases emitted : observed.span with
      | none =>
        simp only [Option.bind_some, emitted]
        exact le_refl 0
      | some span =>
        simp only [Option.bind_some, emitted, Option.map_some, Option.getD_some]
        exact (nothing observed found span emitted).le
  have later_own := unsentLength_nonneg later deviceId
    ((((host.ticking deviceId tick).draft host.saved).observations.get? username).bind
      Observed.span).toList
  unfold SpanBudget at budget ⊢
  rw [offered, unsentLength_append, unsentLength_append, pending] at total
  omega

theorem result_credited (inv : NeverOvercharged deviceId day host) (settings : Settings)
    (digest : PolicyPayload → String) {username : String}
    (drafted : DraftedUser day.isoformat tick.now username (host.ticking deviceId tick).managedUsers
      (host.saved.user username) ((host.ticking deviceId tick).draft host.saved)) :
    Credited day.isoformat (host.accounts username).daemon
      (((host.ticking deviceId tick).result host.saved settings digest host.store).state.user username)
      (host.active username) := by
  have credited := draft_credited inv drafted
  rcases runTick_user tick.zones tick.tzName tick.agentVersion (host.ticking deviceId tick).enforcer
    ((host.ticking deviceId tick).reply settings digest host.store) host.saved host.accounts
    (host.ticking deviceId tick).managedUsers tick.now defaultPollMs username
    with ⟨same, _⟩ | ⟨observed, accounts, _, _, same, _⟩
  · refine credited.congr ?_ ?_ ?_
    · exact congrArg UserState.day same
    · exact congrArg UserState.cumLocalS same
    · exact congrArg UserState.rawPrevS same
  · obtain ⟨sameDay, counter, reading⟩ := userTurn_counter (host.ticking deviceId tick).enforcer accounts
      username observed (((host.ticking deviceId tick).draft host.saved).state.user username) tick.now
      ((host.ticking deviceId tick).reply settings digest host.store
        (((host.ticking deviceId tick).draft host.saved).request tick.agentVersion tick.now))
    refine credited.congr ?_ ?_ ?_
    · exact (congrArg UserState.day same).trans sameDay
    · exact (congrArg UserState.cumLocalS same).trans counter
    · exact (congrArg UserState.rawPrevS same).trans reading

structure StoreKept (deviceId : DeviceId) (day : Date) (host : AgentHost) (draft : Draft) (later : HubStore) :
    Prop where
  named : ∀ device username, later.userOf device username = username
  own : ∀ row ∈ later.activityIntervals, row.day = day → row.deviceId = deviceId
  budget : ∀ username, SpanBudget day later deviceId username (draft.state.user username)
    (offered draft username)
  counters : ∀ username device, ∀ seconds ∈ later.spent ⟨username, device, day⟩,
    seconds ≤ host.active username

theorem committed_kept {later : HubStore} (inv : NeverOvercharged deviceId day host)
    (drafted : ∀ username, DraftedUser day.isoformat tick.now username
      (host.ticking deviceId tick).managedUsers (host.saved.user username)
      ((host.ticking deviceId tick).draft host.saved))
    (recorded : Recorded deviceId day ((host.ticking deviceId tick).draft host.saved).syncUsers host.store
      later) :
    StoreKept deviceId day host ((host.ticking deviceId tick).draft host.saved) later where
  named device username := (recorded.userOf device username).trans (inv.named device username)
  own := committed_own inv.own recorded
  budget username :=
    (committed_total (inv.named deviceId) recorded (drafted username)).trans
      (draft_spanBudget inv (drafted username))
  counters := by
    intro username device seconds shown
    rcases committed_mem (inv.named deviceId) recorded shown with held | ⟨req, asked, rfl⟩
    · exact inv.counters username device seconds held
    · rw [drafted_report (drafted username) asked]
      exact (draft_credited inv (drafted username)).bounds.1

theorem uncommitted_kept (inv : NeverOvercharged deviceId day host)
    (drafted : ∀ username, DraftedUser day.isoformat tick.now username
      (host.ticking deviceId tick).managedUsers (host.saved.user username)
      ((host.ticking deviceId tick).draft host.saved)) :
    StoreKept deviceId day host ((host.ticking deviceId tick).draft host.saved) host.store where
  named := inv.named
  own := inv.own
  budget username := draft_spanBudget inv (drafted username)
  counters := inv.counters

end Tick

section Step

variable (settings digest)

theorem step_saved_tick (inv : NeverOvercharged deviceId day host) {tick : HostTick}
    (today : (host.ticking deviceId tick).today host.saved = day.isoformat)
    (distinct : (tick.seen.map Prod.fst).Nodup) {store : HubStore}
    (kept : StoreKept deviceId day host ((host.ticking deviceId tick).draft host.saved) store) :
    NeverOvercharged deviceId day
      { host with
        saved := ((host.ticking deviceId tick).result host.saved settings digest host.store).state
        accounts := ((host.ticking deviceId tick).result host.saved settings digest host.store).device
        store } where
  named := kept.named
  own := kept.own
  budget username :=
    tick_budget settings digest (host.ticking deviceId tick) host.store store (kept.budget username)
  credited := by
    have credited := fun username => result_credited inv settings digest (host_drafted today distinct username)
    have calls := runTick_performed tick.zones tick.tzName tick.agentVersion
      (host.ticking deviceId tick).enforcer ((host.ticking deviceId tick).reply settings digest host.store)
      host.saved host.accounts (host.ticking deviceId tick).managedUsers tick.now defaultPollMs
    intro username
    have performed := performed_credited deviceId tick credited
      ((host.ticking deviceId tick).result host.saved settings digest host.store).calls username
    have device : ((host.ticking deviceId tick).result host.saved settings digest host.store).device =
        (host.ticking deviceId tick).enforcer.performAll host.accounts
          ((host.ticking deviceId tick).result host.saved settings digest host.store).calls := calls
    simp only [device]
    exact performed
  counters := kept.counters

theorem step_killed_tick (inv : NeverOvercharged deviceId day host) {tick : HostTick} {store : HubStore}
    (budget : ∀ username, SpanBudget day store deviceId username (host.saved.user username)
      (host.saved.user username).pendingSpans)
    (kept : StoreKept deviceId day host ((host.ticking deviceId tick).draft host.saved) store)
    (calls : List (String × Setter)) :
    NeverOvercharged deviceId day
      { host with
        accounts := (host.ticking deviceId tick).enforcer.performAll host.accounts calls
        store } where
  named := kept.named
  own := kept.own
  budget := budget
  credited := performed_credited deviceId tick inv.credited calls
  counters := kept.counters

theorem step_used (inv : NeverOvercharged deviceId day host) (username : String) (op : DaemonOp) :
    NeverOvercharged deviceId day (host.step settings digest deviceId (.use username op)) := by
  have used := op.activeSeconds_nonneg
  have credited : ∀ other, Credited day.isoformat
      ((host.step settings digest deviceId (.use username op)).accounts other).daemon
      (host.saved.user other) ((host.step settings digest deviceId (.use username op)).active other) := by
    intro other
    by_cases own : other = username
    · subst own
      simp only [AgentHost.step, Function.update_self]
      exact (inv.credited other).use op
    · simp only [AgentHost.step, Function.update_of_ne own]
      exact inv.credited other
  refine ⟨inv.named, inv.own, inv.budget, credited, ?_⟩
  intro other device seconds held
  have before := inv.counters other device seconds held
  by_cases own : other = username
  · subst own
    simp only [AgentHost.step, Function.update_self]
    omega
  · simp only [AgentHost.step, Function.update_of_ne own]
    exact before

theorem step_never_overcharged {action : HostAction} (inv : NeverOvercharged deviceId day host)
    (onDay : HostOnDay settings day deviceId host action)
    (loses : LosesNoSpan settings digest deviceId host action) :
    NeverOvercharged deviceId day (host.step settings digest deviceId action) := by
  cases action with
  | use username op => exact step_used settings digest inv username op
  | administer users devices => exact ⟨inv.named, inv.own, inv.budget, inv.credited, inv.counters⟩
  | tick tick =>
    obtain ⟨today, stamp, distinct⟩ := onDay
    have drafted := host_drafted today distinct
    unfold AgentHost.step
    dsimp only
    cases answer : host.committed settings digest deviceId tick with
    | none =>
      have kept := uncommitted_kept inv drafted
      cases killed : tick.killedAfter with
      | none => exact step_saved_tick settings digest inv today distinct kept
      | some made => exact step_killed_tick inv inv.budget kept _
    | some reply =>
      have recorded : Recorded deviceId (canonicalStamp tick.hubNow settings.tz).day
          ((host.ticking deviceId tick).draft host.saved).syncUsers host.store reply.1 :=
        committed_recorded answer
      rw [stamp] at recorded
      have kept := committed_kept inv drafted recorded
      cases killed : tick.killedAfter with
      | none => exact step_saved_tick settings digest inv today distinct kept
      | some made =>
        have dead : tick.killedAfter ≠ none := by
          rw [killed]
          exact Option.some_ne_none _
        have commits : host.committed settings digest deviceId tick ≠ none := by
          rw [answer]
          exact Option.some_ne_none _
        have nothing := loses dead commits
        refine step_killed_tick inv ?_ kept _
        intro username
        exact killed_budget inv recorded (drafted username) (nothing username)

theorem begins_never_overcharged (begins : BeginsDay day host) : NeverOvercharged deviceId day host := by
  refine ⟨begins.named, ?_, ?_, ?_, ?_⟩
  · intro row stored onDay
    exact absurd onDay (begins.noRows row stored)
  · intro username
    rw [begins.nothingPending]
    exact unstarted_budget begins.noRows (if_neg (begins.elsewhere username))
  · intro username
    rw [begins.unused]
    exact Credited.begins (begins.saved username) (begins.spent username) (begins.flushes username)
      (begins.elsewhere username)
  · intro username device seconds held
    rw [begins.noCounters] at held
    cases held

/-- However often the agent is killed and restarted, a day takes no more than was used of it, as long as
    no tick is killed after the hub has committed time of its own. -/
theorem crash_never_overcharges (begins : BeginsDay day host) (actions : List HostAction)
    (onDay : Runs.StepsMeet (AgentHost.step settings digest deviceId) (HostOnDay settings day deviceId) host
      actions)
    (loses : Runs.StepsMeet (AgentHost.step settings digest deviceId) (LosesNoSpan settings digest deviceId)
      host actions) (username : String) :
    (Runs.run (AgentHost.step settings digest deviceId) host actions).store.globalSpentWallclock username
        day ≤
      (Runs.run (AgentHost.step settings digest deviceId) host actions).active username := by
  have inv := Runs.run_invariant_of_steps (NeverOvercharged deviceId day) host actions
    (begins_never_overcharged begins)
    (fun _ _ inv meets => step_never_overcharged settings digest inv meets.1 meets.2) (onDay.and loses)
  exact wallclock_within_active inv username

end Step

theorem laptop_begins : BeginsDay (Date.ofYmd 2027 1 1) laptopHost where
  saved _ := rfl
  spent _ := rfl
  flushes := by
    have tolerated : (30 : Int) ≤ cfg.regressionToleranceS := by decide
    intro username
    exact tolerated
  elsewhere := by
    have unset : "" ≠ (Date.ofYmd 2027 1 1).isoformat := by decide
    intro username
    exact unset
  nothingPending _ := rfl
  named _ _ := rfl
  noRows _ stored := absurd stored List.not_mem_nil
  noCounters _ _ := rfl
  unused _ := rfl

/-- Killed before the request has gone out, and started again. -/
theorem crash_never_overcharges_unsent :
    let host := Runs.run (AgentHost.step {} tallyDigest "laptop") laptopHost
      [.use "kid" (.tick 600 true), .tick (hostTick (noonPlus 0) .lost (some 0)),
        .use "kid" (.tick 600 false), .tick (hostTick (noonPlus 600) .heard none)]
    host.store.globalSpentWallclock "kid" (Date.ofYmd 2027 1 1) ≤ host.active "kid" :=
  crash_never_overcharges {} tallyDigest laptop_begins
    [.use "kid" (.tick 600 true), .tick (hostTick (noonPlus 0) .lost (some 0)),
      .use "kid" (.tick 600 false), .tick (hostTick (noonPlus 600) .heard none)]
    ⟨trivial, ⟨by decide, by decide, by decide⟩, trivial, ⟨by decide, by decide, by decide⟩, trivial⟩
    ⟨trivial, fun _ commits => absurd rfl commits, trivial, fun dead => absurd rfl dead, trivial⟩ "kid"

/-- Killed once the hub has committed: after ten idle minutes the ten active ones are sent a second time,
    at another place. -/
theorem crash_counts_minutes_twice :
    let host := Runs.run (AgentHost.step {} tallyDigest "laptop") laptopHost
      [.use "kid" (.tick 600 true), .tick (hostTick (noonPlus 0) .heard (some 0)),
        .use "kid" (.tick 600 false), .tick (hostTick (noonPlus 600) .heard none)]
    host.active "kid" = 600 ∧
      ¬ host.store.globalSpentWallclock "kid" (Date.ofYmd 2027 1 1) ≤ host.active "kid" := by
  intro host
  have active : host.active "kid" = 600 := by decide
  have spans : host.store.daySpans "kid" (Date.ofYmd 2027 1 1) =
      [⟨noonPlus (-600), noonPlus 0⟩, ⟨noonPlus 0, noonPlus 600⟩] := by decide
  have sorted : ([⟨noonPlus (-600), noonPlus 0⟩, ⟨noonPlus 0, noonPlus 600⟩] : List Intervals.Span).Pairwise
      fun a b => a.start ≤ b.start := by decide
  have before : ∀ span ∈ ([⟨noonPlus (-600), noonPlus 0⟩, ⟨noonPlus 0, noonPlus 600⟩] : List Intervals.Span),
      noonPlus (-600) ≤ span.start := by decide
  have union : Intervals.unionLength (host.store.daySpans "kid" (Date.ofYmd 2027 1 1)) = 1200 * second := by
    rw [spans, Intervals.unionLength_eq_sweep sorted before]
    decide
  have charged : 1200 ≤ host.store.globalSpentWallclock "kid" (Date.ofYmd 2027 1 1) := by
    unfold HubStore.globalSpentWallclock
    rw [union]
    exact le_max_left _ _
  refine ⟨active, ?_⟩
  omega

end TimekprProof
