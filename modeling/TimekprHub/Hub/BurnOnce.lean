import Mathlib.Algebra.BigOperators.Ring.List
import TimekprHub.Hub.Counters
import TimekprHub.Hub.DayCharge
import TimekprHub.Hub.SpanBudget

namespace TimekprModel

universe u

variable {σ : Type u}

/-- What a device has stored of a user's day, and what it still has to send, is no more than it has
    counted. -/
def SpanBudget (day : Date) (store : HubStore) (deviceId : DeviceId) (username : String)
    (userState : UserState) (spans : List ActiveSpan) : Prop :=
  store.storedLength ⟨username, deviceId, day⟩ + store.unsentLength deviceId spans ≤
    second * userState.countedOn day.isoformat

structure RowsPaid (day : Date) (store : HubStore) : Prop where
  nonneg : ∀ userId deviceId, ∀ seconds ∈ store.spent ⟨userId, deviceId, day⟩, 0 ≤ seconds
  paid : ∀ userId deviceId, store.storedLength ⟨userId, deviceId, day⟩ ≤
    second * (store.spent ⟨userId, deviceId, day⟩).getD 0
  counted : ∀ row ∈ store.activityIntervals, row.day = day →
    (store.spent ⟨row.userId, row.deviceId, day⟩).isSome

structure BurnedOnce (day : Date) (house : Household) : Prop where
  named : ∀ deviceId username, house.store.userOf deviceId username = username
  agents : ∀ deviceId username, SpanBudget day house.store deviceId username
    ((house.agents deviceId).user username) ((house.agents deviceId).user username).pendingSpans
  rows : RowsPaid day house.store

def OnDay (settings : Settings) (day : Date) (house : Household) : HouseholdAction σ → Prop
  | .administer _ _ => True
  | .tick tick =>
    tick.today (house.agents tick.deviceId) = day.isoformat ∧
      (canonicalStamp tick.hubNow settings.tz).day = day ∧
      (tick.managedUsers.map Prod.fst).Nodup ∧
      ∀ username obs, (username, some obs) ∈ tick.managedUsers → 0 ≤ obs.spentDayS

end TimekprModel

namespace TimekprProof

open TimekprModel

universe u

variable {σ : Type u}

section Totals

variable {day : Date} {store : HubStore}

theorem stored_of_day (userId : UserId) (deviceId : DeviceId) :
    (store.activityIntervals.filter fun row => row.userId = userId ∧ row.day = day).filter
        (fun row => row.deviceId = deviceId) =
      store.activityIntervals.filter fun row =>
        (⟨row.userId, row.deviceId, row.day⟩ : CounterKey) = ⟨userId, deviceId, day⟩ := by
  rw [List.filter_filter]
  apply List.filter_congr
  intro row _
  simp only [CounterKey.mk.injEq, Bool.decide_and]
  cases decide (row.deviceId = deviceId) <;> simp

def countedDevices (store : HubStore) (userId : UserId) (day : Date) : List DeviceId :=
  (store.counters.entries.filter (ofDay userId day)).map fun entry => entry.1.deviceId

theorem mem_countedDevices (userId : UserId) (deviceId : DeviceId) :
    deviceId ∈ countedDevices store userId day ↔ (store.spent ⟨userId, deviceId, day⟩).isSome := by
  rw [countedDevices, List.mem_map, ← counters_get?, Option.isSome_iff_exists]
  constructor
  · intro ⟨⟨⟨user, device, date⟩, seconds⟩, member, same⟩
    obtain ⟨listed, own⟩ := List.mem_filter.mp member
    obtain ⟨rfl, rfl⟩ := of_decide_eq_true own
    cases same
    exact ⟨seconds, (Dict.get?_eq_some _ _ _).mpr listed⟩
  · intro ⟨seconds, held⟩
    refine ⟨(⟨userId, deviceId, day⟩, seconds), List.mem_filter.mpr ⟨?_, ?_⟩, rfl⟩
    · exact (Dict.get?_eq_some _ _ _).mp held
    · simp [ofDay]

theorem countedDevices_nodup (userId : UserId) : (countedDevices store userId day).Nodup := by
  apply List.Nodup.map_on
  · intro a listed b listed' same
    obtain ⟨inside, own⟩ := List.mem_filter.mp listed
    obtain ⟨inside', own'⟩ := List.mem_filter.mp listed'
    have keys : a.1 = b.1 := by
      obtain ⟨⟨user, device, date⟩, seconds⟩ := a
      obtain ⟨⟨user', device', date'⟩, seconds'⟩ := b
      obtain ⟨rfl, rfl⟩ := of_decide_eq_true own
      obtain ⟨rfl, rfl⟩ := of_decide_eq_true own'
      cases same
      rfl
    have held := (Dict.get?_eq_some _ _ _).mpr inside
    have held' := (Dict.get?_eq_some _ _ _).mpr inside'
    rw [← keys, held] at held'
    exact Prod.ext keys (Option.some.inj held')
  · exact store.counters.nodup_entries.filter _

theorem countedDevices_sum (userId : UserId) :
    ((countedDevices store userId day).map fun deviceId =>
        second * (store.spent ⟨userId, deviceId, day⟩).getD 0).sum =
      second * store.globalSpentParallel userId day := by
  have seconds : (countedDevices store userId day).map (fun deviceId =>
      second * (store.spent ⟨userId, deviceId, day⟩).getD 0) =
        (store.dayCounters userId day).map (second * ·) := by
    rw [countedDevices, dayCounters_eq, List.map_map, List.map_map]
    apply List.map_congr_left
    intro ⟨⟨user, device, date⟩, held⟩ member
    obtain ⟨listed, own⟩ := List.mem_filter.mp member
    obtain ⟨rfl, rfl⟩ := of_decide_eq_true own
    have shown := (Dict.get?_eq_some _ _ _).mpr listed
    rw [counters_get?] at shown
    simp only [Function.comp_apply, shown, Option.getD_some]
  rw [seconds, HubStore.globalSpentParallel, List.sum_map_mul_left, List.map_id']

theorem union_le_parallel (rows : RowsPaid day store) (userId : UserId) :
    Intervals.unionLength (store.daySpans userId day) ≤ second * store.globalSpentParallel userId day := by
  have lengths := Intervals.unionLength_le_sum (store.daySpans userId day)
  rw [HubStore.daySpans, List.map_map] at lengths
  refine lengths.trans ?_
  rw [← countedDevices_sum]
  refine GroupedSum.total_le_of_groups ActivityInterval.deviceId (countedDevices_nodup userId) _ _ ?_ ?_
  · intro row member
    obtain ⟨stored, own⟩ := List.mem_filter.mp member
    obtain ⟨rfl, sameDay⟩ := of_decide_eq_true own
    exact (mem_countedDevices _ _).mpr (rows.counted row stored sameDay)
  · intro deviceId _
    rw [stored_of_day]
    exact rows.paid userId deviceId

theorem largest_le_parallel (rows : RowsPaid day store) (userId : UserId) :
    (store.dayCounters userId day).max?.getD 0 ≤ store.globalSpentParallel userId day := by
  have nonneg : ∀ seconds ∈ store.dayCounters userId day, 0 ≤ seconds := by
    intro seconds listed
    obtain ⟨deviceId, held⟩ := (mem_dayCounters store userId day seconds).mp listed
    exact rows.nonneg userId deviceId seconds held
  have sum_nonneg := List.sum_nonneg nonneg
  cases shown : (store.dayCounters userId day).max? with
  | none => exact sum_nonneg
  | some largest =>
    have listed := (List.max?_eq_some_iff.mp shown).1
    exact List.single_le_sum nonneg largest listed

theorem wallclock_le_parallel (rows : RowsPaid day store) (userId : UserId) :
    store.globalSpentWallclock userId day ≤ store.globalSpentParallel userId day := by
  have rounded := roundedSeconds_mono (union_le_parallel rows userId)
  have whole : HubStore.roundedSeconds (second * store.globalSpentParallel userId day) =
      store.globalSpentParallel userId day := by
    simp only [HubStore.roundedSeconds, second]
    omega
  rw [whole] at rounded
  exact max_le rounded (largest_le_parallel rows userId)

end Totals

section Draft

variable {day : Date} {store : HubStore} {deviceId : DeviceId}

theorem budget_counter_nonneg {username : String} {userState : UserState} {spans : List ActiveSpan}
    (budget : SpanBudget day store deviceId username userState spans) :
    0 ≤ userState.countedOn day.isoformat := by
  have stored := storedLength_nonneg store ⟨username, deviceId, day⟩
  have unsent := unsentLength_nonneg store deviceId spans
  unfold SpanBudget at budget
  simp only [second] at budget
  omega

theorem draft_budget {now : Instant} {username : String} {managedUsers : List (String × Option UserObservation)}
    {before : UserState} {draft : Draft} (named : day.isoformat ≠ "")
    (spent : ∀ obs, (username, some obs) ∈ managedUsers → 0 ≤ obs.spentDayS)
    (budget : SpanBudget day store deviceId username before before.pendingSpans)
    (drafted : DraftedUser day.isoformat now username managedUsers before draft) :
    SpanBudget day store deviceId username (draft.state.user username) (offered draft username) := by
  cases drafted with
  | unread state observed _ =>
    rw [offered, state, observed, Option.bind_none, Option.toList_none, List.append_nil]
    exact budget
  | read obs listed state observed _ =>
    have counter := @measure_burned before obs day.isoformat now named (spent obs listed)
    have own : store.unsentLength deviceId (measure before obs day.isoformat now).span.toList ≤
        second * (measure before obs day.isoformat now).burnedThisTickS := by
      refine (unsentLength_le_length store deviceId _).trans ?_
      cases emitted : (measure before obs day.isoformat now).span with
      | none =>
        have burned := measure_burned_nonneg before obs day.isoformat now
        simp only [Option.map_none, Option.getD_none, second]
        omega
      | some span => exact tickSpan_length emitted
    have kept : (measure before obs day.isoformat now).userState.pendingSpans = before.pendingSpans := by
      obtain ⟨_, _, _, same⟩ := measure_frame day.isoformat now before obs
      rw [same]
    unfold SpanBudget at budget ⊢
    rw [offered, state, observed, Option.bind_some, kept, unsentLength_append, measure_countedOn, counter]
    simp only [second] at budget own ⊢
    omega

theorem drafted_requests {now : Instant} {username : String}
    {managedUsers : List (String × Option UserObservation)} {before : UserState} {draft : Draft}
    (drafted : DraftedUser day.isoformat now username managedUsers before draft) :
    requestsOf username draft.syncUsers = [] ∧ draft.state.user username = before ∨
      ∃ req, requestsOf username draft.syncUsers = [req] ∧ req.activeSpans = offered draft username ∧
        req.cumulativeSpentS = (draft.state.user username).countedOn day.isoformat := by
  cases drafted with
  | unread state _ reqs => exact .inl ⟨reqs, state⟩
  | read obs _ state observed reqs =>
    refine .inr ⟨_, reqs, ?_, ?_⟩
    · rw [offered, state, observed]
      rfl
    · rw [state, measure_countedOn]
      rfl

end Draft

section Commit

variable {day : Date} {store later : HubStore} {deviceId : DeviceId} {draft : Draft}

theorem committed_total (named : ∀ username, store.userOf deviceId username = username)
    (recorded : Recorded deviceId day draft.syncUsers store later) {now : Instant} {username : String}
    {managedUsers : List (String × Option UserObservation)} {before : UserState}
    (drafted : DraftedUser day.isoformat now username managedUsers before draft) :
    later.storedLength ⟨username, deviceId, day⟩ + later.unsentLength deviceId (offered draft username) ≤
      store.storedLength ⟨username, deviceId, day⟩ +
        store.unsentLength deviceId (offered draft username) := by
  have stored := storedLength_committed recorded named username
  rcases drafted_requests drafted with ⟨reqs, _⟩ | ⟨req, reqs, spans, _⟩
  · have unsent := unsentLength_antitone recorded deviceId (offered draft username)
    have none : store.unsentLength deviceId [] = 0 := rfl
    rw [reqs, List.flatMap_nil, none] at stored
    omega
  · have sent := unsentLength_committed recorded username
    rw [reqs, List.flatMap_singleton, spans] at stored sent
    omega

theorem committed_counter (recorded : Recorded deviceId day draft.syncUsers store later) (key : CounterKey) :
    (∃ seconds, store.spent key = some seconds ∧ seconds ≤ (later.spent key).getD 0) ∨
      store.spent key = none := by
  cases held : store.spent key with
  | none => exact .inr rfl
  | some seconds =>
    refine .inl ⟨seconds, rfl, ?_⟩
    rw [recorded.spent, held, HighWater.mergeAll_some]
    exact HighWater.le_max?_getD (List.mem_cons_self ..) 0

theorem committed_report (named : ∀ username, store.userOf deviceId username = username)
    (recorded : Recorded deviceId day draft.syncUsers store later) {username : String}
    {req : SyncUserRequest} (listed : req ∈ requestsOf username draft.syncUsers) :
    req.cumulativeSpentS ≤ (later.spent ⟨username, deviceId, day⟩).getD 0 := by
  rw [recorded.spent, HighWater.mergeAll_eq_max?]
  apply HighWater.le_max?_getD
  obtain ⟨asked, own⟩ := List.mem_filter.mp listed
  have same := of_decide_eq_true own
  refine List.mem_append_right _ (List.mem_map.mpr ⟨req, List.mem_filter.mpr ⟨asked, ?_⟩, rfl⟩)
  rw [named, same]
  exact decide_eq_true rfl

theorem committed_mem (named : ∀ username, store.userOf deviceId username = username)
    (recorded : Recorded deviceId day draft.syncUsers store later) {userId : UserId} {device : DeviceId}
    {seconds : Int} (shown : seconds ∈ later.spent ⟨userId, device, day⟩) :
    seconds ∈ store.spent ⟨userId, device, day⟩ ∨
      ∃ req ∈ requestsOf userId draft.syncUsers, req.cumulativeSpentS = seconds := by
  rw [Option.mem_def, recorded.spent] at shown
  rcases HighWater.mergeAll_mem shown with held | reported
  · exact .inl held
  · obtain ⟨req, counted, same⟩ := List.mem_map.mp reported
    obtain ⟨asked, own⟩ := List.mem_filter.mp counted
    have keyed := congrArg CounterKey.userId (of_decide_eq_true own)
    simp only [named] at keyed
    exact .inr ⟨req, List.mem_filter.mpr ⟨asked, decide_eq_true keyed⟩, same⟩

theorem drafted_report {now : Instant} {username : String}
    {managedUsers : List (String × Option UserObservation)} {before : UserState}
    (drafted : DraftedUser day.isoformat now username managedUsers before draft) {req : SyncUserRequest}
    (asked : req ∈ requestsOf username draft.syncUsers) :
    req.cumulativeSpentS = (draft.state.user username).countedOn day.isoformat := by
  rcases drafted_requests drafted with ⟨reqs, _⟩ | ⟨only, reqs, _, counter⟩
  · rw [reqs] at asked
    cases asked
  · rw [reqs, List.mem_singleton] at asked
    rw [asked, counter]

theorem committed_isSome (recorded : Recorded deviceId day draft.syncUsers store later) (key : CounterKey)
    (counted : (store.spent key).isSome ∨ store.reportsFor deviceId day draft.syncUsers key ≠ []) :
    (later.spent key).isSome := by
  rw [recorded.spent, HighWater.mergeAll_eq_max?, Option.isSome_iff_ne_none]
  intro none
  rw [List.max?_eq_none_iff, List.append_eq_nil_iff] at none
  rcases counted with held | reported
  · obtain ⟨seconds, shown⟩ := Option.isSome_iff_exists.mp held
    rw [shown] at none
    cases none.1
  · exact reported none.2

variable {now : Instant} {managedUsers : List (String × Option UserObservation)} {before : AgentState}
  (named : ∀ username, store.userOf deviceId username = username)
  (recorded : Recorded deviceId day draft.syncUsers store later)
  (drafted : ∀ username, DraftedUser day.isoformat now username managedUsers (before.user username) draft)
  (budget : ∀ username,
    SpanBudget day store deviceId username (draft.state.user username) (offered draft username))
  (rows : RowsPaid day store)

include named recorded drafted budget rows

theorem committed_nonneg (userId : UserId) (device : DeviceId) :
    ∀ seconds ∈ later.spent ⟨userId, device, day⟩, 0 ≤ seconds := by
  intro seconds shown
  rcases committed_mem named recorded shown with held | ⟨req, asked, rfl⟩
  · exact rows.nonneg userId device seconds held
  · rw [drafted_report (drafted userId) asked]
    exact budget_counter_nonneg (budget userId)

theorem committed_still_paid (userId : UserId) (device : DeviceId) :
    store.storedLength ⟨userId, device, day⟩ ≤ second * (later.spent ⟨userId, device, day⟩).getD 0 := by
  have paid := rows.paid userId device
  rcases committed_counter recorded ⟨userId, device, day⟩ with ⟨seconds, held, grows⟩ | absent
  · rw [held, Option.getD_some] at paid
    simp only [second] at paid ⊢
    omega
  · rw [absent, Option.getD_none] at paid
    have nonneg : 0 ≤ (later.spent ⟨userId, device, day⟩).getD 0 := by
      cases shown : later.spent ⟨userId, device, day⟩ with
      | none => exact le_refl 0
      | some seconds => exact committed_nonneg named recorded drafted budget rows userId device seconds shown
    simp only [second] at paid ⊢
    omega

theorem committed_paid (userId : UserId) (device : DeviceId) :
    later.storedLength ⟨userId, device, day⟩ ≤ second * (later.spent ⟨userId, device, day⟩).getD 0 := by
  have kept := committed_still_paid named recorded drafted budget rows userId device
  by_cases here : device = deviceId
  · subst here
    have stored := storedLength_committed recorded named userId
    rcases drafted_requests (drafted userId) with ⟨reqs, _⟩ | ⟨req, reqs, spans, counter⟩
    · have none : store.unsentLength device [] = 0 := rfl
      rw [reqs, List.flatMap_nil, none] at stored
      omega
    · have asked : req ∈ requestsOf userId draft.syncUsers := by
        rw [reqs]
        exact List.mem_singleton_self req
      have raised := committed_report named recorded asked
      have total : SpanBudget day store device userId _ _ := budget userId
      unfold SpanBudget at total
      rw [reqs, List.flatMap_singleton, spans] at stored
      rw [counter] at raised
      simp only [second] at total ⊢
      omega
  · have same := @storedLength_other deviceId day draft.syncUsers store later recorded
      ⟨userId, device, day⟩ here
    rw [same]
    exact kept

omit named drafted budget in
theorem committed_counted (row : ActivityInterval) (stored : row ∈ later.activityIntervals)
    (onDay : row.day = day) : (later.spent ⟨row.userId, row.deviceId, day⟩).isSome := by
  apply committed_isSome recorded
  rcases (recorded_rows recorded row).mp stored with old | ⟨earlier, rest, split, _⟩
  · exact .inl (rows.counted row old onDay)
  · right
    have reported : row ∈ store.reportedRows deviceId day draft.syncUsers := by
      rw [split]
      exact List.mem_append_right _ (List.mem_cons_self ..)
    obtain ⟨req, asked, span, _, _, rfl⟩ := mem_reportedRows.mp reported
    have counted : req.cumulativeSpentS ∈ store.reportsFor deviceId day draft.syncUsers
        ⟨store.userOf deviceId req.username, deviceId, day⟩ :=
      List.mem_map.mpr ⟨req, List.mem_filter.mpr ⟨asked, decide_eq_true rfl⟩, rfl⟩
    exact List.ne_nil_of_mem counted

theorem committed_rows : RowsPaid day later where
  nonneg := committed_nonneg named recorded drafted budget rows
  paid := committed_paid named recorded drafted budget rows
  counted := committed_counted recorded rows

end Commit

section Step

variable (settings : Settings) (digest : PolicyPayload → String) {day : Date}

theorem tick_drafted (tick : HouseholdTick σ) {state : AgentState} (today : tick.today state = day.isoformat)
    (distinct : (tick.managedUsers.map Prod.fst).Nodup) (username : String) :
    DraftedUser day.isoformat tick.now username tick.managedUsers (state.user username)
      (tick.draft state) := by
  have drafted := draft_user (tick.today state) tick.now username { state } distinct rfl rfl
  rw [today] at drafted
  have same : tick.draft state = tick.managedUsers.foldl (draftUser day.isoformat tick.now) { state } := by
    rw [← today]
    rfl
  rw [same]
  exact drafted

theorem tick_budget (tick : HouseholdTick σ) {state : AgentState} (store later : HubStore)
    {username : String}
    (budget : SpanBudget day later tick.deviceId username ((tick.draft state).state.user username)
      (offered (tick.draft state) username)) :
    SpanBudget day later tick.deviceId username
      ((tick.result state settings digest store).state.user username)
      ((tick.result state settings digest store).state.user username).pendingSpans := by
  have pending := runTick_pending tick.zones tick.tzName tick.agentVersion tick.enforcer
    (tick.reply settings digest store) state tick.device tick.managedUsers tick.now defaultPollMs username
  have unsent := unsentLength_sublist later tick.deviceId pending
  have counter : ((tick.result state settings digest store).state.user username).day =
        ((tick.draft state).state.user username).day ∧
      ((tick.result state settings digest store).state.user username).cumLocalS =
        ((tick.draft state).state.user username).cumLocalS := by
    rcases runTick_user tick.zones tick.tzName tick.agentVersion tick.enforcer
      (tick.reply settings digest store) state tick.device tick.managedUsers tick.now defaultPollMs username
      with ⟨same, _⟩ | ⟨observed, device, _, _, same, _⟩
    · rw [HouseholdTick.result, same]
      exact ⟨rfl, rfl⟩
    · rw [HouseholdTick.result, same]
      obtain ⟨day, counter, _⟩ := userTurn_counter tick.enforcer device username observed _ tick.now _
      exact ⟨day, counter⟩
  unfold SpanBudget UserState.countedOn at budget ⊢
  rw [counter.1, counter.2]
  exact (Int.add_le_add_left unsent _).trans budget

theorem step_burned_once {house : Household} {action : HouseholdAction σ} (burned : BurnedOnce day house)
    (onDay : OnDay settings day house action) :
    BurnedOnce day (house.step settings digest action) := by
  cases action with
  | administer users devices =>
    have agents : ∀ deviceId username, SpanBudget day { house.store with users, devices } deviceId username
        ((house.agents deviceId).user username) ((house.agents deviceId).user username).pendingSpans :=
      burned.agents
    exact ⟨burned.named, agents, burned.rows.nonneg, burned.rows.paid, burned.rows.counted⟩
  | tick tick =>
    obtain ⟨today, stamp, distinct, spent⟩ := onDay
    have named : ∀ deviceId username,
        (house.step settings digest (.tick tick)).store.userOf deviceId username = username := by
      intro deviceId username
      rw [step_userOf]
      exact burned.named deviceId username
    have drafted := tick_drafted tick today distinct
    have budget : ∀ username, SpanBudget day house.store tick.deviceId username
        ((tick.draft (house.agents tick.deviceId)).state.user username)
        (offered (tick.draft (house.agents tick.deviceId)) username) := by
      intro username
      exact draft_budget (Date.isoformat_ne_empty day) (spent username)
        (burned.agents tick.deviceId username) (drafted username)
    rcases step_store settings digest house tick with ⟨same, _⟩ | ⟨response, _, recorded⟩
    · refine ⟨named, ?_, ?_⟩
      · intro deviceId username
        rw [same]
        by_cases here : deviceId = tick.deviceId
        · subst here
          simp only [Household.step, Function.update_self]
          exact tick_budget settings digest tick house.store house.store (budget username)
        · simp only [Household.step, Function.update_of_ne here]
          exact burned.agents deviceId username
      · rw [same]
        exact burned.rows
    · rw [stamp] at recorded
      refine ⟨named, ?_, ?_⟩
      · intro deviceId username
        by_cases here : deviceId = tick.deviceId
        · subst here
          have paid := (committed_total (burned.named tick.deviceId) recorded (drafted username)).trans
            (budget username)
          simp only [Household.step, Function.update_self] at paid ⊢
          exact tick_budget settings digest tick house.store _ paid
        · have old := burned.agents deviceId username
          have stored := @storedLength_other tick.deviceId day _ house.store _ recorded
            ⟨username, deviceId, day⟩ here
          have unsent := unsentLength_antitone recorded deviceId
            ((house.agents deviceId).user username).pendingSpans
          unfold SpanBudget at old ⊢
          simp only [Household.step, Function.update_of_ne here] at stored unsent ⊢
          omega
      · exact committed_rows (burned.named tick.deviceId) recorded drafted budget burned.rows

theorem unstarted_budget {store : HubStore} (unstarted : ∀ row ∈ store.activityIntervals, row.day ≠ day)
    {deviceId : DeviceId} {username : String} {userState : UserState}
    (counted : userState.countedOn day.isoformat = 0) :
    SpanBudget day store deviceId username userState [] := by
  have stored : store.storedLength ⟨username, deviceId, day⟩ = 0 := by
    have none : store.activityIntervals.filter (fun row =>
        (⟨row.userId, row.deviceId, row.day⟩ : CounterKey) = ⟨username, deviceId, day⟩) = [] := by
      rw [List.filter_eq_nil_iff]
      intro row listed own
      exact unstarted row listed (congrArg CounterKey.day (of_decide_eq_true own))
    rw [HubStore.storedLength, none]
    rfl
  unfold SpanBudget
  rw [stored, counted]
  exact le_refl 0

theorem empty_burned_once (store : HubStore) : BurnedOnce day
    { store := { store with aliases := .empty, usageCounters := .empty, activityIntervals := [] } } := by
  refine ⟨fun _ _ => rfl, fun deviceId username => ?_, ⟨?_, fun _ _ => le_refl _, ?_⟩⟩
  · have counted : UserState.countedOn {} day.isoformat = 0 := by
      unfold UserState.countedOn
      split <;> rfl
    exact unstarted_budget (fun _ listed => absurd listed List.not_mem_nil) counted
  · intro userId deviceId seconds shown
    cases shown
  · intro row stored
    cases stored

/-- From fresh agents and an empty hub, whatever is lost on the way, the time a day has taken stays between
    the largest of a user's counters and their sum. -/
theorem wallclock_between_max_and_sum (store : HubStore) (actions : List (HouseholdAction σ))
    (onDay : Runs.StepsMeet (Household.step settings digest) (OnDay settings day)
      { store := { store with aliases := .empty, usageCounters := .empty, activityIntervals := [] } }
      actions) (userId : UserId) :
    let hub := (Runs.run (Household.step settings digest)
      { store := { store with aliases := .empty, usageCounters := .empty, activityIntervals := [] } }
      actions).store
    (hub.dayCounters userId day).max?.getD 0 ≤ hub.globalSpentWallclock userId day ∧
      hub.globalSpentWallclock userId day ≤ hub.globalSpentParallel userId day := by
  intro hub
  have burned := Runs.run_invariant_of_steps (BurnedOnce day) _ actions (empty_burned_once store)
    (fun _ _ burned => step_burned_once settings digest burned) onDay
  exact ⟨le_max_right _ _, wallclock_le_parallel burned.rows userId⟩

end Step

theorem laptop_readings (now hubNow : Instant) (delivery : Delivery) (username : String)
    (obs : UserObservation) (listed : (username, some obs) ∈ (laptopTick now hubNow delivery).managedUsers) :
    0 ≤ obs.spentDayS := by
  have only := List.mem_singleton.mp listed
  cases only
  decide

/-- The first sync is committed and its answer lost; ten minutes later the spans are sent again. -/
theorem wallclock_between_replayed :
    let hub := (Runs.run (Household.step {} tallyDigest) laptopHousehold
      [.tick (laptopTick (noonPlus 0) (noonPlus 1) .unheard),
        .tick (laptopTick (noonPlus 600) (noonPlus 601) .heard)]).store
    (hub.dayCounters "kid" (Date.ofYmd 2027 1 1)).max?.getD 0 ≤
        hub.globalSpentWallclock "kid" (Date.ofYmd 2027 1 1) ∧
      hub.globalSpentWallclock "kid" (Date.ofYmd 2027 1 1) ≤
        hub.globalSpentParallel "kid" (Date.ofYmd 2027 1 1) := by
  exact wallclock_between_max_and_sum {} tallyDigest laptopStore
    [.tick (laptopTick (noonPlus 0) (noonPlus 1) .unheard),
      .tick (laptopTick (noonPlus 600) (noonPlus 601) .heard)]
    ⟨⟨by decide, by decide, by decide, laptop_readings _ _ _⟩,
      ⟨by decide, by decide, by decide, laptop_readings _ _ _⟩, trivial⟩ "kid"

end TimekprProof
