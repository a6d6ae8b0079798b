import TimekprHub.Hub.LimitQueries

namespace TimekprModel

structure UserSummaryRow where
  userId : UserId
  user : UserRow
  policy : Option Policy
  todayGlobalSpentS : Int
  todayEffectiveLimitS : Int
  activityState : ActivityState
  asOf : Option Instant
  gatedToday : Bool
  gateReleasedToday : Bool
  devicesActiveToday : List String

structure DayUsage where
  day : Date
  spentS : Int
  limitS : Int
  grantsS : Int
  overridden : Bool
  gated : Bool
  gateReleased : Bool
  hoursOverridden : Bool
  hoursOverrideIntervals : Option (List AllowedHourInterval)

structure DeviceUsage where
  deviceId : DeviceId
  deviceName : String
  spentS : Int

structure UsageHistory where
  days : List DayUsage
  selectedDay : Date
  selectedDayDevices : List DeviceUsage

namespace HubTables

variable (tables : HubTables)

def latestState (rows : List (CounterKey × ActivityState × Instant)) : Option (ActivityState × Instant) :=
  rows.foldl (fun best row =>
    match best with
    | none => some row.2
    | some held => if held.2 < row.2.2 then some row.2 else best) none

def latestActivityStatesBatch (userIds : List UserId) (day : Date) :
    Dict UserId (Option (ActivityState × Instant)) :=
  if userIds = [] then .empty
  else
    .ofList (Relational.aggregate (fun row => row.1.userId) latestState
      ((tables.counterRows fun key => key.userId ∈ userIds ∧ key.day = day).filterMap fun row =>
        row.2.activityState.map fun state => (row.1, state, row.2.updatedAt)))

def devicesActiveTodayBatch (collate : String → String → Bool) (userIds : List UserId) (day : Date) :
    Dict UserId (List String) :=
  if userIds = [] then .empty
  else
    .ofList (Relational.aggregate Prod.fst (fun rows => (rows.map Prod.snd).mergeSort collate)
      (((tables.counterRows fun key => key.userId ∈ userIds ∧ key.day = day).filter fun row =>
        row.2.spentSeconds > 0).filterMap fun row =>
          (tables.devices.get? row.1.deviceId).map fun device => (row.1.userId, device.name)))

def deviceSpentForDayByDevice (userId : UserId) (day : Date) : Dict DeviceId Int :=
  .ofList ((tables.counterRows fun key => key.userId = userId ∧ key.day = day).map fun row =>
    (row.1.deviceId, row.2.spentSeconds))

structure UserBatches where
  spentByUser : Dict UserId Int
  activityByUser : Dict UserId (Option (ActivityState × Instant))
  grantsByUser : Dict UserId Int
  overridesByUser : Dict UserId Int
  releasedUsers : List UserId
  devicesByUser : Dict UserId (List String)

def userBatches (collate : String → String → Bool) (users : List (UserId × UserRow)) (day : Date) :
    UserBatches :=
  let userIds := users.map Prod.fst
  let wallclockIds := (users.filter fun entry => entry.2.accountingMode = .wallclock).map Prod.fst
  let parallelIds := (users.filter fun entry => entry.2.accountingMode ≠ .wallclock).map Prod.fst
  { spentByUser := (tables.globalSpentWallclockBatch wallclockIds day).update
      (tables.globalSpentParallelBatch parallelIds day)
    activityByUser := tables.latestActivityStatesBatch userIds day
    grantsByUser := tables.grantsTotalsBatch userIds day
    overridesByUser := tables.dayOverridesBatch userIds day
    releasedUsers := tables.gateReleasesBatch userIds day
    devicesByUser := tables.devicesActiveTodayBatch collate userIds day }

def userSummaryRow (batches : UserBatches) (day : Date) (now staleness : Int) (userId : UserId)
    (user : UserRow) : UserSummaryRow :=
  let reported := (batches.activityByUser.get? userId).getD none
  let activityState := match reported with
    | none => .loggedOut
    | some (state, asOf) => if now - asOf > staleness then .loggedOut else state
  let gated := isGatedWeekday (tables.user userId user) day
  let released := decide (userId ∈ batches.releasedUsers)
  let (policy, spent, limitToday) := match tables.currentPolicy user with
    | none => (none, 0, 0)
    | some policy =>
      let baseS := (batches.overridesByUser.get? userId).getD (baseDailyLimit policy day)
      (some policy, (batches.spentByUser.get? userId).getD 0,
        combineLimit baseS ((batches.grantsByUser.get? userId).getD 0) gated released)
  { userId
    user
    policy
    todayGlobalSpentS := spent
    todayEffectiveLimitS := limitToday
    activityState
    asOf := reported.map Prod.snd
    gatedToday := gated && !released
    gateReleasedToday := released
    devicesActiveToday := (batches.devicesByUser.get? userId).getD [] }

def summaryUsers (usernames : Option (List String)) : List (UserId × UserRow) :=
  tables.users.entries.filter fun entry => usernames.all fun names => entry.1 ∈ names

def computeUserSummaries (settings : Settings) (collate : String → String → Bool) (now : Instant)
    (usernames : Option (List String) := none) : List UserSummaryRow :=
  let day := (canonicalStamp now settings.tz).day
  let users := tables.summaryUsers usernames
  users.map fun entry =>
    tables.userSummaryRow (tables.userBatches collate users day) day now
      (3 * (settings.defaultNextPollMs * 1000)) entry.1 entry.2

structure DayHistories where
  spentByDay : Dict Date Int
  grantsByDay : Dict Date Int
  overridesByDay : Dict Date Int
  releasedDays : List Date
  hoursOverridesByDay : Dict Date (List AllowedHourInterval)

def dayHistories (userId : UserId) (startDay endDay : Date) : DayHistories where
  spentByDay := tables.globalSpentWallclockHistory userId startDay endDay
  grantsByDay := tables.grantsTotalsHistory userId startDay endDay
  overridesByDay := tables.dayOverridesHistory userId startDay endDay
  releasedDays := tables.gateReleasesHistory userId startDay endDay
  hoursOverridesByDay := tables.dayHourOverridesHistory userId startDay endDay

def dayUsage (histories : DayHistories) (userId : UserId) (user : UserRow) (policy : Option Policy)
    (day : Date) : DayUsage :=
  let grantsS := (histories.grantsByDay.get? day).getD 0
  let standing := match policy with
    | some policy => baseDailyLimit policy day
    | none => 0
  let gated := isGatedWeekday (tables.user userId user) day
  let released := decide (day ∈ histories.releasedDays)
  { day
    spentS := (histories.spentByDay.get? day).getD 0
    limitS := combineLimit ((histories.overridesByDay.get? day).getD standing) grantsS gated released
    grantsS
    overridden := (histories.overridesByDay.get? day).isSome
    gated
    gateReleased := released
    hoursOverridden := (histories.hoursOverridesByDay.get? day).isSome
    hoursOverrideIntervals := histories.hoursOverridesByDay.get? day }

def computeUsageHistory (userId : UserId) (user : UserRow) (policy : Option Policy) (numDays : Int)
    (tz : ZoneInfo) (now : Instant) : UsageHistory :=
  let endDay := (canonicalStamp now tz).day
  let startDay := endDay - (numDays - 1)
  let histories := tables.dayHistories userId startDay endDay
  let deviceSpent := tables.deviceSpentForDayByDevice userId endDay
  { days := (List.range numDays.toNat).map fun (offset : Nat) =>
      tables.dayUsage histories userId user policy (startDay + offset)
    selectedDay := endDay
    selectedDayDevices := (deviceSpent.entries.mergeSort fun a b => decide (b.2 ≤ a.2)).map fun entry =>
      { deviceId := entry.1
        deviceName := ((tables.devices.get? entry.1).map DeviceRow.name).getD "?"
        spentS := entry.2 } }

/-- The day's counters add up to what its activity covers, or to the largest of them if that is more. -/
def CountersMeetUnion (userId : UserId) (day : Date) : Prop :=
  sumSpent (tables.counterRows fun key => key.userId = userId ∧ key.day = day) =
    max (HubStore.roundedSeconds (Intervals.unionLength
        ((tables.activityIntervals.filter fun row => row.userId = userId ∧ row.day = day).map
          ActivityInterval.range)))
      ((maxSpent (tables.counterRows fun key => key.userId = userId ∧ key.day = day)).getD 0)

end HubTables

def twoDevices : HubTables where
  users := .ofList
    [("kid", { currentPolicyId := some "first", accountingMode := .parallel, gatedWeekdaysJson := [.thursday] })]
  policies := .ofList [("first", createInitialPolicy)]
  usageCounters := .ofList [(⟨"kid", "pad", 719163⟩, ⟨⟨600, some .draining⟩, 600 * second⟩),
    (⟨"kid", "tv", 719163⟩, ⟨⟨600, some .draining⟩, 600 * second⟩)]
  activityIntervals := [⟨"kid", "pad", 719163, 0, 600 * second, 600 * second⟩,
    ⟨"kid", "tv", 719163, 0, 600 * second, 600 * second⟩]
  grants := [⟨"kid", 719163, 900⟩, ⟨"kid", 719163, -300⟩]
  dayOverrides := .ofList [(("kid", 719163), 1800)]
  gateReleases := [("kid", 719163)]

def kidsSync : SyncUserRequest where
  username := "kid"
  cumulativeSpentS := 600
  observed := ⟨600, 600, 3600, true, true, .draining⟩
  policyVersionApplied := 1

end TimekprModel

namespace TimekprProof

open TimekprModel

section Pages

variable (tables : HubTables) {userId : UserId} {row : UserRow} {policy : Policy}

theorem batched_spent (collate : String → String → Bool) {users : List (UserId × UserRow)}
    (distinct : (users.map Prod.fst).Nodup) (listed : (userId, row) ∈ users) (day : Date) :
    (((tables.userBatches collate users day).spentByUser.get? userId).getD 0) =
      if row.accountingMode = .wallclock then tables.globalSpentWallclock userId day
      else tables.globalSpentParallel userId day := by
  have only : ∀ other, (userId, other) ∈ users → other = row := by
    intro other member
    have one := (Dict.lookup_eq_some distinct userId row).mpr listed
    have two := (Dict.lookup_eq_some distinct userId other).mpr member
    rw [one] at two
    exact (Option.some.inj two).symm
  have among : ∀ keep : UserRow → Bool,
      userId ∈ (users.filter fun entry => keep entry.2).map Prod.fst ↔ keep row = true := by
    intro keep
    rw [List.mem_map]
    constructor
    · rintro ⟨entry, member, rfl⟩
      obtain ⟨member, kept⟩ := List.mem_filter.mp member
      rw [← only entry.2 member]
      exact kept
    · intro kept
      exact ⟨(userId, row), List.mem_filter.mpr ⟨listed, kept⟩, rfl⟩
  have inWallclock := among fun other => decide (other.accountingMode = .wallclock)
  have inParallel := among fun other => decide (other.accountingMode ≠ .wallclock)
  unfold HubTables.userBatches
  simp only [Dict.get?_update]
  by_cases wallclock : row.accountingMode = .wallclock
  · have absent := batches_absent tables userId
      (mt inParallel.mp (by simp [wallclock])) day
    rw [absent.2, if_pos wallclock, Option.none_or]
    exact (wallclock_batch_agrees tables userId (inWallclock.mpr (decide_eq_true wallclock)) day).symm
  · have absent := batches_absent tables userId
      (mt inWallclock.mp (by simp [wallclock])) day
    rw [absent.1, if_neg wallclock, Option.or_none]
    exact (parallel_batch_agrees tables userId (inParallel.mpr (decide_eq_true wallclock)) day).symm

theorem user_summary (settings : Settings) (collate : String → String → Bool) (now : Instant)
    {usernames : Option (List String)} (held : tables.users.get? userId = some row)
    (current : tables.currentPolicy row = some policy) (shown : ∀ names ∈ usernames, userId ∈ names) :
    (∃ summary ∈ tables.computeUserSummaries settings collate now usernames, summary.userId = userId) ∧
      ∀ summary ∈ tables.computeUserSummaries settings collate now usernames, summary.userId = userId →
        summary.todayGlobalSpentS =
          (if row.accountingMode = .wallclock then
            tables.globalSpentWallclock userId (canonicalStamp now settings.tz).day
          else tables.globalSpentParallel userId (canonicalStamp now settings.tz).day) ∧
        summary.todayEffectiveLimitS =
          effectiveDailyLimit policy (tables.user userId row) (canonicalStamp now settings.tz).day := by
  have listed : (userId, row) ∈ tables.summaryUsers usernames := by
    apply List.mem_filter.mpr
    refine ⟨(Dict.get?_eq_some _ _ _).mp held, ?_⟩
    cases usernames with
    | none => rfl
    | some names => exact decide_eq_true (shown names rfl)
  have distinct : ((tables.summaryUsers usernames).map Prod.fst).Nodup :=
    tables.users.nodup.sublist (List.filter_sublist.map _)
  have member : userId ∈ (tables.summaryUsers usernames).map Prod.fst := List.mem_map_of_mem listed
  refine ⟨⟨_, List.mem_map_of_mem listed, rfl⟩, ?_⟩
  intro summary shown own
  obtain ⟨entry, inside, rfl⟩ := List.mem_map.mp shown
  have same : entry.1 = userId := own
  have mine : entry.2 = row := by
    have held' := (Dict.get?_eq_some _ entry.1 entry.2).mpr (List.mem_filter.mp inside).1
    rw [same, held] at held'
    exact (Option.some.inj held').symm
  rw [same, mine]
  constructor
  · simp only [HubTables.userSummaryRow, current]
    exact batched_spent tables collate distinct listed _
  · simp only [HubTables.userSummaryRow, current, HubTables.userBatches]
    rw [effective_daily_limit_rows, overrides_batch_agrees tables userId member,
      grants_batch_agrees tables userId member]
    congr 1
    rw [Bool.eq_iff_iff]
    exact decide_eq_true_iff.trans (releases_batch_agrees tables userId member _)

theorem history_today (today before : Int) : today - (before + 1 - 1) + before = today := by
  omega

theorem day_usage (today : Date) {startDay : Int} (started : startDay ≤ today) :
    let usage := tables.dayUsage (tables.dayHistories userId startDay today) userId row (some policy) today
    usage.day = today ∧ usage.spentS = tables.globalSpentWallclock userId today ∧
      usage.limitS = effectiveDailyLimit policy (tables.user userId row) today := by
  have within : startDay ≤ today ∧ today ≤ today := ⟨started, le_refl _⟩
  refine ⟨rfl, ?_, ?_⟩
  · simp only [HubTables.dayUsage, HubTables.dayHistories]
    exact (wallclock_history_agrees tables userId within).symm
  · simp only [HubTables.dayUsage, HubTables.dayHistories]
    rw [effective_daily_limit_rows, overrides_history_agrees tables userId within,
      grants_history_agrees tables userId within]
    congr 1
    rw [Bool.eq_iff_iff]
    exact decide_eq_true_iff.trans (releases_history_agrees tables userId within)

theorem usage_history_last (now : Instant) (tz : ZoneInfo) {numDays : Int} (some : 1 ≤ numDays) :
    ∃ usage, (tables.computeUsageHistory userId row (Option.some policy) numDays tz now).days.getLast? =
        Option.some usage ∧ usage.day = (canonicalStamp now tz).day ∧
      usage.spentS = tables.globalSpentWallclock userId (canonicalStamp now tz).day ∧
      usage.limitS = effectiveDailyLimit policy (tables.user userId row) (canonicalStamp now tz).day := by
  obtain ⟨before, rfl⟩ : ∃ before : Nat, numDays = before + 1 := ⟨(numDays - 1).toNat, by omega⟩
  have count : ((before : Int) + 1).toNat = before + 1 := by omega
  unfold HubTables.computeUsageHistory
  generalize (canonicalStamp now tz).day = today
  have last : (today - ((before : Int) + 1 - 1) : Int) + (before : Int) = today := history_today today before
  have started : (today - ((before : Int) + 1 - 1) : Int) ≤ today := by
    have shift : ∀ day : Int, day - ((before : Int) + 1 - 1) ≤ day := by omega
    exact shift today
  simp only [count, List.range_succ, List.map_append, List.map_singleton, List.getLast?_concat]
  refine ⟨_, rfl, ?_⟩
  have usage := @day_usage tables userId row policy today _ started
  change (tables.dayUsage _ userId row (Option.some policy)
    (today - ((before : Int) + 1 - 1) + (before : Int) : Int)).day = today ∧ _
  rw [last]
  exact usage

end Pages

section Agreement

variable (tables : HubTables) (settings : Settings) (collate : String → String → Bool)
  (digest : PolicyPayload → String) (device : Device) (req : SyncUserRequest) (now : Instant)
  {userId : UserId} {row : UserRow} {policy : Policy} {usernames : Option (List String)} {numDays : Int}

/-- The dashboard's limit, the statistics page's and the one `/sync` answers are the same. -/
theorem limits_agree (held : tables.users.get? userId = some row)
    (current : tables.currentPolicy row = some policy) (shown : ∀ names ∈ usernames, userId ∈ names)
    (someDay : 1 ≤ numDays) :
    let day := (canonicalStamp now settings.tz).day
    let limitS := (userResponse digest tables.store device userId policy day req).effectiveLimitTodayS
    limitS = effectiveDailyLimit policy (tables.store.user userId) day ∧
      (∃ summary ∈ tables.computeUserSummaries settings collate now usernames, summary.userId = userId) ∧
      (∀ summary ∈ tables.computeUserSummaries settings collate now usernames, summary.userId = userId →
        summary.todayEffectiveLimitS = limitS) ∧
      ∃ usage, (tables.computeUsageHistory userId row (some policy) numDays settings.tz now).days.getLast? =
        some usage ∧ usage.day = day ∧ usage.limitS = limitS := by
  intro day limitS
  have answered : limitS = effectiveDailyLimit policy (tables.user userId row) day := by
    rw [← tables.store_user held]
    exact (userResponse_frame digest tables.store device userId policy day req).2.1
  obtain ⟨listed, summaries⟩ := user_summary tables settings collate now held current shown
  obtain ⟨usage, last, onDay, _, limit⟩ :=
    @usage_history_last tables userId row policy now settings.tz numDays someDay
  refine ⟨?_, listed, ?_, usage, last, onDay, ?_⟩
  · rw [answered, tables.store_user held]
  · intro summary member own
    rw [(summaries summary member own).2, answered]
  · rw [limit, answered]

/-- The three spends are the same exactly when the user's devices share the clock or their counters add
    up to no more than it. -/
theorem spends_agree_iff (held : tables.users.get? userId = some row)
    (current : tables.currentPolicy row = some policy) (shown : ∀ names ∈ usernames, userId ∈ names)
    (someDay : 1 ≤ numDays) :
    let day := (canonicalStamp now settings.tz).day
    let spentS := (userResponse digest tables.store device userId policy day req).globalSpentS
    ((∀ summary ∈ tables.computeUserSummaries settings collate now usernames, summary.userId = userId →
        summary.todayGlobalSpentS = spentS) ∧
      ∃ usage, (tables.computeUsageHistory userId row (some policy) numDays settings.tz now).days.getLast? =
        some usage ∧ usage.day = day ∧ usage.spentS = spentS) ↔
      row.accountingMode = .wallclock ∨ tables.CountersMeetUnion userId day := by
  intro day spentS
  have answered : spentS = if row.accountingMode = .wallclock then tables.globalSpentWallclock userId day
      else tables.globalSpentParallel userId day := by
    have figure := (userResponse_figures digest tables.store device userId policy day req).1
    rw [HubStore.daySpent, tables.store_user held, store_spent_wallclock, store_spent_parallel] at figure
    change spentS = _ at figure
    rw [figure, HubTables.user]
    cases row.accountingMode with
    | wallclock => rfl
    | parallel => rfl
  have shared : tables.CountersMeetUnion userId day ↔
      tables.globalSpentParallel userId day = tables.globalSpentWallclock userId day := by
    rw [HubTables.CountersMeetUnion, global_spent_wallclock_total, wallclockTotal,
      HubTables.globalSpentParallel, sqlSum_getD]
    rfl
  obtain ⟨_, summaries⟩ := user_summary tables settings collate now held current shown
  obtain ⟨usage, last, onDay, spent, _⟩ :=
    @usage_history_last tables userId row policy now settings.tz numDays someDay
  have page : (∃ usage, (tables.computeUsageHistory userId row (some policy) numDays settings.tz
      now).days.getLast? = some usage ∧ usage.day = day ∧ usage.spentS = spentS) ↔
        tables.globalSpentWallclock userId day = spentS := by
    constructor
    · rintro ⟨usage', last', _, spent'⟩
      rw [last] at last'
      cases last'
      rw [← spent, spent']
    · intro same
      exact ⟨usage, last, onDay, spent.trans same⟩
  have dashboard : ∀ summary ∈ tables.computeUserSummaries settings collate now usernames,
      summary.userId = userId → summary.todayGlobalSpentS = spentS := by
    intro summary member own
    rw [(summaries summary member own).1, answered]
  rw [page, and_iff_right dashboard, shared, answered]
  by_cases wallclock : row.accountingMode = .wallclock
  · simp [wallclock]
  · rw [if_neg wallclock, or_iff_right wallclock]
    exact eq_comm

end Agreement

theorem limits_agree_two_devices :
    let day := (canonicalStamp (600 * second) utc).day
    let limitS := (userResponse (fun _ => "") twoDevices.store {} "kid" createInitialPolicy day
      kidsSync).effectiveLimitTodayS
    limitS = effectiveDailyLimit createInitialPolicy (twoDevices.store.user "kid") day ∧
      (∃ summary ∈ twoDevices.computeUserSummaries {} (fun _ _ => true) (600 * second), summary.userId = "kid") ∧
      (∀ summary ∈ twoDevices.computeUserSummaries {} (fun _ _ => true) (600 * second),
        summary.userId = "kid" → summary.todayEffectiveLimitS = limitS) ∧
      ∃ usage, (twoDevices.computeUsageHistory "kid"
          { currentPolicyId := some "first", accountingMode := .parallel, gatedWeekdaysJson := [.thursday] }
          (some createInitialPolicy) 30 utc
          (600 * second)).days.getLast? = some usage ∧ usage.day = day ∧ usage.limitS = limitS :=
  limits_agree twoDevices {} _ _ {} kidsSync (600 * second) rfl rfl (by intro _ none; cases none) (by decide)

theorem spends_agree_iff_two_devices :
    let day := (canonicalStamp (600 * second) utc).day
    let spentS := (userResponse (fun _ => "") twoDevices.store {} "kid" createInitialPolicy day
      kidsSync).globalSpentS
    ((∀ summary ∈ twoDevices.computeUserSummaries {} (fun _ _ => true) (600 * second),
        summary.userId = "kid" → summary.todayGlobalSpentS = spentS) ∧
      ∃ usage, (twoDevices.computeUsageHistory "kid"
          { currentPolicyId := some "first", accountingMode := .parallel, gatedWeekdaysJson := [.thursday] }
          (some createInitialPolicy) 30 utc (600 * second)).days.getLast? = some usage ∧ usage.day = day ∧
            usage.spentS = spentS) ↔
      AccountingMode.parallel = .wallclock ∨ twoDevices.CountersMeetUnion "kid" day :=
  spends_agree_iff twoDevices {} _ _ {} kidsSync (600 * second) rfl rfl (by intro _ none; cases none) (by decide)

/-- `/sync` charges both devices, the statistics page shows the ten minutes on the clock. -/
theorem statistics_page_undercounts :
    (userResponse (fun _ => "") twoDevices.store {} "kid" createInitialPolicy 719163 kidsSync).globalSpentS =
        1200 ∧
      ∃ usage, (twoDevices.computeUsageHistory "kid"
        { currentPolicyId := some "first", accountingMode := .parallel, gatedWeekdaysJson := [.thursday] }
        (some createInitialPolicy) 30 utc (600 * second)).days.getLast? = some usage ∧ usage.spentS = 600 := by
  constructor
  · rw [(userResponse_figures _ twoDevices.store {} "kid" createInitialPolicy 719163 kidsSync).1]
    decide
  · have spans : Intervals.unionLength
        ((twoDevices.activityIntervals.filter fun row => row.userId = "kid" ∧ row.day = 719163).map
          ActivityInterval.range) = 600 * second := by
      rw [@Intervals.unionLength_eq_sweep _ (by decide) 0 (by decide)]
      decide
    have today : (canonicalStamp (600 * second) utc).day = 719163 := by decide
    obtain ⟨usage, last, _, spent, _⟩ := @usage_history_last twoDevices "kid"
      { currentPolicyId := some "first", accountingMode := .parallel, gatedWeekdaysJson := [.thursday] }
      createInitialPolicy (600 * second) utc 30 (by decide)
    refine ⟨usage, last, ?_⟩
    rw [spent, today, global_spent_wallclock_total, wallclockTotal, spans]
    decide

end TimekprProof
