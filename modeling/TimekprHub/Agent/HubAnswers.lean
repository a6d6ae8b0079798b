import TimekprHub.Agent.AnswerSafety

namespace TimekprModel

variable {F : Type}

/-- A field that a hub older than the field leaves out. -/
def optionalField (key : String) (value : Option (PyJson F)) : List (String × PyJson F) :=
  value.toList.map fun value => (key, value)

def OfflinePolicy.value : OfflinePolicy → String
  | .open => "open"
  | .capped => "capped"
  | .closed => "closed"

def EnforcementMode.value : EnforcementMode → String
  | enforce => "enforce"
  | observe => "observe"

def weekdaysJson (days : List Weekday) : PyJson F := .list (days.map fun day => .str day.token)

def intsJson (numbers : List Int) : PyJson F := .list (numbers.map .int)

def AllowedHourInterval.fields (interval : AllowedHourInterval) : List (String × PyJson F) :=
  [("hour", .int interval.hour), ("start_min", .int interval.startMin), ("end_min", .int interval.endMin),
    ("unaccounted", .bool interval.unaccounted)]

def PlayTimeActivity.fields (activity : PlayTimeActivity) : List (String × PyJson F) :=
  [("mask", .str activity.mask), ("description", .str activity.description)]

def PlayTimePayload.fields (playtime : PlayTimePayload) : List (String × PyJson F) :=
  [("enabled", .bool playtime.enabled),
    ("override_enabled", .bool playtime.overrideEnabled),
    ("unaccounted_intervals_enabled", .bool playtime.unaccountedIntervalsEnabled),
    ("allowed_weekdays", weekdaysJson playtime.allowedWeekdays),
    ("daily_limits_s", intsJson playtime.dailyLimitsS),
    ("activities", .list (playtime.activities.map fun activity => .dict activity.fields))]

def allowedHoursJson (allowedHours : AllowedHoursMap) : PyJson F :=
  .dict (allowedHours.entries.map fun entry =>
    (entry.1, .list (entry.2.map fun interval => .dict interval.fields)))

def PolicyPayload.fields (policy : PolicyPayload) : List (String × PyJson F) :=
  [("version", .int policy.version),
    ("daily_limits_s", intsJson policy.dailyLimitsS),
    ("allowed_hours", allowedHoursJson policy.allowedHours),
    ("allowed_weekdays", weekdaysJson policy.allowedWeekdays),
    ("weekly_limit_s", .int policy.weeklyLimitS),
    ("monthly_limit_s", .int policy.monthlyLimitS),
    ("lockout_type", .str policy.lockoutType.value),
    ("wake_from", (policy.wakeFrom.map .str).getD .none),
    ("wake_to", (policy.wakeTo.map .str).getD .none),
    ("track_inactive", .bool policy.trackInactive),
    ("hide_tray_icon", .bool policy.hideTrayIcon),
    ("playtime", .dict policy.playtime.fields),
    ("note", .str policy.note)]

def SyncUserResponse.fields (response : SyncUserResponse) : List (String × PyJson F) :=
  [("username", .str response.username),
    ("global_spent_s", .int response.globalSpentS),
    ("effective_limit_today_s", .int response.effectiveLimitTodayS),
    ("effective_week_limit_s", .int response.effectiveWeekLimitS),
    ("effective_month_limit_s", .int response.effectiveMonthLimitS),
    ("policy_version", .int response.policyVersion),
    ("policy", (response.policy.map fun policy => .dict policy.fields).getD .none)] ++
    optionalField "enforcement" (response.enforcement.map fun mode => .str mode.value) ++
    optionalField "policy_revision" (response.policyRevision.map .str) ++
    optionalField "offline_policy" (response.offlinePolicy.map fun policy => .str policy.value) ++
    optionalField "offline_grace_s" (response.offlineGraceS.map .int) ++
    optionalField "offline_cap_s" (response.offlineCapS.map .int)

def SyncResponse.fields (response : SyncResponse) : List (String × PyJson F) :=
  [("hub_tz", .str response.hubTz), ("day", .str response.day),
    ("users", .list (response.users.map fun user => .dict user.fields))] ++
    optionalField "next_poll_ms" (response.nextPollMs.map .int)

namespace HubOutcome

def syncEnd : HubOutcome → SyncEnd F
  | response answer => .answer (.dict answer.fields)
  | revoked => .revoked
  | unreachable => .unreachable

def processes (outcome : HubOutcome) (username : String) : Bool :=
  match outcome with
  | response answer => (answer.byUsername username).isSome
  | revoked | unreachable => false

end HubOutcome

namespace Unchecked

def UserState.of (userState : TimekprModel.UserState) : UserState F :=
  { day := userState.day
    cumLocalS := userState.cumLocalS
    rawPrevS := userState.rawPrevS
    lastEffectiveLimitTodayS := .int userState.lastEffectiveLimitTodayS
    lastGlobalSpentS := .int userState.lastGlobalSpentS
    lastHubContactUtc := userState.lastHubContactUtc
    lastOfflinePolicy := .str userState.lastOfflinePolicy.value
    lastOfflineGraceS := .int userState.lastOfflineGraceS
    lastOfflineCapS := .int userState.lastOfflineCapS
    cumLocalAtContactS := userState.cumLocalAtContactS
    lastTickUtc := userState.lastTickUtc
    pendingSpans := userState.pendingSpans }

structure Shows (state : TimekprModel.AgentState) (live : AgentState F) : Prop where
  hubTz : live.hubTz = .str state.hubTz
  user : ∀ username, live.user username = .of (state.user username)

structure DraftShows (draft : TimekprModel.Draft) (live : Draft F) : Prop where
  state : Shows draft.state live.state
  observations : live.observations = draft.observations

end Unchecked

end TimekprModel

namespace TimekprProof

open TimekprModel Fallible
open Unchecked (Shows DraftShows OfflineReadable zoneName eachUser)

variable {F : Type}

section Shown

variable {typed : AgentState} {live : Unchecked.AgentState F}

theorem shows_setUser (shows : Shows typed live) (username : String) (userState : UserState) :
    Shows (typed.setUser username userState) (live.setUser username (.of userState)) := by
  refine ⟨shows.hubTz, fun other => ?_⟩
  by_cases same : other = username
  · subst same
    rw [AgentState.user_setUser_same, Unchecked.user_setUser_same]
  · rw [AgentState.user_setUser_other _ _ same, Unchecked.user_setUser_other _ _ _ same]
    exact shows.user other

theorem draft_shows (today : String) (now : Instant) (shows : Shows typed live)
    (managedUsers : List (String × Option UserObservation)) :
    DraftShows (managedUsers.foldl (draftUser today now) { state := typed })
      (Unchecked.draftTick today live managedUsers now) := by
  have run : ∀ {draft : Draft} {liveDraft : Unchecked.Draft F}, DraftShows draft liveDraft →
      DraftShows (managedUsers.foldl (draftUser today now) draft)
        (managedUsers.foldl (Unchecked.draftUser today now) liveDraft) := by
    induction managedUsers with
    | nil => exact id
    | cons managed rest ih =>
      intro draft liveDraft here
      refine ih ?_
      obtain ⟨username, observed⟩ := managed
      cases observed with
      | none => exact here
      | some obs =>
        simp only [draftUser, Unchecked.draftUser, here.state.user username, here.observations]
        exact ⟨shows_setUser here.state username (measure (draft.state.user username) obs today now).userState, rfl⟩
  exact run ⟨shows, rfl⟩

theorem buffer_shows (userState : UserState) (span : Option ActiveSpan) :
    (Unchecked.bufferUnsentSpan (.of userState) span : Unchecked.UserState F) =
      .of (bufferUnsentSpan userState span) := by
  cases span with
  | none => rfl
  | some span => simp only [Unchecked.bufferUnsentSpan, bufferUnsentSpan, Unchecked.UserState.of]

universe u

variable {σ : Type u} (enforcer : TimekprEnforcer σ)

def TurnShows (turn : String → Observed → Unchecked.UserState F → Except PyException (Unchecked.UserState F))
    (now : Instant) (outcome : HubOutcome) : Prop :=
  ∀ username observed userState (device : σ), turn username observed (.of userState) =
    .ok (.of (userTurn enforcer device username observed userState now outcome).userState)

theorem eachUser_shows
    {turn : String → Observed → Unchecked.UserState F → Except PyException (Unchecked.UserState F)}
    {now : Instant} {outcome : HubOutcome} (turns : TurnShows enforcer turn now outcome)
    (entries : List (String × Observed)) (result : TickResult σ) (shows : Shows result.state live) :
    ∃ final, eachUser turn live entries = .ok final ∧
      Shows (entries.foldl (finishUser enforcer now outcome) result).state final := by
  induction entries generalizing live result with
  | nil => exact ⟨live, rfl, shows⟩
  | cons entry rest ih =>
    have turned := turns entry.1 entry.2 (result.state.user entry.1) result.device
    have next := shows_setUser shows entry.1
      (userTurn enforcer result.device entry.1 entry.2 (result.state.user entry.1) now outcome).userState
    obtain ⟨final, looped, same⟩ := ih (finishUser enforcer now outcome result entry) next
    refine ⟨final, bind_of_ok ?_ looped, same⟩
    dsimp only
    rw [shows.user entry.1, turned]
    rfl

theorem revoked_shows (now : Instant) :
    TurnShows (F := F) enforcer
      (fun _ observed userState => .ok (Unchecked.bufferUnsentSpan userState observed.span)) now .revoked := by
  intro username observed userState device
  dsimp only
  rw [buffer_shows]
  rfl

end Shown

theorem hub_users (response : SyncResponse) :
    UsersListed (response.fields : List (String × PyJson F))
      (response.users.map fun user => (.str user.username, .dict user.fields)) := by
  refine ⟨_, _, rfl, rfl, ?_⟩
  rw [List.forall₂_map_left_iff, List.forall₂_map_right_iff, List.forall₂_same]
  intro user _
  exact ⟨user.fields, rfl, rfl, rfl, rfl⟩

theorem hub_entryOf (response : SyncResponse) (username : String) :
    entryOf (response.users.map fun user => ((.str user.username, .dict user.fields) : PyJson F × PyJson F))
        username = (response.byUsername username).map fun user => .dict user.fields := by
  unfold entryOf SyncResponse.byUsername
  rw [← List.map_reverse, List.find?_map, Option.map_map]
  rfl

theorem lookup_optionalField (key asked : String) (value : Option (PyJson F)) :
    List.lookup asked (optionalField key value) = if asked = key then value else none := by
  cases value with
  | none => simp [optionalField]
  | some value =>
    unfold optionalField
    rw [Option.toList_some, List.map_singleton, Dict.lookup_cons]
    simp only [List.lookup_nil, eq_comm]

theorem hub_offline (response : SyncUserResponse) :
    List.lookup "offline_policy" (response.fields : List (String × PyJson F)) =
        response.offlinePolicy.map (fun policy => .str policy.value) ∧
      List.lookup "offline_grace_s" (response.fields : List (String × PyJson F)) =
        response.offlineGraceS.map .int ∧
      List.lookup "offline_cap_s" (response.fields : List (String × PyJson F)) =
        response.offlineCapS.map .int := by
  unfold SyncUserResponse.fields
  simp only [List.lookup_append, lookup_optionalField]
  refine ⟨?_, ?_, ?_⟩
  · simp [List.lookup_cons]
  · simp [List.lookup_cons]
  · simp [List.lookup_cons]

variable [PyFloat F]

theorem fieldOr_held {entries : List (String × PyJson F)} {key : String} {value default : PyJson F}
    (held : List.lookup key entries = some value) (given : value.truthy = true ∨ value = default) :
    fieldOr entries key default = value := by
  unfold fieldOr
  rw [held]
  by_cases truthy : value.truthy = true
  · rw [Option.filter_some_pos truthy]
    rfl
  · rw [Option.filter_some_neg (Bool.eq_false_iff.mpr truthy)]
    exact (given.resolve_left truthy).symm

theorem int_numeral (number : Int) : Numeral (PyJson.int number : PyJson F) := ⟨number, rfl⟩

theorem ints_numeral (numbers : List Int) : ∀ item ∈ (numbers.map PyJson.int : List (PyJson F)), Numeral item := by
  intro item listed
  obtain ⟨number, _, rfl⟩ := List.mem_map.mp listed
  exact int_numeral number

theorem token_numeral (day : Weekday) :
    ∃ number, (PyJson.str day.token : PyJson F).toInt = .ok number ∧ 1 ≤ number ∧ number ≤ 7 := by
  have read : PyText.int? day.token.toList = some (day.index + 1 : Int) := by
    cases day <;> decide
  refine ⟨day.index + 1, ?_, ?_⟩
  · simp only [PyJson.toInt, read]
  · have inside := day.index_lt
    omega

theorem tokens_within (days : List Weekday) : DaysWithin 7 (weekdaysJson days : PyJson F) := by
  refine ⟨_, rfl, ?_⟩
  intro item listed
  obtain ⟨day, _, rfl⟩ := List.mem_map.mp listed
  obtain ⟨number, read, atLeast, atMost⟩ := token_numeral (F := F) day
  exact ⟨number, read, by omega, atMost⟩

theorem weekdays_within (entries : List (String × PyJson F)) (days : List Weekday)
    (held : List.lookup "allowed_weekdays" entries = some (weekdaysJson days)) :
    DaysWithin 7 (fieldOr entries "allowed_weekdays" allWeekdaysJson) := by
  unfold fieldOr
  rw [held]
  by_cases filled : (weekdaysJson days : PyJson F).truthy = true
  · rw [Option.filter_some_pos filled]
    exact tokens_within days
  · rw [Option.filter_some_neg (Bool.eq_false_iff.mpr filled)]
    exact tokens_within allWeekdays

theorem hours_readable (allowedHours : AllowedHoursMap) :
    AllowedHoursReadable (allowedHoursJson allowedHours : PyJson F) := by
  refine ⟨_, rfl, ?_⟩
  intro entry listed
  obtain ⟨day, _, rfl⟩ := List.mem_map.mp listed
  refine ⟨_, rfl, ?_⟩
  intro item inside
  obtain ⟨interval, _, rfl⟩ := List.mem_map.mp inside
  refine ⟨interval.fields, rfl, ?_⟩
  intro key asked
  simp only [List.mem_cons, List.not_mem_nil, or_false] at asked
  rcases asked with rfl | rfl | rfl
  · exact ⟨_, rfl, int_numeral interval.hour⟩
  · exact ⟨_, rfl, int_numeral interval.startMin⟩
  · exact ⟨_, rfl, int_numeral interval.endMin⟩

theorem playTime_readable (playtime : PlayTimePayload) :
    PlayTimeReadable (.dict playtime.fields : PyJson F) := by
  refine ⟨playtime.fields, rfl, fun _ => ⟨⟨playtime.dailyLimitsS.map .int, ?_, ints_numeral _, ?_⟩,
    playtime.activities.map fun activity => .dict activity.fields, ?_, ?_⟩⟩
  · have filled : (intsJson playtime.dailyLimitsS : PyJson F).truthy = true := by
      cases limits : playtime.dailyLimitsS with
      | nil =>
        have seven := playtime.sevenLimits
        rw [limits] at seven
        cases seven
      | cons limit rest => rfl
    rw [fieldOr_held rfl (.inl filled)]
    rfl
  · rw [List.length_map, playtime.sevenLimits]
    exact weekdays_within playtime.fields playtime.allowedWeekdays rfl
  · have given : fieldOr playtime.fields "activities" (.list [] : PyJson F) =
        .list (playtime.activities.map fun activity => .dict activity.fields) := by
      apply fieldOr_held rfl
      cases playtime.activities with
      | nil => exact .inr rfl
      | cons activity rest => exact .inl rfl
    rw [given]
    rfl
  · intro item listed
    obtain ⟨activity, _, rfl⟩ := List.mem_map.mp listed
    exact ⟨activity.fields, rfl, rfl⟩

theorem policy_readable (policy : PolicyPayload) :
    PolicyReadable (.dict policy.fields : PyJson F) policy.dailyLimitsS.length := by
  refine ⟨policy.fields, intsJson policy.dailyLimitsS, policy.dailyLimitsS.map .int, rfl, rfl, rfl,
    ints_numeral _, List.length_map .., fun _ => ?_⟩
  have hours : fieldOr policy.fields "allowed_hours" (.dict [] : PyJson F) =
      allowedHoursJson policy.allowedHours := by
    apply fieldOr_held rfl
    unfold allowedHoursJson
    cases policy.allowedHours.entries with
    | nil => exact .inr rfl
    | cons entry rest => exact .inl rfl
  have playtime : fieldOr policy.fields "playtime" (.dict [] : PyJson F) = .dict policy.playtime.fields :=
    fieldOr_held rfl (.inl rfl)
  exact
    { weekdays := weekdays_within policy.fields policy.allowedWeekdays rfl
      weekly := ⟨_, rfl, int_numeral policy.weeklyLimitS⟩
      monthly := ⟨_, rfl, int_numeral policy.monthlyLimitS⟩
      allowedHours := hours ▸ hours_readable policy.allowedHours
      playtime := playtime ▸ playTime_readable policy.playtime }

theorem entry_readable (observed : Observed) (accepted : Bool) (response : SyncUserResponse) :
    EntryReadable observed accepted (response.fields : List (String × PyJson F)) := by
  constructor
  · refine ⟨.int response.effectiveLimitTodayS, .int response.globalSpentS, rfl, rfl,
      .int response.globalSpentS, .int response.effectiveLimitTodayS, rfl, rfl, ?_⟩
    exact ⟨_, planNum_ints _
      { limitTodayS := response.effectiveLimitTodayS, globalSpentS := response.globalSpentS } 0
      observed.forceAbsolute cfg⟩
  · intro _ policy carried
    have held : List.lookup "policy" (response.fields : List (String × PyJson F)) =
        some ((response.policy.map fun policy => .dict policy.fields).getD .none) := rfl
    rw [held] at carried
    obtain ⟨same, truthy⟩ := Option.filter_eq_some_iff.mp carried
    cases given : response.policy with
    | none =>
      rw [given] at same
      cases same
      cases truthy
    | some payload =>
      rw [given] at same
      cases same
      exact ⟨_, policy_readable payload, fun _ _ => rfl⟩

section Simulation

universe u

variable {σ : Type u} (enforcer : TimekprEnforcer σ)
variable {typed : AgentState} {live : Unchecked.AgentState F}

theorem zone_shown (shows : Shows typed live) (tzName : String) :
    zoneName live.hubTz tzName = .ok (if typed.hubTz = "" then tzName else typed.hubTz) := by
  rw [shows.hubTz]
  by_cases unset : typed.hubTz = ""
  · simp [zoneName, PyJson.truthy, unset]
  · simp [zoneName, PyJson.truthy, unset]

theorem min_ints (a b : Int) : ∃ least, PyNum.min (.int a) (.int b) = (.int least : PyNum F) := by
  unfold PyNum.min
  split
  · exact ⟨b, rfl⟩
  · exact ⟨a, rfl⟩

theorem typed_readable (obs : UserObservation) (userState : UserState) (now : Instant) :
    OfflineReadable obs (.of userState : Unchecked.UserState F) now := by
  constructor
  · intro _
    exact succeeds_ok _
  · intro _
    refine ⟨.int userState.lastGlobalSpentS, _, rfl, rfl, fun _ => ?_⟩
    obtain ⟨limitTodayS, least⟩ := min_ints (F := F) userState.lastEffectiveLimitTodayS
      (userState.lastGlobalSpentS + userState.lastOfflineCapS)
    refine ⟨.int userState.lastOfflineCapS, .int (userState.lastGlobalSpentS + userState.lastOfflineCapS),
      .int userState.lastEffectiveLimitTodayS, rfl, rfl, rfl, ?_⟩
    rw [least]
    exact ⟨_, planNum_ints _ { limitTodayS, globalSpentS := _ } 0 false cfg⟩

theorem answered_shows (accepted : String → Bool) (response : SyncResponse) (now : Instant) :
    TurnShows (F := F) enforcer (Unchecked.answeredUser accepted
        (response.users.map fun user => (.str user.username, .dict user.fields)) now)
      now (.response response) := by
  intro username observed userState device
  unfold Unchecked.answeredUser
  rw [hub_entryOf]
  cases named : response.byUsername username with
  | none =>
    simp only [userTurn, named, Option.map_none]
  | some userResponse =>
    obtain ⟨_, read⟩ := readEntry_succeeds.mpr
      ⟨userResponse.fields, rfl, entry_readable (F := F) observed (accepted username) userResponse⟩
    obtain ⟨_, _, _, _, _, turned⟩ := answeredTurn_frame enforcer device username observed userState userResponse now
    simp only [userTurn, named, turned, Option.map_some]
    obtain ⟨policy, grace, cap⟩ := hub_offline (F := F) userResponse
    unfold Unchecked.answeredTurn
    refine bind_of_ok ((getItem_dict ..).mpr rfl) ?_
    refine bind_of_ok ((getItem_dict ..).mpr rfl) ?_
    refine bind_of_ok (get_dict ..) ?_
    refine bind_of_ok (get_dict ..) ?_
    refine bind_of_ok (get_dict ..) ?_
    refine bind_of_ok read ?_
    rw [policy, grace, cap]
    simp only [Unchecked.UserState.of, rememberContact, Option.getD_map]
    rfl

theorem unreachable_shows (now : Instant) :
    TurnShows (F := F) enforcer (fun _ observed userState => Unchecked.unreachableTurn observed userState now)
      now .unreachable := by
  intro username observed userState device
  obtain ⟨_, applied⟩ := applyOfflinePolicy_succeeds.mpr
    (typed_readable (F := F) observed.obs (bufferUnsentSpan userState observed.span) now)
  obtain ⟨appliedOffsetS, offline⟩ := applyOfflinePolicy_frame enforcer device username observed.obs
    (bufferUnsentSpan userState observed.span) now
  have turned : (userTurn enforcer device username observed userState now .unreachable).userState =
      { bufferUnsentSpan userState observed.span with appliedOffsetS } := offline
  simp only [Unchecked.unreachableTurn]
  rw [buffer_shows, turned]
  exact bind_of_ok applied rfl

theorem capPoll_int (pollMs : Int) : Unchecked.capPoll (.int pollMs : PyNum F) = .int (min pollMs maxPollMs) := by
  simp only [Unchecked.capPoll, PyNum.above, decide_eq_true_eq]
  split
  · congr 1
    omega
  · congr 1
    omega

variable {draft : Draft} {liveDraft : Unchecked.Draft F} (device : σ)

theorem unansweredTick_shows (drafted : DraftShows draft liveDraft)
    {turn : Observed → Unchecked.UserState F → Except PyException (Unchecked.UserState F)} {now : Instant}
    {outcome : HubOutcome} (turns : TurnShows enforcer (fun _ => turn) now outcome)
    (cached : outcome.hubTz draft.state.hubTz = draft.state.hubTz) (previousPollMs : Int) :
    ∃ result, Unchecked.unansweredTick turn liveDraft (.int previousPollMs) = .ok result ∧
      Shows (finishTick enforcer device draft now outcome).state result.state ∧
      result.nextPollMs = .int (min (min (previousPollMs * 2) maxPollMs) maxPollMs) ∧ result.processed = [] := by
  have start : Shows { draft.state with hubTz := outcome.hubTz draft.state.hubTz } liveDraft.state := by
    rw [cached]
    exact drafted.state
  obtain ⟨final, looped, shows⟩ :=
    eachUser_shows enforcer turns draft.observations.entries { state := _, device } start
  refine ⟨{ state := final, processed := [], nextPollMs := _ }, ?_, shows, rfl, rfl⟩
  unfold Unchecked.unansweredTick
  rw [drafted.observations, PyNum.double, capPoll_int, capPoll_int]
  exact bind_of_ok looped rfl

theorem answeredTick_shows (drafted : DraftShows draft liveDraft) (accepted : String → Bool)
    (response : SyncResponse) (now : Instant) (previousPollMs : Int) :
    ∃ result, Unchecked.answeredTick accepted liveDraft now (.int previousPollMs) (.dict response.fields : PyJson F) =
        .ok result ∧
      Shows (finishTick enforcer device draft now (.response response)).state result.state ∧
      result.nextPollMs = .int (nextPollMs previousPollMs (.response response)) ∧
      result.processed = draft.observations.keys.filter (HubOutcome.processes (.response response)) := by
  have start : Shows { draft.state with hubTz := HubOutcome.hubTz (.response response) draft.state.hubTz }
      { liveDraft.state with
        hubTz := ((List.lookup "hub_tz" (response.fields : List (String × PyJson F))).filter PyJson.truthy).getD
          liveDraft.state.hubTz } := by
    refine ⟨?_, drafted.state.user⟩
    rw [drafted.state.hubTz]
    show (Option.filter PyJson.truthy (some (.str response.hubTz))).getD (.str draft.state.hubTz) = _
    by_cases unset : response.hubTz = ""
    · simp [HubOutcome.hubTz, Option.filter, PyJson.truthy, unset]
    · simp [HubOutcome.hubTz, Option.filter, PyJson.truthy, unset]
  obtain ⟨final, looped, shows⟩ := eachUser_shows enforcer (answered_shows enforcer accepted response now)
    draft.observations.entries { state := _, device } start
  have polled : ((List.lookup "next_poll_ms" (response.fields : List (String × PyJson F))).map
      PyJson.number).getD (.ok (.int previousPollMs)) = .ok (.int (response.nextPollMs.getD previousPollMs)) := by
    unfold SyncResponse.fields
    cases response.nextPollMs with
    | none => rfl
    | some pollMs => rfl
  refine ⟨{ state := final, processed := _, nextPollMs := _ }, ?_, shows, rfl, rfl⟩
  unfold Unchecked.answeredTick
  refine bind_of_ok (get_dict ..) ?_
  refine bind_of_ok (get_dict ..) ?_
  refine bind_of_ok (readUsers_ok.mpr (hub_users response)) ?_
  rw [drafted.observations]
  refine bind_of_ok looped ?_
  refine bind_of_ok polled ?_
  rw [capPoll_int]
  have processed : (fun username => (entryOf (response.users.map fun user =>
      ((.str user.username, .dict user.fields) : PyJson F × PyJson F)) username).isSome) =
      HubOutcome.processes (.response response) := by
    funext username
    rw [hub_entryOf, Option.isSome_map]
    rfl
  rw [processed]
  rfl

/-- Where the exchange comes to one of the typed tick's outcomes, the tick over HTTP does to the state held as
    JSON what the typed one does to the typed state. -/
theorem runTick_shows (zones : ZoneDatabase) (tzName agentVersion : String)
    (loads : List UInt8 → Except LoadsError (PyJson F)) (client : HubClient) (first retry : HttpOutcome)
    (accepted : String → Bool) (shows : Shows typed live)
    (managedUsers : List (String × Option UserObservation)) (now : Instant) (previousPollMs : Int)
    (outcome : HubOutcome) (ends : client.sync loads first retry = outcome.syncEnd) :
    let draft := draftTick zones tzName typed managedUsers now
    let typedTick := runTick zones tzName agentVersion enforcer (fun _ => outcome) typed device managedUsers now
      previousPollMs
    ∃ result, Unchecked.runTick zones tzName loads client first retry accepted live managedUsers now
        (.int previousPollMs) = .ok result ∧
      Shows typedTick.1.state result.state ∧ result.nextPollMs = .int typedTick.2 ∧
      result.processed = draft.observations.keys.filter outcome.processes := by
  intro draft typedTick
  have drafted := draft_shows (todayStr zones typed tzName now) now shows managedUsers
  unfold Unchecked.runTick
  rw [zone_shown shows, ends]
  cases outcome with
  | response response => exact answeredTick_shows enforcer device drafted accepted response now previousPollMs
  | revoked =>
    have unprocessed : draft.observations.keys.filter (HubOutcome.processes .revoked) = [] := List.filter_false _
    rw [unprocessed]
    exact unansweredTick_shows enforcer device drafted (revoked_shows enforcer now) rfl previousPollMs
  | unreachable =>
    have unprocessed : draft.observations.keys.filter (HubOutcome.processes .unreachable) = [] := List.filter_false _
    rw [unprocessed]
    exact unansweredTick_shows enforcer device drafted (unreachable_shows enforcer now) rfl previousPollMs

end Simulation

end TimekprProof
