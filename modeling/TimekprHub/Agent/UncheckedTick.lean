import TimekprHub.Agent.AnswerReading
import TimekprHub.Agent.HubClient

namespace TimekprModel

variable {F : Type}

namespace Unchecked

/-- What an answer gave is held as it came. The fields that only go out again, or into the log, are left
    out. -/
structure UserState (F : Type) where
  day : String := ""
  cumLocalS : Int := 0
  rawPrevS : Int := 0
  lastEffectiveLimitTodayS : PyJson F := .int 0
  lastGlobalSpentS : PyJson F := .int 0
  lastHubContactUtc : Instant := 0
  lastOfflinePolicy : PyJson F := .str "capped"
  lastOfflineGraceS : PyJson F := .int 900
  lastOfflineCapS : PyJson F := .int 1800
  cumLocalAtContactS : Int := 0
  lastTickUtc : Instant := 0
  pendingSpans : List ActiveSpan := []

structure AgentState (F : Type) where
  users : Dict String (UserState F) := .empty
  hubTz : PyJson F := .str ""

def AgentState.user (state : AgentState F) (username : String) : UserState F :=
  (state.users.get? username).getD {}

def AgentState.setUser (state : AgentState F) (username : String) (userState : UserState F) : AgentState F :=
  { state with users := state.users.set username userState }

def UserState.own (userState : UserState F) : TimekprModel.UserState :=
  { day := userState.day
    cumLocalS := userState.cumLocalS
    rawPrevS := userState.rawPrevS
    lastTickUtc := userState.lastTickUtc }

structure Draft (F : Type) where
  state : AgentState F
  observations : Dict String Observed := .empty

def draftUser (today : String) (now : Instant) (draft : Draft F) (managed : String × Option UserObservation) :
    Draft F :=
  match managed.2 with
  | none => draft
  | some obs =>
    let username := managed.1
    let userState := draft.state.user username
    let measured := measure userState.own obs today now
    { state := draft.state.setUser username
        { userState with
          day := measured.userState.day
          cumLocalS := measured.userState.cumLocalS
          rawPrevS := measured.userState.rawPrevS }
      observations := draft.observations.set username
        { obs, forceAbsolute := measured.forceAbsolute, span := measured.span } }

def draftTick (today : String) (state : AgentState F) (managedUsers : List (String × Option UserObservation))
    (now : Instant) : Draft F :=
  managedUsers.foldl (draftUser today now) { state }

def bufferUnsentSpan (userState : UserState F) (span : Option ActiveSpan) : UserState F :=
  { userState with
    pendingSpans := (TimekprModel.bufferUnsentSpan { pendingSpans := userState.pendingSpans } span).pendingSpans }

variable [PyFloat F]

/-- `state.hub_tz or tz_name`, of which `ZoneInfo` takes a text only. -/
def zoneName (hubTz : PyJson F) (tzName : String) : Except PyException String :=
  if hubTz.truthy then
    match hubTz with
    | .str name => .ok name
    | _ => .error .typeError
  else .ok tzName

def answeredTurn (accepted : Bool) (observed : Observed) (userState : UserState F) (now : Instant)
    (entry : PyJson F) : Except PyException (UserState F) := do
  let limit ← entry.getItem "effective_limit_today_s"
  let spent ← entry.getItem "global_spent_s"
  let offlinePolicy ← entry.get "offline_policy"
  let offlineGraceS ← entry.get "offline_grace_s"
  let offlineCapS ← entry.get "offline_cap_s"
  readEntry observed accepted entry
  return { userState with
    lastEffectiveLimitTodayS := limit
    lastGlobalSpentS := spent
    lastHubContactUtc := now
    cumLocalAtContactS := userState.cumLocalS
    lastOfflinePolicy := offlinePolicy.getD userState.lastOfflinePolicy
    lastOfflineGraceS := offlineGraceS.getD userState.lastOfflineGraceS
    lastOfflineCapS := offlineCapS.getD userState.lastOfflineCapS
    pendingSpans := []
    lastTickUtc := if observed.span.isSome then now else userState.lastTickUtc }

def inGrace (userState : UserState F) (now : Instant) : Except PyException Bool :=
  let secondsSinceContact := now - userState.lastHubContactUtc
  if 0 ≤ secondsSinceContact then
    userState.lastOfflineGraceS.number.map fun grace => grace.longerThan secondsSinceContact
  else .ok false

/-- `_apply_offline_policy` up to the write. -/
def applyOfflinePolicy (obs : UserObservation) (userState : UserState F) (now : Instant) :
    Except PyException Unit := do
  let inGrace ← inGrace userState now
  if userState.lastOfflinePolicy.isStr "open" || inGrace then return ()
  else
    let localSinceContact := max (userState.cumLocalS - userState.cumLocalAtContactS) 0
    let lastGlobalSpent ← userState.lastGlobalSpentS.number
    let estimatedGlobalSpent ← lastGlobalSpent.add (.int localSinceContact)
    if userState.lastOfflinePolicy.isStr "capped" then
      let offlineCap ← userState.lastOfflineCapS.number
      let ceiling ← lastGlobalSpent.add offlineCap
      let lastLimit ← userState.lastEffectiveLimitTodayS.number
      let _ ← planNum
        { balanceS := obs.balanceS, spentLocalS := obs.spentDayS, limitTodayS := obs.limitTodayS }
        (lastLimit.min ceiling) estimatedGlobalSpent false cfg
      return ()
    else return ()

def unreachableTurn (observed : Observed) (userState : UserState F) (now : Instant) :
    Except PyException (UserState F) := do
  let userState := bufferUnsentSpan userState observed.span
  applyOfflinePolicy observed.obs userState now
  return userState

def eachUser (turn : String → Observed → UserState F → Except PyException (UserState F)) (state : AgentState F)
    (entries : List (String × Observed)) : Except PyException (AgentState F) :=
  entries.foldlM
    (fun state entry => (turn entry.1 entry.2 (state.user entry.1)).map (state.setUser entry.1)) state

structure TickReturn (F : Type) where
  state : AgentState F
  processed : List String
  nextPollMs : PyNum F

def capPoll (pollMs : PyNum F) : PyNum F := if pollMs.above maxPollMs then .int maxPollMs else pollMs

/-- `accepted` says of a user whether timekpr takes the setters of a push. -/
def answeredUser (accepted : String → Bool) (users : List (PyJson F × PyJson F)) (now : Instant)
    (username : String) (observed : Observed) (userState : UserState F) : Except PyException (UserState F) :=
  match entryOf users username with
  | none => .ok userState
  | some entry => answeredTurn (accepted username) observed userState now entry

def answeredTick (accepted : String → Bool) (draft : Draft F) (now : Instant) (previousPollMs : PyNum F)
    (data : PyJson F) : Except PyException (TickReturn F) := do
  let nextPollMs ← data.get "next_poll_ms"
  let hubTz ← data.get "hub_tz"
  let users ← readUsers data
  let state := { draft.state with hubTz := (hubTz.filter PyJson.truthy).getD draft.state.hubTz }
  let state ← eachUser (answeredUser accepted users now) state draft.observations.entries
  let pollMs ← (nextPollMs.map PyJson.number).getD (.ok previousPollMs)
  return {
    state
    processed := draft.observations.keys.filter fun username => (entryOf users username).isSome
    nextPollMs := capPoll pollMs }

/-- Both exceptions end in the same backoff; `turn` is what the handler does for a user. -/
def unansweredTick (turn : Observed → UserState F → Except PyException (UserState F)) (draft : Draft F)
    (previousPollMs : PyNum F) : Except PyException (TickReturn F) := do
  let state ← eachUser (fun _ => turn) draft.state draft.observations.entries
  return { state, processed := [], nextPollMs := capPoll (capPoll previousPollMs.double) }

def runTick (zones : ZoneDatabase) (tzName : String) (loads : List UInt8 → Except LoadsError (PyJson F))
    (client : HubClient) (first retry : HttpOutcome) (accepted : String → Bool) (state : AgentState F)
    (managedUsers : List (String × Option UserObservation)) (now : Instant) (previousPollMs : PyNum F) :
    Except PyException (TickReturn F) := do
  let zone ← zoneName state.hubTz tzName
  let draft := draftTick (canonicalDayStr zones now zone) state managedUsers now
  match client.sync loads first retry with
  | .answer data => answeredTick accepted draft now previousPollMs data
  | .revoked =>
    unansweredTick (fun observed userState => .ok (bufferUnsentSpan userState observed.span)) draft previousPollMs
  | .unreachable =>
    unansweredTick (fun observed userState => unreachableTurn observed userState now) draft previousPollMs
  | .escaped raised => .error raised

def ZoneInUse (hubTz : PyJson F) (tzName zone : String) : Prop :=
  if hubTz.truthy then hubTz = .str zone else zone = tzName

/-- No new write is due. A contact in the future is no grace. -/
def OfflineIdle (userState : UserState F) (now : Instant) : Prop :=
  userState.lastOfflinePolicy.isStr "open" = true ∨ userState.lastHubContactUtc ≤ now ∧
    ∃ grace, userState.lastOfflineGraceS.number = .ok grace ∧
      grace.longerThan (now - userState.lastHubContactUtc) = true

structure OfflineReadable (obs : UserObservation) (userState : UserState F) (now : Instant) : Prop where
  grace : userState.lastHubContactUtc ≤ now → Fallible.Succeeds userState.lastOfflineGraceS.number
  figures : ¬ OfflineIdle userState now → ∃ lastGlobalSpent estimatedGlobalSpent,
    userState.lastGlobalSpentS.number = .ok lastGlobalSpent ∧
    lastGlobalSpent.add (.int (max (userState.cumLocalS - userState.cumLocalAtContactS) 0)) =
      .ok estimatedGlobalSpent ∧
    (userState.lastOfflinePolicy.isStr "capped" = true → ∃ offlineCap ceiling lastLimit,
      userState.lastOfflineCapS.number = .ok offlineCap ∧ lastGlobalSpent.add offlineCap = .ok ceiling ∧
      userState.lastEffectiveLimitTodayS.number = .ok lastLimit ∧
      Fallible.Succeeds (planNum
        { balanceS := obs.balanceS, spentLocalS := obs.spentDayS, limitTodayS := obs.limitTodayS }
        (lastLimit.min ceiling) estimatedGlobalSpent false cfg))

end Unchecked

end TimekprModel

namespace TimekprProof

open TimekprModel TimekprModel.Unchecked Fallible

variable {F : Type}

section State

variable (state : Unchecked.AgentState F) (username : String) (userState : Unchecked.UserState F)

@[simp] theorem Unchecked.user_setUser_same : (state.setUser username userState).user username = userState := by
  simp [Unchecked.AgentState.user, Unchecked.AgentState.setUser]

theorem Unchecked.user_setUser_other {other : String} (differ : other ≠ username) :
    (state.setUser username userState).user other = state.user other := by
  simp [Unchecked.AgentState.user, Unchecked.AgentState.setUser, Dict.get?_set_other _ _ differ]

end State

section Loop

variable {turn : String → Observed → Unchecked.UserState F → Except PyException (Unchecked.UserState F)}

theorem eachUser_others {state final : Unchecked.AgentState F} {entries : List (String × Observed)}
    (looped : eachUser turn state entries = .ok final) {username : String}
    (unlisted : username ∉ entries.map Prod.fst) : final.user username = state.user username := by
  induction entries generalizing state with
  | nil => rw [pure_ok looped]
  | cons entry rest ih =>
    rw [List.map_cons, List.mem_cons, not_or] at unlisted
    obtain ⟨next, turned, later⟩ := bind_ok looped
    obtain ⟨userState, _, rfl⟩ := map_ok turned
    rw [ih later unlisted.2, Unchecked.user_setUser_other _ _ _ unlisted.1]

/-- The users are independent of each other: the loop does for each what its turn does at the start. -/
theorem eachUser_ok {state final : Unchecked.AgentState F} {entries : List (String × Observed)}
    (nodup : (entries.map Prod.fst).Nodup) (looped : eachUser turn state entries = .ok final) :
    ∀ entry ∈ entries, turn entry.1 entry.2 (state.user entry.1) = .ok (final.user entry.1) := by
  induction entries generalizing state with
  | nil =>
    intro entry listed
    cases listed
  | cons first rest ih =>
    obtain ⟨apart, nodup⟩ := List.nodup_cons.mp nodup
    obtain ⟨next, turned, later⟩ := bind_ok looped
    obtain ⟨userState, came, rfl⟩ := map_ok turned
    intro entry listed
    rcases List.mem_cons.mp listed with rfl | listed
    · rw [eachUser_others later apart, Unchecked.user_setUser_same]
      exact came
    · have differ : entry.1 ≠ first.1 := fun same => apart (same ▸ List.mem_map_of_mem listed)
      have own := ih nodup later entry listed
      rw [Unchecked.user_setUser_other _ _ _ differ] at own
      exact own

theorem eachUser_succeeds {state : Unchecked.AgentState F} {entries : List (String × Observed)}
    (nodup : (entries.map Prod.fst).Nodup) : Succeeds (eachUser turn state entries) ↔
      ∀ entry ∈ entries, Succeeds (turn entry.1 entry.2 (state.user entry.1)) := by
  constructor
  · rintro ⟨final, looped⟩ entry listed
    exact ⟨_, eachUser_ok nodup looped entry listed⟩
  · intro each
    induction entries generalizing state with
    | nil => exact succeeds_pure state
    | cons first rest ih =>
      obtain ⟨apart, nodup⟩ := List.nodup_cons.mp nodup
      obtain ⟨own, others⟩ := List.forall_mem_cons.mp each
      obtain ⟨userState, came⟩ := own
      have later : Succeeds (eachUser turn (state.setUser first.1 userState) rest) := by
        apply ih nodup
        intro entry listed
        have differ : entry.1 ≠ first.1 := fun same => apart (same ▸ List.mem_map_of_mem listed)
        rw [Unchecked.user_setUser_other _ _ _ differ]
        exact others entry listed
      refine succeeds_bind.mpr ⟨state.setUser first.1 userState, ?_, later⟩
      simp only [came]
      rfl

end Loop

section Turns

variable [PyFloat F] {observed : Observed} {userState : Unchecked.UserState F} {now : Instant}

theorem zoneName_ok {hubTz : PyJson F} {tzName zone : String} :
    zoneName hubTz tzName = .ok zone ↔ ZoneInUse hubTz tzName zone := by
  unfold zoneName ZoneInUse
  by_cases cached : hubTz.truthy = true
  · rw [if_pos cached, if_pos cached]
    cases hubTz with
    | str name => simp
    | none | bool _ | int _ | float _ | list _ | dict _ => simp
  · rw [if_neg cached, if_neg cached, Except.ok.injEq, eq_comm]

theorem inGrace_succeeds :
    Succeeds (inGrace userState now) ↔
      (userState.lastHubContactUtc ≤ now → Succeeds userState.lastOfflineGraceS.number) := by
  unfold inGrace
  by_cases past : userState.lastHubContactUtc ≤ now
  · rw [if_pos (sub_nonneg.mpr past), succeeds_map]
    exact ⟨fun read _ => read, fun read => read past⟩
  · rw [if_neg (mt sub_nonneg.mp past)]
    exact iff_of_true (succeeds_ok false) fun later => absurd later past

theorem inGrace_idle {within : Bool} (came : inGrace userState now = .ok within) :
    (userState.lastOfflinePolicy.isStr "open" || within) = true ↔ OfflineIdle userState now := by
  unfold inGrace at came
  unfold OfflineIdle
  rw [Bool.or_eq_true]
  apply or_congr_right
  by_cases past : userState.lastHubContactUtc ≤ now
  · rw [if_pos (sub_nonneg.mpr past)] at came
    obtain ⟨grace, read, rfl⟩ := map_ok came
    constructor
    · intro longer
      exact ⟨past, grace, read, longer⟩
    · rintro ⟨_, other, again, longer⟩
      cases read.symm.trans again
      exact longer
  · rw [if_neg (mt sub_nonneg.mp past)] at came
    cases came
    exact iff_of_false Bool.false_ne_true fun idle => past idle.1

theorem applyOfflinePolicy_succeeds {obs : UserObservation} :
    Succeeds (Unchecked.applyOfflinePolicy obs userState now) ↔ OfflineReadable obs userState now := by
  unfold Unchecked.applyOfflinePolicy
  rw [succeeds_bind]
  constructor
  · rintro ⟨within, came, rest⟩
    refine ⟨inGrace_succeeds.mp ⟨within, came⟩, fun due => ?_⟩
    rw [if_neg (mt (inGrace_idle came).mp due)] at rest
    obtain ⟨lastGlobalSpent, spentRead, rest⟩ := succeeds_bind.mp rest
    obtain ⟨estimatedGlobalSpent, estimated, rest⟩ := succeeds_bind.mp rest
    refine ⟨lastGlobalSpent, estimatedGlobalSpent, spentRead, estimated, fun capped => ?_⟩
    rw [if_pos capped] at rest
    obtain ⟨offlineCap, capRead, rest⟩ := succeeds_bind.mp rest
    obtain ⟨ceiling, summed, rest⟩ := succeeds_bind.mp rest
    obtain ⟨lastLimit, limitRead, rest⟩ := succeeds_bind.mp rest
    obtain ⟨planned, plans, _⟩ := succeeds_bind.mp rest
    exact ⟨offlineCap, ceiling, lastLimit, capRead, summed, limitRead, planned, plans⟩
  · intro readable
    obtain ⟨within, came⟩ := inGrace_succeeds.mpr readable.grace
    refine ⟨within, came, ?_⟩
    by_cases idle : OfflineIdle userState now
    · rw [if_pos ((inGrace_idle came).mpr idle)]
      exact succeeds_pure ()
    · rw [if_neg (mt (inGrace_idle came).mp idle)]
      obtain ⟨lastGlobalSpent, estimatedGlobalSpent, spentRead, estimated, capped⟩ := readable.figures idle
      refine succeeds_bind.mpr ⟨lastGlobalSpent, spentRead, ?_⟩
      refine succeeds_bind.mpr ⟨estimatedGlobalSpent, estimated, ?_⟩
      by_cases caps : userState.lastOfflinePolicy.isStr "capped" = true
      · obtain ⟨offlineCap, ceiling, lastLimit, capRead, summed, limitRead, planned, plans⟩ := capped caps
        rw [if_pos caps]
        refine succeeds_bind.mpr ⟨offlineCap, capRead, ?_⟩
        refine succeeds_bind.mpr ⟨ceiling, summed, ?_⟩
        refine succeeds_bind.mpr ⟨lastLimit, limitRead, ?_⟩
        exact succeeds_bind.mpr ⟨planned, plans, succeeds_pure ()⟩
      · rw [if_neg caps]
        exact succeeds_pure ()

theorem unreachableTurn_succeeds :
    Succeeds (Unchecked.unreachableTurn observed userState now) ↔ OfflineReadable observed.obs userState now := by
  rw [← applyOfflinePolicy_succeeds]
  unfold Unchecked.unreachableTurn
  constructor
  · intro succeeds
    obtain ⟨value, applied, _⟩ := succeeds_bind.mp succeeds
    exact ⟨value, applied⟩
  · rintro ⟨value, applied⟩
    exact succeeds_bind.mpr ⟨value, applied, succeeds_pure _⟩

theorem answeredTurn_succeeds {accepted : Bool} {entry : PyJson F} :
    Succeeds (Unchecked.answeredTurn accepted observed userState now entry) ↔
      ∃ entries, entry = .dict entries ∧ EntryReadable observed accepted entries := by
  unfold Unchecked.answeredTurn
  constructor
  · intro succeeds
    obtain ⟨_, _, succeeds⟩ := succeeds_bind.mp succeeds
    obtain ⟨_, _, succeeds⟩ := succeeds_bind.mp succeeds
    obtain ⟨_, _, succeeds⟩ := succeeds_bind.mp succeeds
    obtain ⟨_, _, succeeds⟩ := succeeds_bind.mp succeeds
    obtain ⟨_, _, succeeds⟩ := succeeds_bind.mp succeeds
    obtain ⟨value, read, _⟩ := succeeds_bind.mp succeeds
    exact readEntry_succeeds.mp ⟨value, read⟩
  · intro readable
    obtain ⟨value, read⟩ := readEntry_succeeds.mpr readable
    obtain ⟨entries, rfl, fields⟩ := readable
    obtain ⟨limit, spent, limitHeld, spentHeld, _⟩ := fields.figures
    refine succeeds_bind.mpr ⟨limit, (getItem_dict ..).mpr limitHeld, ?_⟩
    refine succeeds_bind.mpr ⟨spent, (getItem_dict ..).mpr spentHeld, ?_⟩
    refine succeeds_bind.mpr ⟨_, get_dict .., ?_⟩
    refine succeeds_bind.mpr ⟨_, get_dict .., ?_⟩
    refine succeeds_bind.mpr ⟨_, get_dict .., ?_⟩
    exact succeeds_bind.mpr ⟨value, read, succeeds_pure _⟩

theorem answeredTurn_counter {accepted : Bool} {entry : PyJson F} {result : Unchecked.UserState F}
    (turned : Unchecked.answeredTurn accepted observed userState now entry = .ok result) :
    result.cumLocalS = userState.cumLocalS := by
  unfold Unchecked.answeredTurn at turned
  obtain ⟨_, _, turned⟩ := bind_ok turned
  obtain ⟨_, _, turned⟩ := bind_ok turned
  obtain ⟨_, _, turned⟩ := bind_ok turned
  obtain ⟨_, _, turned⟩ := bind_ok turned
  obtain ⟨_, _, turned⟩ := bind_ok turned
  obtain ⟨_, _, turned⟩ := bind_ok turned
  rw [← pure_ok turned]

end Turns

end TimekprProof
