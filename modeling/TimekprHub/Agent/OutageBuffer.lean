import Mathlib.Data.List.DropRight
import TimekprHub.Agent.SpanOrder

namespace TimekprModel

universe u

variable {σ : Type u}

def HubOutcome.succeeded : HubOutcome → Bool
  | .response _ => true
  | .revoked | .unreachable => false

namespace TickInput

variable (tick : TickInput σ) (state : AgentState) (username : String)

def request : SyncRequest := (tick.draft state).request tick.agentVersion tick.now

def delivered : Bool :=
  tick.outcome.succeeded && (tick.request state).users.any fun req => req.username = username

/-- A response has an entry for every user timekpr returned an observation for, which are the users of the
    request. -/
def AnswersEveryUser : Prop :=
  ∀ response, tick.outcome = .response response → ∀ name obs, (name, some obs) ∈ tick.managedUsers →
    ∃ entry ∈ response.users, entry.username = name

end TickInput

structure OutageRun where
  state : AgentState
  unsent : List ActiveSpan := []

def OutageRun.tick (username : String) (run : OutageRun) (tick : TickInput σ) : OutageRun where
  state := agentStep run.state tick
  unsent :=
    if tick.delivered run.state username then []
    else run.unsent ++ (tick.span? run.state username).toList

def OutageRun.Buffered (username : String) (run : OutageRun) : Prop :=
  (run.state.user username).pendingSpans = run.unsent.rtake maxPendingSpans

end TimekprModel

namespace TimekprProof

open TimekprModel

universe u

variable {σ : Type u} {username : String}

theorem rtake_append_rtake {α : Type} (first later : List α) (n : Nat) :
    (first.rtake n ++ later).rtake n = (first ++ later).rtake n := by
  have kept : first.rtake n ++ later = (first ++ later).drop (first.length - n) := by
    rw [List.rtake, List.drop_append_of_le_length (Nat.sub_le ..)]
  rw [kept, List.rtake, List.rtake, List.drop_drop, List.length_drop, List.length_append]
  congr 1
  omega

theorem rtake_min_length {α : Type} (xs : List α) (n : Nat) : xs.rtake (min n xs.length) = xs.rtake n := by
  unfold List.rtake
  congr 1
  omega

theorem rtake_all {α : Type} {xs : List α} {n : Nat} (fits : xs.length ≤ n) : xs.rtake n = xs := by
  have none : xs.length - n = 0 := Nat.sub_eq_zero_of_le fits
  rw [List.rtake, none, List.drop_zero]

theorem bufferUnsentSpan_rtake {userState : UserState} {spans : List ActiveSpan}
    (buffered : userState.pendingSpans = spans.rtake maxPendingSpans) (span : Option ActiveSpan) :
    (bufferUnsentSpan userState span).pendingSpans = (spans ++ span.toList).rtake maxPendingSpans := by
  cases span with
  | none => rw [bufferUnsentSpan, Option.toList_none, List.append_nil, buffered]
  | some span =>
    rw [Option.toList_some, ← rtake_append_rtake, ← buffered, List.rtake]
    simp only [bufferUnsentSpan]

section Tick

variable {tick : TickInput σ} {state : AgentState}

theorem any_iff_requestsOf (reqs : List SyncUserRequest) :
    (reqs.any fun req => req.username = username) = true ↔ requestsOf username reqs ≠ [] := by
  rw [List.any_eq_true, requestsOf, ne_eq, List.filter_eq_nil_iff]
  simp

theorem byUsername_listed {response : SyncResponse} {entry : SyncUserResponse}
    (listed : entry ∈ response.users) (named : entry.username = username) :
    ∃ userResponse, response.byUsername username = some userResponse := by
  apply Option.isSome_iff_exists.mp
  rw [SyncResponse.byUsername, List.find?_isSome]
  exact ⟨entry, List.mem_reverse.mpr listed, decide_eq_true named⟩

theorem userTurn_buffer {enforcer : TimekprEnforcer σ} {device : σ} {observed : Observed}
    {userState : UserState} {now : Instant} {spans : List ActiveSpan}
    (buffered : userState.pendingSpans = spans.rtake maxPendingSpans) {outcome : HubOutcome}
    (answered : ∀ response, outcome = .response response →
      ∃ userResponse, response.byUsername username = some userResponse) :
    (userTurn enforcer device username observed userState now outcome).userState.pendingSpans =
      if outcome.succeeded then [] else (spans ++ observed.span.toList).rtake maxPendingSpans := by
  have kept := bufferUnsentSpan_rtake buffered observed.span
  cases outcome with
  | response response =>
    obtain ⟨userResponse, found⟩ := answered response rfl
    obtain ⟨_, _, _, _, _, same⟩ :=
      answeredTurn_frame enforcer device username observed userState userResponse now
    have turn := congrArg UserState.pendingSpans same
    simp only [userTurn, found]
    exact turn
  | revoked =>
    rw [HubOutcome.succeeded, if_neg Bool.false_ne_true, ← kept]
    simp only [userTurn, revokedTurn]
  | unreachable =>
    obtain ⟨_, same⟩ := applyOfflinePolicy_frame enforcer device username observed.obs
      (bufferUnsentSpan userState observed.span) now
    have turn := congrArg UserState.pendingSpans same
    rw [HubOutcome.succeeded, if_neg Bool.false_ne_true, ← kept]
    simp only [userTurn, unreachableTurn]
    exact turn

theorem measure_pendingSpans (userState : UserState) (obs : UserObservation) (today : String) (now : Instant) :
    (measure userState obs today now).userState.pendingSpans = userState.pendingSpans := by
  obtain ⟨_, _, _, same⟩ := measure_frame today now userState obs
  rw [same]

theorem tick_drafts (distinct : (tick.managedUsers.map Prod.fst).Nodup) :
    DraftedUser (tick.today state) tick.now username tick.managedUsers (state.user username)
      (tick.draft state) :=
  draft_user (tick.today state) tick.now username { state } distinct rfl rfl

theorem request_spans (distinct : (tick.managedUsers.map Prod.fst).Nodup) {req : SyncUserRequest}
    (listed : req ∈ (tick.request state).users) (named : req.username = username) :
    req.activeSpans = (state.user username).pendingSpans ++ (tick.span? state username).toList := by
  have own : req ∈ requestsOf username (tick.draft state).syncUsers :=
    List.mem_filter.mpr ⟨listed, decide_eq_true named⟩
  cases @tick_drafts _ username tick state distinct with
  | unread _ _ reqs =>
    rw [reqs] at own
    cases own
  | read obs _ _ observed reqs =>
    rw [reqs] at own
    have span : tick.span? state username = (measure (state.user username) obs (tick.today state) tick.now).span :=
      congrArg (fun seen => Option.bind seen Observed.span) observed
    rw [List.mem_singleton.mp own, span]
    simp only [syncUser, measure_pendingSpans]

end Tick

theorem unread_buffered {run : OutageRun} {tick : TickInput σ} (buffered : run.Buffered username)
    (user : (tick.draft run.state).state.user username = run.state.user username)
    (unseen : (tick.draft run.state).observations.get? username = none)
    (reqs : requestsOf username (tick.draft run.state).syncUsers = []) :
    (run.tick username tick).Buffered username := by
  have unasked : ((tick.request run.state).users.any fun req => req.username = username) = false := by
    apply Bool.eq_false_iff.mpr
    rw [ne_eq, any_iff_requestsOf]
    exact not_not.mpr reqs
  have waits : tick.delivered run.state username = false := by
    rw [TickInput.delivered, unasked, Bool.and_false]
  have nothing : tick.span? run.state username = none :=
    congrArg (fun seen => Option.bind seen Observed.span) unseen
  have spans : (run.tick username tick).unsent = run.unsent := by
    simp [OutageRun.tick, waits, nothing]
  unfold OutageRun.Buffered at buffered ⊢
  rw [spans, ← buffered]
  rcases runTick_user tick.zones tick.tzName tick.agentVersion tick.enforcer (fun _ => tick.outcome)
    run.state tick.device tick.managedUsers tick.now defaultPollMs username
    with ⟨same, _⟩ | ⟨observed, _, found, _, _, _⟩
  · have turn := congrArg UserState.pendingSpans (same.trans user)
    exact turn
  · have absurdity := unseen.symm.trans found
    cases absurdity

theorem read_buffered {run : OutageRun} {tick : TickInput σ} (answers : tick.AnswersEveryUser)
    (buffered : run.Buffered username) {obs : UserObservation} {seen : Observed}
    (listed : (username, some obs) ∈ tick.managedUsers)
    (user : ((tick.draft run.state).state.user username).pendingSpans = (run.state.user username).pendingSpans)
    (known : (tick.draft run.state).observations.get? username = some seen)
    (asked : requestsOf username (tick.draft run.state).syncUsers ≠ []) :
    (run.tick username tick).Buffered username := by
  have inRequest : ((tick.request run.state).users.any fun req => req.username = username) = true :=
    (any_iff_requestsOf _).mpr asked
  have found : ∀ response, tick.outcome = .response response →
      ∃ userResponse, response.byUsername username = some userResponse := by
    intro response answered
    obtain ⟨entry, present, named⟩ := answers response answered username obs listed
    exact byUsername_listed present named
  have span : tick.span? run.state username = seen.span :=
    congrArg (fun found => Option.bind found Observed.span) known
  obtain ⟨device, _, same, _⟩ := runTick_observed tick.zones tick.tzName tick.agentVersion tick.enforcer
    (fun _ => tick.outcome) run.state tick.device tick.managedUsers tick.now defaultPollMs known
  have turn := congrArg UserState.pendingSpans same
  have spans := @userTurn_buffer _ username tick.enforcer device seen _ tick.now _ (user.trans buffered) _ found
  have buffer : ((run.tick username tick).state.user username).pendingSpans = _ := turn.trans spans
  unfold OutageRun.Buffered
  rw [buffer]
  simp only [OutageRun.tick, TickInput.delivered, inRequest, span, Bool.and_true]
  split
  · exact (List.rtake_nil _).symm
  · rfl

theorem tick_buffered {run : OutageRun} {tick : TickInput σ}
    (distinct : (tick.managedUsers.map Prod.fst).Nodup) (answers : tick.AnswersEveryUser)
    (buffered : run.Buffered username) : (run.tick username tick).Buffered username := by
  cases @tick_drafts _ username tick run.state distinct with
  | unread user unseen reqs => exact unread_buffered buffered user unseen reqs
  | read obs listed user observed reqs =>
    apply read_buffered answers buffered listed _ observed
    · rw [reqs]
      exact List.cons_ne_nil _ _
    · rw [user, measure_pendingSpans]

theorem outageRun_state (username : String) (start : OutageRun) (ticks : List (TickInput σ)) :
    (Runs.run (OutageRun.tick username) start ticks).state = Runs.run agentStep start.state ticks := by
  induction ticks generalizing start with
  | nil => rfl
  | cons tick rest ih => exact ih (start.tick username tick)

theorem run_buffered {start : OutageRun} {ticks : List (TickInput σ)}
    (distinct : ∀ tick ∈ ticks, (tick.managedUsers.map Prod.fst).Nodup)
    (answers : ∀ tick ∈ ticks, tick.AnswersEveryUser) (buffered : start.Buffered username) :
    (Runs.run (OutageRun.tick username) start ticks).Buffered username := by
  induction ticks generalizing start with
  | nil => exact buffered
  | cons tick rest ih =>
    obtain ⟨distinctHere, distinctLater⟩ := List.forall_mem_cons.mp distinct
    obtain ⟨answersHere, answersLater⟩ := List.forall_mem_cons.mp answers
    exact ih distinctLater answersLater (tick_buffered distinctHere answersHere buffered)

/-- From an empty buffer the agent holds the newest 200 of the spans no successful sync has carried yet, and
    every request sends what it holds and then the tick's own span: of an outage that produced at most 200
    spans, all of them. -/
theorem outage_loses_only_oldest (username : String) {start : AgentState} {ticks : List (TickInput σ)}
    (distinct : ∀ tick ∈ ticks, (tick.managedUsers.map Prod.fst).Nodup)
    (answers : ∀ tick ∈ ticks, tick.AnswersEveryUser)
    (empty : (start.user username).pendingSpans = []) :
    let run := Runs.run (OutageRun.tick username) { state := start } ticks
    run.state = Runs.run agentStep start ticks ∧
      (run.state.user username).pendingSpans = run.unsent.rtake (min 200 run.unsent.length) ∧
      ∀ tick : TickInput σ, (tick.managedUsers.map Prod.fst).Nodup →
        ∀ req ∈ (tick.request run.state).users, req.username = username →
          req.activeSpans =
              (run.state.user username).pendingSpans ++ (tick.span? run.state username).toList ∧
            (run.unsent.length ≤ 200 →
              req.activeSpans = run.unsent ++ (tick.span? run.state username).toList) := by
  intro run
  have initial : OutageRun.Buffered username { state := start } := by
    rw [OutageRun.Buffered, empty, List.rtake_nil]
  have buffered : (run.state.user username).pendingSpans = run.unsent.rtake maxPendingSpans :=
    run_buffered distinct answers initial
  refine ⟨outageRun_state username _ ticks, ?_, ?_⟩
  · rw [rtake_min_length]
    exact buffered
  · intro tick distinctHere req listed named
    have spans := request_spans distinctHere listed named
    refine ⟨spans, ?_⟩
    intro fits
    have all : run.unsent.rtake maxPendingSpans = run.unsent := rtake_all fits
    rw [spans, buffered, all]

def reconnected : List (TickInput TimekprConfig) :=
  [kidOffline (noonPlus 0) 600, kidOffline (noonPlus 60) 660,
    kidTick (noonPlus 120) (.response (kidReply .observe)), kidOffline (noonPlus 180) 660]

theorem outage_loses_only_oldest_reconnected :
    let run := Runs.run (OutageRun.tick "kid") { state := {} } reconnected
    run.state = Runs.run agentStep {} reconnected ∧
      (run.state.user "kid").pendingSpans = run.unsent.rtake (min 200 run.unsent.length) ∧
      ∀ tick : TickInput TimekprConfig, (tick.managedUsers.map Prod.fst).Nodup →
        ∀ req ∈ (tick.request run.state).users, req.username = "kid" →
          req.activeSpans =
              (run.state.user "kid").pendingSpans ++ (tick.span? run.state "kid").toList ∧
            (run.unsent.length ≤ 200 →
              req.activeSpans = run.unsent ++ (tick.span? run.state "kid").toList) := by
  have offline : ∀ now spent, (kidOffline now spent).AnswersEveryUser := by
    intro now spent response answered
    cases answered
  have online : (kidTick (noonPlus 120) (.response (kidReply .observe))).AnswersEveryUser := by
    intro response answered name obs listed
    cases answered
    cases List.mem_singleton.mp listed
    exact ⟨_, List.mem_singleton_self _, rfl⟩
  have answers : ∀ tick ∈ reconnected, tick.AnswersEveryUser := by
    intro tick listed
    simp only [reconnected, List.mem_cons, List.not_mem_nil, or_false] at listed
    rcases listed with rfl | rfl | rfl | rfl
    · exact offline _ _
    · exact offline _ _
    · exact online
    · exact offline _ _
  exact outage_loses_only_oldest "kid" (by decide) answers rfl

end TimekprProof
