import TimekprHub.Agent.TickFrame
import TimekprHub.Library.Runs

namespace TimekprModel

universe u

structure TickInput (σ : Type u) where
  zones : ZoneDatabase
  tzName : String
  agentVersion : String
  enforcer : TimekprEnforcer σ
  device : σ
  managedUsers : List (String × Option UserObservation)
  now : Instant
  outcome : HubOutcome

variable {σ : Type u}

def tickStep (state : AgentState) (tick : TickInput σ) : TickResult σ :=
  (runTick tick.zones tick.tzName tick.agentVersion tick.enforcer (fun _ => tick.outcome) state tick.device
    tick.managedUsers tick.now).1

def agentStep (state : AgentState) (tick : TickInput σ) : AgentState := (tickStep state tick).state

def runCalls (state : AgentState) : List (TickInput σ) → List (String × Setter)
  | [] => []
  | tick :: rest => (tickStep state tick).calls ++ runCalls (agentStep state tick) rest

def TickInput.TellsObserve (tick : TickInput σ) (username : String) : Prop :=
  ∃ response userResponse, tick.outcome = .response response ∧
    response.byUsername username = some userResponse ∧ userResponse.enforcement = some .observe

def TickInput.TellsEnforce (tick : TickInput σ) (username : String) : Prop :=
  ∃ response userResponse, tick.outcome = .response response ∧
    response.byUsername username = some userResponse ∧ userResponse.enforcement ≠ some .observe

def TickInput.Answered (tick : TickInput σ) : Prop := ∃ response, tick.outcome = .response response

def IdleIfUnreachable (username : String) (state : AgentState) (tick : TickInput σ) : Prop :=
  tick.outcome = .unreachable → ∀ obs, (username, some obs) ∈ tick.managedUsers →
    offlineIdle (state.user username) tick.now

end TimekprModel

namespace TimekprProof

open TimekprModel

universe u

variable {σ : Type u}

theorem observe_turn_quiet (enforcer : TimekprEnforcer σ) (device : σ) (username : String)
    (observed : Observed) (userState : UserState) {response : SyncUserResponse} (now : Instant)
    (observe : response.enforcement = some .observe) :
    (answeredTurn enforcer device username observed userState response now).calls = [] ∧
      (answeredTurn enforcer device username observed userState response now).userState.appliedOffsetS =
        userState.appliedOffsetS := by
  simp [answeredTurn, observe, applyConvergence, rememberContact]

theorem bufferUnsentSpan_appliedOffsetS (userState : UserState) (span : Option ActiveSpan) :
    (bufferUnsentSpan userState span).appliedOffsetS = userState.appliedOffsetS := by
  unfold bufferUnsentSpan
  split <;> rfl

theorem bufferUnsentSpan_offlineIdle (userState : UserState) (span : Option ActiveSpan) (now : Instant) :
    offlineIdle (bufferUnsentSpan userState span) now ↔ offlineIdle userState now := by
  unfold bufferUnsentSpan
  split <;> simp only [offlineIdle]

theorem unreachable_turn_quiet (enforcer : TimekprEnforcer σ) (device : σ) (username : String)
    (observed : Observed) {userState : UserState} {now : Instant} (idle : offlineIdle userState now) :
    (unreachableTurn enforcer device username observed userState now).calls = [] ∧
      (unreachableTurn enforcer device username observed userState now).userState.appliedOffsetS =
        userState.appliedOffsetS := by
  have waiting := (bufferUnsentSpan_offlineIdle userState observed.span now).mpr idle
  simp [unreachableTurn, applyOfflinePolicy, waiting, bufferUnsentSpan_appliedOffsetS]

theorem userTurn_quiet (enforcer : TimekprEnforcer σ) (device : σ) (username : String)
    (observed : Observed) {userState : UserState} {now : Instant} {outcome : HubOutcome}
    (notEnforced : ∀ response userResponse, outcome = .response response →
      response.byUsername username = some userResponse → userResponse.enforcement = some .observe)
    (idle : outcome = .unreachable → offlineIdle userState now) :
    (userTurn enforcer device username observed userState now outcome).calls = [] ∧
      (userTurn enforcer device username observed userState now outcome).userState.appliedOffsetS =
        userState.appliedOffsetS := by
  cases outcome with
  | response response =>
    simp only [userTurn]
    split
    · exact ⟨rfl, rfl⟩
    · rename_i userResponse found
      exact observe_turn_quiet enforcer device username observed userState now
        (notEnforced response userResponse rfl found)
  | revoked => exact ⟨rfl, bufferUnsentSpan_appliedOffsetS userState observed.span⟩
  | unreachable => exact unreachable_turn_quiet enforcer device username observed (idle rfl)

theorem tick_quiet {username : String} {state : AgentState} {tick : TickInput σ}
    (notEnforced : ¬ tick.TellsEnforce username) (idle : IdleIfUnreachable username state tick) :
    callsFor username (tickStep state tick).calls = [] ∧
      ((agentStep state tick).user username).appliedOffsetS =
        (state.user username).appliedOffsetS := by
  obtain ⟨day, cumLocalS, rawPrevS, measured⟩ := draft_frame
    (todayStr tick.zones state tick.tzName tick.now) tick.now { state } tick.managedUsers username
  let draft := draftTick tick.zones tick.tzName state tick.managedUsers tick.now
  have drafted : draft.state.user username = { state.user username with day, cumLocalS, rawPrevS } :=
    measured
  have offset : (draft.state.user username).appliedOffsetS = (state.user username).appliedOffsetS := by
    rw [drafted]
  have waiting : offlineIdle (state.user username) tick.now →
      offlineIdle (draft.state.user username) tick.now := by
    rw [drafted]
    exact id
  rcases runTick_user tick.zones tick.tzName tick.agentVersion tick.enforcer (fun _ => tick.outcome)
    state tick.device tick.managedUsers tick.now defaultPollMs username
    with ⟨same, silent⟩ | ⟨observed, device, _, known, same, calls⟩
  · exact ⟨silent, (congrArg UserState.appliedOffsetS same).trans offset⟩
  · have quiet := userTurn_quiet tick.enforcer device username observed
      (fun response userResponse answered found => by
        by_contra enforced
        exact notEnforced ⟨response, userResponse, answered, found, enforced⟩)
      (fun unreachable => waiting (idle unreachable observed.obs known))
    exact ⟨calls.trans quiet.1, (congrArg UserState.appliedOffsetS same).trans (quiet.2.trans offset)⟩

theorem run_quiet {username : String} {start : AgentState} {ticks : List (TickInput σ)}
    (notEnforced : ∀ tick ∈ ticks, ¬ tick.TellsEnforce username)
    (idle : Runs.StepsMeet agentStep (IdleIfUnreachable username) start ticks) :
    callsFor username (runCalls start ticks) = [] ∧
      ((Runs.run agentStep start ticks).user username).appliedOffsetS =
        (start.user username).appliedOffsetS := by
  induction ticks generalizing start with
  | nil => exact ⟨rfl, rfl⟩
  | cons tick rest ih =>
    obtain ⟨silent, same⟩ := tick_quiet (notEnforced tick (List.mem_cons_self ..)) idle.1
    obtain ⟨silentLater, sameLater⟩ :=
      ih (fun later member => notEnforced later (List.mem_cons_of_mem _ member)) idle.2
    constructor
    · rw [runCalls, callsFor_append, silent, silentLater, List.append_nil]
    · rw [Runs.run_cons, sameLater, same]

end TimekprProof
