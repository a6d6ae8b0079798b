import TimekprHub.Agent.Tick

namespace TimekprProof

open TimekprModel

universe u

variable {σ : Type u}

def callsFor (username : String) (calls : List (String × Setter)) : List Setter :=
  (calls.filter (·.1 = username)).map Prod.snd

theorem callsFor_append (username : String) (first later : List (String × Setter)) :
    callsFor username (first ++ later) = callsFor username first ++ callsFor username later := by
  simp [callsFor]

theorem callsFor_own (username : String) (setters : List Setter) :
    callsFor username (setters.map fun setter => (username, setter)) = setters := by
  simp [callsFor, List.filter_map, Function.comp_def]

theorem callsFor_other {username other : String} (differ : other ≠ username) (setters : List Setter) :
    callsFor username (setters.map fun setter => (other, setter)) = [] := by
  simp [callsFor, List.filter_map, Function.comp_def, differ]

theorem calls_eq_nil {calls : List (String × Setter)} (silent : ∀ username, callsFor username calls = []) :
    calls = [] := by
  cases calls with
  | nil => rfl
  | cons call rest =>
    have own := silent call.1
    simp [callsFor] at own

section Draft

variable (today : String) (now : Instant)

theorem measure_frame (userState : UserState) (obs : UserObservation) :
    ∃ day cumLocalS rawPrevS,
      (measure userState obs today now).userState = { userState with day, cumLocalS, rawPrevS } :=
  ⟨_, _, _, rfl⟩

theorem draftUser_frame (draft : Draft) (managed : String × Option UserObservation) (username : String) :
    ∃ day cumLocalS rawPrevS, (draftUser today now draft managed).state.user username =
      { draft.state.user username with day, cumLocalS, rawPrevS } := by
  obtain ⟨name, observed⟩ := managed
  cases observed with
  | none => exact ⟨_, _, _, rfl⟩
  | some obs =>
    simp only [draftUser]
    by_cases same : username = name
    · subst same
      rw [AgentState.user_setUser_same]
      exact measure_frame today now _ obs
    · rw [AgentState.user_setUser_other _ _ same]
      exact ⟨_, _, _, rfl⟩

theorem draft_frame (draft : Draft) (managedUsers : List (String × Option UserObservation))
    (username : String) :
    ∃ day cumLocalS rawPrevS, (managedUsers.foldl (draftUser today now) draft).state.user username =
      { draft.state.user username with day, cumLocalS, rawPrevS } := by
  induction managedUsers generalizing draft with
  | nil => exact ⟨_, _, _, rfl⟩
  | cons managed rest ih =>
    obtain ⟨_, _, _, here⟩ := draftUser_frame today now draft managed username
    obtain ⟨_, _, _, later⟩ := ih (draftUser today now draft managed)
    rw [here] at later
    exact ⟨_, _, _, later⟩

theorem draft_observed (draft : Draft) (managedUsers : List (String × Option UserObservation))
    {username : String} {observed : Observed}
    (listed : (managedUsers.foldl (draftUser today now) draft).observations.get? username = some observed) :
    draft.observations.get? username = some observed ∨
      (username, some observed.obs) ∈ managedUsers := by
  induction managedUsers generalizing draft with
  | nil => exact .inl listed
  | cons managed rest ih =>
    rcases ih _ listed with earlier | later
    · obtain ⟨name, reading⟩ := managed
      cases reading with
      | none => exact .inl earlier
      | some obs =>
        simp only [draftUser, Dict.get?_set] at earlier
        split at earlier
        · rename_i same
          cases earlier
          exact .inr (by simp [same])
        · exact .inl earlier
    · exact .inr (List.mem_cons_of_mem _ later)

end Draft

section Turn

variable (enforcer : TimekprEnforcer σ) (device : σ) (username : String)

theorem bufferUnsentSpan_frame (userState : UserState) (span : Option ActiveSpan) :
    ∃ pendingSpans, bufferUnsentSpan userState span = { userState with pendingSpans } := by
  unfold bufferUnsentSpan
  split
  · exact ⟨_, rfl⟩
  · exact ⟨_, rfl⟩

theorem applyConvergence_frame (obs : UserObservation) (target : HubTarget) (userState : UserState)
    (forceAbsolute dryRun : Bool) : ∃ appliedOffsetS,
      (applyConvergence enforcer device username obs target userState forceAbsolute dryRun).userState =
        { userState with appliedOffsetS } := by
  unfold applyConvergence
  dsimp only
  split
  · exact ⟨_, rfl⟩
  · split
    · exact ⟨_, rfl⟩
    · exact ⟨_, rfl⟩

theorem applyOfflinePolicy_frame (obs : UserObservation) (userState : UserState) (now : Instant) :
    ∃ appliedOffsetS, (applyOfflinePolicy enforcer device username obs userState now).userState =
      { userState with appliedOffsetS } := by
  unfold applyOfflinePolicy
  split
  · exact ⟨_, rfl⟩
  · split
    · exact applyConvergence_frame enforcer device username ..
    · exact applyConvergence_frame enforcer device username ..
    · exact ⟨_, rfl⟩

theorem takePolicy_frame (userState : UserState) (policyPayload : Option PolicyPayload)
    (policyVersion : Int) (policyRevision : Option String) :
    ∃ lastPolicyPushError policyVersionApplied policyRevisionApplied,
      (takePolicy enforcer device username userState policyPayload policyVersion policyRevision).userState =
        { userState with lastPolicyPushError, policyVersionApplied, policyRevisionApplied } := by
  cases policyPayload with
  | none => exact ⟨_, _, _, rfl⟩
  | some policy =>
    simp only [takePolicy]
    split
    · exact ⟨_, _, _, rfl⟩
    · exact ⟨_, _, _, rfl⟩

theorem answeredTurn_frame (observed : Observed) (userState : UserState) (response : SyncUserResponse)
    (now : Instant) :
    ∃ lastEnforcement appliedOffsetS lastPolicyPushError policyVersionApplied policyRevisionApplied,
      (answeredTurn enforcer device username observed userState response now).userState =
        { rememberContact userState observed.span response now with
          lastEnforcement
          appliedOffsetS
          lastPolicyPushError
          policyVersionApplied
          policyRevisionApplied } := by
  unfold answeredTurn
  dsimp only
  split
  · obtain ⟨_, converged⟩ := applyConvergence_frame enforcer device username observed.obs
      { limitTodayS := response.effectiveLimitTodayS, globalSpentS := response.globalSpentS }
      { rememberContact userState observed.span response now with lastEnforcement := .observe }
      observed.forceAbsolute true
    exact ⟨_, _, _, _, _, converged⟩
  · obtain ⟨_, _, _, taken⟩ := takePolicy_frame enforcer device username
      { rememberContact userState observed.span response now with lastEnforcement := .enforce }
      response.policy response.policyVersion response.policyRevision
    obtain ⟨_, converged⟩ := applyConvergence_frame enforcer
      (takePolicy enforcer device username
        { rememberContact userState observed.span response now with lastEnforcement := .enforce }
        response.policy response.policyVersion response.policyRevision).device username observed.obs
      { limitTodayS := response.effectiveLimitTodayS, globalSpentS := response.globalSpentS }
      (takePolicy enforcer device username
        { rememberContact userState observed.span response now with lastEnforcement := .enforce }
        response.policy response.policyVersion response.policyRevision).userState observed.forceAbsolute
      false
    rw [taken] at converged
    rw [taken]
    exact ⟨_, _, _, _, _, converged⟩

theorem revokedTurn_frame (observed : Observed) (userState : UserState) :
    ∃ pendingSpans, (revokedTurn device observed userState).userState =
      { userState with pendingSpans, lastEnforcement := .revoked } := by
  obtain ⟨pendingSpans, buffered⟩ := bufferUnsentSpan_frame userState observed.span
  refine ⟨pendingSpans, ?_⟩
  rw [revokedTurn, buffered]

theorem unreachableTurn_frame (observed : Observed) (userState : UserState) (now : Instant) :
    ∃ pendingSpans appliedOffsetS,
      (unreachableTurn enforcer device username observed userState now).userState =
        { userState with pendingSpans, appliedOffsetS } := by
  obtain ⟨pendingSpans, buffered⟩ := bufferUnsentSpan_frame userState observed.span
  obtain ⟨appliedOffsetS, offline⟩ := applyOfflinePolicy_frame enforcer device username observed.obs
    (bufferUnsentSpan userState observed.span) now
  refine ⟨pendingSpans, appliedOffsetS, ?_⟩
  rw [unreachableTurn, offline, buffered]

end Turn

theorem userTurn_counter (enforcer : TimekprEnforcer σ) (device : σ) (username : String)
    (observed : Observed) (userState : UserState) (now : Instant) (outcome : HubOutcome) :
    let turn := userTurn enforcer device username observed userState now outcome
    turn.userState.day = userState.day ∧ turn.userState.cumLocalS = userState.cumLocalS ∧
      turn.userState.rawPrevS = userState.rawPrevS := by
  intro turn
  cases outcome with
  | response response =>
    simp only [turn, userTurn]
    split
    · exact ⟨rfl, rfl, rfl⟩
    · rename_i userResponse _
      obtain ⟨_, _, _, _, _, same⟩ :=
        answeredTurn_frame enforcer device username observed userState userResponse now
      rw [same]
      exact ⟨rfl, rfl, rfl⟩
  | revoked =>
    obtain ⟨_, same⟩ := revokedTurn_frame device observed userState
    simp only [turn, userTurn, same, and_self]
  | unreachable =>
    obtain ⟨_, _, same⟩ := unreachableTurn_frame enforcer device username observed userState now
    simp only [turn, userTurn, same, and_self]

section Finish

variable (enforcer : TimekprEnforcer σ) (now : Instant) (outcome : HubOutcome)

theorem finishUser_other {username : String} (result : TickResult σ) (entry : String × Observed)
    (differ : entry.1 ≠ username) :
    (finishUser enforcer now outcome result entry).state.user username = result.state.user username ∧
      callsFor username (finishUser enforcer now outcome result entry).calls =
        callsFor username result.calls := by
  constructor
  · exact AgentState.user_setUser_other _ _ (Ne.symm differ)
  · simp only [finishUser, callsFor_append, callsFor_other differ, List.append_nil]

theorem finish_others {username : String} (result : TickResult σ) (entries : List (String × Observed))
    (absent : username ∉ entries.map Prod.fst) :
    (entries.foldl (finishUser enforcer now outcome) result).state.user username =
        result.state.user username ∧
      callsFor username (entries.foldl (finishUser enforcer now outcome) result).calls =
        callsFor username result.calls := by
  induction entries generalizing result with
  | nil => exact ⟨rfl, rfl⟩
  | cons entry rest ih =>
    simp only [List.map_cons, List.mem_cons, not_or] at absent
    obtain ⟨stateHere, callsHere⟩ := finishUser_other enforcer now outcome result entry (Ne.symm absent.1)
    obtain ⟨stateLater, callsLater⟩ := ih (finishUser enforcer now outcome result entry) absent.2
    exact ⟨stateLater.trans stateHere, callsLater.trans callsHere⟩

theorem finish_own {username : String} {observed : Observed} (result : TickResult σ)
    (entries : List (String × Observed)) (distinct : (entries.map Prod.fst).Nodup)
    (listed : (username, observed) ∈ entries) :
    ∃ device, let turn := userTurn enforcer device username observed (result.state.user username) now outcome
      (entries.foldl (finishUser enforcer now outcome) result).state.user username = turn.userState ∧
      callsFor username (entries.foldl (finishUser enforcer now outcome) result).calls =
        callsFor username result.calls ++ turn.calls := by
  induction entries generalizing result with
  | nil => cases listed
  | cons entry rest ih =>
    rw [List.map_cons, List.nodup_cons] at distinct
    rcases List.mem_cons.mp listed with rfl | later
    · obtain ⟨state, calls⟩ := finish_others enforcer now outcome
        (finishUser enforcer now outcome result (username, observed)) rest distinct.1
      refine ⟨result.device, state.trans ?_, calls.trans ?_⟩
      · exact AgentState.user_setUser_same ..
      · simp only [finishUser, callsFor_append, callsFor_own]
    · have differ : entry.1 ≠ username := by
        intro same
        exact distinct.1 (List.mem_map.mpr ⟨(username, observed), later, same.symm⟩)
      obtain ⟨stateHere, callsHere⟩ := finishUser_other enforcer now outcome result entry differ
      obtain ⟨device, turn⟩ := ih (finishUser enforcer now outcome result entry) distinct.2 later
      rw [stateHere, callsHere] at turn
      exact ⟨device, turn⟩

end Finish

theorem runTick_observed (zones : ZoneDatabase) (tzName agentVersion : String) (enforcer : TimekprEnforcer σ)
    (hub : SyncRequest → HubOutcome) (state : AgentState) (device : σ)
    (managedUsers : List (String × Option UserObservation)) (now : Instant) (previousPollMs : Int)
    {username : String} {observed : Observed}
    (known : (draftTick zones tzName state managedUsers now).observations.get? username = some observed) :
    let draft := draftTick zones tzName state managedUsers now
    let outcome := hub (draft.request agentVersion now)
    let result := (runTick zones tzName agentVersion enforcer hub state device managedUsers now
      previousPollMs).1
    ∃ device',
      (username, some observed.obs) ∈ managedUsers ∧
      result.state.user username =
        (userTurn enforcer device' username observed (draft.state.user username) now outcome).userState ∧
      callsFor username result.calls =
        (userTurn enforcer device' username observed (draft.state.user username) now outcome).calls := by
  intro draft outcome result
  have listed := (Dict.get?_eq_some _ _ _).mp known
  obtain ⟨device', state, calls⟩ := finish_own enforcer now outcome
    { state := { draft.state with hubTz := outcome.hubTz draft.state.hubTz }, device }
    draft.observations.entries draft.observations.nodup listed
  rcases draft_observed _ now _ managedUsers known with none | read
  · cases none
  · exact ⟨device', read, state, calls⟩

theorem runTick_user (zones : ZoneDatabase) (tzName agentVersion : String) (enforcer : TimekprEnforcer σ)
    (hub : SyncRequest → HubOutcome) (state : AgentState) (device : σ)
    (managedUsers : List (String × Option UserObservation)) (now : Instant) (previousPollMs : Int)
    (username : String) :
    let draft := draftTick zones tzName state managedUsers now
    let outcome := hub (draft.request agentVersion now)
    let result := (runTick zones tzName agentVersion enforcer hub state device managedUsers now
      previousPollMs).1
    (result.state.user username = draft.state.user username ∧ callsFor username result.calls = []) ∨
    ∃ observed device',
      draft.observations.get? username = some observed ∧
      (username, some observed.obs) ∈ managedUsers ∧
      result.state.user username =
        (userTurn enforcer device' username observed (draft.state.user username) now outcome).userState ∧
      callsFor username result.calls =
        (userTurn enforcer device' username observed (draft.state.user username) now outcome).calls := by
  intro draft outcome result
  cases lookup : draft.observations.get? username with
  | none =>
    have absent : username ∉ draft.observations.keys := by
      intro member
      obtain ⟨entry, inside, rfl⟩ := List.mem_map.mp member
      have found := (Dict.get?_eq_some draft.observations entry.1 entry.2).mpr inside
      rw [lookup] at found
      cases found
    exact .inl (finish_others enforcer now outcome _ _ absent)
  | some observed =>
    obtain ⟨device', read, state, calls⟩ := runTick_observed zones tzName agentVersion enforcer hub state
      device managedUsers now previousPollMs lookup
    exact .inr ⟨observed, device', rfl, read, state, calls⟩

end TimekprProof
