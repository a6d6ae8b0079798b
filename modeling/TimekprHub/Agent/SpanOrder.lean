import TimekprHub.Agent.DraftUser
import TimekprHub.Agent.OfflineEstimate

namespace TimekprModel

universe u

variable {σ : Type u}

namespace TickInput

variable (tick : TickInput σ) (state : AgentState) (username : String)

def span? : Option ActiveSpan := ((tick.draft state).observations.get? username).bind Observed.span

def burnedS (spentDayS : Int) : Int :=
  let (cumState, _, cumLocalBefore) := advanceDay (state.user username) (tick.today state) spentDayS
  max (cumState.cumLocalS - cumLocalBefore) 0

end TickInput

structure SpanRun where
  state : AgentState := {}
  spans : List ActiveSpan := []

def SpanRun.tick (username : String) (run : SpanRun) (tick : TickInput σ) : SpanRun where
  state := agentStep run.state tick
  spans := run.spans ++ (tick.span? run.state username).toList

structure InOrder (spans : List ActiveSpan) : Prop where
  apart : spans.Pairwise fun earlier later => earlier.stop ≤ later.start
  forward : ∀ span ∈ spans, span.start ≤ span.stop

/-- A tick that produces a span remembers where the last one ended, or burned no more than has passed since
    then. -/
def BurnFitsGap (username : String) (run : SpanRun) (tick : TickInput σ) : Prop :=
  ∀ obs, (username, some obs) ∈ tick.managedUsers → obs.active = true →
    0 < tick.burnedS run.state username obs.spentDayS → ∀ last ∈ run.spans.getLast?,
      (run.state.user username).lastTickUtc = last.stop ∧ last.stop ≠ 0 ∨
        tick.burnedS run.state username obs.spentDayS * second ≤ tick.now - last.stop

end TimekprModel

namespace TimekprProof

open TimekprModel

universe u

variable {σ : Type u} {username : String}

section Tick

variable {tick : TickInput σ} {state : AgentState}

theorem span?_read (distinct : (tick.managedUsers.map Prod.fst).Nodup) {obs : UserObservation}
    (listed : (username, some obs) ∈ tick.managedUsers) :
    tick.span? state username = tickSpan (state.user username) obs tick.now
      (tick.burnedS state username obs.spentDayS) := by
  have observed := (draft_listed (tick.today state) tick.now state distinct listed).2
  exact congrArg (fun seen => Option.bind seen Observed.span) observed

theorem span?_unread (distinct : (tick.managedUsers.map Prod.fst).Nodup)
    (unread : ∀ obs, (username, some obs) ∉ tick.managedUsers) : tick.span? state username = none := by
  have unseen := (draft_unlisted (tick.today state) tick.now state distinct unread).2
  exact congrArg (fun seen => Option.bind seen Observed.span) unseen

theorem userTurn_lastTickUtc (enforcer : TimekprEnforcer σ) (device : σ) (observed : Observed)
    (userState : UserState) (now : Instant) (outcome : HubOutcome) :
    (userTurn enforcer device username observed userState now outcome).userState.lastTickUtc =
        userState.lastTickUtc ∨
      observed.span.isSome = true ∧
        (userTurn enforcer device username observed userState now outcome).userState.lastTickUtc = now := by
  cases outcome with
  | response response =>
    simp only [userTurn]
    split
    · exact .inl rfl
    · rename_i userResponse _
      obtain ⟨_, _, _, _, _, same⟩ :=
        answeredTurn_frame enforcer device username observed userState userResponse now
      rw [same]
      simp only [rememberContact]
      split
      · rename_i produced
        exact .inr ⟨produced, rfl⟩
      · exact .inl rfl
  | revoked =>
    obtain ⟨_, same⟩ := revokedTurn_frame device observed userState
    have turn := congrArg UserState.lastTickUtc same
    exact .inl turn
  | unreachable =>
    obtain ⟨_, _, same⟩ := unreachableTurn_frame enforcer device username observed userState now
    have turn := congrArg UserState.lastTickUtc same
    exact .inl turn

theorem lastTickUtc_step (username : String) (tick : TickInput σ) (state : AgentState) :
    ((agentStep state tick).user username).lastTickUtc = (state.user username).lastTickUtc ∨
      (tick.span? state username).isSome = true ∧
        ((agentStep state tick).user username).lastTickUtc = tick.now := by
  obtain ⟨_, _, _, drafted⟩ := draft_frame (tick.today state) tick.now { state } tick.managedUsers username
  have kept := congrArg UserState.lastTickUtc drafted
  rcases runTick_user tick.zones tick.tzName tick.agentVersion tick.enforcer (fun _ => tick.outcome)
    state tick.device tick.managedUsers tick.now defaultPollMs username
    with ⟨same, _⟩ | ⟨observed, device, found, _, same, _⟩
  · have turn := congrArg UserState.lastTickUtc same
    exact .inl (turn.trans kept)
  · have turn := congrArg UserState.lastTickUtc same
    rcases userTurn_lastTickUtc tick.enforcer device observed ((tick.draft state).state.user username) tick.now
      tick.outcome with stays | ⟨produced, moved⟩
    · exact .inl (turn.trans (stays.trans kept))
    · refine .inr ⟨?_, turn.trans moved⟩
      have own : tick.span? state username = observed.span :=
        congrArg (fun seen => Option.bind seen Observed.span) found
      rw [own]
      exact produced

end Tick

section Clamp

variable {now burned remembered stop : Int}

theorem clamped_start_le (positive : 0 < burned) (past : remembered ≠ 0 → remembered ≤ now) :
    (if remembered = 0 then now - burned * second else max (now - burned * second) remembered) ≤ now := by
  simp only [second]
  split
  · omega
  · rename_i some
    have before := past some
    omega

theorem le_clamped_start_iff (bound : remembered ≠ 0 → remembered ≤ stop) :
    stop ≤ (if remembered = 0 then now - burned * second else max (now - burned * second) remembered) ↔
      remembered = stop ∧ stop ≠ 0 ∨ burned * second ≤ now - stop := by
  split
  · omega
  · rename_i some
    have before := bound some
    omega

end Clamp

section Order

variable {run : SpanRun} {tick : TickInput σ}

theorem all_end_by_iff {spans : List ActiveSpan}
    (grow : spans.Pairwise fun earlier later => earlier.stop ≤ later.stop) (bound : Instant) :
    (∀ span ∈ spans, span.stop ≤ bound) ↔ ∀ last ∈ spans.getLast?, last.stop ≤ bound := by
  constructor
  · intro all last found
    exact all last (List.mem_of_mem_getLast? found)
  · intro byLast
    rcases List.eq_nil_or_concat spans with rfl | ⟨earlier, last, rfl⟩
    · intro span listed
      cases listed
    · rw [List.concat_eq_append] at grow byLast ⊢
      have lastBy := byLast last (by simp)
      intro span listed
      rcases List.mem_append.mp listed with before | own
      · have within := (List.pairwise_append.mp grow).2.2 span before last (List.mem_singleton_self last)
        exact within.trans lastBy
      · rw [List.mem_singleton.mp own]
        exact lastBy

theorem inOrder_append_iff {spans : List ActiveSpan} {span : ActiveSpan} (forward : span.start ≤ span.stop) :
    InOrder (spans ++ [span]) ↔ InOrder spans ∧ ∀ earlier ∈ spans, earlier.stop ≤ span.start := by
  constructor
  · intro ordered
    obtain ⟨apart, _, later⟩ := List.pairwise_append.mp ordered.apart
    refine ⟨⟨apart, fun other listed => ordered.forward other (List.mem_append_left _ listed)⟩, ?_⟩
    intro earlier listed
    exact later earlier listed span (List.mem_singleton_self span)
  · rintro ⟨ordered, later⟩
    constructor
    · refine List.pairwise_append.mpr ⟨ordered.apart, List.pairwise_singleton _ _, ?_⟩
      intro earlier listed other own
      rw [List.mem_singleton.mp own]
      exact later earlier listed
    · intro other listed
      rcases List.mem_append.mp listed with before | own
      · exact ordered.forward other before
      · rw [List.mem_singleton.mp own]
        exact forward

/-- The spans so far end in order and before the ticks to come, and the end the agent remembers is one of
    theirs. -/
structure Tracked (username : String) (run : SpanRun) (ticks : List (TickInput σ)) : Prop where
  clock : ticks.Pairwise fun earlier later => earlier.now ≤ later.now
  distinct : ∀ tick ∈ ticks, (tick.managedUsers.map Prod.fst).Nodup
  grow : run.spans.Pairwise fun earlier later => earlier.stop ≤ later.stop
  past : ∀ span ∈ run.spans, ∀ tick ∈ ticks, span.stop ≤ tick.now
  remembered : (run.state.user username).lastTickUtc ≠ 0 →
    ∃ span ∈ run.spans, span.stop = (run.state.user username).lastTickUtc

theorem tickSpan_cases (userState : UserState) (obs : UserObservation) (now : Instant) (burned : Int) :
    (tickSpan userState obs now burned = none ∧ ¬(obs.active = true ∧ 0 < burned)) ∨
      ∃ span, tickSpan userState obs now burned = some span ∧ (obs.active = true ∧ 0 < burned) ∧
        span.stop = now ∧ span.start = if userState.lastTickUtc = 0 then now - burned * second
          else max (now - burned * second) userState.lastTickUtc := by
  unfold tickSpan
  by_cases produces : obs.active = true ∧ burned > 0
  · rw [if_pos produces]
    exact .inr ⟨_, rfl, produces, rfl, rfl⟩
  · rw [if_neg produces]
    exact .inl ⟨rfl, produces⟩

theorem span?_stop (distinct : (tick.managedUsers.map Prod.fst).Nodup) {state : AgentState} {span : ActiveSpan}
    (produced : tick.span? state username = some span) : span.stop = tick.now := by
  by_cases read : ∃ obs, (username, some obs) ∈ tick.managedUsers
  · obtain ⟨obs, listed⟩ := read
    rw [span?_read distinct listed] at produced
    rcases tickSpan_cases (state.user username) obs tick.now (tick.burnedS state username obs.spentDayS)
      with ⟨none, _⟩ | ⟨own, same, _, stop, _⟩
    · rw [none] at produced
      cases produced
    · rw [same] at produced
      cases produced
      exact stop
  · rw [span?_unread distinct (not_exists.mp read)] at produced
    cases produced

theorem tracked_tick {rest : List (TickInput σ)} (tracked : Tracked username run (tick :: rest)) :
    Tracked username (run.tick username tick) rest := by
  obtain ⟨after, clock⟩ := List.pairwise_cons.mp tracked.clock
  obtain ⟨distinct, others⟩ := List.forall_mem_cons.mp tracked.distinct
  have stop : ∀ span ∈ (tick.span? run.state username).toList, span.stop = tick.now := by
    intro span listed
    exact span?_stop distinct (Option.mem_toList.mp listed)
  refine ⟨clock, others, ?_, ?_, ?_⟩
  · refine List.pairwise_append.mpr ⟨tracked.grow, ?_, ?_⟩
    · cases tick.span? run.state username <;> simp
    · intro earlier before own listed
      rw [stop own listed]
      exact tracked.past earlier before tick (List.mem_cons_self ..)
  · intro span listed later member
    rcases List.mem_append.mp listed with before | own
    · exact tracked.past span before later (List.mem_cons_of_mem _ member)
    · rw [stop span own]
      exact after later member
  · intro remembered
    rcases lastTickUtc_step username tick run.state
      with stays | ⟨produced, moved⟩
    · have before := tracked.remembered (stays ▸ remembered)
      obtain ⟨span, listed, same⟩ := before
      exact ⟨span, List.mem_append_left _ listed, same.trans stays.symm⟩
    · obtain ⟨span, found⟩ := Option.isSome_iff_exists.mp produced
      have listed : span ∈ (tick.span? run.state username).toList := Option.mem_toList.mpr found
      exact ⟨span, List.mem_append_right _ listed, (stop span listed).trans moved.symm⟩

theorem remembered_by_last {ticks : List (TickInput σ)} (tracked : Tracked username run ticks)
    (remembered : (run.state.user username).lastTickUtc ≠ 0) :
    ∀ last ∈ run.spans.getLast?, (run.state.user username).lastTickUtc ≤ last.stop := by
  intro last found
  obtain ⟨span, listed, same⟩ := tracked.remembered remembered
  rw [← same]
  have bounded : ∀ own ∈ run.spans.getLast?, own.stop ≤ last.stop := by
    intro own also
    rw [Option.mem_unique found also]
  exact (all_end_by_iff tracked.grow last.stop).mpr bounded span listed

theorem inOrder_tick_iff {rest : List (TickInput σ)} (tracked : Tracked username run (tick :: rest)) :
    InOrder (run.tick username tick).spans ↔ InOrder run.spans ∧ BurnFitsGap username run tick := by
  have distinct := tracked.distinct tick (List.mem_cons_self ..)
  by_cases read : ∃ obs, (username, some obs) ∈ tick.managedUsers
  · obtain ⟨obs, listed⟩ := read
    have own : tick.span? run.state username = tickSpan (run.state.user username) obs tick.now
        (tick.burnedS run.state username obs.spentDayS) := span?_read distinct listed
    rcases tickSpan_cases (run.state.user username) obs tick.now
      (tick.burnedS run.state username obs.spentDayS) with ⟨none, quiet⟩ | ⟨span, some, produces, stop, start⟩
    · have same : (run.tick username tick).spans = run.spans := by
        rw [SpanRun.tick, own, none, Option.toList_none, List.append_nil]
      rw [same]
      refine (and_iff_left ?_).symm
      intro other also active burned
      cases reading_unique distinct listed also
      exact absurd ⟨active, burned⟩ quiet
    · have grown : (run.tick username tick).spans = run.spans ++ [span] := by
        rw [SpanRun.tick, own, some, Option.toList_some]
      have before : (run.state.user username).lastTickUtc ≠ 0 →
          (run.state.user username).lastTickUtc ≤ tick.now := by
        intro remembered
        obtain ⟨last, inside, same⟩ := tracked.remembered remembered
        rw [← same]
        exact tracked.past last inside tick (List.mem_cons_self ..)
      have forward : span.start ≤ span.stop := by
        rw [start, stop]
        exact clamped_start_le produces.2 before
      rw [grown, inOrder_append_iff forward, all_end_by_iff tracked.grow]
      apply and_congr_right
      intro _
      have fits : ∀ last ∈ run.spans.getLast?, last.stop ≤ span.start ↔
          (run.state.user username).lastTickUtc = last.stop ∧ last.stop ≠ 0 ∨
            tick.burnedS run.state username obs.spentDayS * second ≤ tick.now - last.stop := by
        intro last found
        rw [start]
        exact le_clamped_start_iff fun remembered => remembered_by_last tracked remembered last found
      constructor
      · intro after other also active burned last found
        cases reading_unique distinct listed also
        exact (fits last found).mp (after last found)
      · intro gap last found
        exact (fits last found).mpr (gap obs listed produces.1 produces.2 last found)
  · have unread := not_exists.mp read
    have same : (run.tick username tick).spans = run.spans := by
      rw [SpanRun.tick, span?_unread distinct unread, Option.toList_none, List.append_nil]
    rw [same]
    refine (and_iff_left ?_).symm
    intro obs listed
    exact absurd listed (unread obs)

end Order

/-- A device's spans come out in order exactly when every tick's burn fits behind the last span, or the agent
    remembers where it ended. -/
theorem spans_in_order_iff (username : String) {ticks : List (TickInput σ)}
    (clock : ticks.Pairwise fun earlier later => earlier.now ≤ later.now)
    (distinct : ∀ tick ∈ ticks, (tick.managedUsers.map Prod.fst).Nodup) :
    InOrder (Runs.run (SpanRun.tick username) {} ticks).spans ↔
      Runs.StepsMeet (SpanRun.tick username) (BurnFitsGap username) {} ticks := by
  have fresh : Tracked username {} ticks :=
    ⟨clock, distinct, List.Pairwise.nil, nofun, fun remembered => absurd rfl remembered⟩
  rw [Runs.run_iff_of_tracked (fun run => InOrder run.spans) (fun _ _ _ => tracked_tick)
    (fun _ _ _ => inOrder_tick_iff) fresh]
  exact and_iff_right ⟨List.Pairwise.nil, nofun⟩

theorem spans_in_order_iff_offline :
    let ticks := [kidOffline (noonPlus 0) 600, kidOffline (noonPlus 60) 660]
    InOrder (Runs.run (SpanRun.tick "kid") {} ticks).spans ↔
      Runs.StepsMeet (SpanRun.tick "kid") (BurnFitsGap "kid") {} ticks :=
  spans_in_order_iff "kid" (by decide) (by decide)

/-- While the hub is away no end is remembered: the second tick's minute is dated back over the first tick's
    span. -/
theorem offline_spans_overlap :
    ¬∀ (username : String) (ticks : List (TickInput TimekprConfig)),
      (ticks.Pairwise fun earlier later => earlier.now ≤ later.now) →
      (∀ tick ∈ ticks, (tick.managedUsers.map Prod.fst).Nodup) →
      InOrder (Runs.run (SpanRun.tick username) {} ticks).spans := by
  intro claim
  have ordered := claim "kid" [kidOffline (noonPlus 0) 600, kidOffline (noonPlus 1) 660] (by decide) (by decide)
  have apart := ordered.apart
  revert apart
  decide

end TimekprProof
