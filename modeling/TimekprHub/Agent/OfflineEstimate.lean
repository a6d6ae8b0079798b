import TimekprHub.Agent.Relinquish

namespace TimekprModel

universe u

variable {σ : Type u}

def HubTarget.timeLeft (target : HubTarget) : Int := target.limitTodayS - target.globalSpentS

namespace TickInput

variable (tick : TickInput σ) (state : AgentState) (username : String)

def today : String := todayStr tick.zones state tick.tzName tick.now

def draft : Draft := draftTick tick.zones tick.tzName state tick.managedUsers tick.now

def offlineTarget? : Option HubTarget :=
  let userState := (tick.draft state).state.user username
  match tick.outcome, (tick.draft state).observations.get? username with
  | .unreachable, some _ =>
    if userState.lastOfflinePolicy = .capped ∧ ¬ offlineIdle userState tick.now then
      some (offlineTarget userState)
    else none
  | _, _ => none

/-- What timekpr shows as spent each time the tick reads the user: once, unless `--users` repeats it. -/
def readings : List Int :=
  tick.managedUsers.filterMap fun managed =>
    if managed.1 = username then managed.2.map UserObservation.spentDayS else none

end TickInput

def UserState.counter (userState : UserState) : CumulativeState :=
  { cumLocalS := userState.cumLocalS, rawPrevS := userState.rawPrevS }

def advanceAll (counter : CumulativeState) (readings : List Int) : CumulativeState :=
  readings.foldl (fun counter spent => advanceCumulative counter spent cfg) counter

/-- Two consecutive unreachable ticks of one canonical day: what was burned between them goes onto the
    estimate and off the enforced time left. -/
def NeverRefunds (username : String) (state : AgentState) (first second : TickInput σ) : Prop :=
  let between := agentStep state first
  let burned := ((agentStep between second).user username).cumLocalS - (between.user username).cumLocalS
  ∀ before after, first.offlineTarget? state username = some before →
    second.offlineTarget? between username = some after → second.today between = first.today state →
    after.globalSpentS - before.globalSpentS = burned ∧ after.timeLeft = before.timeLeft - burned

def BaselineReached (username : String) (state : AgentState) (first second : TickInput σ) : Prop :=
  let held := (agentStep state first).user username
  let later := advanceAll held.counter (second.readings username)
  ∀ before after, first.offlineTarget? state username = some before →
    second.offlineTarget? (agentStep state first) username = some after →
    second.today (agentStep state first) = first.today state →
    later.cumLocalS = held.cumLocalS ∨
      held.cumLocalAtContactS ≤ held.cumLocalS ∧ held.cumLocalAtContactS ≤ later.cumLocalS

def kidOffline (now : Instant) (spentDayS : Int) : TickInput TimekprConfig :=
  { kidTick now .unreachable with
    managedUsers := [("kid", some { kidObservation with balanceS := spentDayS, spentDayS })] }

end TimekprModel

namespace TimekprProof

open TimekprModel

universe u

variable {σ : Type u}

theorem measure_counter {userState : UserState} {today : String} (named : today ≠ "")
    (sameDay : userState.day = today) (obs : UserObservation) (now : Instant) :
    (measure userState obs today now).userState.counter =
      advanceCumulative userState.counter obs.spentDayS cfg := by
  have started : userState.day ≠ "" := by
    rw [sameDay]
    exact named
  have stays : ¬ userState.day ≠ today := not_not.mpr sameDay
  simp only [TimekprModel.measure, advanceDay, if_neg started, if_neg stays]
  rfl

section Draft

variable {today : String} (now : Instant)

theorem draft_counter (named : today ≠ "") (username : String) (draft : Draft)
    (managedUsers : List (String × Option UserObservation))
    (sameDay : (draft.state.user username).day = today) :
    ((managedUsers.foldl (draftUser today now) draft).state.user username).counter =
      advanceAll (draft.state.user username).counter (managedUsers.filterMap fun managed =>
        if managed.1 = username then managed.2.map UserObservation.spentDayS else none) := by
  induction managedUsers generalizing draft with
  | nil => rfl
  | cons managed rest ih =>
    obtain ⟨name, reading⟩ := managed
    cases reading with
    | none =>
      simp only [List.foldl_cons, draftUser, List.filterMap_cons, Option.map_none, ite_self]
      exact ih draft sameDay
    | some obs =>
      by_cases same : name = username
      · subst same
        have day : ((draftUser today now draft (name, some obs)).state.user name).day = today := by
          simp only [draftUser, AgentState.user_setUser_same]
          rfl
        have counter : ((draftUser today now draft (name, some obs)).state.user name).counter =
            advanceCumulative (draft.state.user name).counter obs.spentDayS cfg := by
          simp only [draftUser, AgentState.user_setUser_same]
          exact measure_counter named sameDay obs now
        rw [List.foldl_cons, ih _ day, counter]
        simp only [List.filterMap_cons, if_true, Option.map_some]
        rfl
      · have other : (draftUser today now draft (name, some obs)).state.user username =
            draft.state.user username := by
          simp only [draftUser]
          exact AgentState.user_setUser_other _ _ (Ne.symm same)
        rw [List.foldl_cons, ih _ (by rw [other]; exact sameDay), other]
        simp only [List.filterMap_cons, if_neg same]

theorem draft_day (username : String) (draft : Draft)
    (managedUsers : List (String × Option UserObservation))
    (known : draft.observations.get? username ≠ none → (draft.state.user username).day = today) :
    (managedUsers.foldl (draftUser today now) draft).observations.get? username ≠ none →
      ((managedUsers.foldl (draftUser today now) draft).state.user username).day = today := by
  induction managedUsers generalizing draft with
  | nil => exact known
  | cons managed rest ih =>
    apply ih
    obtain ⟨name, reading⟩ := managed
    cases reading with
    | none => exact known
    | some obs =>
      by_cases same : username = name
      · subst same
        intro _
        simp only [draftUser, AgentState.user_setUser_same]
        rfl
      · simp only [draftUser, AgentState.user_setUser_other _ _ same, Dict.get?_set_other _ _ same]
        exact known

end Draft

theorem unanswered_tick {tick : TickInput σ} (state : AgentState) (unreachable : tick.outcome = .unreachable)
    (username : String) :
    ∃ pendingSpans appliedOffsetS, (agentStep state tick).user username =
      { (tick.draft state).state.user username with pendingSpans, appliedOffsetS } := by
  rcases runTick_user tick.zones tick.tzName tick.agentVersion tick.enforcer (fun _ => tick.outcome)
    state tick.device tick.managedUsers tick.now defaultPollMs username
    with ⟨same, _⟩ | ⟨observed, device, _, _, same, _⟩
  · exact ⟨_, _, same⟩
  · obtain ⟨pendingSpans, appliedOffsetS, turn⟩ := unreachableTurn_frame tick.enforcer device username
      observed ((tick.draft state).state.user username) tick.now
    refine ⟨pendingSpans, appliedOffsetS, same.trans ?_⟩
    rw [unreachable]
    exact turn

theorem offlineTarget?_cases {tick : TickInput σ} {state : AgentState} {username : String}
    {target : HubTarget} (aimed : tick.offlineTarget? state username = some target) :
    tick.outcome = .unreachable ∧
      (tick.draft state).observations.get? username ≠ none ∧
      ((tick.draft state).state.user username).lastOfflinePolicy = .capped ∧
      ¬ offlineIdle ((tick.draft state).state.user username) tick.now ∧
      target = offlineTarget ((tick.draft state).state.user username) := by
  unfold TickInput.offlineTarget? at aimed
  split at aimed
  · rename_i observed unreachable found
    dsimp only at aimed
    split at aimed
    · rename_i due
      refine ⟨unreachable, ?_, due.1, due.2, (Option.some.inj aimed).symm⟩
      rw [found]
      exact Option.some_ne_none _
    · cases aimed
  · cases aimed

theorem applyOfflinePolicy_capped (enforcer : TimekprEnforcer σ) (device : σ) (username : String)
    (obs : UserObservation) {userState : UserState} {now : Instant}
    (capped : userState.lastOfflinePolicy = .capped) (due : ¬ offlineIdle userState now) :
    applyOfflinePolicy enforcer device username obs userState now =
      applyConvergence enforcer device username obs (offlineTarget userState) userState false := by
  unfold applyOfflinePolicy
  rw [if_neg due]
  simp only [capped]

theorem offlineTarget_buffered (userState : UserState) (span : Option ActiveSpan) :
    offlineTarget (bufferUnsentSpan userState span) = offlineTarget userState ∧
      (bufferUnsentSpan userState span).lastOfflinePolicy = userState.lastOfflinePolicy := by
  obtain ⟨pendingSpans, buffered⟩ := bufferUnsentSpan_frame userState span
  rw [buffered]
  exact ⟨rfl, rfl⟩

theorem offlineTarget?_calls {tick : TickInput σ} {state : AgentState} {username : String}
    {target : HubTarget} (aimed : tick.offlineTarget? state username = some target) :
    ∃ device obs userState, (username, some obs) ∈ tick.managedUsers ∧
      callsFor username (tickStep state tick).calls =
        (applyConvergence tick.enforcer device username obs target userState false).calls := by
  obtain ⟨unreachable, known, capped, due, rfl⟩ := offlineTarget?_cases aimed
  obtain ⟨observed, found⟩ := Option.ne_none_iff_exists'.mp known
  obtain ⟨device, listed, _, calls⟩ := runTick_observed tick.zones tick.tzName tick.agentVersion
    tick.enforcer (fun _ => tick.outcome) state tick.device tick.managedUsers tick.now defaultPollMs found
  let drafted := (tick.draft state).state.user username
  obtain ⟨aim, policy⟩ := offlineTarget_buffered drafted observed.span
  have overdue : ¬ offlineIdle (bufferUnsentSpan drafted observed.span) tick.now := by
    rw [bufferUnsentSpan_offlineIdle]
    exact due
  have turn := applyOfflinePolicy_capped tick.enforcer device username observed.obs (policy.trans capped)
    overdue
  rw [aim] at turn
  refine ⟨device, observed.obs, bufferUnsentSpan drafted observed.span, listed, calls.trans ?_⟩
  rw [unreachable]
  exact congrArg Turn.calls turn

/-- Two states of one outage differ in the day and the counter; what the clamp does to the difference. -/
theorem offlineTarget_moves (held : UserState) (day : String) (cumLocalS rawPrevS : Int) :
    let later := { held with day, cumLocalS, rawPrevS }
    let burned := cumLocalS - held.cumLocalS
    ((offlineTarget later).globalSpentS - (offlineTarget held).globalSpentS = burned ∧
        (offlineTarget later).timeLeft = (offlineTarget held).timeLeft - burned) ↔
      cumLocalS = held.cumLocalS ∨
        held.cumLocalAtContactS ≤ held.cumLocalS ∧ held.cumLocalAtContactS ≤ cumLocalS := by
  intro later burned
  simp only [offlineTarget, HubTarget.timeLeft, later, burned]
  omega

theorem never_refunds_iff (username : String) (state : AgentState) (first second : TickInput σ) :
    NeverRefunds username state first second ↔ BaselineReached username state first second := by
  unfold NeverRefunds BaselineReached
  dsimp only
  apply forall_congr'
  intro before
  apply forall_congr'
  intro after
  apply imp_congr_right
  intro aimedFirst
  apply imp_congr_right
  intro aimedSecond
  apply imp_congr_right
  intro sameDay
  obtain ⟨firstOut, firstKnown, _, _, rfl⟩ := offlineTarget?_cases aimedFirst
  obtain ⟨secondOut, _, _, _, rfl⟩ := offlineTarget?_cases aimedSecond
  obtain ⟨_, _, between⟩ := unanswered_tick state firstOut username
  obtain ⟨_, _, last⟩ := unanswered_tick (agentStep state first) secondOut username
  have aimed : offlineTarget ((first.draft state).state.user username) =
      offlineTarget ((agentStep state first).user username) := by
    rw [between]
    rfl
  have day : ((agentStep state first).user username).day = second.today (agentStep state first) := by
    rw [between, sameDay]
    exact draft_day first.now username _ first.managedUsers (fun none => absurd rfl none) firstKnown
  have counted := draft_counter second.now (Date.isoformat_ne_empty _) username
    { state := agentStep state first } second.managedUsers day
  have counter : ((second.draft (agentStep state first)).state.user username).cumLocalS =
      (advanceAll ((agentStep state first).user username).counter (second.readings username)).cumLocalS :=
    congrArg CumulativeState.cumLocalS counted
  obtain ⟨_, _, _, frame⟩ := draft_frame (second.today (agentStep state first)) second.now
    { state := agentStep state first } second.managedUsers username
  have drafted : (second.draft (agentStep state first)).state.user username = _ := frame
  rw [aimed, last, ← counter]
  rw [drafted]
  exact offlineTarget_moves ((agentStep state first).user username) _ _ _

/-- Along any run of ticks, an outage refunds nothing from one tick to the next of its day exactly where
    the counter has reached its value of the last contact or nothing was burned. -/
theorem offline_never_refunded_iff (username : String) (start : AgentState) (contact : TickInput σ)
    (outage : List (TickInput σ)) :
    Runs.PairsMeet agentStep (NeverRefunds username) (agentStep start contact) outage ↔
      Runs.PairsMeet agentStep (BaselineReached username) (agentStep start contact) outage :=
  Runs.PairsMeet.iff (never_refunds_iff username) _ outage

/-- The day after the last contact a minute is burned, and the estimate stays where it was. -/
theorem offline_minute_refunded :
    ¬ Runs.PairsMeet agentStep (NeverRefunds "kid")
      (agentStep {} (kidTick (noonPlus 0) (.response (kidReply .enforce))))
      [kidOffline (noonPlus 86400) 0, kidOffline (noonPlus 86460) 60] := by
  intro meets
  have pair := meets.1 { limitTodayS := 2400, globalSpentS := 600 }
    { limitTodayS := 2400, globalSpentS := 600 } (by decide) (by decide) (by decide)
  exact absurd pair.1 (by decide)

end TimekprProof
