import TimekprHub.Agent.QuietTick
import TimekprHub.Timekpr.Config

namespace TimekprModel

def kidObservation : UserObservation :=
  { balanceS := 600, spentDayS := 600, limitTodayS := 3600, loggedIn := true, active := true }

def noonPlus (seconds : Int) : Instant := 1798804800000000 + seconds * second

def kidReply (enforcement : EnforcementMode) : SyncResponse :=
  { hubTime := noonPlus 0
    hubTz := "UTC"
    day := "2027-01-01"
    nextPollMs := some 20000
    users :=
      [{ username := "kid"
         globalSpentS := 600
         effectiveLimitTodayS := 3600
         effectiveWeekLimitS := 25200
         effectiveMonthLimitS := 108000
         enforcement := some enforcement
         policyVersion := 1
         policyRevision := none
         policy := none
         offlinePolicy := some .capped
         offlineGraceS := some 900
         offlineCapS := some 1800 }] }

def kidTick (now : Instant) (outcome : HubOutcome) : TickInput TimekprConfig :=
  { zones := fun _ => some utc
    tzName := "UTC"
    agentVersion := "0.1"
    enforcer := honestEnforcer (fun _ => false) true
    device := {}
    managedUsers := [("kid", some kidObservation)]
    now
    outcome }

end TimekprModel

namespace TimekprProof

open TimekprModel

universe u

section Observe

variable {σ : Type u} (username : String) (start : AgentState) (first : TickInput σ)
  (during : List (TickInput σ))

/-- From a reply that says observe until one that says enforce, the agent writes nothing for the user,
    as long as no outage in between lasts past the offline grace. -/
theorem observe_mode_silent (told : first.TellsObserve username)
    (notEnforced : ∀ tick ∈ during, ¬ tick.TellsEnforce username)
    (idle : Runs.StepsMeet agentStep (IdleIfUnreachable username) (agentStep start first) during) :
    callsFor username (runCalls start (first :: during)) = [] ∧
      ((Runs.run agentStep start (first :: during)).user username).appliedOffsetS =
        (start.user username).appliedOffsetS := by
  obtain ⟨response, userResponse, answered, found, observe⟩ := told
  have firstQuiet : ¬ first.TellsEnforce username := by
    rintro ⟨other, otherUser, same, listed, enforced⟩
    rw [answered] at same
    cases same
    rw [found] at listed
    cases listed
    exact enforced observe
  have reachable : IdleIfUnreachable username start first := by
    intro unreachable
    rw [answered] at unreachable
    cases unreachable
  apply run_quiet
  · intro tick member
    rcases List.mem_cons.mp member with rfl | later
    · exact firstQuiet
    · exact notEnforced tick later
  · exact ⟨reachable, idle⟩

end Observe

theorem observe_mode_silent_in_grace :
    callsFor "kid" (runCalls {}
        [kidTick (noonPlus 0) (.response (kidReply .observe)), kidTick (noonPlus 899) .unreachable]) = [] ∧
      ((Runs.run agentStep {}
        [kidTick (noonPlus 0) (.response (kidReply .observe)),
          kidTick (noonPlus 899) .unreachable]).user "kid").appliedOffsetS = 0 :=
  observe_mode_silent "kid" {} (kidTick (noonPlus 0) (.response (kidReply .observe)))
    [kidTick (noonPlus 899) .unreachable]
    ⟨kidReply .observe, (kidReply .observe).users.head (by decide), rfl, rfl, rfl⟩
    (by
      intro tick member
      rw [List.mem_singleton.mp member]
      rintro ⟨_, _, answered, _⟩
      cases answered)
    ⟨fun _ _ _ => by decide, trivial⟩

/-- One second later the outage is past grace, and the observed device is written to. -/
theorem observe_mode_writes_past_grace :
    (kidTick (noonPlus 0) (.response (kidReply .observe))).TellsObserve "kid" ∧
      ¬ (kidTick (noonPlus 900) .unreachable).TellsEnforce "kid" ∧
      callsFor "kid" (runCalls {}
        [kidTick (noonPlus 0) (.response (kidReply .observe)), kidTick (noonPlus 900) .unreachable]) =
        [.timeLeft .set 1800] ∧
      ((Runs.run agentStep {}
        [kidTick (noonPlus 0) (.response (kidReply .observe)),
          kidTick (noonPlus 900) .unreachable]).user "kid").appliedOffsetS = 1200 := by
  refine ⟨⟨kidReply .observe, (kidReply .observe).users.head (by decide), rfl, rfl, rfl⟩, ?_, ?_, ?_⟩
  · rintro ⟨_, _, answered, _⟩
    cases answered
  · decide
  · decide

section Revoked

variable {σ : Type u} (start : AgentState) (first : TickInput σ) (during : List (TickInput σ))

/-- From a revocation until a sync succeeds, the agent writes nothing at all, as long as no outage in
    between finds a user past the offline grace. -/
theorem revoked_device_silent (revoked : first.outcome = .revoked)
    (unanswered : ∀ tick ∈ during, ¬ tick.Answered)
    (idle : Runs.StepsMeet agentStep (fun state tick => ∀ username, IdleIfUnreachable username state tick)
      (agentStep start first) during) :
    runCalls start (first :: during) = [] := by
  apply calls_eq_nil
  intro username
  have unenforced : ∀ tick ∈ first :: during, ¬ tick.TellsEnforce username := by
    rintro tick member ⟨response, _, answered, _⟩
    rcases List.mem_cons.mp member with rfl | later
    · rw [revoked] at answered
      cases answered
    · exact unanswered tick later ⟨response, answered⟩
  have firstIdle : IdleIfUnreachable username start first := by
    intro unreachable
    rw [revoked] at unreachable
    cases unreachable
  have restIdle : Runs.StepsMeet agentStep (IdleIfUnreachable username) (agentStep start first) during :=
    idle.imp fun _ _ every => every username
  exact (run_quiet unenforced ⟨firstIdle, restIdle⟩).1

end Revoked

theorem revoked_device_silent_in_grace :
    runCalls (agentStep {} (kidTick (noonPlus 0) (.response (kidReply .enforce))))
      [kidTick (noonPlus 20) .revoked, kidTick (noonPlus 899) .unreachable] = [] :=
  revoked_device_silent (agentStep {} (kidTick (noonPlus 0) (.response (kidReply .enforce))))
    (kidTick (noonPlus 20) .revoked) [kidTick (noonPlus 899) .unreachable] rfl
    (by
      intro tick member
      rw [List.mem_singleton.mp member]
      rintro ⟨_, answered⟩
      cases answered)
    ⟨by
      intro username _ obs member
      have same : username = "kid" := (Prod.mk.inj (List.mem_singleton.mp member)).1
      subst same
      decide, trivial⟩

/-- The revoked device is written to as soon as the outage is past grace. -/
theorem revoked_device_written_past_grace :
    runCalls (agentStep {} (kidTick (noonPlus 0) (.response (kidReply .enforce))))
      [kidTick (noonPlus 20) .revoked, kidTick (noonPlus 900) .unreachable] =
        [("kid", .timeLeft .set 1800)] := by
  decide

end TimekprProof
