import TimekprHub.Agent.PushEffect
import TimekprHub.Agent.Tick
import TimekprHub.Core.Digest
import TimekprHub.Hub.Policy
import TimekprHub.Library.RevisionGate
import TimekprHub.Library.Runs

namespace TimekprModel

/-- One enforcing device and one user of it. `torn` is ghost state: a push since the last successful one
    had some setter refused and some other stored. -/
structure GateWorld where
  policy : Policy
  overrides : DayHourOverrides := fun _ => none
  today : Date
  agent : UserState := {}
  config : TimekprConfig
  torn : Bool := false

/-- `sync` says which setters this push would see refused, and whether the config can be read. -/
inductive GateAction
  | editPolicy (update : PolicyUpdate)
  | setDayHours (day : Date) (mode : DayHoursMode)
  | clearDayHours (day : Date)
  | newDay (day : Date)
  | sync (refuses : Setter → Bool) (readable : Bool)

variable (digest : PolicyPayload → String) (username : String)

namespace GateWorld

def hubPayload (world : GateWorld) : PolicyPayload :=
  (effectivePolicyPayload digest world.policy (world.overrides world.today) world.today).1

def hubRevision (world : GateWorld) : String :=
  (effectivePolicyPayload digest world.policy (world.overrides world.today) world.today).2

def sync (world : GateWorld) (refuses : Setter → Bool) (readable : Bool) : GateWorld :=
  let (policyPayload, revision) := policyReply digest world.policy (world.overrides world.today) world.today
    (some world.agent.policyRevisionApplied) world.agent.policyVersionApplied
  let enforcer := honestEnforcer refuses readable
  let turn := takePolicy enforcer world.config username world.agent policyPayload world.policy.version
    (some revision)
  { world with
    agent := turn.userState
    config := turn.device
    torn := match policyPayload with
      | none => world.torn
      | some policy =>
        let push := applyPolicyPush enforcer world.config username policy
        !push.ok && (world.torn || decide (push.failed.length < push.appliedCount)) }

def step (world : GateWorld) : GateAction → GateWorld
  | .editPolicy update => { world with policy := updatePolicy (some world.policy) update }
  | .setDayHours day mode =>
    { world with overrides := setUserDayHourOverride world.policy world.overrides day mode }
  | .clearDayHours day => { world with overrides := clearDayHourOverride world.overrides day }
  | .newDay day => { world with today := day }
  | .sync refuses readable => world.sync digest username refuses readable

/-- While a partly refused push has left its fields on the device, the hub's revision does not come back
    to the one the agent still reports. -/
def StaysApart (world : GateWorld) (action : GateAction) : Prop :=
  world.torn = true →
    (world.step digest username action).hubRevision digest ≠ world.agent.policyRevisionApplied

def view (world : GateWorld) : RevisionGate.State PolicyPayload TimekprConfig String where
  payload := world.hubPayload digest
  config := world.config
  reported := world.agent.policyRevisionApplied
  torn := world.torn

end GateWorld

end TimekprModel

namespace TimekprProof

open TimekprModel

variable {digest : PolicyPayload → String} {username : String}

theorem hubRevision_eq (world : GateWorld) :
    world.hubRevision digest = policyRevision digest (world.hubPayload digest) :=
  effective_revision ..

theorem view_reported (digest : PolicyPayload → String) (world : GateWorld) :
    (world.view digest).reported = world.agent.policyRevisionApplied := rfl

theorem view_config (digest : PolicyPayload → String) (world : GateWorld) :
    (world.view digest).config = world.config := rfl

theorem hubPayload_separated (world : GateWorld) :
    ∀ text ∈ (world.hubPayload digest).wakeTo, ';' ∉ text.toList := by
  apply effective_separated

theorem sync_current {world : GateWorld} (refuses : Setter → Bool) (readable : Bool)
    (same : world.agent.policyRevisionApplied = world.hubRevision digest) :
    world.sync digest username refuses readable = world := by
  have current : ¬ world.agent.policyRevisionApplied ≠
      (effectivePolicyPayload digest world.policy (world.overrides world.today) world.today).2 :=
    not_not.mpr same
  simp only [GateWorld.sync, policyReply_current, if_neg current, takePolicy]

theorem clear_view (world : GateWorld) :
    (world.step digest username (.clearDayHours world.today)).view digest =
      { world.view digest with
        payload := (effectivePolicyPayload digest world.policy none world.today).1 } := by
  simp [GateWorld.step, GateWorld.view, GateWorld.hubPayload, clearDayHourOverride]

theorem sync_policy (world : GateWorld) (refuses : Setter → Bool) (readable : Bool) :
    (world.sync digest username refuses readable).policy = world.policy := rfl

theorem sync_today (world : GateWorld) (refuses : Setter → Bool) (readable : Bool) :
    (world.sync digest username refuses readable).today = world.today := rfl

theorem sync_hubRevision (world : GateWorld) (refuses : Setter → Bool) (readable : Bool) :
    (world.sync digest username refuses readable).hubRevision digest = world.hubRevision digest := rfl

theorem apart_of_untorn {world : GateWorld} (untorn : world.torn = false) (action : GateAction) :
    GateWorld.StaysApart digest username world action := by
  intro torn
  rw [untorn] at torn
  cases torn

theorem apart_of_differ {world : GateWorld} (refuses : Setter → Bool) (readable : Bool)
    (differ : world.agent.policyRevisionApplied ≠ world.hubRevision digest) :
    GateWorld.StaysApart digest username world (.sync refuses readable) := by
  intro _ same
  exact differ same.symm

theorem takePolicy_revision {σ : Type} (enforcer : TimekprEnforcer σ) (device : σ) (userState : UserState)
    (policy : PolicyPayload) (version : Int) (revision : String) :
    (takePolicy enforcer device username userState (some policy) version
      (some revision)).userState.policyRevisionApplied =
      if (applyPolicyPush enforcer device username policy).ok then revision
      else userState.policyRevisionApplied := by
  simp only [takePolicy]
  by_cases ok : (applyPolicyPush enforcer device username policy).ok = true
  · simp only [if_pos ok, Option.getD_some]
  · simp only [if_neg ok]

theorem sync_pushes {world : GateWorld} (refuses : Setter → Bool) (readable : Bool)
    (differ : world.agent.policyRevisionApplied ≠ world.hubRevision digest) :
    let push := applyPolicyPush (honestEnforcer refuses readable) world.config username
      (world.hubPayload digest)
    (world.sync digest username refuses readable).view digest =
      { payload := world.hubPayload digest
        config := push.device
        reported := if push.ok then world.hubRevision digest else world.agent.policyRevisionApplied
        torn := !push.ok && (world.torn || decide (push.failed.length < push.appliedCount)) } := by
  intro push
  have sent : world.agent.policyRevisionApplied ≠
      (effectivePolicyPayload digest world.policy (world.overrides world.today) world.today).2 := differ
  simp only [GateWorld.view, GateWorld.sync, policyReply_current, if_pos sent, takePolicy_revision]
  rfl

theorem sync_view (world : GateWorld) (refuses : Setter → Bool) (readable : Bool) :
    RevisionGate.Step (policyRevision digest) Landed (world.view digest)
      ((world.sync digest username refuses readable).view digest) := by
  by_cases same : world.agent.policyRevisionApplied = world.hubRevision digest
  · rw [sync_current refuses readable same]
    exact .refused _
  · rw [sync_pushes refuses readable same]
    have sent : (world.view digest).reported ≠ policyRevision digest (world.view digest).payload := by
      rw [GateWorld.view, ← hubRevision_eq]
      exact same
    by_cases ok : (applyPolicyPush (honestEnforcer refuses readable) world.config username
        (world.hubPayload digest)).ok = true
    · have landed := push_lands (hubPayload_separated world) ok
      simp only [ok, if_true, Bool.not_true, Bool.false_and, hubRevision_eq]
      exact .complete (world.view digest) _ landed
    · rw [Bool.not_eq_true] at ok
      simp only [ok, Bool.false_eq_true, if_false, Bool.not_false, Bool.true_and]
      by_cases stored : (applyPolicyPush (honestEnforcer refuses readable) world.config username
          (world.hubPayload digest)).failed.length < (applyPolicyPush (honestEnforcer refuses readable)
          world.config username (world.hubPayload digest)).appliedCount
      · simp only [stored, decide_true, Bool.or_true]
        exact .incomplete (world.view digest) _ sent
      · rw [push_untouched (not_lt.mp stored)]
        simp only [stored, decide_false, Bool.or_false]
        exact .refused (world.view digest)

theorem step_view (world : GateWorld) (action : GateAction) :
    RevisionGate.Step (policyRevision digest) Landed (world.view digest)
      ((world.step digest username action).view digest) := by
  cases action with
  | editPolicy update => exact .publish _ _
  | setDayHours day mode => exact .publish _ _
  | clearDayHours day => exact .publish _ _
  | newDay day => exact .publish _ _
  | sync refuses readable => exact sync_view world refuses readable

/-- Whenever the agent reports the revision of today's effective payload, the device's config is that
    payload, in every run that keeps the two apart while the config is torn. -/
theorem policy_gate_sound (digest : PolicyPayload → String) (username : String) (policy : Policy)
    (overrides : DayHourOverrides) (today : Date) (config : TimekprConfig) (actions : List GateAction)
    (injective : Function.Injective (policyRevision digest))
    (apart : Runs.StepsMeet (GateWorld.step digest username) (GateWorld.StaysApart digest username)
      { policy, overrides, today, config } actions) :
    let world := Runs.run (GateWorld.step digest username) { policy, overrides, today, config } actions
    world.agent.policyRevisionApplied = world.hubRevision digest →
      Landed world.config (world.hubPayload digest) := by
  intro world same
  have inv : RevisionGate.Inv (policyRevision digest) Landed (world.view digest) := by
    apply Runs.run_invariant_of_steps
      (fun world : GateWorld => RevisionGate.Inv (policyRevision digest) Landed (world.view digest))
      _ actions ?_ ?_ apart
    · constructor
      · intro _ payload named
        exact absurd named (policyRevision_ne_empty digest payload)
      · intro torn
        cases torn
    · intro before action inv meets
      apply inv.step injective (step_view before action)
      intro torn
      have differ := meets torn
      rw [hubRevision_eq] at differ
      exact differ
  exact inv.sound (same.trans (hubRevision_eq world))

theorem tally_revision_injective : Function.Injective (policyRevision tallyDigest) := by
  intro a b same
  have bare : ∀ payload, '-' ∉ (tallyDigest payload).toList := by
    intro payload member
    rw [tallyDigest, String.toList_ofList] at member
    exact absurd (List.eq_of_mem_replicate member) (by decide)
  have chars := congrArg String.toList same
  simp only [policyRevision, String.toList_append, List.append_assoc] at chars
  obtain ⟨_, digests⟩ := last_separator_unique (bare a) (bare b) chars
  exact tallyDigest_injective (String.toList_inj.mp digests)

section Household

def accepting : Setter → Bool := fun _ => false

def refusesLockout : Setter → Bool
  | .lockoutType .. => true
  | _ => false

def schoolDay : Date := .ofYmd 2026 1 1

def freshHousehold : GateWorld := { policy := createInitialPolicy, today := schoolDay, config := {} }

def enrolledHousehold : GateWorld := freshHousehold.sync tallyDigest "kid" accepting true

def afternoon : DayHoursMode := .window { startMin := 720, endMin := 1200, ordered := by decide }

theorem enrolled_view : enrolledHousehold.view tallyDigest =
    { payload := freshHousehold.hubPayload tallyDigest
      config := (applyPolicyPush (honestEnforcer accepting true) {} "kid"
        (freshHousehold.hubPayload tallyDigest)).device
      reported := freshHousehold.hubRevision tallyDigest
      torn := false } := by
  have unpushed : freshHousehold.agent.policyRevisionApplied ≠ freshHousehold.hubRevision tallyDigest := by
    rw [hubRevision_eq]
    exact (policyRevision_ne_empty _ _).symm
  have ok : (applyPolicyPush (honestEnforcer accepting true) freshHousehold.config "kid"
      (freshHousehold.hubPayload tallyDigest)).ok = true := by decide
  rw [enrolledHousehold, sync_pushes accepting true unpushed]
  simp only [ok, if_true, Bool.not_true, Bool.false_and]
  rfl

def overriddenHousehold : GateWorld :=
  enrolledHousehold.step tallyDigest "kid" (.setDayHours schoolDay afternoon)

def halfPushedHousehold : GateWorld := overriddenHousehold.sync tallyDigest "kid" refusesLockout false

theorem overridden_payload_changed :
    overriddenHousehold.hubPayload tallyDigest ≠ freshHousehold.hubPayload tallyDigest := by
  decide

theorem half_pushed_view : halfPushedHousehold.view tallyDigest =
    { payload := overriddenHousehold.hubPayload tallyDigest
      config := (applyPolicyPush (honestEnforcer refusesLockout false)
        (applyPolicyPush (honestEnforcer accepting true) {} "kid"
          (freshHousehold.hubPayload tallyDigest)).device "kid"
        (overriddenHousehold.hubPayload tallyDigest)).device
      reported := freshHousehold.hubRevision tallyDigest
      torn := true } := by
  have reported : overriddenHousehold.agent.policyRevisionApplied =
      freshHousehold.hubRevision tallyDigest :=
    congrArg RevisionGate.State.reported enrolled_view
  have config : overriddenHousehold.config = (applyPolicyPush (honestEnforcer accepting true) {} "kid"
      (freshHousehold.hubPayload tallyDigest)).device :=
    congrArg RevisionGate.State.config enrolled_view
  have differ : overriddenHousehold.agent.policyRevisionApplied ≠
      overriddenHousehold.hubRevision tallyDigest := by
    rw [reported, hubRevision_eq, hubRevision_eq]
    intro same
    exact overridden_payload_changed (tally_revision_injective same).symm
  have failed : (applyPolicyPush (honestEnforcer refusesLockout false)
      (applyPolicyPush (honestEnforcer accepting true) {} "kid"
        (freshHousehold.hubPayload tallyDigest)).device "kid"
      (overriddenHousehold.hubPayload tallyDigest)).ok = false := by decide
  have stored : (applyPolicyPush (honestEnforcer refusesLockout false)
      (applyPolicyPush (honestEnforcer accepting true) {} "kid"
        (freshHousehold.hubPayload tallyDigest)).device "kid"
      (overriddenHousehold.hubPayload tallyDigest)).failed.length <
      (applyPolicyPush (honestEnforcer refusesLockout false)
        (applyPolicyPush (honestEnforcer accepting true) {} "kid"
          (freshHousehold.hubPayload tallyDigest)).device "kid"
        (overriddenHousehold.hubPayload tallyDigest)).appliedCount := by decide
  rw [halfPushedHousehold, sync_pushes refusesLockout false differ, config, reported]
  simp only [failed, stored, decide_true, Bool.or_true, Bool.not_false, Bool.true_and,
    Bool.false_eq_true, if_false]

theorem half_pushed_standing : halfPushedHousehold.policy = freshHousehold.policy ∧
    halfPushedHousehold.today = schoolDay := by
  rw [halfPushedHousehold, sync_policy, sync_today, overriddenHousehold, enrolledHousehold]
  exact ⟨rfl, rfl⟩

def repairedHousehold : GateWorld := halfPushedHousehold.sync tallyDigest "kid" accepting true

def halfAndHalf : List GateAction :=
  [.sync accepting true, .setDayHours schoolDay afternoon, .sync refusesLockout false, .sync accepting true]

/-- The half push leaves the gate open, so the next one repairs it. -/
theorem policy_gate_sound_repaired :
    repairedHousehold.agent.policyRevisionApplied = repairedHousehold.hubRevision tallyDigest ∧
      Landed repairedHousehold.config (repairedHousehold.hubPayload tallyDigest) := by
  have untorn : enrolledHousehold.torn = false := congrArg RevisionGate.State.torn enrolled_view
  have overridden_untorn : overriddenHousehold.torn = false := untorn
  have reported : halfPushedHousehold.agent.policyRevisionApplied = freshHousehold.hubRevision tallyDigest := by
    rw [← view_reported tallyDigest, half_pushed_view]
  have payload : halfPushedHousehold.hubPayload tallyDigest = overriddenHousehold.hubPayload tallyDigest :=
    congrArg RevisionGate.State.payload half_pushed_view
  have config := congrArg RevisionGate.State.config half_pushed_view
  have differ : halfPushedHousehold.agent.policyRevisionApplied ≠ halfPushedHousehold.hubRevision tallyDigest := by
    rw [reported, hubRevision_eq, hubRevision_eq, payload]
    intro same
    exact overridden_payload_changed (tally_revision_injective same).symm
  have ok : (applyPolicyPush (honestEnforcer accepting true) halfPushedHousehold.config "kid"
      (halfPushedHousehold.hubPayload tallyDigest)).ok = true := by
    rw [payload, ← view_config tallyDigest, config]
    decide +kernel
  have same : repairedHousehold.agent.policyRevisionApplied = repairedHousehold.hubRevision tallyDigest := by
    rw [← view_reported tallyDigest, repairedHousehold, sync_pushes accepting true differ, sync_hubRevision]
    simp only [ok, if_true]
  have meets : Runs.StepsMeet (GateWorld.step tallyDigest "kid") (GateWorld.StaysApart tallyDigest "kid")
      freshHousehold halfAndHalf := by
    refine ⟨apart_of_untorn rfl _, apart_of_untorn untorn _, apart_of_untorn overridden_untorn _, ?_, trivial⟩
    show GateWorld.StaysApart tallyDigest "kid" halfPushedHousehold (.sync accepting true)
    exact apart_of_differ accepting true differ
  have fresh : { policy := createInitialPolicy, today := schoolDay, config := {} } = freshHousehold := rfl
  have enrolled : freshHousehold.step tallyDigest "kid" (.sync accepting true) = enrolledHousehold := rfl
  have overridden : enrolledHousehold.step tallyDigest "kid" (.setDayHours schoolDay afternoon) =
      overriddenHousehold := rfl
  have halfPushed : overriddenHousehold.step tallyDigest "kid" (.sync refusesLockout false) =
      halfPushedHousehold := rfl
  have repaired : halfPushedHousehold.step tallyDigest "kid" (.sync accepting true) = repairedHousehold := rfl
  have run : Runs.run (GateWorld.step tallyDigest "kid") freshHousehold halfAndHalf = repairedHousehold := by
    rw [halfAndHalf, Runs.run_cons, enrolled, Runs.run_cons, overridden, Runs.run_cons, halfPushed, Runs.run_cons,
      repaired, Runs.run_nil]
  have gate := policy_gate_sound tallyDigest "kid" createInitialPolicy (fun _ => none) schoolDay {} halfAndHalf
    tally_revision_injective meets
  rw [fresh, run] at gate
  exact ⟨same, gate same⟩

def clearedHousehold : GateWorld :=
  halfPushedHousehold.step tallyDigest "kid" (.clearDayHours schoolDay)

theorem cleared_view : clearedHousehold.view tallyDigest =
    { halfPushedHousehold.view tallyDigest with payload := freshHousehold.hubPayload tallyDigest } := by
  obtain ⟨policy, today⟩ := half_pushed_standing
  rw [clearedHousehold, ← today, clear_view, policy, today]
  rfl

/-- The agent still reports the revision from before the half push, so clearing the override closes the
    gate over it. -/
theorem cleared_override_stays :
    let world := Runs.run (GateWorld.step tallyDigest "kid") freshHousehold
      [.sync accepting true, .setDayHours schoolDay afternoon, .sync refusesLockout false,
        .clearDayHours schoolDay]
    world.agent.policyRevisionApplied = world.hubRevision tallyDigest ∧
      ¬ Landed world.config (world.hubPayload tallyDigest) := by
  have same : Runs.run (GateWorld.step tallyDigest "kid") freshHousehold
      [.sync accepting true, .setDayHours schoolDay afternoon, .sync refusesLockout false,
        .clearDayHours schoolDay] = clearedHousehold := rfl
  have hours : clearedHousehold.config.allowedHours "4" ≠
      some (hoursToDbusPayload (unrestrictedWireIntervals.map AllowedHourInterval.record)) := by
    rw [← view_config tallyDigest, cleared_view, half_pushed_view]
    decide +kernel
  have payload : clearedHousehold.hubPayload tallyDigest = freshHousehold.hubPayload tallyDigest :=
    congrArg RevisionGate.State.payload cleared_view
  rw [same]
  constructor
  · rw [hubRevision_eq, payload, ← view_reported tallyDigest, cleared_view, half_pushed_view, hubRevision_eq]
  · rw [payload]
    intro landed
    exact hours (landed.allowedHours "4" unrestrictedWireIntervals (by decide +kernel))

end Household

end TimekprProof
