import TimekprHub.Core.Digest
import TimekprHub.Hub.Household

namespace TimekprModel

universe u

variable {σ : Type u}

structure WithinCredit (state : AgentState) (ledger : Ledger) : Prop where
  nonneg : ∀ username day, 0 ≤ ledger username day
  counter : ∀ username, (state.user username).cumLocalS ≤ ledger username (state.user username).day

structure DraftWithinCredit (today : String) (draft : Draft) (ledger : Ledger) : Prop where
  state : WithinCredit draft.state ledger
  requests : ∀ req ∈ draft.syncUsers, req.cumulativeSpentS ≤ ledger req.username today

def RowsWithinCredit (house : Household) : Prop :=
  ∀ userId deviceId day seconds, house.store.spent ⟨userId, deviceId, day⟩ = some seconds →
    ∃ username, house.store.userOf deviceId username = userId ∧
      seconds ≤ house.credited deviceId username day.isoformat

structure Charged (house : Household) : Prop where
  agents : ∀ deviceId, WithinCredit (house.agents deviceId) (house.credited deviceId)
  rows : RowsWithinCredit house

def CommitsOnItsDay (settings : Settings) (digest : PolicyPayload → String) (house : Household) :
    HouseholdAction σ → Prop
  | .administer _ _ => True
  | .tick tick => house.committed settings digest tick ≠ none →
      tick.today (house.agents tick.deviceId) = (canonicalStamp tick.hubNow settings.tz).dayStr

end TimekprModel

namespace TimekprProof

open TimekprModel

universe u

variable {σ : Type u}

theorem measure_burned_nonneg (userState : UserState) (obs : UserObservation) (today : String)
    (now : Instant) : 0 ≤ (measure userState obs today now).burnedThisTickS :=
  le_max_right _ _

theorem measure_credit (userState : UserState) (obs : UserObservation) (today : String) (now : Instant) :
    let measured := measure userState obs today now
    measured.userState.cumLocalS ≤ measured.burnedThisTickS ∨
      userState.day = today ∧
        measured.userState.cumLocalS ≤ userState.cumLocalS + measured.burnedThisTickS := by
  intro measured
  have burned : (advanceDay userState today obs.spentDayS).1.cumLocalS -
      (advanceDay userState today obs.spentDayS).2.2 ≤ measured.burnedThisTickS := le_max_left _ _
  have counter : measured.userState.cumLocalS =
      (advanceDay userState today obs.spentDayS).1.cumLocalS := rfl
  rw [counter]
  by_cases first : userState.day = ""
  · left
    simp only [advanceDay, if_pos first] at burned ⊢
    omega
  · by_cases rolled : userState.day ≠ today
    · left
      simp only [advanceDay, if_neg first, if_pos rolled] at burned ⊢
      omega
    · right
      refine ⟨not_not.mp rolled, ?_⟩
      simp only [advanceDay, if_neg first, if_neg rolled] at burned ⊢
      omega

section Draft

variable (today : String) (now : Instant)

theorem creditUser_grows (draft : Draft) (managed : String × Option UserObservation) (ledger : Ledger)
    (username day : String) :
    ledger username day ≤ creditUser today now draft managed ledger username day := by
  obtain ⟨name, reading⟩ := managed
  cases reading with
  | none => exact le_refl _
  | some obs =>
    have burned := measure_burned_nonneg (draft.state.user name) obs today now
    simp only [creditUser]
    split
    · omega
    · omega

theorem creditTick_grows (draft : Draft) (managedUsers : List (String × Option UserObservation))
    (ledger : Ledger) (username day : String) :
    ledger username day ≤ creditTick today now draft ledger managedUsers username day := by
  induction managedUsers generalizing draft ledger with
  | nil => exact le_refl _
  | cons managed rest ih =>
    have here := creditUser_grows today now draft managed ledger username day
    exact here.trans (ih _ _)

theorem creditTick_other_day {day : String} (other : day ≠ today) (draft : Draft)
    (managedUsers : List (String × Option UserObservation)) (ledger : Ledger) (username : String) :
    creditTick today now draft ledger managedUsers username day = ledger username day := by
  induction managedUsers generalizing draft ledger with
  | nil => rfl
  | cons managed rest ih =>
    rw [creditTick, ih]
    obtain ⟨name, reading⟩ := managed
    cases reading with
    | none => rfl
    | some obs =>
      simp only [creditUser, other, and_false, if_false]
      exact Int.add_zero _

theorem draftUser_within {draft : Draft} {ledger : Ledger} (managed : String × Option UserObservation)
    (within : DraftWithinCredit today draft ledger) :
    DraftWithinCredit today (draftUser today now draft managed)
      (creditUser today now draft managed ledger) := by
  have grows := creditUser_grows today now draft managed ledger
  have nonneg : ∀ username day, 0 ≤ creditUser today now draft managed ledger username day :=
    fun username day => (within.state.nonneg username day).trans (grows username day)
  obtain ⟨name, reading⟩ := managed
  cases reading with
  | none => exact within
  | some obs =>
    have own : (measure (draft.state.user name) obs today now).userState.cumLocalS ≤
        creditUser today now draft (name, some obs) ledger name today := by
      have old := within.state.counter name
      have held := within.state.nonneg name today
      simp only [creditUser, and_self, if_true]
      rcases measure_credit (draft.state.user name) obs today now with fresh | ⟨sameDay, more⟩
      · omega
      · rw [sameDay] at old
        omega
    refine ⟨⟨nonneg, fun username => ?_⟩, fun req listed => ?_⟩
    · by_cases same : username = name
      · subst same
        simp only [draftUser, AgentState.user_setUser_same]
        exact own
      · simp only [draftUser, AgentState.user_setUser_other _ _ same]
        exact (within.state.counter username).trans (grows username _)
    · rcases List.mem_append.mp listed with earlier | last
      · exact (within.requests req earlier).trans (grows req.username today)
      · rw [List.mem_singleton.mp last]
        exact own

theorem draft_within {draft : Draft} {ledger : Ledger}
    (managedUsers : List (String × Option UserObservation))
    (within : DraftWithinCredit today draft ledger) :
    DraftWithinCredit today (managedUsers.foldl (draftUser today now) draft)
      (creditTick today now draft ledger managedUsers) := by
  induction managedUsers generalizing draft ledger with
  | nil => exact within
  | cons managed rest ih => exact ih (draftUser_within today now managed within)

end Draft

section Step

variable (settings : Settings) (digest : PolicyPayload → String)

theorem tick_draft_within (tick : HouseholdTick σ) {state : AgentState} {ledger : Ledger}
    (within : WithinCredit state ledger) :
    DraftWithinCredit (tick.today state) (tick.draft state)
      (creditTick (tick.today state) tick.now { state } ledger tick.managedUsers) := by
  apply draft_within
  exact ⟨within, fun _ listed => absurd listed List.not_mem_nil⟩

theorem tick_result_within (store : HubStore) (tick : HouseholdTick σ) {state : AgentState}
    {ledger : Ledger} (within : WithinCredit state ledger) :
    WithinCredit (tick.result state settings digest store).state
      (creditTick (tick.today state) tick.now { state } ledger tick.managedUsers) := by
  have drafted := (tick_draft_within tick within).state
  refine ⟨drafted.nonneg, fun username => ?_⟩
  have counted := drafted.counter username
  rcases runTick_user tick.zones tick.tzName tick.agentVersion tick.enforcer
    (tick.reply settings digest store) state tick.device tick.managedUsers tick.now defaultPollMs username
    with ⟨same, _⟩ | ⟨observed, device, _, _, same, _⟩
  · rw [HouseholdTick.result, same]
    exact counted
  · have kept := userTurn_counter tick.enforcer device username observed
    rw [HouseholdTick.result, same, (kept _ tick.now _).1, (kept _ tick.now _).2.1]
    exact counted

theorem committed_rows_within {house : Household} {tick : HouseholdTick σ} {store : HubStore}
    {ledger : Ledger} {day : Date}
    (drafted : DraftWithinCredit day.isoformat (tick.draft (house.agents tick.deviceId)) ledger)
    (recorded : Recorded tick.deviceId day (tick.request (house.agents tick.deviceId)).users
      house.store store)
    {userId : UserId} {deviceId : DeviceId} {charged : Date} {seconds : Int}
    (shown : store.spent ⟨userId, deviceId, charged⟩ = some seconds) :
    house.store.spent ⟨userId, deviceId, charged⟩ = some seconds ∨
      deviceId = tick.deviceId ∧ charged = day ∧
        ∃ username, house.store.userOf deviceId username = userId ∧
          seconds ≤ ledger username charged.isoformat := by
  rw [recorded.spent] at shown
  rcases HighWater.mergeAll_mem shown with held | reported
  · exact .inl held
  · right
    obtain ⟨req, counted, rfl⟩ := List.mem_map.mp reported
    obtain ⟨listed, own⟩ := List.mem_filter.mp counted
    have key := of_decide_eq_true own
    cases key
    exact ⟨rfl, rfl, req.username, rfl, drafted.requests req listed⟩

theorem step_ledger_grows (house : Household) (action : HouseholdAction σ) (deviceId : DeviceId)
    (username day : String) : house.credited deviceId username day ≤
      (house.step settings digest action).credited deviceId username day := by
  cases action with
  | administer users devices => exact le_refl _
  | tick tick =>
    by_cases here : deviceId = tick.deviceId
    · subst here
      simp only [Household.step, Function.update_self]
      exact creditTick_grows ..
    · simp only [Household.step, Function.update_of_ne here]
      exact le_refl _

theorem step_agents_within {house : Household} (tick : HouseholdTick σ)
    (within : ∀ deviceId, WithinCredit (house.agents deviceId) (house.credited deviceId))
    (deviceId : DeviceId) :
    WithinCredit ((house.step settings digest (.tick tick)).agents deviceId)
      ((house.step settings digest (.tick tick)).credited deviceId) := by
  by_cases here : deviceId = tick.deviceId
  · subst here
    simp only [Household.step, Function.update_self]
    exact tick_result_within settings digest house.store tick (within _)
  · simp only [Household.step, Function.update_of_ne here]
    exact within deviceId

theorem step_rows_within {house : Household} {tick : HouseholdTick σ} (charged : Charged house)
    (onItsDay : CommitsOnItsDay settings digest house (.tick tick)) :
    RowsWithinCredit (house.step settings digest (.tick tick)) := by
  intro userId deviceId day seconds shown
  have own : ∀ username, house.store.userOf deviceId username = userId →
      (house.step settings digest (.tick tick)).store.userOf deviceId username = userId :=
    fun username => (step_userOf settings digest house (.tick tick) deviceId username).trans
  have old : house.store.spent ⟨userId, deviceId, day⟩ = some seconds → ∃ username,
      (house.step settings digest (.tick tick)).store.userOf deviceId username = userId ∧
        seconds ≤ (house.step settings digest (.tick tick)).credited deviceId username day.isoformat := by
    intro held
    obtain ⟨username, named, paid⟩ := charged.rows userId deviceId day seconds held
    exact ⟨username, own username named, paid.trans (step_ledger_grows settings digest house _ ..)⟩
  rcases step_store settings digest house tick with ⟨same, _⟩ | ⟨response, answer, recorded⟩
  · rw [same] at shown
    exact old shown
  · have commits : house.committed settings digest tick ≠ none := by
      rw [answer]
      exact Option.some_ne_none _
    have drafted := tick_draft_within tick (charged.agents tick.deviceId)
    rw [onItsDay commits] at drafted
    rcases committed_rows_within drafted recorded shown with held | ⟨rfl, rfl, username, named, paid⟩
    · exact old held
    · refine ⟨username, own username named, paid.trans (le_of_eq ?_)⟩
      simp only [Household.step, Function.update_self]
      rw [onItsDay commits]

theorem step_charged {house : Household} {action : HouseholdAction σ} (charged : Charged house)
    (onItsDay : CommitsOnItsDay settings digest house action) :
    Charged (house.step settings digest action) := by
  cases action with
  | administer users devices => exact ⟨charged.agents, charged.rows⟩
  | tick tick =>
    exact ⟨step_agents_within settings digest tick charged.agents,
      step_rows_within settings digest charged onItsDay⟩

theorem fresh_charged (store : HubStore) :
    Charged { store := { store with usageCounters := .empty } } := by
  constructor
  · intro deviceId
    exact ⟨fun _ _ => le_refl _, fun _ => le_refl _⟩
  · intro userId deviceId day seconds shown
    cases shown

/-- From fresh agents and a hub without counters, no row ever exceeds the seconds its day was credited,
    as long as every committed sync finds the hub on the agent's day. -/
theorem counter_within_credit (store : HubStore) (actions : List (HouseholdAction σ))
    (onItsDay : Runs.StepsMeet (Household.step settings digest) (CommitsOnItsDay settings digest)
      { store := { store with usageCounters := .empty } } actions) :
    RowsWithinCredit (Runs.run (Household.step settings digest)
      { store := { store with usageCounters := .empty } } actions) := by
  have preserved := Runs.run_invariant_of_steps Charged _ actions (fresh_charged store)
    (fun _ _ charged => step_charged settings digest charged) onItsDay
  exact preserved.rows

end Step

/-- A request that is lost, a reply that is, and a tick that gets through. -/
def noonOutage : List (HouseholdAction TimekprConfig) :=
  [.tick (laptopTick (noonPlus 0) (noonPlus 1) .lost), .tick (laptopTick (noonPlus 20) (noonPlus 21) .unheard),
    .tick (laptopTick (noonPlus 40) (noonPlus 41) .heard)]

theorem counter_within_credit_outage :
    RowsWithinCredit (Runs.run (Household.step {} tallyDigest) laptopHousehold noonOutage) :=
  counter_within_credit {} tallyDigest laptopHousehold.store noonOutage
    ⟨fun _ => by decide, fun _ => by decide, fun _ => by decide, trivial⟩

/-- The tick reads its clock a second before midnight, the hub a second after: the new day's row holds
    ten minutes of which the agent has credited none to that day. -/
theorem counter_charged_past_midnight :
    ¬ RowsWithinCredit (Runs.run (Household.step {} tallyDigest) laptopHousehold
      [.tick (laptopTick (noonPlus 43199) (noonPlus 43201) .heard)]) := by
  have shown : (Runs.run (Household.step {} tallyDigest) laptopHousehold
      [.tick (laptopTick (noonPlus 43199) (noonPlus 43201) .heard)]).store.spent
        ⟨"kid", "laptop", Date.ofYmd 2027 1 2⟩ = some 600 := by
    decide
  have today : (laptopTick (noonPlus 43199) (noonPlus 43201) .heard).today {} = "2027-01-01" := by decide
  have credited : (Runs.run (Household.step {} tallyDigest) laptopHousehold
      [.tick (laptopTick (noonPlus 43199) (noonPlus 43201) .heard)]).credited "laptop" =
        creditTick "2027-01-01" (noonPlus 43199) { state := {} } (fun _ _ => 0)
          [("kid", some kidObservation)] := by
    rw [← today]
    simp only [Runs.run_cons, Runs.run_nil, Household.step]
    exact Function.update_self "laptop" _ _
  intro within
  obtain ⟨username, _, paid⟩ := within _ _ _ _ shown
  rw [credited, creditTick_other_day _ _ (by decide)] at paid
  exact absurd paid (by decide)

end TimekprProof
