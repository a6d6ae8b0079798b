import TimekprHub.Agent.DraftUser
import TimekprHub.Agent.OfflineEstimate

namespace TimekprModel

universe u

variable {σ : Type u}

/-- The zone the agent reads a name as: UTC for an empty or an unknown one. -/
def namedZone (zones : ZoneDatabase) (tzName : String) : ZoneInfo :=
  if tzName = "" then utc else (zones tzName).getD utc

def TickInput.canonicalDay (tick : TickInput σ) (tz : ZoneInfo) : String :=
  (canonicalStamp tick.now tz).dayStr

structure TickInput.InZone (zones : ZoneDatabase) (tz : ZoneInfo) (tick : TickInput σ) : Prop where
  database : tick.zones = zones
  configured : namedZone zones tick.tzName = tz
  told : ∀ response, tick.outcome = .response response → response.hubTz ≠ "" →
    namedZone zones response.hubTz = tz

/-- timekpr's count of a canonical day only grows: its own midnight is the canonical one, and no write takes
    time back. -/
def CountsUp (username : String) (tz : ZoneInfo) (ticks : List (TickInput σ)) : Prop :=
  ticks.Pairwise fun earlier later => earlier.canonicalDay tz = later.canonicalDay tz →
    ∀ obs later_obs, (username, some obs) ∈ earlier.managedUsers → (username, some later_obs) ∈ later.managedUsers →
      obs.spentDayS ≤ later_obs.spentDayS

def NothingForgiven (username : String) (tz : ZoneInfo) (state : AgentState) (tick : TickInput σ) : Prop :=
  ∀ obs, (username, some obs) ∈ tick.managedUsers →
    ((agentStep state tick).user username).day = tick.canonicalDay tz ∧
      ((agentStep state tick).user username).cumLocalS = obs.spentDayS

def RolloverReadsZero (username : String) (tz : ZoneInfo) (state : AgentState) (tick : TickInput σ) : Prop :=
  (state.user username).day ≠ "" → (state.user username).day ≠ tick.canonicalDay tz →
    ∀ obs, (username, some obs) ∈ tick.managedUsers → obs.spentDayS = 0

end TimekprModel

namespace TimekprProof

open TimekprModel

universe u

variable {σ : Type u} {username : String} {zones : ZoneDatabase} {tz : ZoneInfo} {state : AgentState}
  {tick : TickInput σ}

section Zone

theorem today_canonical (cached : state.hubTz ≠ "" → namedZone zones state.hubTz = tz)
    (inZone : tick.InZone zones tz) : tick.today state = tick.canonicalDay tz := by
  have zone : namedZone zones (if state.hubTz = "" then tick.tzName else state.hubTz) = tz := by
    split
    · exact inZone.configured
    · rename_i named
      exact cached named
  rw [TickInput.canonicalDay, ← zone, ← inZone.database]
  rfl

theorem draft_hubTz (today : String) (now : Instant) (draft : Draft)
    (managedUsers : List (String × Option UserObservation)) :
    (managedUsers.foldl (draftUser today now) draft).state.hubTz = draft.state.hubTz := by
  induction managedUsers generalizing draft with
  | nil => rfl
  | cons managed rest ih =>
    rw [List.foldl_cons, ih]
    obtain ⟨name, reading⟩ := managed
    cases reading <;> rfl

theorem finish_hubTz (enforcer : TimekprEnforcer σ) (now : Instant) (outcome : HubOutcome)
    (result : TickResult σ) (entries : List (String × Observed)) :
    (entries.foldl (finishUser enforcer now outcome) result).state.hubTz = result.state.hubTz := by
  induction entries generalizing result with
  | nil => rfl
  | cons entry rest ih =>
    rw [List.foldl_cons, ih]
    rfl

theorem agentStep_hubTz (state : AgentState) (tick : TickInput σ) :
    (agentStep state tick).hubTz = tick.outcome.hubTz state.hubTz := by
  have finished := finish_hubTz tick.enforcer tick.now tick.outcome
    { state := { (tick.draft state).state with hubTz := tick.outcome.hubTz (tick.draft state).state.hubTz },
      device := tick.device } (tick.draft state).observations.entries
  have drafted : (tick.draft state).state.hubTz = state.hubTz := draft_hubTz _ _ { state } tick.managedUsers
  refine finished.trans ?_
  rw [drafted]

theorem cached_canonical (cached : state.hubTz ≠ "" → namedZone zones state.hubTz = tz)
    (inZone : tick.InZone zones tz) :
    (agentStep state tick).hubTz ≠ "" → namedZone zones (agentStep state tick).hubTz = tz := by
  rw [agentStep_hubTz]
  cases answered : tick.outcome with
  | response response =>
    simp only [HubOutcome.hubTz]
    split
    · exact cached
    · exact inZone.told response answered
  | revoked => exact cached
  | unreachable => exact cached

end Zone

section Counter

theorem agentStep_counter (state : AgentState) (tick : TickInput σ) (username : String) :
    let drafted := (tick.draft state).state.user username
    ((agentStep state tick).user username).day = drafted.day ∧
      ((agentStep state tick).user username).counter = drafted.counter := by
  intro drafted
  rcases runTick_user tick.zones tick.tzName tick.agentVersion tick.enforcer (fun _ => tick.outcome)
    state tick.device tick.managedUsers tick.now defaultPollMs username
    with ⟨same, _⟩ | ⟨observed, device, _, _, same, _⟩
  · have day := congrArg UserState.day same
    have counter := congrArg UserState.counter same
    exact ⟨day, counter⟩
  · obtain ⟨sameDay, cum, raw⟩ := userTurn_counter tick.enforcer device username observed drafted tick.now
      tick.outcome
    have turn : (userTurn tick.enforcer device username observed drafted tick.now
        tick.outcome).userState.counter = drafted.counter := by
      rw [UserState.counter, cum, raw, UserState.counter]
    have day := congrArg UserState.day same
    have counter := congrArg UserState.counter same
    exact ⟨day.trans sameDay, counter.trans turn⟩

variable (state) in
theorem agentStep_read (distinct : (tick.managedUsers.map Prod.fst).Nodup) {obs : UserObservation}
    (listed : (username, some obs) ∈ tick.managedUsers) :
    ((agentStep state tick).user username).day = tick.today state ∧
      ((agentStep state tick).user username).counter =
        (advanceDay (state.user username) (tick.today state) obs.spentDayS).1 := by
  obtain ⟨day, counter⟩ := agentStep_counter state tick username
  have drafted : (tick.draft state).state.user username =
      (measure (state.user username) obs (tick.today state) tick.now).userState :=
    (draft_listed (tick.today state) tick.now state distinct listed).1
  rw [drafted] at day counter
  exact ⟨day, counter⟩

variable (state) in
theorem agentStep_unread (distinct : (tick.managedUsers.map Prod.fst).Nodup)
    (unread : ∀ obs, (username, some obs) ∉ tick.managedUsers) :
    ((agentStep state tick).user username).day = (state.user username).day ∧
      ((agentStep state tick).user username).counter = (state.user username).counter := by
  obtain ⟨day, counter⟩ := agentStep_counter state tick username
  have drafted : (tick.draft state).state.user username = state.user username :=
    (draft_unlisted (tick.today state) tick.now state distinct unread).1
  rw [drafted] at day counter
  exact ⟨day, counter⟩

/-- The counter is exact after a reading exactly when no rollover finds time spent already. -/
theorem advanceDay_exact_iff {userState : UserState} {today : String} {spentDayS : Int}
    (exact : userState.cumLocalS = userState.rawPrevS)
    (grown : userState.day = today → userState.rawPrevS ≤ spentDayS) :
    (advanceDay userState today spentDayS).1.cumLocalS = spentDayS ↔
      (userState.day ≠ "" → userState.day ≠ today → spentDayS = 0) := by
  unfold advanceDay
  by_cases first : userState.day = ""
  · rw [if_pos first]
    exact iff_of_true rfl fun named => absurd first named
  · rw [if_neg first]
    by_cases same : userState.day = today
    · have forward := grown same
      rw [if_neg (not_not.mpr same)]
      apply iff_of_true
      · simp only [advanceCumulative, ge_iff_le, if_pos forward, exact]
        omega
      · intro _ other
        exact absurd same other
    · rw [if_pos same]
      simp only [resetForNewCanonicalDay]
      constructor
      · intro zero _ _
        exact zero.symm
      · intro zero
        exact (zero first same).symm

theorem advanceDay_rawPrevS (userState : UserState) (today : String) (spentDayS : Int) :
    (advanceDay userState today spentDayS).1.rawPrevS = spentDayS := by
  unfold advanceDay
  split
  · rfl
  · split <;> rfl

end Counter

section Exact

/-- The counter is even with the last reading, which the readings of its day still to come do not undercut. -/
structure Even (username : String) (zones : ZoneDatabase) (tz : ZoneInfo) (state : AgentState)
    (ticks : List (TickInput σ)) : Prop where
  inZone : ∀ tick ∈ ticks, tick.InZone zones tz
  distinct : ∀ tick ∈ ticks, (tick.managedUsers.map Prod.fst).Nodup
  countsUp : CountsUp username tz ticks
  cached : state.hubTz ≠ "" → namedZone zones state.hubTz = tz
  even : (state.user username).cumLocalS = (state.user username).rawPrevS
  ahead : ∀ tick ∈ ticks, (state.user username).day = tick.canonicalDay tz →
    ∀ obs, (username, some obs) ∈ tick.managedUsers → (state.user username).rawPrevS ≤ obs.spentDayS

variable {rest : List (TickInput σ)}

theorem nothing_forgiven_iff (even : Even username zones tz state (tick :: rest)) :
    NothingForgiven username tz state tick ↔ RolloverReadsZero username tz state tick := by
  have inZone := even.inZone tick (List.mem_cons_self ..)
  have distinct := even.distinct tick (List.mem_cons_self ..)
  have today := today_canonical even.cached inZone
  have counted : ∀ obs, (username, some obs) ∈ tick.managedUsers →
      (((agentStep state tick).user username).day = tick.canonicalDay tz ∧
        ((agentStep state tick).user username).cumLocalS = obs.spentDayS ↔
          ((state.user username).day ≠ "" → (state.user username).day ≠ tick.canonicalDay tz →
            obs.spentDayS = 0)) := by
    intro obs listed
    obtain ⟨day, counter⟩ := agentStep_read state distinct listed
    have cum := congrArg CumulativeState.cumLocalS counter
    have ahead := fun same => even.ahead tick (List.mem_cons_self ..) same obs listed
    rw [today] at day cum
    rw [← advanceDay_exact_iff even.even ahead, ← cum]
    exact and_iff_right day
  constructor
  · intro exact named other obs listed
    exact (counted obs listed).mp (exact obs listed) named other
  · intro zero obs listed
    exact (counted obs listed).mpr fun named other => zero named other obs listed

theorem even_tick (even : Even username zones tz state (tick :: rest))
    (zero : RolloverReadsZero username tz state tick) : Even username zones tz (agentStep state tick) rest := by
  obtain ⟨inZone, laterZone⟩ := List.forall_mem_cons.mp even.inZone
  obtain ⟨distinct, laterDistinct⟩ := List.forall_mem_cons.mp even.distinct
  obtain ⟨grows, countsUp⟩ := List.pairwise_cons.mp even.countsUp
  have today := today_canonical even.cached inZone
  have cached := cached_canonical even.cached inZone
  by_cases read : ∃ obs, (username, some obs) ∈ tick.managedUsers
  · obtain ⟨obs, listed⟩ := read
    obtain ⟨day, counter⟩ := agentStep_read state distinct listed
    rw [today] at day counter
    have raw : ((agentStep state tick).user username).rawPrevS = obs.spentDayS :=
      (congrArg CumulativeState.rawPrevS counter).trans (advanceDay_rawPrevS _ _ _)
    have exact := ((nothing_forgiven_iff even).mpr zero obs listed).2
    refine ⟨laterZone, laterDistinct, countsUp, cached, exact.trans raw.symm, ?_⟩
    intro later member same other also
    rw [raw]
    exact grows later member (day.symm.trans same) obs other listed also
  · obtain ⟨day, counter⟩ := agentStep_unread state distinct (not_exists.mp read)
    have cum : ((agentStep state tick).user username).cumLocalS = (state.user username).cumLocalS :=
      congrArg CumulativeState.cumLocalS counter
    have raw : ((agentStep state tick).user username).rawPrevS = (state.user username).rawPrevS :=
      congrArg CumulativeState.rawPrevS counter
    refine ⟨laterZone, laterDistinct, countsUp, cached, (cum.trans even.even).trans raw.symm, ?_⟩
    intro later member same obs listed
    rw [raw]
    exact even.ahead later (List.mem_cons_of_mem _ member) (day.symm.trans same) obs listed

end Exact

/-- The counter is what timekpr shows of the canonical day, after every tick, exactly when no day's first tick
    finds time spent already. -/
theorem day_counter_exact_iff (username : String) {zones : ZoneDatabase} {tz : ZoneInfo}
    {ticks : List (TickInput σ)} (inZone : ∀ tick ∈ ticks, tick.InZone zones tz)
    (distinct : ∀ tick ∈ ticks, (tick.managedUsers.map Prod.fst).Nodup)
    (countsUp : CountsUp username tz ticks) :
    Runs.StepsMeet agentStep (NothingForgiven username tz) {} ticks ↔
      Runs.StepsMeet agentStep (RolloverReadsZero username tz) {} ticks := by
  have fresh : Even username zones tz {} ticks := by
    refine ⟨inZone, distinct, countsUp, fun named => absurd rfl named, rfl, ?_⟩
    intro tick _ empty
    exact absurd empty.symm (Date.isoformat_ne_empty _)
  exact Runs.StepsMeet.iff_of_tracked (fun _ _ _ => even_tick) (fun _ _ _ => nothing_forgiven_iff) fresh

def overnight : List (TickInput TimekprConfig) := [kidOffline (noonPlus 0) 600, kidOffline (noonPlus 86400) 600]

theorem overnight_inZone : ∀ tick ∈ overnight, tick.InZone (fun _ => some utc) utc := by
  have offline : ∀ now spentDayS, (kidOffline now spentDayS).InZone (fun _ => some utc) utc :=
    fun now spentDayS => ⟨rfl, rfl, nofun⟩
  intro tick listed
  simp only [overnight, List.mem_cons, List.not_mem_nil, or_false] at listed
  rcases listed with rfl | rfl
  · exact offline _ _
  · exact offline _ _

theorem overnight_countsUp : CountsUp "kid" utc overnight := by
  apply List.pairwise_pair.mpr
  intro _ obs later listed also
  simp only [kidOffline, List.mem_singleton, Prod.mk.injEq, Option.some.injEq, true_and] at listed also
  rw [listed, also]

theorem day_counter_exact_iff_overnight :
    Runs.StepsMeet agentStep (NothingForgiven "kid" utc) {} overnight ↔
      Runs.StepsMeet agentStep (RolloverReadsZero "kid" utc) {} overnight :=
  day_counter_exact_iff "kid" overnight_inZone (by decide) overnight_countsUp

/-- The second day's ten minutes are counted as none. -/
theorem first_tick_of_day_forgives :
    ¬∀ (username : String) (zones : ZoneDatabase) (tz : ZoneInfo) (ticks : List (TickInput TimekprConfig)),
      (∀ tick ∈ ticks, tick.InZone zones tz) → (∀ tick ∈ ticks, (tick.managedUsers.map Prod.fst).Nodup) →
      CountsUp username tz ticks → Runs.StepsMeet agentStep (NothingForgiven username tz) {} ticks := by
  intro claim
  have meets := claim "kid" (fun _ => some utc) utc overnight overnight_inZone (by decide) overnight_countsUp
  have second := meets.2.1 _ (List.mem_cons_self ..)
  exact absurd second.2 (by decide)

end TimekprProof
