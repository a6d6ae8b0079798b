import TimekprHub.Agent.TickFrame
import TimekprHub.Library.Intervals

namespace TimekprModel

def ActiveSpan.length (span : ActiveSpan) : Int := Intervals.length ⟨span.start, span.stop⟩

def UserState.countedOn (userState : UserState) (today : String) : Int :=
  if userState.day = today then userState.cumLocalS else 0

end TimekprModel

namespace TimekprProof

open TimekprModel

universe u

variable {σ : Type u}

section Measure

variable {userState : UserState} {obs : UserObservation} {today : String} {now : Instant}

theorem tickSpan_length {burnedThisTickS : Int} {span : ActiveSpan}
    (emitted : tickSpan userState obs now burnedThisTickS = some span) :
    span.length ≤ second * burnedThisTickS := by
  unfold tickSpan at emitted
  split at emitted
  · rename_i active
    cases emitted
    simp only [ActiveSpan.length, Intervals.length, second]
    split <;> omega
  · cases emitted

theorem measure_burned (named : today ≠ "") (spent : 0 ≤ obs.spentDayS) :
    (measure userState obs today now).userState.cumLocalS =
      userState.countedOn today + (measure userState obs today now).burnedThisTickS := by
  have counter : (measure userState obs today now).userState.cumLocalS =
      (advanceDay userState today obs.spentDayS).1.cumLocalS := rfl
  have burned : (measure userState obs today now).burnedThisTickS =
      max ((advanceDay userState today obs.spentDayS).1.cumLocalS -
        (advanceDay userState today obs.spentDayS).2.2) 0 := rfl
  rw [counter, burned]
  unfold UserState.countedOn
  by_cases same : userState.day = today
  · have started : userState.day ≠ "" := by
      rw [same]
      exact named
    have stays : ¬ userState.day ≠ today := not_not.mpr same
    have grows := advanceCumulative_mono { cumLocalS := userState.cumLocalS, rawPrevS := userState.rawPrevS }
      obs.spentDayS cfg spent
    simp only [advanceDay, if_neg started, if_neg stays, if_pos same] at grows ⊢
    omega
  · rw [if_neg same]
    by_cases first : userState.day = ""
    · simp only [advanceDay, if_pos first]
      omega
    · simp only [advanceDay, if_neg first, if_pos same, resetForNewCanonicalDay]
      omega

theorem measure_countedOn : (measure userState obs today now).userState.countedOn today =
    (measure userState obs today now).userState.cumLocalS := if_pos rfl

end Measure

section Draft

variable (today : String) (now : Instant) (username : String)

def requestsOf (reqs : List SyncUserRequest) : List SyncUserRequest :=
  reqs.filter fun req => req.username = username

theorem draftUser_other (draft : Draft) {managed : String × Option UserObservation}
    (other : managed.1 ≠ username) :
    (draftUser today now draft managed).state.user username = draft.state.user username ∧
      (draftUser today now draft managed).observations.get? username = draft.observations.get? username ∧
      requestsOf username (draftUser today now draft managed).syncUsers =
        requestsOf username draft.syncUsers := by
  obtain ⟨name, reading⟩ := managed
  cases reading with
  | none => exact ⟨rfl, rfl, rfl⟩
  | some obs =>
    refine ⟨AgentState.user_setUser_other _ _ (Ne.symm other), Dict.get?_set_other _ _ (Ne.symm other), ?_⟩
    have foreign : requestsOf username [syncUser name obs (measure (draft.state.user name) obs today now)] =
        [] := by
      apply List.filter_cons_of_neg
      intro same
      exact other (of_decide_eq_true same)
    simp only [draftUser, requestsOf, List.filter_append] at foreign ⊢
    rw [foreign, List.append_nil]

theorem draft_absent (draft : Draft) {managedUsers : List (String × Option UserObservation)}
    (absent : username ∉ managedUsers.map Prod.fst) :
    (managedUsers.foldl (draftUser today now) draft).state.user username = draft.state.user username ∧
      (managedUsers.foldl (draftUser today now) draft).observations.get? username =
        draft.observations.get? username ∧
      requestsOf username (managedUsers.foldl (draftUser today now) draft).syncUsers =
        requestsOf username draft.syncUsers := by
  induction managedUsers generalizing draft with
  | nil => exact ⟨rfl, rfl, rfl⟩
  | cons managed rest ih =>
    rw [List.map_cons, List.mem_cons, not_or] at absent
    obtain ⟨state, observed, reqs⟩ := draftUser_other today now username draft (Ne.symm absent.1)
    obtain ⟨stateLater, observedLater, reqsLater⟩ := ih (draftUser today now draft managed) absent.2
    exact ⟨stateLater.trans state, observedLater.trans observed, reqsLater.trans reqs⟩

inductive DraftedUser (managedUsers : List (String × Option UserObservation)) (before : UserState)
    (draft : Draft) : Prop
  | unread (state : draft.state.user username = before)
      (observed : draft.observations.get? username = none) (reqs : requestsOf username draft.syncUsers = [])
  | read (obs : UserObservation) (listed : (username, some obs) ∈ managedUsers)
      (state : draft.state.user username = (measure before obs today now).userState)
      (observed : draft.observations.get? username =
        some ⟨obs, (measure before obs today now).forceAbsolute, (measure before obs today now).span⟩)
      (reqs : requestsOf username draft.syncUsers = [syncUser username obs (measure before obs today now)])

variable {today now username}

theorem DraftedUser.weaken {fewer more : List (String × Option UserObservation)} {before : UserState}
    {draft : Draft} (drafted : DraftedUser today now username fewer before draft) (subset : fewer ⊆ more) :
    DraftedUser today now username more before draft := by
  cases drafted with
  | unread state observed reqs => exact .unread state observed reqs
  | read obs listed state observed reqs => exact .read obs (subset listed) state observed reqs

variable (today now username)

theorem draft_user (draft : Draft) {managedUsers : List (String × Option UserObservation)}
    (distinct : (managedUsers.map Prod.fst).Nodup) (unseen : draft.observations.get? username = none)
    (unasked : requestsOf username draft.syncUsers = []) :
    DraftedUser today now username managedUsers (draft.state.user username)
      (managedUsers.foldl (draftUser today now) draft) := by
  induction managedUsers generalizing draft with
  | nil => exact .unread rfl unseen unasked
  | cons managed rest ih =>
    rw [List.map_cons, List.nodup_cons] at distinct
    by_cases own : managed.1 = username
    · subst own
      obtain ⟨state, observed, reqs⟩ := draft_absent today now managed.1 (draftUser today now draft managed)
        distinct.1
      obtain ⟨name, reading⟩ := managed
      cases reading with
      | none => exact .unread state (observed.trans unseen) (reqs.trans unasked)
      | some obs =>
        refine .read obs (List.mem_cons_self ..) (state.trans ?_) (observed.trans ?_) (reqs.trans ?_)
        · exact AgentState.user_setUser_same _ _ _
        · exact Dict.get?_set_same _ _ _
        · rw [requestsOf] at unasked
          simp only [draftUser, requestsOf, List.filter_append, unasked, List.nil_append]
          exact List.filter_cons_of_pos (decide_eq_true rfl)
    · obtain ⟨state, observed, reqs⟩ := draftUser_other today now username draft own
      have later := ih (draftUser today now draft managed) distinct.2 (observed.trans unseen)
        (reqs.trans unasked)
      rw [state] at later
      exact later.weaken (List.subset_cons_self managed rest)

end Draft

section Listed

variable (today : String) (now : Instant) {username : String}

theorem draftUser_seen {draft : Draft} (managed : String × Option UserObservation)
    (seen : draft.observations.get? username ≠ none) :
    (draftUser today now draft managed).observations.get? username ≠ none := by
  obtain ⟨name, reading⟩ := managed
  cases reading with
  | none => exact seen
  | some obs =>
    simp only [draftUser, Dict.get?_set]
    split
    · exact Option.some_ne_none _
    · exact seen

theorem draft_seen {draft : Draft} (managedUsers : List (String × Option UserObservation))
    (seen : draft.observations.get? username ≠ none) :
    (managedUsers.foldl (draftUser today now) draft).observations.get? username ≠ none := by
  induction managedUsers generalizing draft with
  | nil => exact seen
  | cons managed rest ih => exact ih (draftUser_seen today now managed seen)

theorem draft_reads (draft : Draft) {managedUsers : List (String × Option UserObservation)}
    {obs : UserObservation} (listed : (username, some obs) ∈ managedUsers) :
    (managedUsers.foldl (draftUser today now) draft).observations.get? username ≠ none := by
  induction managedUsers generalizing draft with
  | nil => cases listed
  | cons managed rest ih =>
    rcases List.mem_cons.mp listed with rfl | later
    · apply draft_seen today now rest
      simp [draftUser]
    · exact ih _ later

theorem reading_unique {managedUsers : List (String × Option UserObservation)}
    (distinct : (managedUsers.map Prod.fst).Nodup) {obs other : UserObservation}
    (listed : (username, some obs) ∈ managedUsers) (also : (username, some other) ∈ managedUsers) :
    obs = other := by
  have same := List.inj_on_of_nodup_map distinct listed also rfl
  cases same
  rfl

variable (state : AgentState) {managedUsers : List (String × Option UserObservation)}
  (distinct : (managedUsers.map Prod.fst).Nodup)
include distinct

theorem draft_listed {obs : UserObservation} (listed : (username, some obs) ∈ managedUsers) :
    let measured := measure (state.user username) obs today now
    let draft := managedUsers.foldl (draftUser today now) { state }
    draft.state.user username = measured.userState ∧
      draft.observations.get? username = some ⟨obs, measured.forceAbsolute, measured.span⟩ := by
  intro measured draft
  have drafted := draft_user today now username { state } distinct rfl rfl
  cases drafted with
  | unread _ unseen _ => exact absurd unseen (draft_reads _ _ _ listed)
  | read other also user observed _ =>
    cases reading_unique distinct listed also
    exact ⟨user, observed⟩

theorem draft_unlisted (unread : ∀ obs, (username, some obs) ∉ managedUsers) :
    let draft := managedUsers.foldl (draftUser today now) { state }
    draft.state.user username = state.user username ∧ draft.observations.get? username = none := by
  intro draft
  have drafted := draft_user today now username { state } distinct rfl rfl
  cases drafted with
  | unread user unseen _ => exact ⟨user, unseen⟩
  | read obs listed _ _ _ => exact absurd listed (unread obs)

end Listed

/-- The spans the tick sends about a user: those it kept from before, and its own. -/
def offered (draft : Draft) (username : String) : List ActiveSpan :=
  (draft.state.user username).pendingSpans ++
    ((draft.observations.get? username).bind Observed.span).toList

theorem bufferUnsentSpan_sublist (userState : UserState) (span : Option ActiveSpan) :
    (bufferUnsentSpan userState span).pendingSpans.Sublist (userState.pendingSpans ++ span.toList) := by
  unfold bufferUnsentSpan
  cases span with
  | none =>
    rw [Option.toList_none, List.append_nil]
  | some span =>
    simp only [Option.toList_some]
    generalize (userState.pendingSpans ++ [span]).length - maxPendingSpans = surplus
    exact List.drop_sublist surplus _

theorem userTurn_pending (enforcer : TimekprEnforcer σ) (device : σ) (username : String)
    (observed : Observed) (userState : UserState) (now : Instant) (outcome : HubOutcome) :
    (userTurn enforcer device username observed userState now outcome).userState.pendingSpans.Sublist
      (userState.pendingSpans ++ observed.span.toList) := by
  cases outcome with
  | response response =>
    simp only [userTurn]
    split
    · exact List.sublist_append_left _ _
    · rename_i userResponse _
      obtain ⟨_, _, _, _, _, same⟩ :=
        answeredTurn_frame enforcer device username observed userState userResponse now
      rw [same]
      exact List.nil_sublist _
  | revoked => exact bufferUnsentSpan_sublist userState observed.span
  | unreachable =>
    obtain ⟨_, offline⟩ := applyOfflinePolicy_frame enforcer device username observed.obs
      (bufferUnsentSpan userState observed.span) now
    simp only [userTurn, unreachableTurn, offline]
    exact bufferUnsentSpan_sublist userState observed.span

theorem runTick_pending (zones : ZoneDatabase) (tzName agentVersion : String) (enforcer : TimekprEnforcer σ)
    (hub : SyncRequest → HubOutcome) (state : AgentState) (device : σ)
    (managedUsers : List (String × Option UserObservation)) (now : Instant) (previousPollMs : Int)
    (username : String) :
    ((runTick zones tzName agentVersion enforcer hub state device managedUsers now
        previousPollMs).1.state.user username).pendingSpans.Sublist
      (offered (draftTick zones tzName state managedUsers now) username) := by
  rcases runTick_user zones tzName agentVersion enforcer hub state device managedUsers now previousPollMs
    username with ⟨same, _⟩ | ⟨observed, device', found, _, same, _⟩
  · rw [same]
    exact List.sublist_append_left _ _
  · rw [same]
    simp only [offered, found, Option.bind_some]
    exact userTurn_pending enforcer device' username observed _ now _

end TimekprProof
