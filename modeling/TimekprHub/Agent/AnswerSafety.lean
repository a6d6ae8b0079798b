import TimekprHub.Agent.TickFrame
import TimekprHub.Agent.UncheckedTick

namespace TimekprModel

open Unchecked (TickReturn OfflineReadable)

variable {F : Type}

def MeasurementKept (draft : Unchecked.Draft F) (result : TickReturn F) (observed : String × Observed) : Prop :=
  let userState := result.state.user observed.1
  userState.cumLocalS = (draft.state.user observed.1).cumLocalS ∧
    (observed.1 ∈ result.processed ∨ ∀ span, observed.2.span = some span → span ∈ userState.pendingSpans)

variable [PyFloat F]

def EntryHandled (accepted : String → Bool) (draft : Unchecked.Draft F) (users : List (PyJson F × PyJson F))
    (observed : String × Observed) : Prop :=
  match entryOf users observed.1 with
  | none => ∀ span, observed.2.span = some span → span ∈ (draft.state.user observed.1).pendingSpans
  | some entry => ∃ fields, entry = .dict fields ∧ EntryReadable observed.2 (accepted observed.1) fields

structure AnswerReadable (accepted : String → Bool) (draft : Unchecked.Draft F)
    (entries : List (String × PyJson F)) : Prop where
  poll : ∀ value, List.lookup "next_poll_ms" entries = some value → Fallible.Succeeds value.number
  users : ∃ users, UsersListed entries users ∧
    ∀ observed ∈ draft.observations.entries, EntryHandled accepted draft users observed

def OutageReadable (draft : Unchecked.Draft F) (now : Instant) : Prop :=
  ∀ observed ∈ draft.observations.entries, OfflineReadable observed.2.obs (draft.state.user observed.1) now

section Exchange

variable (loads : List UInt8 → Except LoadsError (PyJson F)) (readable : List (String × PyJson F) → Prop)
variable (offline : Prop)

/-- An exchange the agent copes with, where `offline` says that it copes without the hub. Above 400 only the
    body's text matters; below, an empty body is not an answer, and text that is not JSON is caught for a 2xx
    reply. -/
def Tolerated : HttpOutcome → Prop
  | .failed => offline
  | .replied status body =>
    if 400 ≤ status then
      (body = [] ∨ ∀ raised, loads body = .error raised → raised = .jsonDecodeError) ∧
        (rejected status = false → offline)
    else body ≠ [] ∧
      match loads body with
      | .ok data => ∃ entries, data = .dict entries ∧ readable entries
      | .error raised => succeeded status = true ∧ raised.isValueError = true ∧ offline

def HttpOutcome.rejectsToken : HttpOutcome → Bool
  | .failed => false
  | .replied status _ => rejected status

structure SyncTolerated (client : HubClient) (first retry : HttpOutcome) : Prop where
  token : noToken client.token = false
  reply : Tolerated loads readable offline first
  retried : first.rejectsToken = true → client.hasFreshToken = true → Tolerated loads readable offline retry

end Exchange

end TimekprModel

namespace TimekprProof

open TimekprModel Fallible
open Unchecked (TickReturn OfflineReadable ZoneInUse answeredUser eachUser)

variable {F : Type}

section Exchange

variable {loads : List UInt8 → Except LoadsError (PyJson F)} {readable : List (String × PyJson F) → Prop}
variable {offline : Prop}

def Survives (readable : List (String × PyJson F) → Prop) (offline : Prop) : SyncEnd F → Prop
  | .answer data => ∃ entries, data = .dict entries ∧ readable entries
  | .revoked => True
  | .unreachable => offline
  | .escaped _ => False

theorem rejected_error {status : Nat} (rejects : rejected status = true) : 400 ≤ status := by
  simp only [rejected, Bool.or_eq_true, decide_eq_true_eq] at rejects
  omega

theorem judge_rejected {status : Nat} (data : PyJson F) (rejects : rejected status = true) :
    judge (.ok (status, data)) = .revoked := by
  simp only [judge, if_pos rejects]

theorem judge_reply (status : Nat) (data : PyJson F) :
    Survives readable offline (judge (.ok (status, data))) ↔
      if 400 ≤ status then rejected status = false → offline
      else ∃ entries, data = .dict entries ∧ readable entries := by
  cases rejects : rejected status with
  | true =>
    rw [judge_rejected data rejects, if_pos (rejected_error rejects)]
    exact iff_of_true trivial nofun
  | false =>
    simp only [judge, rejects]
    rw [if_neg Bool.false_ne_true]
    by_cases refused : 400 ≤ status
    · rw [if_pos refused, if_pos refused]
      exact ⟨fun copes _ => copes, fun copes => copes trivial⟩
    · rw [if_neg refused, if_neg refused]
      exact Iff.rfl

theorem succeeded_answers {status : Nat} (succeeds : succeeded status = true) : ¬ 400 ≤ status := by
  simp only [succeeded, Bool.and_eq_true, decide_eq_true_eq] at succeeds
  omega

theorem judge_survives (empty : ¬ readable []) (outcome : HttpOutcome) :
    Survives readable offline (judge (post loads outcome)) ↔ Tolerated loads readable offline outcome := by
  cases outcome with
  | failed => exact Iff.rfl
  | replied status body =>
    simp only [post, Tolerated]
    by_cases blank : body = []
    · rw [if_pos blank, judge_reply]
      simp [blank, empty]
    · rw [if_neg blank]
      cases parsed : loads body with
      | ok data =>
        rw [judge_reply]
        simp [blank]
      | error raised =>
        by_cases succeeds : succeeded status = true
        · have answered := succeeded_answers succeeds
          simp only [if_pos succeeds, if_neg answered]
          cases raises : raised.isValueError with
          | true => simp [judge, Survives, blank, succeeds]
          | false => simp [judge, Survives]
        · simp only [if_neg succeeds]
          by_cases notJson : raised = .jsonDecodeError
          · rw [if_pos notJson, judge_reply]
            simp [notJson, empty, succeeds]
          · rw [if_neg notJson]
            simp [judge, Survives, notJson, blank, succeeds]

theorem post_status {outcome : HttpOutcome} {status : Nat} {data : PyJson F}
    (posted : post loads outcome = .ok (status, data)) : outcome.rejectsToken = rejected status := by
  cases outcome with
  | failed => cases posted
  | replied replyStatus body =>
    have same : replyStatus = status := by
      simp only [post] at posted
      split at posted
      · cases posted
        rfl
      · split at posted
        · cases posted
        · split at posted
          · cases posted
            rfl
          · cases posted
    rw [← same]
    rfl

theorem rejection_posts {outcome : HttpOutcome} (rejects : outcome.rejectsToken = true)
    (tolerated : Tolerated loads readable offline outcome) : ∃ reply, post loads outcome = .ok reply := by
  cases outcome with
  | failed => cases rejects
  | replied status body =>
    have refused : 400 ≤ status := rejected_error rejects
    have failed : ¬ succeeded status = true := fun succeeds => succeeded_answers succeeds refused
    simp only [Tolerated, if_pos refused] at tolerated
    simp only [post]
    by_cases blank : body = []
    · rw [if_pos blank]
      exact ⟨_, rfl⟩
    · rw [if_neg blank]
      cases parsed : loads body with
      | ok data => exact ⟨_, rfl⟩
      | error raised =>
        have notJson := (tolerated.1.resolve_left blank) raised parsed
        exact ⟨(status, .dict []), by simp only [if_neg failed, if_pos notJson]⟩

theorem sync_survives (empty : ¬ readable []) (client : HubClient) (first retry : HttpOutcome) :
    Survives readable offline (client.sync loads first retry) ↔
      SyncTolerated loads readable offline client first retry := by
  unfold HubClient.sync
  by_cases missing : noToken client.token = true
  · rw [if_pos missing]
    refine iff_of_false id fun tolerated => ?_
    rw [tolerated.token] at missing
    cases missing
  · rw [if_neg missing]
    have token : noToken client.token = false := Bool.eq_false_iff.mpr missing
    have reply : Survives readable offline (judge (post loads first)) ↔ Tolerated loads readable offline first :=
      judge_survives empty first
    cases posted : post loads first with
    | error raised =>
      rw [posted] at reply
      refine reply.trans ⟨fun tolerated => ⟨token, tolerated, fun rejects _ => ?_⟩, SyncTolerated.reply⟩
      obtain ⟨_, replied⟩ := rejection_posts rejects tolerated
      rw [posted] at replied
      cases replied
    | ok answer =>
      obtain ⟨status, data⟩ := answer
      have rejects := post_status posted
      rw [posted] at reply
      dsimp only
      by_cases again : rejected status = true ∧ client.hasFreshToken = true
      · have first : Tolerated loads readable offline first := by
          rw [← reply, judge_rejected data again.1]
          trivial
        rw [if_pos (Bool.and_eq_true_iff.mpr again), judge_survives empty retry]
        constructor
        · intro retried
          exact ⟨token, first, fun _ _ => retried⟩
        · intro tolerated
          exact tolerated.retried (rejects.trans again.1) again.2
      · rw [if_neg fun both => again (Bool.and_eq_true_iff.mp both), reply]
        constructor
        · intro first
          refine ⟨token, first, fun rejected fresh => ?_⟩
          exact absurd ⟨rejects.symm.trans rejected, fresh⟩ again
        · exact SyncTolerated.reply

end Exchange

section Kept

theorem bufferUnsentSpan_holds (userState : UserState) (span : ActiveSpan) :
    span ∈ (bufferUnsentSpan userState (some span)).pendingSpans := by
  simp only [bufferUnsentSpan]
  have surplus : (userState.pendingSpans ++ [span]).length - maxPendingSpans ≤ userState.pendingSpans.length := by
    rw [List.length_append, List.length_singleton]
    unfold maxPendingSpans
    omega
  rw [List.drop_append_of_le_length surplus]
  exact List.mem_append_right _ (List.mem_singleton.mpr rfl)

variable (draft : Unchecked.Draft F) (now : Instant)

theorem processed_iff {users : List (PyJson F × PyJson F)} {observed : String × Observed}
    (listed : observed ∈ draft.observations.entries) :
    observed.1 ∈ (draft.observations.keys.filter fun username => (entryOf users username).isSome) ↔
      (entryOf users observed.1).isSome = true := by
  rw [List.mem_filter]
  exact and_iff_right (List.mem_map_of_mem listed)

variable [PyFloat F]

/-- Without an answer every span is buffered: the last one is never the one that is dropped. -/
theorem unanswered_keeps (previousPollMs : PyNum F)
    {turn : Observed → Unchecked.UserState F → Except PyException (Unchecked.UserState F)}
    (buffers : ∀ {observed userState result}, turn observed userState = .ok result →
      result = Unchecked.bufferUnsentSpan userState observed.span) :
    (∃ result, Unchecked.unansweredTick turn draft previousPollMs = .ok result ∧
        ∀ observed ∈ draft.observations.entries, MeasurementKept draft result observed) ↔
      ∀ observed ∈ draft.observations.entries, Succeeds (turn observed.2 (draft.state.user observed.1)) := by
  unfold Unchecked.unansweredTick
  have each : Succeeds (eachUser (fun _ => turn) draft.state draft.observations.entries) ↔
      ∀ observed ∈ draft.observations.entries, Succeeds (turn observed.2 (draft.state.user observed.1)) :=
    eachUser_succeeds draft.observations.nodup
  rw [← each]
  constructor
  · rintro ⟨result, returned, _⟩
    obtain ⟨state, looped, _⟩ := bind_ok returned
    exact ⟨state, looped⟩
  · rintro ⟨state, looped⟩
    refine ⟨_, bind_of_ok looped rfl, ?_⟩
    intro observed listed
    have buffered := buffers (eachUser_ok draft.observations.nodup looped observed listed)
    simp only [MeasurementKept, buffered]
    refine ⟨rfl, .inr ?_⟩
    intro span emitted
    simp only [emitted, Unchecked.bufferUnsentSpan]
    exact bufferUnsentSpan_holds _ span

theorem revoked_keeps (previousPollMs : PyNum F) :
    ∃ result, Unchecked.unansweredTick
        (fun observed userState => .ok (Unchecked.bufferUnsentSpan userState observed.span)) draft previousPollMs =
          .ok result ∧
      ∀ observed ∈ draft.observations.entries, MeasurementKept draft result observed := by
  refine (unanswered_keeps draft previousPollMs ?_).mpr ?_
  · rintro observed userState result ⟨⟩
    rfl
  · intro observed _
    exact succeeds_ok _

theorem unreachable_keeps (previousPollMs : PyNum F) :
    (∃ result, Unchecked.unansweredTick
        (fun observed userState => Unchecked.unreachableTurn observed userState now) draft previousPollMs =
          .ok result ∧
      ∀ observed ∈ draft.observations.entries, MeasurementKept draft result observed) ↔
      OutageReadable draft now := by
  rw [unanswered_keeps]
  · apply forall₂_congr
    intro observed _
    exact unreachableTurn_succeeds
  · intro observed userState result turned
    obtain ⟨_, _, returned⟩ := bind_ok turned
    exact (pure_ok returned).symm

variable (accepted : String → Bool)

theorem answeredUser_succeeds {users : List (PyJson F × PyJson F)} {observed : String × Observed}
    (handled : EntryHandled accepted draft users observed) :
    Succeeds (answeredUser accepted users now observed.1 observed.2 (draft.state.user observed.1)) := by
  unfold answeredUser
  unfold EntryHandled at handled
  split
  · exact succeeds_ok _
  · rename_i entry named
    rw [named] at handled
    exact answeredTurn_succeeds.mpr handled

theorem answeredUser_keeps {users : List (PyJson F × PyJson F)} {observed : String × Observed}
    {result : TickReturn F}
    (turned : answeredUser accepted users now observed.1 observed.2 (draft.state.user observed.1) =
      .ok (result.state.user observed.1))
    (processed : observed.1 ∈ result.processed ↔ (entryOf users observed.1).isSome = true) :
    MeasurementKept draft result observed ↔ EntryHandled accepted draft users observed := by
  unfold answeredUser at turned
  unfold MeasurementKept EntryHandled
  cases named : entryOf users observed.1 with
  | none =>
    rw [named] at turned
    rw [← Except.ok.inj turned]
    simp [processed, named]
  | some entry =>
    rw [named] at turned
    have counter := answeredTurn_counter turned
    have handled := answeredTurn_succeeds.mp ⟨_, turned⟩
    refine iff_of_true ⟨counter, .inl ?_⟩ handled
    rw [processed, named]
    rfl

theorem answeredTick_keeps (previousPollMs : PyNum F) (data : PyJson F) :
    (∃ result, Unchecked.answeredTick accepted draft now previousPollMs data = .ok result ∧
        ∀ observed ∈ draft.observations.entries, MeasurementKept draft result observed) ↔
      ∃ entries, data = .dict entries ∧ AnswerReadable accepted draft entries := by
  unfold Unchecked.answeredTick
  constructor
  · rintro ⟨result, returned, kept⟩
    obtain ⟨nextPollMs, pollRead, returned⟩ := bind_ok returned
    obtain ⟨entries, rfl, pollHeld⟩ := get_ok pollRead
    obtain ⟨_, _, returned⟩ := bind_ok returned
    obtain ⟨users, usersRead, returned⟩ := bind_ok returned
    obtain ⟨state, looped, returned⟩ := bind_ok returned
    obtain ⟨pollMs, converted, returned⟩ := bind_ok returned
    cases pure_ok returned
    refine ⟨entries, rfl, ?_, users, readUsers_ok.mp usersRead, ?_⟩
    · intro value present
      rw [← pollHeld, present] at converted
      exact ⟨pollMs, converted⟩
    · intro observed listed
      have turned := eachUser_ok draft.observations.nodup looped observed listed
      exact (answeredUser_keeps draft now accepted turned (processed_iff draft listed)).mp (kept observed listed)
  · rintro ⟨entries, rfl, poll, users, listed, handled⟩
    have looped : Succeeds (eachUser (answeredUser accepted users now)
        { draft.state with
          hubTz := ((List.lookup "hub_tz" entries).filter PyJson.truthy).getD draft.state.hubTz }
        draft.observations.entries) := by
      rw [eachUser_succeeds draft.observations.nodup]
      intro observed inside
      exact answeredUser_succeeds draft now accepted (handled observed inside)
    obtain ⟨state, looped⟩ := looped
    have converted : Succeeds (((List.lookup "next_poll_ms" entries).map PyJson.number).getD
        (.ok previousPollMs)) := by
      cases present : List.lookup "next_poll_ms" entries with
      | none => exact succeeds_ok previousPollMs
      | some value => exact poll value present
    obtain ⟨pollMs, converted⟩ := converted
    refine ⟨_, bind_of_ok (get_dict ..) (bind_of_ok (get_dict ..) (bind_of_ok (readUsers_ok.mpr listed)
      (bind_of_ok looped (bind_of_ok converted rfl)))), ?_⟩
    intro observed inside
    have turned := eachUser_ok draft.observations.nodup looped observed inside
    exact (answeredUser_keeps draft now accepted turned (processed_iff draft inside)).mpr (handled observed inside)

theorem no_users_unreadable : ¬ AnswerReadable accepted draft ([] : List (String × PyJson F)) := by
  rintro ⟨_, users, ⟨listed, _, held, _⟩, _⟩
  cases held

end Kept

variable [PyFloat F]

/-- An answer takes the agent down, or loses a span, unless it has the fields the tick reads and an entry for
    each user whose span is at stake; what it left of other types takes a later tick down. -/
theorem tick_survives_exchange_iff (zones : ZoneDatabase) (tzName : String)
    (loads : List UInt8 → Except LoadsError (PyJson F)) (client : HubClient) (first retry : HttpOutcome)
    (accepted : String → Bool) (state : Unchecked.AgentState F)
    (managedUsers : List (String × Option UserObservation)) (now : Instant) (previousPollMs : PyNum F) :
    let draft := fun zone => Unchecked.draftTick (canonicalDayStr zones now zone) state managedUsers now
    (∃ zone result, ZoneInUse state.hubTz tzName zone ∧
        Unchecked.runTick zones tzName loads client first retry accepted state managedUsers now previousPollMs =
          .ok result ∧
        ∀ observed ∈ (draft zone).observations.entries, MeasurementKept (draft zone) result observed) ↔
      ∃ zone, ZoneInUse state.hubTz tzName zone ∧
        SyncTolerated loads (AnswerReadable accepted (draft zone)) (OutageReadable (draft zone) now) client
          first retry := by
  intro draft
  apply exists_congr
  intro zone
  rw [exists_and_left]
  apply and_congr_right
  intro inUse
  rw [← sync_survives (no_users_unreadable (draft zone) accepted)]
  unfold Unchecked.runTick
  rw [zoneName_ok.mpr inUse]
  show (∃ result, (match client.sync loads first retry with
    | .answer data => _
    | .revoked => _
    | .unreachable => _
    | .escaped raised => _ : Except PyException (TickReturn F)) = .ok result ∧ _) ↔ _
  cases client.sync loads first retry with
  | answer data => exact answeredTick_keeps (draft zone) now accepted previousPollMs data
  | revoked => exact iff_of_true (revoked_keeps (draft zone) previousPollMs) trivial
  | unreachable => exact unreachable_keeps (draft zone) now previousPollMs
  | escaped raised =>
    refine iff_of_false ?_ id
    rintro ⟨_, returned, _⟩
    cases returned

section Lost

def annObserved : List (String × Option UserObservation) :=
  [("ann", some { balanceS := 0, spentDayS := 60, limitTodayS := 3600, loggedIn := true, active := true })]

def enrolledClient : HubClient := { token := some "token", tokenFile := some "token" }

/-- A 200 without a body is an answer to `sync`, and no user list to `run_tick`. -/
theorem empty_answer_raises :
    ¬ ∃ result, Unchecked.runTick (F := Empty) (fun _ => none) "" (fun _ => .error .jsonDecodeError)
      enrolledClient (.replied 200 []) .failed (fun _ => true) {} annObserved (1767268800 * second)
      (.int defaultPollMs) = .ok result := by
  rintro ⟨result, returned⟩
  cases returned

-- A grace that an answer gave as a text is stored as it came, and found out in the next outage.
example : Unchecked.runTick (F := Empty) (fun _ => none) "" (fun _ => .error .jsonDecodeError) enrolledClient
    .failed .failed (fun _ => true)
    (({} : Unchecked.AgentState Empty).setUser "ann" { lastOfflineGraceS := .str "soon" })
    annObserved (1767268800 * second) (.int defaultPollMs) = .error .typeError := by
  rfl

end Lost

end TimekprProof
