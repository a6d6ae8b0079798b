import TimekprHub.Hub.PolicyVersions

namespace TimekprModel

universe u

structure PolicyEvent where
  before : Option PolicyPayload
  after : PolicyPayload

/-- The requests that edit one user's policy, and the events they have committed. `beforePolicy` is a
    request's own variable, none until it has been read; `loadedAt` is a ghost, how many edits had been
    committed when the request selected the user. -/
structure PolicyLog (ι : Type u) where
  hub : PolicyHub ι
  beforePolicy : ι → Option (Option PolicyRow) := fun _ => none
  events : List PolicyEvent := []
  loadedAt : ι → Nat := fun _ => 0

namespace PolicyLog

variable {ι : Type u} [DecidableEq ι] (log : PolicyLog ι) (request : ι)

/-- `get_current_policy` on the user as the request has loaded it: no lock is held yet. -/
def currentRow : Option PolicyRow := do
  let user ← (log.hub.sessions request).loaded
  let id ← user.currentPolicyId
  (log.hub.policies ++ log.hub.own request).find? fun row => row.id = id

def readBefore : PolicyLog ι :=
  { log with beforePolicy := Function.update log.beforePolicy request (some (log.currentRow request)) }

def before? : Option PolicyRow := (log.beforePolicy request).join

/-- The event a request adds to its session, which goes to the database as it commits. -/
def recorded : List PolicyEvent :=
  (log.hub.sessions request).edits.map fun edit =>
    { before := (log.before? request).map fun row => policyToPayload row.policy
      after := policyToPayload edit.2 }

/-- One statement of one request: between the SELECT of the user and the one that locks it stands the SELECT
    of the policy the event names as before. -/
def step (log : PolicyLog ι) : PolicyTurn ι → PolicyLog ι
  | .advance request policyId =>
    let session := log.hub.sessions request
    match session.stage, session.todo, log.beforePolicy request with
    | .locking, _, none => log.readBefore request
    | .ready, [], _ =>
      { log with
        hub := log.hub.advance request policyId
        events := log.events ++ log.recorded request }
    | .ready, _ :: _, _ =>
      { log with
        hub := log.hub.advance request policyId
        loadedAt := Function.update log.loadedAt request log.events.length }
    | _, _, _ => { log with hub := log.hub.advance request policyId }
  | .abort request => { log with hub := log.hub.step (.abort request) }

end PolicyLog

def StoredChain.beginEdits {ι : Type u} (stored : StoredChain) (updates : ι → PolicyUpdate) : PolicyLog ι where
  hub := stored.begin fun request => [.updatePolicy (updates request)]

/-- After the first version, the event's before image is the stored policy of the version before. -/
def PolicyEvent.Follows (policies : List PolicyRow) (event : PolicyEvent) : Prop :=
  1 < event.after.version → ∃ row ∈ policies, row.policy.version = event.after.version - 1 ∧
    event.before = some (policyToPayload row.policy)

def Chained {ι : Type u} (log : PolicyLog ι) : Prop := ∀ event ∈ log.events, event.Follows log.hub.policies

/-- A request commits, and no other edit has been committed since it selected the user. -/
def CommitsUnovertaken {ι : Type u} (log : PolicyLog ι) : PolicyTurn ι → Prop
  | .advance request _ =>
    (log.hub.sessions request).stage = .ready → (log.hub.sessions request).todo = [] →
      log.events.length = log.loadedAt request
  | .abort _ => True

end TimekprModel

namespace TimekprProof

open TimekprModel

universe u

variable {ι : Type u} [DecidableEq ι]

section Others

structure LeavesAlone (hub next : PolicyHub ι) (other : ι) : Prop where
  session : next.sessions other = hub.sessions other
  own : next.own other = hub.own other

variable {hub : PolicyHub ι} {request other : ι} (differ : other ≠ request)
include differ

theorem own_release : (hub.release request).own other = hub.own other := by
  unfold PolicyHub.own PolicyHub.release
  rw [List.filter_filter]
  congr 1
  apply List.filter_congr
  intro entry _
  by_cases same : entry.1 = other
  · have apart : entry.1 ≠ request := fun own => differ (same.symm.trans own)
    simp [same, differ]
  · simp [same]

theorem put_leavesAlone (session : PolicySession) : LeavesAlone hub (hub.put request session) other :=
  ⟨put_other hub session differ, rfl⟩

theorem abort_leavesAlone : LeavesAlone hub (hub.abort request) other :=
  ⟨Function.update_of_ne differ .., own_release differ⟩

theorem commit_leavesAlone : LeavesAlone hub (hub.commit request) other :=
  ⟨Function.update_of_ne differ .., own_release differ⟩

theorem load_leavesAlone : LeavesAlone hub (hub.load request) other := by
  unfold PolicyHub.load
  split
  · exact abort_leavesAlone differ
  · exact put_leavesAlone differ _

theorem lockUser_leavesAlone : LeavesAlone hub (hub.lockUser request) other := by
  unfold PolicyHub.lockUser
  split
  · exact ⟨rfl, rfl⟩
  · split
    · exact abort_leavesAlone differ
    · exact ⟨put_other hub _ differ, rfl⟩

theorem insertUser_leavesAlone : LeavesAlone hub (hub.insertUser request) other := by
  unfold PolicyHub.insertUser
  split
  · exact ⟨rfl, rfl⟩
  · split
    · exact put_leavesAlone differ _
    · exact ⟨put_other hub _ differ, rfl⟩

theorem insertPolicy_leavesAlone (rest : List PolicyOp) (edits : List (PolicyUpdate × Policy))
    (row : PolicyRow) : LeavesAlone hub (hub.insertPolicy request rest edits row) other := by
  unfold PolicyHub.insertPolicy
  dsimp only
  split
  · exact ⟨rfl, rfl⟩
  · split
    · exact abort_leavesAlone differ
    · refine ⟨put_other hub _ differ, ?_⟩
      have foreign : [(request, row)].filter (fun entry => entry.1 = other) = [] :=
        List.filter_cons_of_neg (by simpa using Ne.symm differ)
      simp only [PolicyHub.own, List.filter_append, foreign, List.append_nil]

theorem advance_leavesAlone (policyId : PolicyId) : LeavesAlone hub (hub.advance request policyId) other := by
  unfold PolicyHub.advance
  dsimp only
  split
  · exact commit_leavesAlone differ
  · exact insertUser_leavesAlone differ
  · exact load_leavesAlone differ
  · exact load_leavesAlone differ
  · exact lockUser_leavesAlone differ
  · exact put_leavesAlone differ _
  · split
    · exact put_leavesAlone differ _
    · exact put_leavesAlone differ _
  · exact insertPolicy_leavesAlone differ ..
  · exact insertPolicy_leavesAlone differ ..
  · exact insertPolicy_leavesAlone differ ..
  · exact ⟨rfl, rfl⟩

end Others

section Statements

variable {hub : PolicyHub ι} {request : ι}

theorem insertUser_policies : (hub.insertUser request).policies = hub.policies := by
  unfold PolicyHub.insertUser
  split
  · rfl
  · split <;> rfl

theorem load_policies : (hub.load request).policies = hub.policies := by
  unfold PolicyHub.load
  split <;> rfl

theorem lockUser_policies : (hub.lockUser request).policies = hub.policies := by
  unfold PolicyHub.lockUser
  split
  · rfl
  · split <;> rfl

theorem insertPolicy_policies (rest : List PolicyOp) (edits : List (PolicyUpdate × Policy)) (row : PolicyRow) :
    (hub.insertPolicy request rest edits row).policies = hub.policies := by
  unfold PolicyHub.insertPolicy
  dsimp only
  split
  · rfl
  · split <;> rfl

theorem advance_policies (policyId : PolicyId)
    (running : ¬ ((hub.sessions request).stage = .ready ∧ (hub.sessions request).todo = [])) :
    (hub.advance request policyId).policies = hub.policies := by
  unfold PolicyHub.advance
  dsimp only
  split
  · rename_i stage todo
    exact absurd ⟨stage, todo⟩ running
  · exact insertUser_policies
  · exact load_policies
  · exact load_policies
  · exact lockUser_policies
  · rfl
  · split <;> rfl
  · exact insertPolicy_policies ..
  · exact insertPolicy_policies ..
  · exact insertPolicy_policies ..
  · rfl

theorem advance_ended (policyId : PolicyId) (ended : (hub.sessions request).stage.ended = true) :
    hub.advance request policyId = hub := by
  unfold PolicyHub.advance
  cases stage : (hub.sessions request).stage with
  | committed | aborted => simp only [stage]
  | _ =>
    rw [stage] at ended
    cases ended

theorem advance_commit (policyId : PolicyId) (stage : (hub.sessions request).stage = .ready)
    (todo : (hub.sessions request).todo = []) : hub.advance request policyId = hub.commit request := by
  unfold PolicyHub.advance
  simp only [stage, todo]

end Statements

section Traces

structure Unwritten (hub : PolicyHub ι) (request : ι) (update : PolicyUpdate) : Prop where
  todo : (hub.sessions request).todo = [.updatePolicy update]
  edits : (hub.sessions request).edits = []
  own : hub.own request = []

def policiesSeen (base : Nat) (log : PolicyLog ι) (request : ι) : List PolicyRow :=
  log.hub.policies.take (base + log.loadedAt request)

structure HasLoaded (base : Nat) (log : PolicyLog ι) (request : ι) : Prop where
  earlier : log.loadedAt request ≤ log.events.length
  pointer : (log.hub.sessions request).loaded.map UserPointer.currentPolicyId =
    some ((policiesSeen base log request).getLast?.map PolicyRow.id)

structure HasRead (base : Nat) (log : PolicyLog ι) (request : ι) : Prop where
  earlier : log.loadedAt request ≤ log.events.length
  found : log.beforePolicy request = some (policiesSeen base log request).getLast?

/-- How far a request has come: it has read its before image before it takes the lock, and its policy's
    version follows the committed ones. -/
inductive Traced (base : Nat) (log : PolicyLog ι) (request : ι) (update : PolicyUpdate) : Prop
  | fresh (stage : (log.hub.sessions request).stage = .ready) (unwritten : Unwritten log.hub request update)
      (unread : log.beforePolicy request = none) (unloaded : (log.hub.sessions request).loaded = none)
  | located (stage : (log.hub.sessions request).stage = .locking) (unwritten : Unwritten log.hub request update)
      (unread : log.beforePolicy request = none) (loaded : HasLoaded base log request)
  | editing (stage : (log.hub.sessions request).stage = .locking ∨ (log.hub.sessions request).stage = .locked ∨
        ∃ current, (log.hub.sessions request).stage = .updating current)
      (unwritten : Unwritten log.hub request update) (read : HasRead base log request)
  | written (stage : (log.hub.sessions request).stage = .ready) (todo : (log.hub.sessions request).todo = [])
      (edit : PolicyUpdate × Policy) (edits : (log.hub.sessions request).edits = [edit])
      (row : (log.hub.sessions request).row ≠ none) (read : HasRead base log request)
      (own : (log.hub.own request).length = 1) (version : edit.2.version = log.hub.policies.length + 1)
  | ended (stage : (log.hub.sessions request).stage.ended = true)

structure TracedLog (updates : ι → PolicyUpdate) (base : Nat) (log : PolicyLog ι) : Prop where
  orderly : Orderly (fun request => [.updatePolicy (updates request)]) log.hub
  traced : ∀ request, Traced base log request (updates request)
  bounded : ∀ event ∈ log.events, event.after.version ≤ log.hub.policies.length
  counted : log.hub.policies.length = base + log.events.length

variable {updates : ι → PolicyUpdate} {base : Nat} {log : PolicyLog ι} {request : ι}

theorem owns_of_row (tracedLog : TracedLog updates base log) (row : (log.hub.sessions request).row ≠ none) :
    Owns log.hub request := by
  by_contra free
  exact row ((tracedLog.orderly.sessions request).idle free).1

structure Beside (log next : PolicyLog ι) (other : ι) : Prop where
  alone : LeavesAlone log.hub next.hub other
  read : next.beforePolicy other = log.beforePolicy other
  loadedAt : next.loadedAt other = log.loadedAt other
  policies : log.hub.policies <+: next.hub.policies
  events : log.events.length ≤ next.events.length

theorem Beside.seen {next : PolicyLog ι} (beside : Beside log next request)
    (counted : log.hub.policies.length = base + log.events.length)
    (earlier : log.loadedAt request ≤ log.events.length) :
    policiesSeen base next request = policiesSeen base log request := by
  obtain ⟨more, longer⟩ := beside.policies
  unfold policiesSeen
  rw [beside.loadedAt, ← longer]
  exact List.take_append_of_le_length (by omega)

theorem Traced.bystander {update : PolicyUpdate} (traced : Traced base log request update)
    (counted : log.hub.policies.length = base + log.events.length) {next : PolicyLog ι}
    (beside : Beside log next request)
    (same : (log.hub.sessions request).row ≠ none → next.hub.policies = log.hub.policies) :
    Traced base next request update := by
  have alone := beside.alone
  have unwritten : Unwritten log.hub request update → Unwritten next.hub request update := by
    intro before
    refine ⟨?_, ?_, alone.own.trans before.own⟩
    · rw [alone.session]
      exact before.todo
    · rw [alone.session]
      exact before.edits
  have still : log.loadedAt request ≤ log.events.length → next.loadedAt request ≤ next.events.length := by
    intro earlier
    rw [beside.loadedAt]
    exact earlier.trans beside.events
  have hasRead : HasRead base log request → HasRead base next request := by
    intro known
    refine ⟨still known.earlier, ?_⟩
    rw [beside.read, beside.seen counted known.earlier]
    exact known.found
  cases traced with
  | fresh stage waits unread unloaded =>
    rw [← alone.session] at stage unloaded
    exact .fresh stage (unwritten waits) (beside.read.trans unread) unloaded
  | located stage waits unread loaded =>
    rw [← alone.session] at stage
    refine .located stage (unwritten waits) (beside.read.trans unread) ⟨still loaded.earlier, ?_⟩
    rw [alone.session, beside.seen counted loaded.earlier]
    exact loaded.pointer
  | editing stage waits known =>
    rw [← alone.session] at stage
    exact .editing stage (unwritten waits) (hasRead known)
  | written stage todo edit edits row known own version =>
    rw [← same row] at version
    rw [← alone.own] at own
    rw [← alone.session] at stage todo edits row
    exact .written stage todo edit edits row (hasRead known) own version
  | ended stage =>
    rw [← alone.session] at stage
    exact .ended stage

theorem unwritten_put {update : PolicyUpdate} {session : PolicySession}
    (unwritten : Unwritten log.hub request update) (todo : session.todo = (log.hub.sessions request).todo)
    (edits : session.edits = (log.hub.sessions request).edits) :
    Unwritten (log.hub.put request session) request update := by
  refine ⟨?_, ?_, unwritten.own⟩
  · rw [put_same, todo]
    exact unwritten.todo
  · rw [put_same, edits]
    exact unwritten.edits

theorem abort_ended (hub : PolicyHub ι) (request : ι) :
    ((hub.abort request).sessions request).stage.ended = true := by
  simp [PolicyHub.abort, PolicyStage.ended]

theorem commit_ended (hub : PolicyHub ι) (request : ι) :
    ((hub.commit request).sessions request).stage.ended = true := by
  simp [PolicyHub.commit, PolicyStage.ended]

theorem edit_traced (tracedLog : TracedLog updates base log) (policyId : PolicyId)
    (stage : (log.hub.sessions request).stage = .locking ∨ (log.hub.sessions request).stage = .locked ∨
      ∃ current, (log.hub.sessions request).stage = .updating current)
    (unwritten : Unwritten log.hub request (updates request)) (read : HasRead base log request) :
    Traced base { log with hub := log.hub.advance request policyId } request (updates request) := by
  have todo := unwritten.todo
  rcases stage with locking | locked | ⟨current, updating⟩
  · have statement : log.hub.advance request policyId = log.hub.lockUser request := by
      unfold PolicyHub.advance
      simp only [locking, todo]
    rw [statement]
    unfold PolicyHub.lockUser
    split
    · exact .editing (.inl locking) unwritten read
    · split
      · exact .ended (abort_ended _ _)
      · rename_i row _
        have waits := @unwritten_put _ _ log request _
          { log.hub.sessions request with stage := .locked, loaded := some row } unwritten rfl rfl
        refine .editing (.inr (.inl ?_)) ⟨waits.todo, waits.edits, waits.own⟩
          ⟨read.earlier, read.found⟩
        simp only [put_same]
  · have statement : log.hub.advance request policyId = log.hub.put request
        { log.hub.sessions request with
          stage := .updating (log.hub.getCurrentPolicy request (log.hub.sessions request).loaded) } := by
      unfold PolicyHub.advance
      simp only [locked, todo]
    rw [statement]
    refine .editing (.inr (.inr ⟨log.hub.getCurrentPolicy request (log.hub.sessions request).loaded, ?_⟩))
      (unwritten_put unwritten rfl rfl) ⟨read.earlier, read.found⟩
    rw [put_same]
  · have exclusive : Exclusive (log.hub.sessions request).stage := by
      rw [updating]
      trivial
    have owns := owns_of_exclusive tracedLog.orderly exclusive
    have last := (tracedLog.orderly.sessions request).fits owns
    have rows := rows_own tracedLog.orderly owns
    rw [unwritten.own, List.append_nil] at rows
    rw [StageFits, updating] at last
    have statement : log.hub.advance request policyId = log.hub.insertPolicy request []
        [(updates request, updatePolicy current (updates request))]
        ⟨policyId, updatePolicy current (updates request)⟩ := by
      unfold PolicyHub.advance
      simp only [updating, todo]
    have version := last_version tracedLog.orderly.numbered (updates request)
    rw [← last, ← rows] at version
    rw [statement]
    unfold PolicyHub.insertPolicy
    dsimp only
    split
    · exact .editing (.inr (.inr ⟨current, updating⟩)) unwritten read
    · split
      · exact .ended (abort_ended _ _)
      · refine .written ?_ ?_ (updates request, updatePolicy current (updates request)) ?_ ?_
          ⟨read.earlier, read.found⟩ ?_ version
        · simp only [put_same]
        · simp only [put_same]
        · simp only [put_same, unwritten.edits, List.nil_append]
        · simp only [put_same]
          exact Option.some_ne_none _
        · have free := unwritten.own
          unfold PolicyHub.own at free
          simp [PolicyHub.own, free]

theorem currentRow_eq_seen (tracedLog : TracedLog updates base log) {update : PolicyUpdate}
    (unwritten : Unwritten log.hub request update) (loaded : HasLoaded base log request) :
    log.currentRow request = (policiesSeen base log request).getLast? := by
  obtain ⟨user, held, pointer⟩ := Option.map_eq_some_iff.mp loaded.pointer
  unfold PolicyLog.currentRow
  rw [held, unwritten.own, List.append_nil, Option.bind_eq_bind, Option.bind_some, pointer]
  cases last : (policiesSeen base log request).getLast? with
  | none => rfl
  | some row =>
    have listed := List.mem_of_mem_take (List.mem_of_getLast? last)
    exact find_row tracedLog.orderly.chain.distinct listed

theorem readBefore_traced (tracedLog : TracedLog updates base log) {update : PolicyUpdate}
    (stage : (log.hub.sessions request).stage = .locking) (unwritten : Unwritten log.hub request update)
    (loaded : HasLoaded base log request) : Traced base (log.readBefore request) request update := by
  refine .editing (.inl stage) unwritten ⟨loaded.earlier, ?_⟩
  show Function.update log.beforePolicy request (some (log.currentRow request)) request = _
  rw [Function.update_self, currentRow_eq_seen tracedLog unwritten loaded]
  rfl

def selected (log : PolicyLog ι) (request : ι) : PolicyLog ι :=
  { log with
    hub := log.hub.load request
    loadedAt := Function.update log.loadedAt request log.events.length }

theorem policiesSeen_selected (counted : log.hub.policies.length = base + log.events.length) :
    policiesSeen base (selected log request) request = log.hub.policies := by
  have now : (selected log request).loadedAt request = log.events.length := Function.update_self ..
  have same : (selected log request).hub.policies = log.hub.policies := load_policies
  rw [policiesSeen, now, same]
  exact List.take_of_length_le counted.le

theorem visible_current (tracedLog : TracedLog updates base log) {update : PolicyUpdate}
    (unwritten : Unwritten log.hub request update) {row : UserPointer}
    (visible : log.hub.visible request = some row) :
    row.currentPolicyId = log.hub.policies.getLast?.map PolicyRow.id := by
  have session := tracedLog.orderly.sessions request
  by_cases owns : Owns log.hub request
  · obtain ⟨own, seen, current⟩ := session.sees owns
    have rows := rows_own tracedLog.orderly owns
    rw [unwritten.own, List.append_nil] at rows
    rw [← rows, ← Option.some.inj (visible.symm.trans seen)] at current
    exact current
  · have current := tracedLog.orderly.chain.current
    rw [PolicyHub.visible, (session.idle owns).1, Option.none_or] at visible
    rw [visible] at current
    exact current

theorem load_traced (tracedLog : TracedLog updates base log) {update : PolicyUpdate}
    (unwritten : Unwritten log.hub request update) (unread : log.beforePolicy request = none)
    (unloaded : (log.hub.sessions request).loaded = none) :
    Traced base (selected log request) request update := by
  have seen := @policiesSeen_selected _ _ base log request tracedLog.counted
  cases visible : log.hub.visible request with
  | none =>
    have statement : log.hub.load request = log.hub.abort request := by
      rw [PolicyHub.load, visible]
    refine .ended ?_
    rw [selected, statement]
    exact abort_ended _ _
  | some row =>
    have statement : log.hub.load request = log.hub.put request
        { log.hub.sessions request with stage := .locking, loaded := some row } := by
      rw [PolicyHub.load, visible]
      simp only [unloaded, Option.getD_none]
    refine .located ?_ ?_ unread ⟨?_, ?_⟩
    · rw [selected, statement, put_same]
    · rw [selected, statement]
      exact unwritten_put unwritten rfl rfl
    · exact (Function.update_self ..).le
    · rw [seen, selected, statement, put_same]
      exact congrArg some (visible_current tracedLog unwritten visible)

end Traces

section Steps

variable {updates : ι → PolicyUpdate} {base : Nat} {log : PolicyLog ι} {request : ι}

theorem step_read (policyId : PolicyId) (stage : (log.hub.sessions request).stage = .locking)
    (unread : log.beforePolicy request = none) :
    log.step (.advance request policyId) = log.readBefore request := by
  simp only [PolicyLog.step, stage, unread]

theorem step_commit (policyId : PolicyId) (stage : (log.hub.sessions request).stage = .ready)
    (todo : (log.hub.sessions request).todo = []) :
    log.step (.advance request policyId) =
      { log with hub := log.hub.commit request, events := log.events ++ log.recorded request } := by
  simp only [PolicyLog.step, stage, todo, advance_commit policyId stage todo]

theorem step_load (policyId : PolicyId) (stage : (log.hub.sessions request).stage = .ready)
    {update : PolicyUpdate} (todo : (log.hub.sessions request).todo = [.updatePolicy update]) :
    log.step (.advance request policyId) = selected log request := by
  have statement : log.hub.advance request policyId = log.hub.load request := by
    unfold PolicyHub.advance
    simp only [stage, todo]
  simp only [PolicyLog.step, stage, todo, statement]
  rfl

theorem step_statement (policyId : PolicyId)
    (known : ¬ ((log.hub.sessions request).stage = .locking ∧ log.beforePolicy request = none))
    (running : (log.hub.sessions request).stage ≠ .ready) :
    log.step (.advance request policyId) = { log with hub := log.hub.advance request policyId } := by
  simp only [PolicyLog.step]
  split
  · rename_i stage unread
    exact absurd ⟨stage, unread⟩ known
  · rename_i stage _
    exact absurd stage running
  · rename_i stage _
    exact absurd stage running
  · rfl

/-- What is committed while a request holds the row is its own. -/
theorem others_traced (tracedLog : TracedLog updates base log) {next : PolicyLog ι} {other : ι}
    (beside : Beside log next other)
    (policies : next.hub.policies = log.hub.policies ∨ Owns log.hub request) (differ : other ≠ request) :
    Traced base next other (updates other) := by
  apply (tracedLog.traced other).bystander tracedLog.counted beside
  intro row
  rcases policies with same | owns
  · exact same
  · exact absurd (owner_unique tracedLog.orderly owns (owns_of_row tracedLog row)) differ

theorem written_of_ready (tracedLog : TracedLog updates base log)
    (stage : (log.hub.sessions request).stage = .ready) (todo : (log.hub.sessions request).todo = []) :
    Owns log.hub request ∧ HasRead base log request ∧ (log.hub.own request).length = 1 ∧
      ∃ edit : PolicyUpdate × Policy, (log.hub.sessions request).edits = [edit] ∧
        edit.2.version = log.hub.policies.length + 1 := by
  cases tracedLog.traced request with
  | fresh _ unwritten _ _ =>
    have waiting := unwritten.todo
    rw [todo] at waiting
    cases waiting
  | located locking _ _ _ =>
    rw [stage] at locking
    cases locking
  | editing editing _ _ =>
    rw [stage] at editing
    rcases editing with locking | locked | ⟨_, updating⟩
    · cases locking
    · cases locked
    · cases updating
  | written _ _ edit edits row read own version =>
    exact ⟨owns_of_row tracedLog row, read, own, edit, edits, version⟩
  | ended ended =>
    rw [stage] at ended
    cases ended

theorem read_step_traced (tracedLog : TracedLog updates base log) (policyId : PolicyId)
    (stage : (log.hub.sessions request).stage = .locking) (unread : log.beforePolicy request = none) :
    TracedLog updates base (log.step (.advance request policyId)) := by
  rw [step_read policyId stage unread]
  refine ⟨tracedLog.orderly, ?_, tracedLog.bounded, tracedLog.counted⟩
  intro other
  by_cases own : other = request
  · subst own
    cases tracedLog.traced other with
    | fresh ready _ _ _ =>
      rw [stage] at ready
      cases ready
    | located locking unwritten _ loaded => exact readBefore_traced tracedLog locking unwritten loaded
    | editing _ _ read =>
      have known := read.found
      rw [unread] at known
      cases known
    | written ready _ _ _ _ _ _ _ =>
      rw [stage] at ready
      cases ready
    | ended ended =>
      rw [stage] at ended
      cases ended
  · refine others_traced tracedLog ⟨⟨rfl, rfl⟩, ?_, rfl, List.prefix_rfl, le_refl _⟩ (.inl rfl) own
    exact Function.update_of_ne own ..

theorem commit_step_traced (tracedLog : TracedLog updates base log) (policyId : PolicyId)
    (stage : (log.hub.sessions request).stage = .ready) (todo : (log.hub.sessions request).todo = []) :
    TracedLog updates base (log.step (.advance request policyId)) := by
  obtain ⟨owns, _, single, edit, edits, version⟩ := written_of_ready tracedLog stage todo
  have counted := tracedLog.counted
  rw [step_commit policyId stage todo]
  refine ⟨commit_orderly tracedLog.orderly stage todo, ?_, ?_, ?_⟩
  · intro other
    by_cases own : other = request
    · subst own
      exact .ended (commit_ended _ _)
    · refine others_traced tracedLog ⟨commit_leavesAlone own, rfl, rfl, ?_, ?_⟩ (.inr owns) own
      · exact List.prefix_append _ _
      · simp only [List.length_append]
        omega
  · intro event listed
    show event.after.version ≤ ((log.hub.policies ++ log.hub.own request).length : Int)
    rw [List.length_append, single]
    rcases List.mem_append.mp listed with before | now
    · have bound := tracedLog.bounded event before
      omega
    · rw [PolicyLog.recorded, edits, List.map_singleton, List.mem_singleton] at now
      rw [now]
      show edit.2.version ≤ ((log.hub.policies.length + 1 : Nat) : Int)
      omega
  · show (log.hub.policies ++ log.hub.own request).length = base + (log.events ++ log.recorded request).length
    simp only [PolicyLog.recorded, edits, List.length_append, single, List.map_singleton, List.length_singleton]
    omega

theorem load_step_traced (tracedLog : TracedLog updates base log) (policyId : PolicyId)
    (stage : (log.hub.sessions request).stage = .ready) (unwritten : Unwritten log.hub request (updates request))
    (unread : log.beforePolicy request = none) (unloaded : (log.hub.sessions request).loaded = none) :
    TracedLog updates base (log.step (.advance request policyId)) := by
  have live : (log.hub.sessions request).stage ≠ .aborted := by
    rw [stage]
    simp
  have same : (selected log request).hub.policies = log.hub.policies := load_policies
  rw [step_load policyId stage unwritten.todo]
  refine ⟨load_orderly tracedLog.orderly live, ?_, ?_, ?_⟩
  · intro other
    by_cases own : other = request
    · subst own
      exact load_traced tracedLog unwritten unread unloaded
    · refine others_traced tracedLog ⟨load_leavesAlone own, rfl, ?_, ?_, le_refl _⟩ (.inl same) own
      · exact Function.update_of_ne own ..
      · rw [same]
  · rw [same]
    exact tracedLog.bounded
  · rw [same]
    exact tracedLog.counted

theorem statement_step_traced (tracedLog : TracedLog updates base log) (policyId : PolicyId)
    (unread : ¬ ((log.hub.sessions request).stage = .locking ∧ log.beforePolicy request = none))
    (running : (log.hub.sessions request).stage ≠ .ready) :
    TracedLog updates base (log.step (.advance request policyId)) := by
  have same := advance_policies policyId fun committing => running committing.1
  rw [step_statement policyId unread running]
  refine ⟨advance_orderly tracedLog.orderly request policyId, ?_, ?_, ?_⟩
  · intro other
    by_cases own : other = request
    · subst own
      cases tracedLog.traced other with
      | fresh stage _ _ _ => exact absurd stage running
      | located stage _ unreadHere _ => exact absurd ⟨stage, unreadHere⟩ unread
      | editing stage unwritten read => exact edit_traced tracedLog policyId stage unwritten read
      | written stage _ _ _ _ _ _ _ => exact absurd stage running
      | ended stage =>
        rw [advance_ended policyId stage]
        exact .ended stage
    · refine others_traced tracedLog ⟨advance_leavesAlone own policyId, rfl, rfl, ?_, le_refl _⟩ (.inl same) own
      show log.hub.policies <+: (log.hub.advance request policyId).policies
      rw [same]
  · intro event listed
    show event.after.version ≤ ((log.hub.advance request policyId).policies.length : Int)
    rw [same]
    exact tracedLog.bounded event listed
  · show (log.hub.advance request policyId).policies.length = base + log.events.length
    rw [same]
    exact tracedLog.counted

theorem advance_traced (tracedLog : TracedLog updates base log) (policyId : PolicyId) :
    TracedLog updates base (log.step (.advance request policyId)) := by
  by_cases unread : (log.hub.sessions request).stage = .locking ∧ log.beforePolicy request = none
  · exact read_step_traced tracedLog policyId unread.1 unread.2
  · by_cases ready : (log.hub.sessions request).stage = .ready
    · cases tracedLog.traced request with
      | fresh _ unwritten unreadHere unloaded =>
        exact load_step_traced tracedLog policyId ready unwritten unreadHere unloaded
      | located stage _ unreadHere _ => exact absurd ⟨stage, unreadHere⟩ unread
      | editing stage _ _ =>
        rw [ready] at stage
        rcases stage with locking | locked | ⟨_, updating⟩
        · cases locking
        · cases locked
        · cases updating
      | written _ todo _ _ _ _ _ _ => exact commit_step_traced tracedLog policyId ready todo
      | ended stage =>
        rw [ready] at stage
        cases stage
    · exact statement_step_traced tracedLog policyId unread ready

theorem abort_traced (tracedLog : TracedLog updates base log) (request : ι) :
    TracedLog updates base (log.step (.abort request)) := by
  simp only [PolicyLog.step, PolicyHub.step]
  split
  · exact tracedLog
  · refine ⟨abort_orderly tracedLog.orderly, ?_, tracedLog.bounded, tracedLog.counted⟩
    intro other
    by_cases own : other = request
    · subst own
      exact .ended (abort_ended _ _)
    · exact others_traced tracedLog ⟨abort_leavesAlone own, rfl, rfl, List.prefix_rfl, le_refl _⟩ (.inl rfl) own

theorem step_traced (tracedLog : TracedLog updates base log) (turn : PolicyTurn ι) :
    TracedLog updates base (log.step turn) := by
  cases turn with
  | advance request policyId => exact advance_traced tracedLog policyId
  | abort request => exact abort_traced tracedLog request

theorem begin_traced (stored : StoredChain) (updates : ι → PolicyUpdate) :
    TracedLog updates stored.policies.length (stored.beginEdits updates) := by
  refine ⟨begin_orderly stored _, ?_, ?_, rfl⟩
  · intro request
    exact .fresh rfl ⟨rfl, rfl, rfl⟩ rfl rfl
  · intro event listed
    cases listed

end Steps

section Chain

variable {policies : List PolicyRow}
  (numbered : ∀ (k : Nat) row, policies[k]? = some row → row.policy.version = k + 1)
include numbered

theorem index_of_version {row : PolicyRow} (listed : row ∈ policies) :
    ∃ k : Nat, policies[k]? = some row ∧ row.policy.version = k + 1 := by
  obtain ⟨k, inside, rfl⟩ := List.getElem_of_mem listed
  have found := List.getElem?_eq_getElem inside
  exact ⟨k, found, numbered k _ found⟩

theorem row_of_version {row other : PolicyRow} (listed : row ∈ policies) (also : other ∈ policies)
    (same : row.policy.version = other.policy.version) : row = other := by
  obtain ⟨k, found, version⟩ := index_of_version numbered listed
  obtain ⟨l, foundOther, versionOther⟩ := index_of_version numbered also
  have index : k = l := by omega
  rw [index, foundOther] at found
  exact (Option.some.inj found).symm

theorem version_of_last {last : PolicyRow} (final : policies.getLast? = some last) :
    last.policy.version = policies.length := by
  rw [List.getLast?_eq_getElem?] at final
  have version := numbered _ last final
  obtain ⟨inside, _⟩ := List.getElem?_eq_some_iff.mp final
  omega

/-- The event of the next version names what was read before it: the last policy or another one. -/
theorem follows_iff_last {found : Option PolicyRow} (stored : ∀ row ∈ found, row ∈ policies)
    {after : PolicyPayload} (next : after.version = policies.length + 1) :
    PolicyEvent.Follows policies ⟨found.map fun row => policyToPayload row.policy, after⟩ ↔
      found = policies.getLast? := by
  cases final : policies.getLast? with
  | none =>
    have empty := List.getLast?_eq_none_iff.mp final
    subst empty
    constructor
    · intro _
      exact Option.eq_none_iff_forall_not_mem.mpr fun row read => nomatch stored row read
    · intro _ later
      simp [next] at later
  | some last =>
    have version := version_of_last numbered final
    have listed := List.mem_of_getLast? final
    obtain ⟨_, _, positive⟩ := index_of_version numbered listed
    constructor
    · intro follows
      obtain ⟨row, member, before, image⟩ := follows (by dsimp only; omega)
      obtain ⟨own, read, payload⟩ := Option.map_eq_some_iff.mp image
      have versions := congrArg PolicyPayload.version payload
      have same : own.policy.version = last.policy.version := by
        rw [version]
        have turned : own.policy.version = row.policy.version := versions
        simp only [next] at before
        omega
      rw [read, row_of_version numbered (stored own read) listed same]
    · intro read _
      refine ⟨last, listed, ?_, ?_⟩
      · simp only [next, version]
        omega
      · rw [read]
        rfl

end Chain

theorem follows_append_iff {policies own : List PolicyRow}
    (longer : ∀ (k : Nat) row, (policies ++ own)[k]? = some row → row.policy.version = k + 1)
    {event : PolicyEvent} (bound : event.after.version ≤ policies.length + 1) :
    event.Follows (policies ++ own) ↔ event.Follows policies := by
  constructor
  · intro follows later
    obtain ⟨row, listed, version, image⟩ := follows later
    obtain ⟨k, found, index⟩ := index_of_version longer listed
    rw [List.getElem?_append_left (by omega)] at found
    exact ⟨row, List.mem_of_getElem? found, version, image⟩
  · intro follows later
    obtain ⟨row, listed, version, image⟩ := follows later
    exact ⟨row, List.mem_append_left _ listed, version, image⟩

theorem take_last_iff {policies : List PolicyRow} (distinct : (policies.map PolicyRow.id).Nodup) {seen : Nat}
    (earlier : seen ≤ policies.length) :
    (policies.take seen).getLast? = policies.getLast? ↔ policies.length = seen := by
  constructor
  · intro same
    by_contra fewer
    have inside : policies.length - 1 < policies.length := by omega
    have final : policies.getLast? = some policies[policies.length - 1] := by
      rw [List.getLast?_eq_getElem?, List.getElem?_eq_getElem inside]
    rw [final, List.getLast?_take] at same
    split at same
    · cases same
    · have sooner : seen - 1 < policies.length := by omega
      rw [List.getElem?_eq_getElem sooner, Option.some_or] at same
      have index := (List.Nodup.of_map _ distinct).getElem_inj_iff.mp (Option.some.inj same)
      omega
  · intro same
    rw [← same, List.take_length]

section Commits

variable {updates : ι → PolicyUpdate} {base : Nat} {log : PolicyLog ι} {request : ι}

/-- A commit keeps the log a chain exactly when no other has come between. -/
theorem commit_chained_iff (tracedLog : TracedLog updates base log)
    (stage : (log.hub.sessions request).stage = .ready)
    (todo : (log.hub.sessions request).todo = []) :
    Chained { log with hub := log.hub.commit request, events := log.events ++ log.recorded request } ↔
      Chained log ∧ log.events.length = log.loadedAt request := by
  obtain ⟨owns, read, _, edit, edits, version⟩ := written_of_ready tracedLog stage todo
  have counted := tracedLog.counted
  have earlier := read.earlier
  have chain := tracedLog.orderly.chain
  have longer := tracedLog.orderly.numbered
  rw [← rows_own tracedLog.orderly owns] at longer
  have before : log.before? request = (policiesSeen base log request).getLast? := by
    rw [PolicyLog.before?, read.found, Option.join_some]
  have event : log.recorded request =
      [⟨(policiesSeen base log request).getLast?.map fun row => policyToPayload row.policy,
        policyToPayload edit.2⟩] := by
    rw [PolicyLog.recorded, edits, List.map_singleton, before]
  have next : (policyToPayload edit.2).version = log.hub.policies.length + 1 := version
  have stored : ∀ row ∈ (policiesSeen base log request).getLast?, row ∈ log.hub.policies :=
    fun row last => List.mem_of_mem_take (List.mem_of_getLast? last)
  have unovertaken : log.events.length = log.loadedAt request ↔
      (policiesSeen base log request).getLast? = log.hub.policies.getLast? := by
    unfold policiesSeen
    rw [take_last_iff chain.distinct (by omega), counted]
    omega
  rw [unovertaken, ← follows_iff_last chain.numbered stored next]
  unfold Chained
  rw [event]
  show (∀ event ∈ log.events ++ [_], event.Follows (log.hub.policies ++ log.hub.own request)) ↔ _
  rw [List.forall_mem_append, List.forall_mem_singleton, follows_append_iff longer next.le]
  apply and_congr_left
  intro _
  apply forall₂_congr
  intro event listed
  have bound := tracedLog.bounded event listed
  exact follows_append_iff longer (by omega)

theorem step_uncommitted (policyId : PolicyId)
    (running : ¬ ((log.hub.sessions request).stage = .ready ∧ (log.hub.sessions request).todo = [])) :
    (log.step (.advance request policyId)).events = log.events ∧
      (log.step (.advance request policyId)).hub.policies = log.hub.policies := by
  have kept := advance_policies policyId running
  simp only [PolicyLog.step]
  split
  · exact ⟨rfl, rfl⟩
  · rename_i stage todo
    exact absurd ⟨stage, todo⟩ running
  · exact ⟨rfl, kept⟩
  · exact ⟨rfl, kept⟩

theorem step_chained_iff (tracedLog : TracedLog updates base log) (turn : PolicyTurn ι) :
    Chained (log.step turn) ↔ Chained log ∧ CommitsUnovertaken log turn := by
  cases turn with
  | abort request =>
    have kept : (log.hub.step (.abort request)).policies = log.hub.policies := by
      simp only [PolicyHub.step]
      split <;> rfl
    have same : Chained (log.step (.abort request)) ↔ Chained log := by
      unfold Chained PolicyLog.step
      rw [kept]
    rw [same]
    exact (and_iff_left trivial).symm
  | advance request policyId =>
    by_cases committing : (log.hub.sessions request).stage = .ready ∧ (log.hub.sessions request).todo = []
    · rw [step_commit policyId committing.1 committing.2, commit_chained_iff tracedLog committing.1 committing.2]
      apply and_congr_right
      intro _
      exact ⟨fun same _ _ => same, fun commits => commits committing.1 committing.2⟩
    · have quiet : CommitsUnovertaken log (.advance request policyId) :=
        fun stage todo => absurd ⟨stage, todo⟩ committing
      obtain ⟨events, policies⟩ := step_uncommitted policyId committing
      rw [and_iff_left quiet]
      unfold Chained
      rw [events, policies]

/-- However the edits of one user interleave, their events form a chain exactly when no request commits
    after another edit has been committed since it selected the user. -/
theorem audit_chain_iff_unovertaken (stored : StoredChain) (updates : ι → PolicyUpdate)
    (turns : List (PolicyTurn ι)) :
    Chained (Runs.run PolicyLog.step (stored.beginEdits updates) turns) ↔
      Runs.StepsMeet PolicyLog.step CommitsUnovertaken (stored.beginEdits updates) turns := by
  have initial := begin_traced stored updates
  have empty : Chained (stored.beginEdits updates) := fun event listed => nomatch listed
  rw [Runs.run_iff_of_steps Chained (TracedLog updates stored.policies.length)
    (fun _ turn traced => step_traced traced turn)
    (fun _ turn traced => step_chained_iff traced turn) initial turns]
  exact and_iff_right empty

end Commits

def enrolledUser : StoredChain where
  user := some { currentPolicyId := some "p1" }
  policies := [⟨"p1", createInitialPolicy⟩]
  chain :=
    { numbered := by
        intro k row found
        obtain ⟨inside, rfl⟩ := List.getElem?_eq_some_iff.mp found
        rw [List.length_singleton] at inside
        obtain rfl : k = 0 := by omega
        rfl
      distinct := List.nodup_singleton _
      current := rfl
      owned := fun none => by cases none }

/-- Both requests read version 1 as their before image, then each makes its edit in turn. -/
def overlappingEdits : List (PolicyTurn Bool) :=
  let turns := fun request => (List.range 4).map fun k => PolicyTurn.advance request (s!"{request}-{k}")
  [.advance false "", .advance false "", .advance true "", .advance true ""] ++ turns false ++ turns true

theorem overlapping_edits_break_chain :
    ¬ ∀ (stored : StoredChain) (updates : Bool → PolicyUpdate) (turns : List (PolicyTurn Bool)),
      Chained (Runs.run PolicyLog.step (stored.beginEdits updates) turns) := by
  intro always
  have chained := always enrolledUser (fun _ => anHourADay) overlappingEdits
  have versions : ∀ event ∈ (Runs.run PolicyLog.step (enrolledUser.beginEdits fun _ => anHourADay)
      overlappingEdits).events, 1 < event.after.version →
      event.before.map PolicyPayload.version = some (event.after.version - 1) := by
    intro event listed later
    obtain ⟨row, _, version, image⟩ := chained event listed later
    rw [image, ← version]
    rfl
  revert versions
  decide

end TimekprProof
