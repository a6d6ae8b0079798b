import Mathlib.Logic.Function.Basic
import TimekprHub.Hub.Policy
import TimekprHub.Library.Runs

namespace TimekprModel

universe u

structure PolicyRow where
  id : PolicyId
  policy : Policy

structure UserPointer where
  currentPolicyId : Option PolicyId := none
  deriving DecidableEq

structure PolicySeed where
  dailyLimitsS : Option (List Int) := none
  weeklyLimitS : Option Int := none
  monthlyLimitS : Option Int := none
  allowedWeekdays : List Weekday := []

def PolicySeed.policy (seed : PolicySeed) : Policy :=
  createInitialPolicy seed.dailyLimitsS seed.weeklyLimitS seed.monthlyLimitS seed.allowedWeekdays

inductive PolicyOp
  | updatePolicy (update : PolicyUpdate)
  | getOrCreatePolicy (seed : PolicySeed)
  | provisionUserAlias (seed : PolicySeed)

def PolicyOp.update? : PolicyOp → Option PolicyUpdate
  | .updatePolicy update => some update
  | .getOrCreatePolicy _ | .provisionUserAlias _ => none

inductive PolicyStage
  | ready
  /-- The INSERT of the user failed: the row is there and is read next. -/
  | found
  | locking
  | locked
  | updating (current : Option Policy)
  | seeding
  | committed
  | aborted

def PolicyStage.ended : PolicyStage → Bool
  | committed | aborted => true
  | _ => false

/-- A transaction and its ORM session: `row` is its own uncommitted version of the users row, `loaded` the
    session's User object, and `edits` what its calls of `update_policy` have returned. -/
structure PolicySession where
  todo : List PolicyOp
  stage : PolicyStage := .ready
  row : Option UserPointer := none
  loaded : Option UserPointer := none
  edits : List (PolicyUpdate × Policy) := []

/-- The committed rows of one user, who holds its row's lock or has an uncommitted INSERT of it, the
    policies inserted and not committed, and the sessions. -/
structure PolicyHub (ι : Type u) where
  user : Option UserPointer
  policies : List PolicyRow
  lock : Option ι := none
  inserting : Option ι := none
  pending : List (ι × PolicyRow) := []
  sessions : ι → PolicySession

/-- The id a statement would give a new row is drawn with it. -/
inductive PolicyTurn (ι : Type u)
  | advance (request : ι) (policyId : PolicyId)
  | abort (request : ι)

def heldByOther {ι : Type u} [DecidableEq ι] (holder : Option ι) (request : ι) : Bool :=
  holder.any fun other => other ≠ request

namespace PolicyHub

variable {ι : Type u} [DecidableEq ι] (hub : PolicyHub ι) (request : ι)

def put (session : PolicySession) : PolicyHub ι :=
  { hub with sessions := Function.update hub.sessions request session }

def own : List PolicyRow := (hub.pending.filter fun entry => entry.1 = request).map Prod.snd

/-- The users row as the transaction sees it: its own version, else the committed one. -/
def visible : Option UserPointer := (hub.sessions request).row.or hub.user

def release : PolicyHub ι :=
  { hub with
    lock := if hub.lock = some request then none else hub.lock
    inserting := if hub.inserting = some request then none else hub.inserting
    pending := hub.pending.filter fun entry => entry.1 ≠ request }

def commit : PolicyHub ι :=
  { hub.release request with
    user := hub.visible request
    policies := hub.policies ++ hub.own request
    sessions := Function.update hub.sessions request
      { hub.sessions request with stage := .committed, row := none } }

def abort : PolicyHub ι :=
  { hub.release request with
    sessions := Function.update hub.sessions request
      { hub.sessions request with stage := .aborted, row := none, edits := [] } }

/-- A SELECT of the user. An object the session has already keeps its attributes. -/
def load : PolicyHub ι :=
  match hub.visible request with
  | none => hub.abort request
  | some row =>
    let session := hub.sessions request
    hub.put request { session with stage := .locking, loaded := some (session.loaded.getD row) }

def lockUser : PolicyHub ι :=
  if heldByOther hub.lock request then hub
  else
    match hub.visible request with
    | none => hub.abort request
    | some row =>
      { hub.put request { hub.sessions request with stage := .locked, loaded := some row } with
        lock := some request }

/-- The savepoint's INSERT. Another one that is not committed yet makes it wait. -/
def insertUser : PolicyHub ι :=
  if heldByOther hub.inserting request then hub
  else
    match hub.visible request with
    | some _ => hub.put request { hub.sessions request with stage := .found }
    | none =>
      { hub.put request
          { hub.sessions request with stage := .seeding, row := some {}, loaded := some {} } with
        inserting := some request }

def getCurrentPolicy (user : Option UserPointer) : Option Policy := do
  let user ← user
  let id ← user.currentPolicyId
  let row ← (hub.policies ++ hub.own request).find? fun row => row.id = id
  return row.policy

/-- The INSERT of a policy, under its primary key and `uq_policies_user_version`, and the pointer's move. -/
def insertPolicy (rest : List PolicyOp) (edits : List (PolicyUpdate × Policy)) (row : PolicyRow) :
    PolicyHub ι :=
  let clashes : PolicyRow → Bool := fun other =>
    other.id = row.id || other.policy.version = row.policy.version
  if hub.pending.any fun entry => entry.1 ≠ request && clashes entry.2 then hub
  else if (hub.policies ++ hub.own request).any clashes then hub.abort request
  else
    { hub.put request
        { hub.sessions request with
          todo := rest
          stage := .ready
          row := some { currentPolicyId := some row.id }
          loaded := some { currentPolicyId := some row.id }
          edits := (hub.sessions request).edits ++ edits } with
      pending := hub.pending ++ [(request, row)] }

def advance (policyId : PolicyId) : PolicyHub ι :=
  let session := hub.sessions request
  match session.stage, session.todo with
  | .ready, [] => hub.commit request
  | .ready, .provisionUserAlias _ :: _ => hub.insertUser request
  | .ready, _ :: _ => hub.load request
  | .found, _ :: _ => hub.load request
  | .locking, _ :: _ => hub.lockUser request
  | .locked, .updatePolicy _ :: _ =>
    hub.put request { session with stage := .updating (hub.getCurrentPolicy request session.loaded) }
  | .locked, _ :: rest =>
    match hub.getCurrentPolicy request session.loaded with
    | some _ => hub.put request { session with stage := .ready, todo := rest }
    | none => hub.put request { session with stage := .seeding }
  | .updating current, .updatePolicy update :: rest =>
    let policy := updatePolicy current update
    hub.insertPolicy request rest [(update, policy)] ⟨policyId, policy⟩
  | .seeding, .getOrCreatePolicy seed :: rest =>
    hub.insertPolicy request rest [] ⟨policyId, seed.policy⟩
  | .seeding, .provisionUserAlias seed :: rest =>
    hub.insertPolicy request rest [] ⟨policyId, seed.policy⟩
  | _, _ => hub

def step : PolicyTurn ι → PolicyHub ι
  | .advance request policyId => hub.advance request policyId
  | .abort request => if (hub.sessions request).stage.ended then hub else hub.abort request

end PolicyHub

/-- The policies of one user: versions from one on without a gap, and the pointer at the last. -/
structure VersionChain (user : Option UserPointer) (policies : List PolicyRow) : Prop where
  numbered : ∀ (k : Nat) row, policies[k]? = some row → row.policy.version = k + 1
  distinct : (policies.map PolicyRow.id).Nodup
  current : (user.bind fun row => row.currentPolicyId) = policies.getLast?.map PolicyRow.id
  owned : user = none → policies = []

structure StoredChain where
  user : Option UserPointer := none
  policies : List PolicyRow := []
  chain : VersionChain user policies

def StoredChain.begin {ι : Type u} (stored : StoredChain) (requests : ι → List PolicyOp) : PolicyHub ι where
  user := stored.user
  policies := stored.policies
  sessions := fun request => { todo := requests request }

def StoredChain.unseen : StoredChain where
  user := none
  policies := []
  chain :=
    { numbered := by simp
      distinct := List.nodup_nil
      current := rfl
      owned := fun _ => rfl }

/-- No edit is lost: each call of `update_policy` in a committed transaction has a row of its own with its
    content. -/
structure EditsKept {ι : Type u} (requests : ι → List PolicyOp) (hub : PolicyHub ι) : Prop where
  returned : ∀ request, (hub.sessions request).stage = .committed →
    (hub.sessions request).edits.map Prod.fst = (requests request).filterMap PolicyOp.update?
  stored : ∀ request, (hub.sessions request).stage = .committed → ∀ edit ∈ (hub.sessions request).edits,
    edit.2 ∈ hub.policies.map PolicyRow.policy ∧ ∃ current, edit.2 = updatePolicy current edit.1
  apart : ∀ request, (hub.sessions request).stage = .committed →
    ((hub.sessions request).edits.map fun edit => edit.2.version).Nodup ∧
      ∀ other, other ≠ request → (hub.sessions other).stage = .committed →
        ∀ edit ∈ (hub.sessions request).edits, ∀ edit' ∈ (hub.sessions other).edits,
          edit.2.version ≠ edit'.2.version

end TimekprModel

namespace TimekprProof

open TimekprModel

universe u

section Rows

theorem numbered_snoc {table : List PolicyRow} {last : PolicyRow}
    (numbered : ∀ (k : Nat) row, table[k]? = some row → row.policy.version = k + 1)
    (next : last.policy.version = table.length + 1) :
    ∀ (k : Nat) row, (table ++ [last])[k]? = some row → row.policy.version = k + 1 := by
  intro k row found
  rw [List.getElem?_append] at found
  split at found
  · exact numbered k row found
  · rename_i beyond
    obtain ⟨inside, same⟩ := List.getElem?_eq_some_iff.mp found
    rw [List.length_singleton] at inside
    have here : k = table.length := by omega
    subst here
    simp only [Nat.sub_self, List.getElem_cons_zero] at same
    rw [← same, next]

theorem version_le_length {table : List PolicyRow}
    (numbered : ∀ (k : Nat) row, table[k]? = some row → row.policy.version = k + 1) {policy : Policy}
    (listed : policy ∈ table.map PolicyRow.policy) : policy.version ≤ table.length := by
  obtain ⟨row, member, rfl⟩ := List.mem_map.mp listed
  obtain ⟨k, inside, rfl⟩ := List.getElem_of_mem member
  rw [numbered k _ (List.getElem?_eq_getElem inside)]
  omega

theorem last_version {table : List PolicyRow}
    (numbered : ∀ (k : Nat) row, table[k]? = some row → row.policy.version = k + 1) (update : PolicyUpdate) :
    (updatePolicy (table.getLast?.map PolicyRow.policy) update).version = table.length + 1 := by
  cases last : table.getLast? with
  | none =>
    rw [List.getLast?_eq_none_iff] at last
    subst last
    rfl
  | some row =>
    rw [List.getLast?_eq_getElem?] at last
    obtain ⟨inside, _⟩ := List.getElem?_eq_some_iff.mp last
    have version := numbered _ row last
    simp only [Option.map_some, updatePolicy, version]
    omega

theorem find_row {table : List PolicyRow} (distinct : (table.map PolicyRow.id).Nodup) {row : PolicyRow}
    (member : row ∈ table) : (table.find? fun other => other.id = row.id) = some row := by
  rw [List.find?_eq_some_iff_append]
  obtain ⟨before, after, split⟩ := List.append_of_mem member
  refine ⟨decide_eq_true rfl, before, after, split, ?_⟩
  intro other listed
  rw [split, List.map_append, List.nodup_append] at distinct
  have apart := distinct.2.2 other.id (List.mem_map_of_mem listed) row.id (by simp)
  simpa using apart

end Rows

section Transactions

variable {ι : Type u}

def rowsOf (hub : PolicyHub ι) : List PolicyRow := hub.policies ++ hub.pending.map Prod.snd

def Owns (hub : PolicyHub ι) (request : ι) : Prop := hub.lock = some request ∨ hub.inserting = some request

def Exclusive : PolicyStage → Prop
  | .locked | .updating _ | .seeding => True
  | _ => False

def StageFits (rows : List PolicyRow) (user : Option UserPointer) (session : PolicySession) : Prop :=
  match session.stage with
  | .locked => session.loaded = session.row.or user
  | .updating current => current = rows.getLast?.map PolicyRow.policy
  | .seeding => rows = []
  | .committed | .aborted => False
  | .ready | .found | .locking => True

structure SessionFits (ops : List PolicyOp) (policies rows : List PolicyRow) (user : Option UserPointer)
    (owns : Prop) (session : PolicySession) : Prop where
  sees : owns → ∃ row, session.row.or user = some row ∧
    row.currentPolicyId = rows.getLast?.map PolicyRow.id
  fits : owns → StageFits rows user session
  idle : ¬ owns → session.row = none ∧ ¬ Exclusive session.stage
  calls : session.stage ≠ .aborted →
    session.edits.map Prod.fst ++ session.todo.filterMap PolicyOp.update? = ops.filterMap PolicyOp.update?
  done : session.stage = .committed → session.todo = []
  content : ∀ edit ∈ session.edits,
    edit.2 ∈ rows.map PolicyRow.policy ∧ ∃ current, edit.2 = updatePolicy current edit.1
  settled : ¬ owns → ∀ edit ∈ session.edits, edit.2 ∈ policies.map PolicyRow.policy
  versions : (session.edits.map fun edit => edit.2.version).Nodup

/-- One transaction at a time owns the user's row, and only it has uncommitted policies, which go on where
    the committed ones end. -/
structure Orderly (requests : ι → List PolicyOp) (hub : PolicyHub ι) : Prop where
  chain : VersionChain hub.user hub.policies
  numbered : ∀ (k : Nat) row, (rowsOf hub)[k]? = some row → row.policy.version = k + 1
  distinct : ((rowsOf hub).map PolicyRow.id).Nodup
  inserter : ∀ request, hub.inserting = some request →
    hub.user = none ∧ ∀ other, hub.lock = some other → other = request
  locker : ∀ request, hub.lock = some request → hub.user = none → hub.inserting = some request
  writers : ∀ entry ∈ hub.pending, Owns hub entry.1
  sessions : ∀ request, SessionFits (requests request) hub.policies (rowsOf hub) hub.user
    (Owns hub request) (hub.sessions request)
  apart : ∀ request other, other ≠ request → ∀ edit ∈ (hub.sessions request).edits,
    ∀ edit' ∈ (hub.sessions other).edits, edit.2.version ≠ edit'.2.version

variable {requests : ι → List PolicyOp} {hub : PolicyHub ι} {request : ι}

theorem begin_orderly (stored : StoredChain) (requests : ι → List PolicyOp) :
    Orderly requests (stored.begin requests) := by
  have rows : rowsOf (stored.begin requests) = stored.policies := List.append_nil _
  have free : ∀ request, ¬ Owns (stored.begin requests) request := by
    rintro request (held | held) <;> cases held
  constructor
  · exact stored.chain
  · rw [rows]
    exact stored.chain.numbered
  · rw [rows]
    exact stored.chain.distinct
  · intro request held
    cases held
  · intro request held
    cases held
  · intro entry listed
    cases listed
  · intro request
    exact
      { sees := fun owns => absurd owns (free request)
        fits := fun owns => absurd owns (free request)
        idle := fun _ => ⟨rfl, id⟩
        calls := fun _ => rfl
        done := fun ended => by cases ended
        content := fun edit listed => by cases listed
        settled := fun _ edit listed => by cases listed
        versions := List.nodup_nil }
  · intro request other _ edit listed
    cases listed

theorem owner_unique (orderly : Orderly requests hub) {other : ι} (one : Owns hub request)
    (two : Owns hub other) : other = request := by
  rcases one with lock | inserting
  · rcases two with lock' | inserting'
    · exact Option.some.inj (lock'.symm.trans lock)
    · exact ((orderly.inserter other inserting').2 request lock).symm
  · rcases two with lock' | inserting'
    · exact (orderly.inserter request inserting).2 other lock'
    · exact Option.some.inj (inserting'.symm.trans inserting)

theorem owns_of_exclusive (orderly : Orderly requests hub) (stage : Exclusive (hub.sessions request).stage) :
    Owns hub request := by
  by_contra free
  exact ((orderly.sessions request).idle free).2 stage

theorem owns_absent (orderly : Orderly requests hub) (owns : Owns hub request) (absent : hub.user = none) :
    hub.inserting = some request := by
  rcases owns with lock | inserting
  · exact orderly.locker request lock absent
  · exact inserting

variable [DecidableEq ι]

theorem pending_own (orderly : Orderly requests hub) (owns : Owns hub request) :
    hub.pending.filter (fun entry => entry.1 = request) = hub.pending ∧
      hub.pending.filter (fun entry => entry.1 ≠ request) = [] := by
  have all : ∀ entry ∈ hub.pending, entry.1 = request :=
    fun entry listed => owner_unique orderly owns (orderly.writers entry listed)
  constructor
  · exact List.filter_eq_self.mpr fun entry listed => decide_eq_true (all entry listed)
  · exact List.filter_eq_nil_iff.mpr fun entry listed => by simpa using all entry listed

theorem pending_others (orderly : Orderly requests hub) (free : ¬ Owns hub request) :
    hub.pending.filter (fun entry => entry.1 = request) = [] ∧
      hub.pending.filter (fun entry => entry.1 ≠ request) = hub.pending := by
  have none : ∀ entry ∈ hub.pending, entry.1 ≠ request :=
    fun entry listed same => free (same ▸ orderly.writers entry listed)
  constructor
  · exact List.filter_eq_nil_iff.mpr fun entry listed => by simpa using none entry listed
  · exact List.filter_eq_self.mpr fun entry listed => decide_eq_true (none entry listed)

theorem rows_own (orderly : Orderly requests hub) (owns : Owns hub request) :
    hub.policies ++ hub.own request = rowsOf hub := by
  rw [PolicyHub.own, (pending_own orderly owns).1]
  rfl

theorem current_is_last (orderly : Orderly requests hub) (owns : Owns hub request) :
    hub.getCurrentPolicy request (hub.visible request) = (rowsOf hub).getLast?.map PolicyRow.policy := by
  obtain ⟨row, seen, pointer⟩ := (orderly.sessions request).sees owns
  have shown : hub.visible request = some row := seen
  simp only [PolicyHub.getCurrentPolicy, shown, rows_own orderly owns, Option.bind_eq_bind, Option.bind_some,
    pointer]
  cases last : (rowsOf hub).getLast? with
  | none => rfl
  | some final =>
    simp only [Option.map_some, Option.bind_some, find_row orderly.distinct (List.mem_of_getLast? last)]
    rfl

@[simp] theorem put_same (hub : PolicyHub ι) (request : ι) (session : PolicySession) :
    (hub.put request session).sessions request = session :=
  Function.update_self ..

theorem put_other (hub : PolicyHub ι) {request other : ι} (session : PolicySession) (differ : other ≠ request) :
    (hub.put request session).sessions other = hub.sessions other :=
  Function.update_of_ne differ ..

/-- A session that owns nothing depends on the committed policies only. -/
theorem SessionFits.bystander {ops : List PolicyOp} {policies policies' rows rows' : List PolicyRow}
    {user user' : Option UserPointer} {owns owns' : Prop} {session : PolicySession}
    (fits : SessionFits ops policies rows user owns session) (free : ¬ owns) (free' : ¬ owns')
    (kept : policies ⊆ policies') (within : policies' ⊆ rows') :
    SessionFits ops policies' rows' user' owns' session where
  sees := fun owns => absurd owns free'
  fits := fun owns => absurd owns free'
  idle := fun _ => fits.idle free
  calls := fits.calls
  done := fits.done
  content := fun edit listed =>
    ⟨List.map_subset _ within (List.map_subset _ kept (fits.settled free edit listed)), (fits.content edit listed).2⟩
  settled := fun _ edit listed => List.map_subset _ kept (fits.settled free edit listed)
  versions := fits.versions

theorem Orderly.put (orderly : Orderly requests hub) {session : PolicySession}
    (fits : SessionFits (requests request) hub.policies (rowsOf hub) hub.user (Owns hub request) session)
    (edits : session.edits ⊆ (hub.sessions request).edits) : Orderly requests (hub.put request session) := by
  have older : ∀ other, ((hub.put request session).sessions other).edits ⊆ (hub.sessions other).edits := by
    intro other
    by_cases own : other = request
    · subst own
      rw [put_same]
      exact edits
    · rw [put_other hub session own]
      exact fun _ listed => listed
  refine
    { chain := orderly.chain
      numbered := orderly.numbered
      distinct := orderly.distinct
      inserter := orderly.inserter
      locker := orderly.locker
      writers := orderly.writers
      sessions := ?_
      apart := ?_ }
  · intro other
    by_cases own : other = request
    · subst own
      rw [put_same]
      exact fits
    · rw [put_other hub session own]
      exact orderly.sessions other
  · intro one other differ edit listed edit' listed'
    exact orderly.apart one other differ edit (older one listed) edit' (older other listed')

def settled (hub : PolicyHub ι) (request : ι) (user : Option UserPointer) (policies : List PolicyRow)
    (session : PolicySession) : PolicyHub ι where
  user
  policies
  sessions := Function.update hub.sessions request session

theorem Orderly.settle (orderly : Orderly requests hub) (owns : Owns hub request)
    {user : Option UserPointer} {policies : List PolicyRow} {session : PolicySession}
    (chain : VersionChain user policies) (kept : hub.policies ⊆ policies)
    (fits : SessionFits (requests request) policies policies user False session)
    (edits : session.edits ⊆ (hub.sessions request).edits) :
    Orderly requests (settled hub request user policies session) := by
  have rows : rowsOf (settled hub request user policies session) = policies := List.append_nil _
  have free : ∀ other, ¬ Owns (settled hub request user policies session) other := by
    rintro other (held | held) <;> cases held
  have mine : (settled hub request user policies session).sessions request = session :=
    Function.update_self ..
  have theirs : ∀ other, other ≠ request →
      (settled hub request user policies session).sessions other = hub.sessions other :=
    fun other differ => Function.update_of_ne differ ..
  have older : ∀ other, ((settled hub request user policies session).sessions other).edits ⊆
      (hub.sessions other).edits := by
    intro other
    by_cases own : other = request
    · subst own
      rw [mine]
      exact edits
    · rw [theirs other own]
      exact fun _ listed => listed
  constructor
  · exact chain
  · rw [rows]
    exact chain.numbered
  · rw [rows]
    exact chain.distinct
  · intro other held
    cases held
  · intro other held
    cases held
  · intro entry listed
    cases listed
  · intro other
    rw [rows]
    by_cases own : other = request
    · subst own
      rw [mine]
      exact fits.bystander not_false (free other) (fun _ listed => listed) fun _ listed => listed
    · have other_free : ¬ Owns hub other := fun owned => own (owner_unique orderly owns owned)
      rw [theirs other own]
      exact (orderly.sessions other).bystander other_free (free other) kept fun _ listed => listed
  · intro one other differ edit listed edit' listed'
    exact orderly.apart one other differ edit (older one listed) edit' (older other listed')

theorem release_owner (orderly : Orderly requests hub) (owns : Owns hub request) :
    hub.release request = { hub with lock := none, inserting := none, pending := [] } := by
  have lock : (if hub.lock = some request then none else hub.lock) = none := by
    cases held : hub.lock with
    | none => simp
    | some other =>
      have same := owner_unique orderly owns (.inl held)
      rw [same, if_pos rfl]
  have inserting : (if hub.inserting = some request then none else hub.inserting) = none := by
    cases held : hub.inserting with
    | none => simp
    | some other =>
      have same := owner_unique orderly owns (.inr held)
      rw [same, if_pos rfl]
  rw [PolicyHub.release, lock, inserting, (pending_own orderly owns).2]

theorem release_free (orderly : Orderly requests hub) (free : ¬ Owns hub request) :
    hub.release request = hub := by
  have lock : hub.lock ≠ some request := fun held => free (.inl held)
  have inserting : hub.inserting ≠ some request := fun held => free (.inr held)
  rw [PolicyHub.release, if_neg lock, if_neg inserting, (pending_others orderly free).2]

theorem abort_orderly (orderly : Orderly requests hub) : Orderly requests (hub.abort request) := by
  have fits := orderly.sessions request
  have ended : ∀ rows owns, (owns → False) → SessionFits (requests request) hub.policies rows hub.user owns
      { hub.sessions request with stage := .aborted, row := none, edits := [] } := by
    intro rows owns free
    exact
      { sees := fun owned => (free owned).elim
        fits := fun owned => (free owned).elim
        idle := fun _ => ⟨rfl, id⟩
        calls := fun live => absurd rfl live
        done := fun done => by cases done
        content := fun edit listed => by cases listed
        settled := fun _ edit listed => by cases listed
        versions := List.nodup_nil }
  by_cases owns : Owns hub request
  · have gone := orderly.settle owns orderly.chain (fun _ listed => listed) (ended hub.policies False id)
      (List.nil_subset _)
    rw [PolicyHub.abort, release_owner orderly owns]
    exact gone
  · have gone := orderly.put (ended (rowsOf hub) _ owns) (List.nil_subset _)
    rw [PolicyHub.abort, release_free orderly owns]
    exact gone

theorem commit_orderly (orderly : Orderly requests hub) (stage : (hub.sessions request).stage = .ready)
    (todo : (hub.sessions request).todo = []) : Orderly requests (hub.commit request) := by
  have fits := orderly.sessions request
  have ended : ∀ policies rows user owns, (owns → False) → policies ⊆ rows →
      (∀ edit ∈ (hub.sessions request).edits, edit.2 ∈ policies.map PolicyRow.policy) →
      SessionFits (requests request) policies rows user owns
        { hub.sessions request with stage := .committed, row := none } := by
    intro policies rows user owns free within stored
    exact
      { sees := fun owned => (free owned).elim
        fits := fun owned => (free owned).elim
        idle := fun _ => ⟨rfl, id⟩
        calls := fun _ => fits.calls (by rw [stage]; exact PolicyStage.noConfusion)
        done := fun _ => todo
        content := fun edit listed =>
          ⟨List.map_subset _ within (stored edit listed), (fits.content edit listed).2⟩
        settled := fun _ => stored
        versions := fits.versions }
  by_cases owns : Owns hub request
  · obtain ⟨row, seen, pointer⟩ := fits.sees owns
    have shown : hub.visible request = some row := seen
    have chain : VersionChain (some row) (rowsOf hub) :=
      ⟨orderly.numbered, orderly.distinct, pointer, fun none => by cases none⟩
    have gone := orderly.settle owns chain (List.subset_append_left _ _)
      (ended _ _ _ False id (fun _ listed => listed) fun edit listed => (fits.content edit listed).1)
      fun _ listed => listed
    rw [PolicyHub.commit, release_owner orderly owns, shown, rows_own orderly owns]
    exact gone
  · have row := (fits.idle owns).1
    have shown : hub.visible request = hub.user := by
      rw [PolicyHub.visible, row, Option.none_or]
    have nothing : hub.policies ++ hub.own request = hub.policies := by
      rw [PolicyHub.own, (pending_others orderly owns).1, List.map_nil, List.append_nil]
    have gone := orderly.put
      (ended _ _ _ _ owns (List.subset_append_left _ _) (fits.settled owns)) fun _ listed => listed
    rw [PolicyHub.commit, release_free orderly owns, shown, nothing]
    exact gone

theorem SessionFits.move {ops : List PolicyOp} {policies rows : List PolicyRow} {user : Option UserPointer}
    {owns : Prop} {session next : PolicySession} (fits : SessionFits ops policies rows user owns session)
    (live : session.stage ≠ .aborted) (row : next.row = session.row) (edits : next.edits = session.edits)
    (todo : next.todo.filterMap PolicyOp.update? = session.todo.filterMap PolicyOp.update?)
    (running : next.stage.ended = false) (stage : owns → StageFits rows user next)
    (waiting : ¬ owns → ¬ Exclusive next.stage) : SessionFits ops policies rows user owns next where
  sees := by
    rw [row]
    exact fits.sees
  fits := stage
  idle := fun free => ⟨row.trans (fits.idle free).1, waiting free⟩
  calls := fun _ => by
    rw [edits, todo]
    exact fits.calls live
  done := fun ended => by
    rw [ended] at running
    cases running
  content := by
    rw [edits]
    exact fits.content
  settled := by
    rw [edits]
    exact fits.settled
  versions := by
    rw [edits]
    exact fits.versions

theorem load_orderly (orderly : Orderly requests hub) (live : (hub.sessions request).stage ≠ .aborted) :
    Orderly requests (hub.load request) := by
  unfold PolicyHub.load
  split
  · exact abort_orderly orderly
  · apply orderly.put
    · exact (orderly.sessions request).move live rfl rfl rfl rfl (fun _ => trivial) fun _ => id
    · exact fun _ listed => listed

theorem heldByOther_false {holder : Option ι} (mine : heldByOther holder request = false) {other : ι}
    (held : holder = some other) : other = request := by
  subst held
  simpa [heldByOther] using mine

theorem Orderly.take (orderly : Orderly requests hub) (only : ∀ other, Owns hub other → other = request)
    {next : PolicyHub ι} {session : PolicySession} (user : next.user = hub.user)
    (policies : next.policies = hub.policies) (mine : next.sessions request = session)
    (theirs : ∀ other, other ≠ request → next.sessions other = hub.sessions other)
    (owned : ∀ other, Owns next other ↔ other = request) (writers : ∀ entry ∈ next.pending, entry.1 = request)
    (inserter : ∀ other, next.inserting = some other → hub.user = none)
    (locker : hub.user = none → next.inserting = some request)
    (numbered : ∀ (k : Nat) row, (rowsOf next)[k]? = some row → row.policy.version = k + 1)
    (distinct : ((rowsOf next).map PolicyRow.id).Nodup)
    (fits : SessionFits (requests request) hub.policies (rowsOf next) hub.user True session)
    (apart : ∀ other, other ≠ request → ∀ edit ∈ session.edits, ∀ edit' ∈ (hub.sessions other).edits,
      edit.2.version ≠ edit'.2.version) : Orderly requests next := by
  constructor
  · rw [user, policies]
    exact orderly.chain
  · exact numbered
  · exact distinct
  · intro other held
    refine ⟨user.trans (inserter other held), ?_⟩
    intro locking lock
    rw [(owned locking).mp (.inl lock), (owned other).mp (.inr held)]
  · intro other held absent
    rw [(owned other).mp (.inl held)]
    exact locker (user ▸ absent)
  · intro entry listed
    exact (owned entry.1).mpr (writers entry listed)
  · intro other
    rw [policies, user]
    by_cases own : other = request
    · subst own
      rw [mine]
      have owns : Owns next other := (owned other).mpr rfl
      exact
        { sees := fun _ => fits.sees trivial
          fits := fun _ => fits.fits trivial
          idle := fun free => absurd owns free
          calls := fits.calls
          done := fits.done
          content := fits.content
          settled := fun free => absurd owns free
          versions := fits.versions }
    · have free : ¬ Owns hub other := fun owns => own (only other owns)
      have free' : ¬ Owns next other := fun owns => own ((owned other).mp owns)
      rw [theirs other own]
      refine (orderly.sessions other).bystander free free' (fun _ listed => listed) ?_
      rw [rowsOf, policies]
      exact List.subset_append_left _ _
  · intro one other differ
    by_cases own : one = request
    · subst own
      rw [mine, theirs other differ]
      exact apart other differ
    · rw [theirs one own]
      by_cases own' : other = request
      · subst own'
        rw [mine]
        intro edit listed edit' listed'
        exact (apart one own edit' listed' edit listed).symm
      · rw [theirs other own']
        exact orderly.apart one other differ

/-- The transaction that gets the lock sees the committed row, unless it has written the row itself. -/
theorem lockUser_orderly (orderly : Orderly requests hub) (stage : (hub.sessions request).stage = .locking) :
    Orderly requests (hub.lockUser request) := by
  have fits := orderly.sessions request
  unfold PolicyHub.lockUser
  cases busy : heldByOther hub.lock request with
  | true => exact orderly
  | false =>
    rw [if_neg Bool.false_ne_true]
    cases shown : hub.visible request with
    | none => exact abort_orderly orderly
    | some row =>
      have seen : (hub.sessions request).row.or hub.user = some row := shown
      have only : ∀ other, Owns hub other → other = request := by
        rintro other (lock | inserting)
        · exact heldByOther_false busy lock
        · have absent := (orderly.inserter other inserting).1
          by_cases owns : Owns hub request
          · exact owner_unique orderly owns (.inr inserting)
          · rw [(fits.idle owns).1, absent] at seen
            cases seen
      have pointer : row.currentPolicyId = (rowsOf hub).getLast?.map PolicyRow.id := by
        by_cases owns : Owns hub request
        · obtain ⟨own, sees, pointer⟩ := fits.sees owns
          rw [seen] at sees
          cases sees
          exact pointer
        · have nobody : hub.pending = [] := by
            apply List.eq_nil_iff_forall_not_mem.mpr
            intro entry listed
            have writer := orderly.writers entry listed
            exact owns (only entry.1 writer ▸ writer)
          rw [(fits.idle owns).1, Option.none_or] at seen
          have current := orderly.chain.current
          rw [seen, Option.bind_some] at current
          simpa only [rowsOf, nobody, List.map_nil, List.append_nil] using current
      apply orderly.take only
      · rfl
      · rfl
      · exact put_same ..
      · exact fun other differ => put_other hub _ differ
      · intro other
        constructor
        · rintro (lock | inserting)
          · exact (Option.some.inj lock).symm
          · exact only other (.inr inserting)
        · exact fun own => .inl (congrArg some own.symm)
      · exact fun entry listed => only entry.1 (orderly.writers entry listed)
      · exact fun other held => (orderly.inserter other held).1
      · intro absent
        have written : Owns hub request := by
          by_contra free
          rw [(fits.idle free).1, absent] at seen
          cases seen
        have inserting := owns_absent orderly written absent
        exact inserting
      · exact orderly.numbered
      · exact orderly.distinct
      · exact
          { sees := fun _ => ⟨row, seen, pointer⟩
            fits := fun _ => seen.symm
            idle := fun free => absurd trivial free
            calls := fun _ => fits.calls (by rw [stage]; exact PolicyStage.noConfusion)
            done := fun ended => by cases ended
            content := fits.content
            settled := fun free => absurd trivial free
            versions := fits.versions }
      · exact fun other differ => orderly.apart request other differ

/-- The user is new to the hub: nobody owns its row, and it has no policy. -/
theorem insertUser_orderly (orderly : Orderly requests hub) (stage : (hub.sessions request).stage = .ready) :
    Orderly requests (hub.insertUser request) := by
  have fits := orderly.sessions request
  have live : (hub.sessions request).stage ≠ .aborted := by
    rw [stage]
    exact PolicyStage.noConfusion
  unfold PolicyHub.insertUser
  cases busy : heldByOther hub.inserting request with
  | true => exact orderly
  | false =>
    rw [if_neg Bool.false_ne_true]
    cases shown : hub.visible request with
    | some row =>
      apply orderly.put
      · exact fits.move live rfl rfl rfl rfl (fun _ => trivial) fun _ => id
      · exact fun _ listed => listed
    | none =>
      obtain ⟨unwritten, absent⟩ := Option.or_eq_none_iff.mp shown
      have free : ∀ other, ¬ Owns hub other := by
        intro other owns
        have inserting := owns_absent orderly owns absent
        have own := heldByOther_false busy inserting
        subst own
        obtain ⟨row, sees, _⟩ := fits.sees (.inr inserting)
        rw [unwritten, absent] at sees
        cases sees
      have empty : rowsOf hub = [] := by
        have nobody : hub.pending = [] :=
          List.eq_nil_iff_forall_not_mem.mpr fun entry listed => free _ (orderly.writers entry listed)
        rw [rowsOf, orderly.chain.owned absent, nobody]
        rfl
      apply orderly.take fun other owns => absurd owns (free other)
      · rfl
      · rfl
      · exact put_same ..
      · exact fun other differ => put_other hub _ differ
      · intro other
        constructor
        · rintro (lock | inserting)
          · exact absurd (.inl lock) (free other)
          · exact (Option.some.inj inserting).symm
        · exact fun own => .inr (congrArg some own.symm)
      · exact fun entry listed => absurd (orderly.writers entry listed) (free entry.1)
      · exact fun _ _ => absent
      · exact fun _ => rfl
      · exact orderly.numbered
      · exact orderly.distinct
      · exact
          { sees := fun _ => ⟨{}, rfl, by
              change none = (rowsOf hub).getLast?.map PolicyRow.id
              rw [empty]
              rfl⟩
            fits := fun _ => empty
            idle := fun free => absurd trivial free
            calls := fun _ => fits.calls live
            done := fun ended => by cases ended
            content := fits.content
            settled := fun free => absurd trivial free
            versions := fits.versions }
      · exact fun other differ => orderly.apart request other differ

def Reports (edits : List (PolicyUpdate × Policy)) (policy : Policy) : Prop :=
  edits = [] ∨ ∃ current update, edits = [(update, policy)] ∧ policy = updatePolicy current update

theorem Reports.stored {edits : List (PolicyUpdate × Policy)} {policy : Policy} (reports : Reports edits policy) :
    ∀ edit ∈ edits, edit.2 = policy ∧ ∃ current, edit.2 = updatePolicy current edit.1 := by
  intro edit listed
  rcases reports with none | ⟨current, update, one, stored⟩
  · rw [none] at listed
    cases listed
  · rw [one, List.mem_singleton] at listed
    subst listed
    exact ⟨rfl, current, stored⟩

theorem Reports.one_version {edits : List (PolicyUpdate × Policy)} {policy : Policy}
    (reports : Reports edits policy) : (edits.map fun edit => edit.2.version).Nodup := by
  rcases reports with none | ⟨_, _, one, _⟩
  · rw [none]
    exact List.nodup_nil
  · rw [one]
    exact List.nodup_singleton _

theorem SessionFits.insert {ops : List PolicyOp} {policies rows : List PolicyRow} {user : Option UserPointer}
    {owns : Prop} {session next : PolicySession} (fits : SessionFits ops policies rows user owns session)
    (live : session.stage ≠ .aborted) {edits : List (PolicyUpdate × Policy)} {row : PolicyRow}
    (newer : ∀ policy ∈ rows.map PolicyRow.policy, policy.version ≠ row.policy.version)
    (reports : Reports edits row.policy)
    (calls : edits.map Prod.fst ++ next.todo.filterMap PolicyOp.update? = session.todo.filterMap PolicyOp.update?)
    (stage : next.stage = .ready) (written : next.row = some { currentPolicyId := some row.id })
    (reported : next.edits = session.edits ++ edits) :
    SessionFits ops policies (rows ++ [row]) user True next where
  sees := fun _ => ⟨_, by rw [written]; rfl, by simp⟩
  fits := fun _ => by
    rw [StageFits, stage]
    trivial
  idle := fun free => absurd trivial free
  calls := fun _ => by
    have before := fits.calls live
    rw [← calls] at before
    rw [reported]
    simpa only [List.map_append, List.append_assoc] using before
  done := fun ended => by
    rw [stage] at ended
    cases ended
  content := by
    rw [reported]
    intro edit listed
    rw [List.map_append, List.mem_append]
    rcases List.mem_append.mp listed with before | now
    · have held := fits.content edit before
      exact ⟨.inl held.1, held.2⟩
    · have stored := reports.stored edit now
      exact ⟨.inr (by simp [stored.1]), stored.2⟩
  settled := fun free => absurd trivial free
  versions := by
    rw [reported, List.map_append, List.nodup_append]
    refine ⟨fits.versions, reports.one_version, ?_⟩
    intro version before other now
    obtain ⟨edit, listed, rfl⟩ := List.mem_map.mp before
    obtain ⟨edit', listed', rfl⟩ := List.mem_map.mp now
    rw [(reports.stored edit' listed').1]
    exact newer edit.2 (fits.content edit listed).1

theorem distinct_snoc {table : List PolicyRow} {last : PolicyRow} (distinct : (table.map PolicyRow.id).Nodup)
    (fresh : ∀ row ∈ table, row.id ≠ last.id) : ((table ++ [last]).map PolicyRow.id).Nodup := by
  rw [List.map_append, List.nodup_append]
  refine ⟨distinct, List.nodup_singleton _, ?_⟩
  intro id listed other here
  obtain ⟨row, member, rfl⟩ := List.mem_map.mp listed
  rw [List.map_singleton, List.mem_singleton] at here
  rw [here]
  exact fresh row member

theorem insertPolicy_orderly (orderly : Orderly requests hub) (exclusive : Exclusive (hub.sessions request).stage)
    {rest : List PolicyOp} {edits : List (PolicyUpdate × Policy)} {row : PolicyRow}
    (next : row.policy.version = (rowsOf hub).length + 1) (reports : Reports edits row.policy)
    (calls : edits.map Prod.fst ++ rest.filterMap PolicyOp.update? =
      (hub.sessions request).todo.filterMap PolicyOp.update?) :
    Orderly requests (hub.insertPolicy request rest edits row) := by
  have owns := owns_of_exclusive orderly exclusive
  have fits := orderly.sessions request
  have live : (hub.sessions request).stage ≠ .aborted := by
    intro aborted
    rw [aborted] at exclusive
    exact exclusive
  -- What has been inserted before carries an older version.
  have newer : ∀ policy ∈ (rowsOf hub).map PolicyRow.policy, policy.version ≠ row.policy.version := by
    intro policy listed same
    have bound := version_le_length orderly.numbered listed
    omega
  unfold PolicyHub.insertPolicy
  dsimp only
  split
  · exact orderly
  · split
    · exact abort_orderly orderly
    · rename_i _ unclashing
      rw [rows_own orderly owns] at unclashing
      have fresh : ∀ other ∈ rowsOf hub, other.id ≠ row.id := by
        intro other listed same
        apply unclashing
        rw [List.any_eq_true]
        exact ⟨other, listed, by simp [same]⟩
      have rows : rowsOf { hub.put request
          { hub.sessions request with
            todo := rest
            stage := .ready
            row := some { currentPolicyId := some row.id }
            loaded := some { currentPolicyId := some row.id }
            edits := (hub.sessions request).edits ++ edits } with
          pending := hub.pending ++ [(request, row)] } = rowsOf hub ++ [row] := by
        simp only [rowsOf, PolicyHub.put, List.map_append, List.map_singleton, List.append_assoc]
      apply orderly.take fun other owned => owner_unique orderly owns owned
      · rfl
      · rfl
      · exact put_same ..
      · exact fun other differ => put_other hub _ differ
      · intro other
        constructor
        · exact fun owned => owner_unique orderly owns owned
        · exact fun own => own ▸ owns
      · intro entry listed
        rcases List.mem_append.mp listed with before | now
        · exact owner_unique orderly owns (orderly.writers entry before)
        · rw [List.mem_singleton.mp now]
      · exact fun other held => (orderly.inserter other held).1
      · intro absent
        have inserting := owns_absent orderly owns absent
        exact inserting
      · rw [rows]
        exact numbered_snoc orderly.numbered next
      · rw [rows]
        exact distinct_snoc orderly.distinct fresh
      · rw [rows]
        exact fits.insert live newer reports calls rfl rfl rfl
      · intro other differ edit listed edit' listed'
        rcases List.mem_append.mp listed with before | now
        · exact orderly.apart request other differ edit before edit' listed'
        · rw [(reports.stored edit now).1]
          exact (newer edit'.2 ((orderly.sessions other).content edit' listed').1).symm

theorem locked_reads_last (orderly : Orderly requests hub) (stage : (hub.sessions request).stage = .locked) :
    hub.getCurrentPolicy request (hub.sessions request).loaded = (rowsOf hub).getLast?.map PolicyRow.policy := by
  have owns := owns_of_exclusive orderly (by rw [stage]; trivial)
  have loaded := (orderly.sessions request).fits owns
  rw [StageFits, stage] at loaded
  rw [loaded]
  exact current_is_last orderly owns

theorem seed_orderly (orderly : Orderly requests hub) (stage : (hub.sessions request).stage = .seeding)
    {op : PolicyOp} {rest : List PolicyOp} (todo : (hub.sessions request).todo = op :: rest)
    (silent : op.update? = none) (policyId : PolicyId) (seed : PolicySeed) :
    Orderly requests (hub.insertPolicy request rest [] ⟨policyId, seed.policy⟩) := by
  have owns := owns_of_exclusive orderly (by rw [stage]; trivial)
  have empty := (orderly.sessions request).fits owns
  rw [StageFits, stage] at empty
  apply insertPolicy_orderly orderly
  · rw [stage]
    trivial
  · rw [empty]
    rfl
  · exact .inl rfl
  · rw [todo, List.filterMap_cons, silent]
    rfl

theorem advance_orderly (orderly : Orderly requests hub) (request : ι) (policyId : PolicyId) :
    Orderly requests (hub.advance request policyId) := by
  have fits := orderly.sessions request
  unfold PolicyHub.advance
  dsimp only
  split
  · rename_i stage todo
    exact commit_orderly orderly stage todo
  · rename_i stage todo
    exact insertUser_orderly orderly stage
  · rename_i _ stage todo
    exact load_orderly orderly (by rw [stage]; exact PolicyStage.noConfusion)
  · rename_i stage todo
    exact load_orderly orderly (by rw [stage]; exact PolicyStage.noConfusion)
  · rename_i stage todo
    exact lockUser_orderly orderly stage
  · rename_i stage todo
    have owns := owns_of_exclusive orderly (by rw [stage]; trivial)
    apply orderly.put
    · refine fits.move ?_ rfl rfl rfl rfl ?_ ?_
      · rw [stage]
        exact PolicyStage.noConfusion
      · exact fun _ => locked_reads_last orderly stage
      · exact fun free => absurd owns free
    · exact fun _ listed => listed
  · rename_i op rest other stage todo
    have owns := owns_of_exclusive orderly (by rw [stage]; trivial)
    have live : (hub.sessions request).stage ≠ .aborted := by
      rw [stage]
      exact PolicyStage.noConfusion
    have current := locked_reads_last orderly stage
    have silent : op.update? = none := by
      cases op with
      | updatePolicy update => exact absurd rfl (other update)
      | getOrCreatePolicy _ => rfl
      | provisionUserAlias _ => rfl
    split
    · apply orderly.put
      · refine fits.move live rfl rfl ?_ rfl (fun _ => trivial) fun _ => id
        rw [todo, List.filterMap_cons, silent]
      · exact fun _ listed => listed
    · rename_i missing
      rw [missing] at current
      apply orderly.put
      · refine fits.move live rfl rfl rfl rfl ?_ ?_
        · intro _
          change rowsOf hub = []
          rw [← List.getLast?_eq_none_iff]
          exact Option.map_eq_none_iff.mp current.symm
        · exact fun free => absurd owns free
      · exact fun _ listed => listed
  · rename_i current update rest stage todo
    have owns := owns_of_exclusive orderly (by rw [stage]; trivial)
    have last := fits.fits owns
    rw [StageFits, stage] at last
    apply insertPolicy_orderly orderly
    · rw [stage]
      trivial
    · change (updatePolicy current update).version = _
      rw [last]
      exact last_version orderly.numbered update
    · exact .inr ⟨current, update, rfl, rfl⟩
    · rw [todo]
      rfl
  · rename_i seed rest stage todo
    exact seed_orderly orderly stage todo rfl policyId seed
  · rename_i seed rest stage todo
    exact seed_orderly orderly stage todo rfl policyId seed
  · exact orderly

theorem step_orderly (hub : PolicyHub ι) (turn : PolicyTurn ι) (orderly : Orderly requests hub) :
    Orderly requests (hub.step turn) := by
  cases turn with
  | advance request policyId => exact advance_orderly orderly request policyId
  | abort request =>
    simp only [PolicyHub.step]
    split
    · exact orderly
    · exact abort_orderly orderly

/-- Whatever the transactions on a user do and in whatever order, its committed policies carry the versions
    1 to n, the pointer is at the last, and every committed edit has its row. -/
theorem policy_chain_unbroken (stored : StoredChain) (requests : ι → List PolicyOp)
    (turns : List (PolicyTurn ι)) :
    VersionChain (Runs.run PolicyHub.step (stored.begin requests) turns).user
        (Runs.run PolicyHub.step (stored.begin requests) turns).policies ∧
      EditsKept requests (Runs.run PolicyHub.step (stored.begin requests) turns) := by
  have orderly : Orderly requests (Runs.run PolicyHub.step (stored.begin requests) turns) :=
    Runs.run_invariant (Orderly requests) _ turns (begin_orderly stored requests)
      fun hub turn orderly => step_orderly hub turn orderly
  refine ⟨orderly.chain, ?_⟩
  constructor
  · intro request committed
    have fits := orderly.sessions request
    have calls := fits.calls (by rw [committed]; exact PolicyStage.noConfusion)
    rw [fits.done committed, List.filterMap_nil, List.append_nil] at calls
    exact calls
  · intro request committed edit listed
    have fits := orderly.sessions request
    have free : ¬ Owns (Runs.run PolicyHub.step (stored.begin requests) turns) request := by
      intro owns
      have stage := fits.fits owns
      rw [StageFits, committed] at stage
      exact stage
    exact ⟨fits.settled free edit listed, (fits.content edit listed).2⟩
  · intro request committed
    refine ⟨(orderly.sessions request).versions, ?_⟩
    intro other differ _
    exact orderly.apart request other differ

end Transactions

/-- Two transactions that each provision the user and edit the policy, statement by statement in turn: the
    second waits for the first and goes on from its version. -/
example :
    let requests := fun _ : Bool => [PolicyOp.provisionUserAlias {}, .updatePolicy anHourADay]
    let turns := (List.range 16).flatMap fun k =>
      [PolicyTurn.advance false (toString (2 * k)), PolicyTurn.advance true (toString (2 * k + 1))]
    let hub := Runs.run PolicyHub.step (StoredChain.unseen.begin requests) turns
    hub.policies.map (fun row => row.policy.version) = [1, 2, 3] := by
  decide

end TimekprProof
