import TimekprHub.Hub.PasswordChange
import TimekprHub.Library.EventLog

namespace TimekprModel

universe u

structure AdminInvite where
  expiresAt : Instant
  createdBy : Option AdminId
  usedAt : Option Instant := none
  deriving DecidableEq, Repr

def inviteTtl : Int := 24 * 3600 * second

structure SessionRow extends AdminSession where
  id : Nat
  deriving DecidableEq, Repr

def SessionRow.opened (adminId : AdminId) (openedAt : Instant) (id : Nat) : SessionRow :=
  { adminId, expiresAt := openedAt + sessionTtl, id }

/-- The requests that were carried out, in the order of their commits: with the cookie they came with or gave, and
    with how many had been carried out when they read what they act on. -/
inductive AccessEvent
  | joined (adminId : AdminId) (invite : Option String)
  | opened (cookie : String) (adminId : AdminId) (openedAt : Instant)
  | loggedOut (cookie : String) (readAt : Nat)
  | passwordChanged (adminId : AdminId) (cookie : String) (readAt : Nat)
  | deleted (adminId : AdminId)
  | invited (invite : String) (adminId : AdminId) (cookie : String) (readAt : Nat)

def AccessEvent.Opens (hashToken : String → String) (tokenHash : String) (adminId : AdminId) (openedAt : Instant)
    (event : AccessEvent) : Prop :=
  ∃ cookie, event = .opened cookie adminId openedAt ∧ hashToken cookie = tokenHash

/-- Whether the session that the event at the place has opened, for an admin, ends with a later one: with its own
    logout, a change of the admin's password from another session, or the admin's deletion. -/
def AccessEvent.Ends (hashToken : String → String) (tokenHash : String) (adminId : AdminId) (place : Nat) :
    AccessEvent → Prop
  | loggedOut cookie readAt => hashToken cookie = tokenHash ∧ place < readAt
  | passwordChanged other cookie readAt => other = adminId ∧ hashToken cookie ≠ tokenHash ∧ place < readAt
  | deleted other => other = adminId
  | joined _ _ | opened _ _ _ | invited _ _ _ _ => False

/-- The event at the place has opened the session, and no later one has ended it. -/
def LoggedIn (hashToken : String → String) (log : List AccessEvent) (tokenHash : String) (adminId : AdminId)
    (openedAt : Instant) (place : Nat) : Prop :=
  EventLog.Since (AccessEvent.Opens hashToken tokenHash adminId openedAt)
    (AccessEvent.Ends hashToken tokenHash adminId place) place log

def AccessEvent.inviteUsed : AccessEvent → Option String
  | joined _ invite => invite
  | opened _ _ _ | loggedOut _ _ | passwordChanged _ _ _ | deleted _ | invited _ _ _ _ => none

inductive AccessRequest
  | setupSubmit (request : SetupRequest)
  | loginSubmit (request : LoginRequest)
  | logout (token : Option String)
  | createAdminInvite (token : Option String) (inviteToken : String)
  | inviteSubmit (inviteToken : String) (request : SetupRequest)
  | changeOwnPassword (change : PasswordChange)
  | deleteAdmin (request : DeleteRequest)

inductive AccessStage
  | received
  | checked
  | found (admin : Admin)
  | verified (admin : Admin)
  | selected (cookie : String) (rowId : Nat) (readAt : Nat)
  | authenticated (adminId : AdminId) (cookie : String) (readAt : Nat)
  | claiming (claimedAt : Instant)
  | changing (admin : Admin)
  | swept (admin : Admin) (cookie : String) (doomed : String → Option Nat) (readAt : Nat)
  | counted
  | located (adminId : AdminId)
  | answered (status : Nat)

structure AccessTables where
  admins : List Admin := []
  sessions : String → Option SessionRow := fun _ => none
  invites : String → Option AdminInvite := fun _ => none
  log : List AccessEvent := []

namespace AccessTables

variable (tables : AccessTables)

def ids : List AdminId := tables.admins.map Admin.id

def accounts : AdminHub Empty where
  admins := tables.ids.toFinset
  sessions := fun tokenHash => (tables.sessions tokenHash).map SessionRow.toAdminSession

def record (event : AccessEvent) : AccessTables := { tables with log := tables.log ++ [event] }

/-- The statement of a transaction that inserts an account; `none` is an IntegrityError. -/
def insertAdmin (admin : Admin) : Option AccessTables :=
  if admin.email ∈ tables.admins.map Admin.email ∨ admin.id ∈ tables.ids then none
  else some { tables with admins := tables.admins ++ [admin] }

/-- `create_session`. The hash is unique, and the admin's row has to be there. The id is one no row has had. -/
def createSession (tokenHash : String) (adminId : AdminId) (now : Instant) : Option AccessTables :=
  if (tables.sessions tokenHash).isSome = true ∨ adminId ∉ tables.ids then none
  else
    let row := SessionRow.opened adminId now tables.log.length
    some { tables with sessions := Function.update tables.sessions tokenHash (some row) }

/-- The row `delete_session` has selected, unless somebody else has deleted it. -/
def deleteSession (tokenHash : String) (rowId : Nat) : AccessTables :=
  if (tables.sessions tokenHash).any fun row => row.id = rowId then
    { tables with sessions := Function.update tables.sessions tokenHash none }
  else tables

def doomedSessions (doomed : String → Option Nat) (tokenHash : String) : Bool :=
  (tables.sessions tokenHash).any fun row => doomed tokenHash = some row.id

/-- The UPDATE and the DELETEs of a password change; `none` is a StaleDataError. -/
def changePassword (adminId : AdminId) (passwordHash : String) (doomed : String → Option Nat) : Option AccessTables :=
  if adminId ∈ tables.ids then
    some
      { tables with
        admins := tables.admins.map fun row => if row.id = adminId then { row with passwordHash } else row
        sessions := fun tokenHash =>
          if tables.doomedSessions doomed tokenHash then none else tables.sessions tokenHash }
  else none

/-- The DELETE of an admin, with what the foreign keys do to sessions and invites. -/
def deleteAdmin (adminId : AdminId) : AccessTables :=
  { tables with
    admins := tables.admins.filter fun row => row.id ≠ adminId
    sessions := fun tokenHash => (tables.sessions tokenHash).filter fun row => row.adminId ≠ adminId
    invites := fun token => (tables.invites token).map fun row =>
      { row with createdBy := row.createdBy.filter fun creator => creator ≠ adminId } }

def createInvite (token : String) (adminId : AdminId) (now : Instant) : Option AccessTables :=
  if (tables.invites token).isSome = true ∨ adminId ∉ tables.ids then none
  else some
    { tables with
      invites := Function.update tables.invites token
        (some { expiresAt := now + inviteTtl, createdBy := some adminId }) }

def redeemInvite (token : String) (claimedAt : Instant) : Option AccessTables :=
  match tables.invites token with
  | none => none
  | some row =>
    if row.usedAt = none ∧ claimedAt ≤ row.expiresAt then
      some
        { tables with invites := Function.update tables.invites token (some { row with usedAt := some claimedAt }) }
    else none

variable (hasher : PasswordHasher) (hashToken : String → String)

def getCurrentAdmin (token : Option String) (now : Instant) : Option Admin :=
  (tables.accounts.getCurrentAdmin hashToken token now).bind fun adminId =>
    tables.admins.find? fun admin => admin.id = adminId

def otherSessions (adminId : AdminId) (keepHash tokenHash : String) : Option Nat :=
  if tokenHash = keepHash then none
  else (tables.sessions tokenHash).bind fun row => if row.adminId = adminId then some row.id else none

def newAdmin (request : SetupRequest) : Admin :=
  ⟨request.id, request.email, hasher.hash request.salt request.password⟩

def logIn (cookie : String) (adminId : AdminId) (now : Instant) : AccessTables × AccessStage :=
  match tables.createSession (hashToken cookie) adminId now with
  | none => (tables, .answered 500)
  | some later => (later.record (.opened cookie adminId now), .answered 303)

/-- The writes of a submission that makes an account, and the commit; a refused one is rolled back whole. -/
def join (claimed : AccessTables) (invite : Option String) (refusal : Nat) (request : SetupRequest) (now : Instant) :
    AccessTables × AccessStage :=
  match claimed.insertAdmin (newAdmin hasher request) with
  | none => (tables, .answered refusal)
  | some joined =>
    let joined := joined.record (.joined request.id invite)
    match joined.createSession (hashToken request.rawToken) request.id now with
    | none => (tables, .answered 500)
    | some later => (later.record (.opened request.rawToken request.id now), .answered 303)

/-- One turn of a request. What a transaction writes takes effect with its commit: until then nobody sees it, and
    the rows it has locked stay as they are. -/
def serve (request : AccessRequest) (now : Instant) (stage : AccessStage) : AccessTables × AccessStage :=
  match request, stage with
  | .setupSubmit request, .received =>
    if request.password.length < 8 then (tables, .answered 422)
    else if tables.admins ≠ [] then (tables, .answered 404)
    else (tables, .checked)
  | .setupSubmit request, .checked => tables.join hasher hashToken tables none 500 request now
  | .loginSubmit request, .received =>
    match tables.admins.find? fun admin => admin.email = request.email with
    | none => (tables, .answered 303)
    | some admin => (tables, .found admin)
  | .loginSubmit request, .found admin =>
    if hasher.verify request.password admin.passwordHash then (tables, .verified admin)
    else (tables, .answered 303)
  | .loginSubmit request, .verified admin => tables.logIn hashToken request.rawToken admin.id now
  | .logout token, .received =>
    match token with
    | none => (tables, .answered 303)
    | some cookie =>
      if cookie = "" then (tables, .answered 303)
      else
        match tables.sessions (hashToken cookie) with
        | none => (tables, .answered 303)
        | some row => (tables, .selected cookie row.id tables.log.length)
  | .logout _, .selected cookie rowId readAt =>
    ((tables.deleteSession (hashToken cookie) rowId).record (.loggedOut cookie readAt), .answered 303)
  | .createAdminInvite token _, .received =>
    match tables.getCurrentAdmin hashToken token now with
    | none => (tables, .answered 401)
    | some admin => (tables, .authenticated admin.id (token.getD "") tables.log.length)
  | .createAdminInvite _ inviteToken, .authenticated adminId cookie readAt =>
    match tables.createInvite inviteToken adminId now with
    | none => (tables, .answered 500)
    | some later => (later.record (.invited inviteToken adminId cookie readAt), .answered 201)
  | .inviteSubmit _ request, .received =>
    if request.password.length < 8 then (tables, .answered 422) else (tables, .claiming now)
  | .inviteSubmit inviteToken request, .claiming claimedAt =>
    match tables.redeemInvite inviteToken claimedAt with
    | none => (tables, .answered 410)
    | some claimed => tables.join hasher hashToken claimed (some inviteToken) 409 request now
  | .changeOwnPassword change, .received =>
    match tables.getCurrentAdmin hashToken change.token now with
    | none => (tables, .answered 401)
    | some admin => if change.newPassword.length < 8 then (tables, .answered 422) else (tables, .changing admin)
  | .changeOwnPassword change, .changing admin =>
    if hasher.verify change.currentPassword admin.passwordHash then (tables, .verified admin)
    else (tables, .answered 401)
  | .changeOwnPassword change, .verified admin =>
    let cookie := change.token.getD ""
    (tables, .swept admin cookie (tables.otherSessions admin.id (hashToken cookie)) tables.log.length)
  | .changeOwnPassword change, .swept admin cookie doomed readAt =>
    match tables.changePassword admin.id (hasher.hash change.salt change.newPassword) doomed with
    | none => (tables, .answered 500)
    | some later => (later.record (.passwordChanged admin.id cookie readAt), .answered 200)
  | .deleteAdmin request, .received =>
    match tables.getCurrentAdmin hashToken request.token now with
    | none => (tables, .answered 401)
    | some admin => (tables, .authenticated admin.id (request.token.getD "") tables.log.length)
  | .deleteAdmin _, .authenticated _ _ _ =>
    if tables.admins.length ≤ 1 then (tables, .answered 409) else (tables, .counted)
  | .deleteAdmin request, .counted =>
    if request.adminId ∈ tables.ids then (tables, .located request.adminId) else (tables, .answered 404)
  | .deleteAdmin _, .located adminId => ((tables.deleteAdmin adminId).record (.deleted adminId), .answered 200)
  | _, stage => (tables, stage)

end AccessTables

structure AccessHub (ι : Type u) where
  tables : AccessTables := {}
  stages : ι → AccessStage := fun _ => .received

structure AccessTurn (ι : Type u) where
  request : ι
  now : Instant

def AccessHub.step {ι : Type u} [DecidableEq ι] (hasher : PasswordHasher) (hashToken : String → String)
    (requests : ι → AccessRequest) (hub : AccessHub ι) (turn : AccessTurn ι) : AccessHub ι :=
  let (tables, stage) :=
    hub.tables.serve hasher hashToken (requests turn.request) turn.now (hub.stages turn.request)
  { tables, stages := Function.update hub.stages turn.request stage }

/-- An account of the setup page, or one that joined by an invite such an account had made by then, logged in, and
    so on. -/
inductive Trusted (hashToken : String → String) : List AccessEvent → AdminId → Prop
  | setup {log : List AccessEvent} {adminId : AdminId} (first : .joined adminId none ∈ log) :
    Trusted hashToken log adminId
  | invite {log before after earlier later : List AccessEvent} {adminId inviter : AdminId} {invite cookie : String}
      {readAt place : Nat} {openedAt : Instant} (joined : log = before ++ .joined adminId (some invite) :: after)
      (invited : before = earlier ++ .invited invite inviter cookie readAt :: later)
      (loggedIn : LoggedIn hashToken (earlier.take readAt) (hashToken cookie) inviter openedAt place)
      (chain : Trusted hashToken earlier inviter) : Trusted hashToken log adminId

end TimekprModel

namespace TimekprProof

open TimekprModel

universe u

section Logins

variable {hashToken : String → String} {log : List AccessEvent} {tokenHash : String} {adminId : AdminId}
  {openedAt : Instant} {place : Nat}

theorem earlier_iff (loggedIn : LoggedIn hashToken log tokenHash adminId openedAt place) {other : AdminId}
    {readAt : Nat} :
    (∃ since, LoggedIn hashToken (log.take readAt) tokenHash other since place) ↔
      other = adminId ∧ place < readAt := by
  constructor
  · intro ⟨since, earlier⟩
    obtain ⟨event, found, cookie, rfl, _⟩ := earlier.get
    obtain ⟨event, now, other, rfl, _⟩ := loggedIn.get
    have early : place < readAt := lt_of_lt_of_le earlier.lt (List.length_take_le _ _)
    rw [List.getElem?_take_of_lt early, now, Option.some.injEq, AccessEvent.opened.injEq] at found
    exact ⟨found.2.1.symm, early⟩
  · intro ⟨same, early⟩
    rw [same]
    exact ⟨openedAt, loggedIn.earlier early⟩

end Logins

/-- What a turn may leave of the tables: the commit of a request that has come to this stage. -/
inductive Commits (hashToken : String → String) (tables : AccessTables) : AccessStage → AccessTables → Prop
  | nothing {stage : AccessStage} : Commits hashToken tables stage tables
  | setup {stage : AccessStage} {admin : Admin} {cookie : String} {now : Instant} {joined later : AccessTables}
      (inserted : tables.insertAdmin admin = some joined)
      (created : (joined.record (.joined admin.id none)).createSession (hashToken cookie) admin.id now = some later) :
      Commits hashToken tables stage (later.record (.opened cookie admin.id now))
  | login {stage : AccessStage} {cookie : String} {adminId : AdminId} {now : Instant} {later : AccessTables}
      (created : tables.createSession (hashToken cookie) adminId now = some later) :
      Commits hashToken tables stage (later.record (.opened cookie adminId now))
  | logout (cookie : String) (rowId readAt : Nat) :
      Commits hashToken tables (.selected cookie rowId readAt)
        ((tables.deleteSession (hashToken cookie) rowId).record (.loggedOut cookie readAt))
  | invite {invite cookie : String} {adminId : AdminId} {readAt : Nat} {now : Instant} {later : AccessTables}
      (created : tables.createInvite invite adminId now = some later) :
      Commits hashToken tables (.authenticated adminId cookie readAt)
        (later.record (.invited invite adminId cookie readAt))
  | join {stage : AccessStage} {invite cookie : String} {claimedAt now : Instant} {admin : Admin}
      {claimed joined later : AccessTables} (claims : tables.redeemInvite invite claimedAt = some claimed)
      (inserted : claimed.insertAdmin admin = some joined)
      (created : (joined.record (.joined admin.id (some invite))).createSession (hashToken cookie) admin.id now =
        some later) :
      Commits hashToken tables stage (later.record (.opened cookie admin.id now))
  | password {admin : Admin} {cookie passwordHash : String} {doomed : String → Option Nat} {readAt : Nat}
      {later : AccessTables} (changed : tables.changePassword admin.id passwordHash doomed = some later) :
      Commits hashToken tables (.swept admin cookie doomed readAt)
        (later.record (.passwordChanged admin.id cookie readAt))
  | delete {stage : AccessStage} (adminId : AdminId) :
      Commits hashToken tables stage ((tables.deleteAdmin adminId).record (.deleted adminId))

/-- One turn of any request, at any of its stages. -/
theorem serve_commits (hasher : PasswordHasher) (hashToken : String → String) (tables : AccessTables)
    (request : AccessRequest) (now : Instant) (stage : AccessStage) :
    Commits hashToken tables stage (tables.serve hasher hashToken request now stage).1 := by
  have untouched := @Commits.nothing hashToken tables
  unfold AccessTables.serve
  split
  case h_1 => split <;> [exact untouched; split <;> exact untouched]
  case h_2 =>
    unfold AccessTables.join
    split
    · exact untouched
    · rename_i joined inserted
      dsimp only
      split
      · exact untouched
      · rename_i later created
        exact .setup inserted created
  case h_3 => split <;> exact untouched
  case h_4 => split <;> exact untouched
  case h_5 =>
    unfold AccessTables.logIn
    split
    · exact untouched
    · rename_i later created
      exact .login created
  case h_6 =>
    split
    · exact untouched
    · split
      · exact untouched
      · split <;> exact untouched
  case h_7 => exact .logout _ _ _
  case h_8 => split <;> exact untouched
  case h_9 =>
    split
    · exact untouched
    · rename_i later created
      exact .invite created
  case h_10 => split <;> exact untouched
  case h_11 =>
    split
    · exact untouched
    · rename_i claimed claims
      unfold AccessTables.join
      split
      · exact untouched
      · rename_i joined inserted
        dsimp only
        split
        · exact untouched
        · rename_i later created
          exact .join claims inserted created
  case h_12 => split <;> [exact untouched; split <;> exact untouched]
  case h_13 => split <;> exact untouched
  case h_14 => exact untouched
  case h_15 =>
    split
    · exact untouched
    · rename_i later changed
      exact .password changed
  case h_16 => split <;> exact untouched
  case h_17 => split <;> exact untouched
  case h_18 => split <;> exact untouched
  case h_19 => exact .delete _
  case h_20 => exact untouched

structure SessionsLogged (hashToken : String → String) (tables : AccessTables) : Prop where
  held : ∀ tokenHash adminId openedAt place,
    tables.sessions tokenHash = some (.opened adminId openedAt place) ↔
      LoggedIn hashToken tables.log tokenHash adminId openedAt place
  lives : ∀ tokenHash row, tables.sessions tokenHash = some row → row.adminId ∈ tables.ids

/-- What a request has read stood in the log of that time. -/
def StageLogged (hashToken : String → String) (log : List AccessEvent) : AccessStage → Prop
  | .selected cookie rowId readAt =>
    readAt ≤ log.length ∧ ∀ place, place = rowId ↔
      ∃ adminId openedAt, LoggedIn hashToken (log.take readAt) (hashToken cookie) adminId openedAt place
  | .authenticated adminId cookie readAt =>
    readAt ≤ log.length ∧
      ∃ openedAt place, LoggedIn hashToken (log.take readAt) (hashToken cookie) adminId openedAt place
  | .swept admin cookie doomed readAt =>
    readAt ≤ log.length ∧ ∀ tokenHash rowId, doomed tokenHash = some rowId ↔
      tokenHash ≠ hashToken cookie ∧
        ∃ openedAt, LoggedIn hashToken (log.take readAt) tokenHash admin.id openedAt rowId
  | _ => True

section Sessions

variable {hashToken : String → String} {tables later : AccessTables}

theorem opened_eq (row : SessionRow) : .opened row.adminId (row.expiresAt - sessionTtl) row.id = row := by
  unfold SessionRow.opened
  rw [Int.sub_add_cancel]

theorem SessionsLogged.of_row (logged : SessionsLogged hashToken tables) {tokenHash : String} {row : SessionRow}
    (there : tables.sessions tokenHash = some row) :
    LoggedIn hashToken tables.log tokenHash row.adminId (row.expiresAt - sessionTtl) row.id := by
  rw [← logged.held, opened_eq]
  exact there

theorem held_record {event : AccessEvent} (logged : SessionsLogged hashToken tables) (log : later.log = tables.log)
    (changes : ∀ tokenHash adminId openedAt place,
      later.sessions tokenHash = some (.opened adminId openedAt place) ↔
        place = tables.log.length ∧ event.Opens hashToken tokenHash adminId openedAt ∨
          tables.sessions tokenHash = some (.opened adminId openedAt place) ∧
            ¬ event.Ends hashToken tokenHash adminId place)
    (tokenHash : String) (adminId : AdminId) (openedAt : Instant) (place : Nat) :
    (later.record event).sessions tokenHash = some (.opened adminId openedAt place) ↔
      LoggedIn hashToken (later.record event).log tokenHash adminId openedAt place := by
  unfold AccessTables.record LoggedIn
  dsimp only
  rw [changes, logged.held, log]
  exact EventLog.since_concat.symm

theorem sessions_left {event : AccessEvent} (logged : SessionsLogged hashToken tables) (log : later.log = tables.log)
    (opensNone : ∀ cookie adminId openedAt, event ≠ .opened cookie adminId openedAt)
    (leaves : ∀ tokenHash row, later.sessions tokenHash = some row ↔
      tables.sessions tokenHash = some row ∧ ¬ event.Ends hashToken tokenHash row.adminId row.id)
    (ids : ∀ tokenHash row, later.sessions tokenHash = some row → row.adminId ∈ tables.ids →
      row.adminId ∈ later.ids) :
    SessionsLogged hashToken (later.record event) := by
  constructor
  · apply held_record logged log
    intro tokenHash adminId openedAt place
    rw [leaves]
    constructor
    · intro left
      exact .inr left
    · intro either
      rcases either with ⟨_, cookie, same, _⟩ | left
      · exact absurd same (opensNone cookie adminId openedAt)
      · exact left
  · intro tokenHash row held
    exact ids tokenHash row held (logged.lives tokenHash row ((leaves tokenHash row).mp held).1)

theorem sessions_insertAdmin {admin : Admin} {invite : Option String} (logged : SessionsLogged hashToken tables)
    (inserted : tables.insertAdmin admin = some later) :
    SessionsLogged hashToken (later.record (.joined admin.id invite)) := by
  unfold AccessTables.insertAdmin at inserted
  split at inserted
  · cases inserted
  · cases inserted
    refine sessions_left logged ?_ ?_ ?_ ?_
    · rfl
    · intro cookie adminId openedAt same
      cases same
    · intro tokenHash row
      exact (and_iff_left id).symm
    · intro tokenHash row _ listed
      show row.adminId ∈ (tables.admins ++ [admin]).map Admin.id
      rw [List.map_append]
      exact List.mem_append_left _ listed

theorem sessions_createInvite {invite cookie : String} {adminId : AdminId} {readAt : Nat} {now : Instant}
    (logged : SessionsLogged hashToken tables) (created : tables.createInvite invite adminId now = some later) :
    SessionsLogged hashToken (later.record (.invited invite adminId cookie readAt)) := by
  unfold AccessTables.createInvite at created
  split at created
  · cases created
  · cases created
    refine sessions_left logged ?_ ?_ ?_ ?_
    · rfl
    · intro cookie adminId openedAt same
      cases same
    · intro tokenHash row
      exact (and_iff_left id).symm
    · intro tokenHash row _ listed
      exact listed

theorem sessions_createSession {cookie : String} {adminId : AdminId} {now : Instant}
    (logged : SessionsLogged hashToken tables)
    (created : tables.createSession (hashToken cookie) adminId now = some later) :
    SessionsLogged hashToken (later.record (.opened cookie adminId now)) := by
  unfold AccessTables.createSession at created
  split at created
  · cases created
  · rename_i free
    obtain ⟨fresh, known⟩ := not_or.mp free
    have absent : tables.sessions (hashToken cookie) = none := by simpa using fresh
    cases created
    constructor
    · refine held_record logged ?_ ?_
      · rfl
      · intro one other openedAt place
        dsimp only
        by_cases own : one = hashToken cookie
        · rw [own, Function.update_self, Option.some.injEq, absent]
          constructor
          · intro same
            unfold SessionRow.opened at same
            rw [SessionRow.mk.injEq, AdminSession.mk.injEq, Int.add_left_inj] at same
            obtain ⟨⟨rfl, rfl⟩, rfl⟩ := same
            exact .inl ⟨rfl, cookie, rfl, rfl⟩
          · intro either
            rcases either with ⟨rfl, _, same, _⟩ | ⟨held, _⟩
            · cases same
              rfl
            · cases held
        · rw [Function.update_of_ne own]
          constructor
          · intro held
            exact .inr ⟨held, id⟩
          · intro either
            rcases either with ⟨_, other, same, hash⟩ | ⟨held, _⟩
            · cases same
              exact absurd hash.symm own
            · exact held
    · intro one row held
      unfold AccessTables.record at held
      dsimp only at held
      by_cases own : one = hashToken cookie
      · rw [own, Function.update_self, Option.some.injEq] at held
        rw [← held]
        exact not_not.mp known
      · rw [Function.update_of_ne own] at held
        exact logged.lives one row held

theorem deleteSession_some {one tokenHash : String} {rowId : Nat} {row : SessionRow} :
    (tables.deleteSession tokenHash rowId).sessions one = some row ↔
      tables.sessions one = some row ∧ ¬ (one = tokenHash ∧ row.id = rowId) := by
  unfold AccessTables.deleteSession
  by_cases own : one = tokenHash
  · subst own
    cases held : tables.sessions one with
    | none => simp [held]
    | some other =>
      by_cases same : other.id = rowId
      · simp only [Option.any_some, same, decide_true, if_true, Function.update_self, true_and]
        constructor
        · intro gone
          cases gone
        · intro ⟨still, differs⟩
          rw [← Option.some.inj still] at differs
          exact absurd same differs
      · simp only [Option.any_some, same, decide_false, Bool.false_eq_true, if_false, held, true_and]
        constructor
        · intro still
          refine ⟨still, ?_⟩
          rw [← Option.some.inj still]
          exact same
        · exact And.left
  · split <;> simp [own]

theorem sessions_deleteSession {cookie : String} {rowId readAt : Nat} (logged : SessionsLogged hashToken tables)
    (read : StageLogged hashToken tables.log (.selected cookie rowId readAt)) :
    SessionsLogged hashToken ((tables.deleteSession (hashToken cookie) rowId).record (.loggedOut cookie readAt)) := by
  refine sessions_left logged ?_ ?_ ?_ ?_
  · unfold AccessTables.deleteSession
    split <;> rfl
  · intro cookie adminId openedAt same
    cases same
  · intro tokenHash row
    rw [deleteSession_some]
    apply and_congr_right
    intro there
    apply not_congr
    show tokenHash = hashToken cookie ∧ row.id = rowId ↔ hashToken cookie = tokenHash ∧ row.id < readAt
    rw [eq_comm]
    apply and_congr_right
    intro own
    have since := @earlier_iff _ _ _ _ _ _ (logged.of_row there)
    rw [read.2 row.id, own]
    constructor
    · intro ⟨adminId, openedAt, earlier⟩
      exact (since.mp ⟨openedAt, earlier⟩).2
    · intro early
      exact ⟨row.adminId, since.mpr ⟨rfl, early⟩⟩
  · intro tokenHash row _ listed
    unfold AccessTables.deleteSession
    split <;> exact listed

theorem sessions_changePassword {admin : Admin} {cookie passwordHash : String} {doomed : String → Option Nat}
    {readAt : Nat} (logged : SessionsLogged hashToken tables)
    (read : StageLogged hashToken tables.log (.swept admin cookie doomed readAt))
    (changed : tables.changePassword admin.id passwordHash doomed = some later) :
    SessionsLogged hashToken (later.record (.passwordChanged admin.id cookie readAt)) := by
  unfold AccessTables.changePassword at changed
  split at changed
  · cases changed
    refine sessions_left logged ?_ ?_ ?_ ?_
    · rfl
    · intro cookie adminId openedAt same
      cases same
    · intro tokenHash row
      have swept : (if tables.doomedSessions doomed tokenHash then none else tables.sessions tokenHash) = some row ↔
          tables.sessions tokenHash = some row ∧ doomed tokenHash ≠ some row.id := by
        unfold AccessTables.doomedSessions
        cases held : tables.sessions tokenHash with
        | none => simp
        | some other =>
          by_cases gone : doomed tokenHash = some other.id
          · simp only [Option.any_some, gone, decide_true, if_true]
            constructor
            · intro same
              cases same
            · intro ⟨same, differs⟩
              rw [Option.some.inj same] at differs
              exact absurd rfl differs
          · simp only [Option.any_some, gone, decide_false, Bool.false_eq_true, if_false]
            constructor
            · intro same
              exact ⟨same, Option.some.inj same ▸ gone⟩
            · exact And.left
      rw [swept]
      apply and_congr_right
      intro there
      apply not_congr
      rw [read.2, earlier_iff (logged.of_row there)]
      constructor
      · intro ⟨differs, same, early⟩
        exact ⟨same, differs.symm, early⟩
      · intro ⟨same, differs, early⟩
        exact ⟨differs.symm, same, early⟩
    · intro tokenHash row _ listed
      have kept : (tables.admins.map fun row => if row.id = admin.id then { row with passwordHash } else row).map
          Admin.id = tables.ids := by
        rw [List.map_map]
        apply List.map_congr_left
        intro one _
        dsimp only [Function.comp_apply]
        split <;> rfl
      show row.adminId ∈ (tables.admins.map _).map Admin.id
      rw [kept]
      exact listed
  · cases changed

theorem sessions_deleteAdmin (adminId : AdminId) (logged : SessionsLogged hashToken tables) :
    SessionsLogged hashToken ((tables.deleteAdmin adminId).record (.deleted adminId)) := by
  refine sessions_left logged ?_ ?_ ?_ ?_
  · rfl
  · intro cookie adminId openedAt same
    cases same
  · intro tokenHash row
    unfold AccessTables.deleteAdmin
    rw [Option.filter_eq_some_iff, decide_eq_true_eq]
    apply and_congr_right
    intro _
    exact not_congr eq_comm
  · intro tokenHash row held listed
    unfold AccessTables.deleteAdmin at held
    rw [Option.filter_eq_some_iff, decide_eq_true_eq] at held
    obtain ⟨admin, member, same⟩ := List.mem_map.mp listed
    refine List.mem_map.mpr ⟨admin, List.mem_filter.mpr ⟨member, ?_⟩, same⟩
    rw [decide_eq_true_eq, same]
    exact held.2

theorem sessions_redeemInvite {token : String} {claimedAt : Instant} (logged : SessionsLogged hashToken tables)
    (claimed : tables.redeemInvite token claimedAt = some later) : SessionsLogged hashToken later := by
  unfold AccessTables.redeemInvite at claimed
  split at claimed
  · cases claimed
  · split at claimed
    · cases claimed
      exact ⟨logged.held, logged.lives⟩
    · cases claimed

theorem sessions_commit {stage : AccessStage} (logged : SessionsLogged hashToken tables)
    (read : StageLogged hashToken tables.log stage) (commits : Commits hashToken tables stage later) :
    SessionsLogged hashToken later := by
  cases commits with
  | nothing => exact logged
  | setup inserted created => exact sessions_createSession (sessions_insertAdmin logged inserted) created
  | login created => exact sessions_createSession logged created
  | logout cookie rowId readAt => exact sessions_deleteSession logged read
  | invite created => exact sessions_createInvite logged created
  | join claims inserted created =>
    exact sessions_createSession (sessions_insertAdmin (sessions_redeemInvite logged claims) inserted) created
  | password changed => exact sessions_changePassword logged read changed
  | delete adminId => exact sessions_deleteAdmin adminId logged

end Sessions

section Accounts

variable {hashToken : String → String} {tables later : AccessTables}

theorem trusted_append {log : List AccessEvent} {adminId : AdminId} (trusted : Trusted hashToken log adminId)
    (more : List AccessEvent) : Trusted hashToken (log ++ more) adminId := by
  cases trusted with
  | setup first => exact .setup (List.mem_append_left _ first)
  | @invite _ before after _ _ _ inviter invite _ _ _ _ joined invited loggedIn chain =>
    have longer : log ++ more = before ++ .joined adminId (some invite) :: (after ++ more) := by
      rw [joined, List.append_assoc, List.cons_append]
    exact .invite longer invited loggedIn chain

def Invited (hashToken : String → String) (log : List AccessEvent) (invite : String) : Prop :=
  ∃ earlier inviter cookie readAt later openedAt place,
    log = earlier ++ .invited invite inviter cookie readAt :: later ∧
      LoggedIn hashToken (earlier.take readAt) (hashToken cookie) inviter openedAt place ∧
      Trusted hashToken earlier inviter

theorem invited_append {log : List AccessEvent} {invite : String} (invited : Invited hashToken log invite)
    (more : List AccessEvent) : Invited hashToken (log ++ more) invite := by
  obtain ⟨earlier, inviter, cookie, readAt, later, openedAt, place, split, loggedIn, chain⟩ := invited
  refine ⟨earlier, inviter, cookie, readAt, later ++ more, openedAt, place, ?_, loggedIn, chain⟩
  rw [split, List.append_assoc, List.cons_append]

structure AccountsLogged (hashToken : String → String) (tables : AccessTables) : Prop where
  trusted : ∀ adminId ∈ tables.ids, Trusted hashToken tables.log adminId
  invited : ∀ token, (tables.invites token).isSome = true → Invited hashToken tables.log token
  used : ∀ token, (∃ usedAt, (tables.invites token).map AdminInvite.usedAt = some (some usedAt)) ↔
    token ∈ tables.log.filterMap AccessEvent.inviteUsed
  once : (tables.log.filterMap AccessEvent.inviteUsed).Nodup

theorem joins_concat {log : List AccessEvent} {event : AccessEvent} (own : event.inviteUsed = none) :
    (log ++ [event]).filterMap AccessEvent.inviteUsed = log.filterMap AccessEvent.inviteUsed := by
  rw [List.filterMap_append, List.filterMap_cons, own]
  exact List.append_nil _

theorem accounts_kept {event : AccessEvent} (logged : AccountsLogged hashToken tables)
    (log : later.log = tables.log) (own : event.inviteUsed = none)
    (ids : ∀ adminId ∈ later.ids, adminId ∈ tables.ids)
    (invites : ∀ token, (later.invites token).map AdminInvite.usedAt =
      (tables.invites token).map AdminInvite.usedAt) :
    AccountsLogged hashToken (later.record event) := by
  unfold AccessTables.record
  constructor
  · intro adminId listed
    dsimp only
    rw [log]
    exact trusted_append (logged.trusted adminId (ids adminId listed)) _
  · intro token there
    have same := congrArg Option.isSome (invites token)
    rw [Option.isSome_map, Option.isSome_map, there] at same
    dsimp only
    rw [log]
    exact invited_append (logged.invited token same.symm) _
  · intro token
    dsimp only
    rw [invites, log, joins_concat own]
    exact logged.used token
  · dsimp only
    rw [log, joins_concat own]
    exact logged.once

theorem accounts_createSession {tokenHash cookie : String} {adminId : AdminId} {now : Instant}
    (logged : AccountsLogged hashToken tables) (created : tables.createSession tokenHash adminId now = some later) :
    AccountsLogged hashToken (later.record (.opened cookie adminId now)) := by
  unfold AccessTables.createSession at created
  split at created
  · cases created
  · cases created
    refine accounts_kept logged ?_ rfl ?_ ?_
    · rfl
    · exact fun _ listed => listed
    · exact fun _ => rfl

theorem accounts_deleteSession {tokenHash cookie : String} {rowId readAt : Nat}
    (logged : AccountsLogged hashToken tables) :
    AccountsLogged hashToken ((tables.deleteSession tokenHash rowId).record (.loggedOut cookie readAt)) := by
  unfold AccessTables.deleteSession
  split
  · refine accounts_kept logged ?_ rfl ?_ ?_
    · rfl
    · exact fun _ listed => listed
    · exact fun _ => rfl
  · exact accounts_kept logged rfl rfl (fun _ listed => listed) fun _ => rfl

theorem accounts_changePassword {adminId : AdminId} {passwordHash cookie : String} {doomed : String → Option Nat}
    {readAt : Nat} (logged : AccountsLogged hashToken tables)
    (changed : tables.changePassword adminId passwordHash doomed = some later) :
    AccountsLogged hashToken (later.record (.passwordChanged adminId cookie readAt)) := by
  unfold AccessTables.changePassword at changed
  split at changed
  · cases changed
    refine accounts_kept logged ?_ rfl ?_ ?_
    · rfl
    · intro one listed
      obtain ⟨row, member, rfl⟩ := List.mem_map.mp listed
      obtain ⟨old, held, same⟩ := List.mem_map.mp member
      refine List.mem_map.mpr ⟨old, held, ?_⟩
      rw [← same]
      split <;> rfl
    · exact fun _ => rfl
  · cases changed

theorem accounts_deleteAdmin (adminId : AdminId) (logged : AccountsLogged hashToken tables) :
    AccountsLogged hashToken ((tables.deleteAdmin adminId).record (.deleted adminId)) := by
  refine accounts_kept logged ?_ rfl ?_ ?_
  · rfl
  · intro one listed
    obtain ⟨row, member, rfl⟩ := List.mem_map.mp listed
    exact List.mem_map_of_mem (List.mem_filter.mp member).1
  · intro token
    unfold AccessTables.deleteAdmin
    rw [Option.map_map]
    rfl

theorem accounts_createInvite {invite cookie : String} {adminId : AdminId} {readAt : Nat} {now : Instant}
    (logged : AccountsLogged hashToken tables)
    (read : StageLogged hashToken tables.log (.authenticated adminId cookie readAt))
    (created : tables.createInvite invite adminId now = some later) :
    AccountsLogged hashToken (later.record (.invited invite adminId cookie readAt)) := by
  unfold AccessTables.createInvite at created
  split at created
  · cases created
  · rename_i free
    obtain ⟨fresh, known⟩ := not_or.mp free
    obtain ⟨_, openedAt, place, loggedIn⟩ := read
    cases created
    have absent : tables.invites invite = none := by simpa using fresh
    unfold AccessTables.record
    constructor
    · intro one listed
      exact trusted_append (logged.trusted one listed) _
    · intro one there
      dsimp only at there ⊢
      by_cases own : one = invite
      · rw [own]
        exact ⟨tables.log, adminId, cookie, readAt, [], openedAt, place, rfl, loggedIn,
          logged.trusted adminId (not_not.mp known)⟩
      · rw [Function.update_of_ne own] at there
        exact invited_append (logged.invited one there) _
    · intro one
      dsimp only
      rw [joins_concat rfl, ← logged.used]
      by_cases own : one = invite
      · rw [own, Function.update_self, absent]
        simp
      · rw [Function.update_of_ne own]
    · dsimp only
      rw [joins_concat rfl]
      exact logged.once

theorem accounts_setup {admin : Admin} (logged : AccountsLogged hashToken tables)
    (inserted : tables.insertAdmin admin = some later) :
    AccountsLogged hashToken (later.record (.joined admin.id none)) := by
  unfold AccessTables.insertAdmin at inserted
  split at inserted
  · cases inserted
  · cases inserted
    unfold AccessTables.record
    constructor
    · intro one listed
      obtain ⟨row, member, rfl⟩ := List.mem_map.mp listed
      rcases List.mem_append.mp member with old | new
      · exact trusted_append (logged.trusted row.id (List.mem_map_of_mem old)) _
      · rw [List.mem_singleton.mp new]
        exact .setup (by simp)
    · intro token there
      exact invited_append (logged.invited token there) _
    · intro token
      dsimp only
      rw [joins_concat rfl]
      exact logged.used token
    · dsimp only
      rw [joins_concat rfl]
      exact logged.once

/-- The invite was there and unused, so its account is the first it made. -/
theorem accounts_join {invite : String} {claimedAt : Instant} {admin : Admin} {claimed : AccessTables}
    (logged : AccountsLogged hashToken tables) (claims : tables.redeemInvite invite claimedAt = some claimed)
    (inserted : claimed.insertAdmin admin = some later) :
    AccountsLogged hashToken (later.record (.joined admin.id (some invite))) := by
  unfold AccessTables.redeemInvite at claims
  cases held : tables.invites invite with
  | none =>
    rw [held] at claims
    cases claims
  | some row =>
    rw [held] at claims
    dsimp only at claims
    split at claims
    · rename_i valid
      cases claims
      unfold AccessTables.insertAdmin at inserted
      split at inserted
      · cases inserted
      · cases inserted
        have joins : (tables.log ++ [AccessEvent.joined admin.id (some invite)]).filterMap AccessEvent.inviteUsed =
            tables.log.filterMap AccessEvent.inviteUsed ++ [invite] := by
          rw [List.filterMap_append]
          rfl
        have fresh : invite ∉ tables.log.filterMap AccessEvent.inviteUsed := by
          rw [← logged.used, held]
          intro ⟨usedAt, same⟩
          rw [Option.map_some, valid.1, Option.some.injEq] at same
          cases same
        unfold AccessTables.record
        constructor
        · intro one known
          obtain ⟨joined, member, rfl⟩ := List.mem_map.mp known
          rcases List.mem_append.mp member with old | new
          · exact trusted_append (logged.trusted joined.id (List.mem_map_of_mem old)) _
          · obtain ⟨earlier, inviter, cookie, readAt, rest, openedAt, place, split, loggedIn, chain⟩ :=
              logged.invited invite (by rw [held]; rfl)
            rw [List.mem_singleton.mp new]
            exact .invite rfl split loggedIn chain
        · intro token there
          dsimp only at there
          have before : (tables.invites token).isSome = true := by
            by_cases own : token = invite
            · rw [own, held]
              rfl
            · rwa [Function.update_of_ne own] at there
          exact invited_append (logged.invited token before) _
        · intro token
          dsimp only
          rw [joins, List.mem_append, List.mem_singleton, ← logged.used]
          by_cases own : token = invite
          · rw [own, Function.update_self]
            simp
          · rw [Function.update_of_ne own]
            simp [own]
        · dsimp only
          rw [joins, List.nodup_append]
          refine ⟨logged.once, List.nodup_singleton _, ?_⟩
          intro one listed other same
          rw [List.mem_singleton.mp same]
          exact fun equal => fresh (equal ▸ listed)
    · cases claims

theorem accounts_commit {stage : AccessStage} (logged : AccountsLogged hashToken tables)
    (read : StageLogged hashToken tables.log stage) (commits : Commits hashToken tables stage later) :
    AccountsLogged hashToken later := by
  cases commits with
  | nothing => exact logged
  | setup inserted created => exact accounts_createSession (accounts_setup logged inserted) created
  | login created => exact accounts_createSession logged created
  | logout cookie rowId readAt => exact accounts_deleteSession logged
  | invite created => exact accounts_createInvite logged read created
  | join claims inserted created => exact accounts_createSession (accounts_join logged claims inserted) created
  | password changed => exact accounts_changePassword logged changed
  | delete adminId => exact accounts_deleteAdmin adminId logged

end Accounts

section Cookies

variable {tables : AccessTables} {hashToken : String → String}

theorem find_admin {adminId : AdminId} (listed : adminId ∈ tables.ids) :
    (tables.admins.find? fun admin => admin.id = adminId).map Admin.id = some adminId := by
  obtain ⟨admin, member, same⟩ := List.mem_map.mp listed
  cases found : tables.admins.find? fun admin => admin.id = adminId with
  | none =>
    have differ := List.find?_eq_none.mp found admin member
    exact absurd (decide_eq_true same) differ
  | some other =>
    have own := List.find?_some found
    rw [decide_eq_true_eq] at own
    rw [Option.map_some, own]

theorem getCurrentAdmin_iff (logged : SessionsLogged hashToken tables) {token : String} {adminId : AdminId}
    {now : Instant} :
    (tables.getCurrentAdmin hashToken (some token) now).map Admin.id = some adminId ↔
      token ≠ "" ∧ ∃ openedAt place, now ≤ openedAt + sessionTtl ∧
        LoggedIn hashToken tables.log (hashToken token) adminId openedAt place := by
  unfold AccessTables.getCurrentAdmin AdminHub.getCurrentAdmin AdminHub.getAdminBySessionToken
  have sessions : tables.accounts.sessions (hashToken token) =
      (tables.sessions (hashToken token)).map SessionRow.toAdminSession := rfl
  dsimp only
  rw [sessions]
  simp only [← logged.held]
  by_cases empty : token = ""
  · simp [empty]
  · rw [if_neg empty]
    cases held : tables.sessions (hashToken token) with
    | none => simp
    | some row =>
      have listed := logged.lives _ row held
      have known : row.adminId ∈ tables.accounts.admins := List.mem_toFinset.mpr listed
      rw [Option.map_some]
      dsimp only
      by_cases expired : row.expiresAt < now
      · rw [if_pos expired]
        constructor
        · intro answered
          cases answered
        · intro ⟨_, openedAt, place, early, same⟩
          cases same
          exact absurd expired (Int.not_lt.mpr early)
      · rw [if_neg expired, if_pos known, Option.bind_some, find_admin listed]
        constructor
        · intro same
          refine ⟨empty, row.expiresAt - sessionTtl, row.id, ?_, ?_⟩
          · rw [Int.sub_add_cancel]
            exact Int.not_lt.mp expired
          · rw [← Option.some.inj same, opened_eq]
        · intro ⟨_, openedAt, place, _, same⟩
          cases same
          rfl

theorem authenticated_logged {token : Option String} {now : Instant} {admin : Admin}
    (logged : SessionsLogged hashToken tables) (answered : tables.getCurrentAdmin hashToken token now = some admin) :
    StageLogged hashToken tables.log (.authenticated admin.id (token.getD "") tables.log.length) := by
  cases token with
  | none => cases answered
  | some cookie =>
    obtain ⟨_, openedAt, place, _, loggedIn⟩ :=
      (getCurrentAdmin_iff logged).mp (congrArg (Option.map Admin.id) answered)
    refine ⟨Nat.le_refl _, openedAt, place, ?_⟩
    rw [List.take_length]
    exact loggedIn

end Cookies

section Stages

variable {hashToken : String → String} {tables later : AccessTables}

theorem insertAdmin_log {admin : Admin} (inserted : tables.insertAdmin admin = some later) :
    later.log = tables.log := by
  unfold AccessTables.insertAdmin at inserted
  split at inserted <;> cases inserted
  rfl

theorem createSession_log {tokenHash : String} {adminId : AdminId} {now : Instant}
    (created : tables.createSession tokenHash adminId now = some later) : later.log = tables.log := by
  unfold AccessTables.createSession at created
  split at created <;> cases created
  rfl

theorem deleteSession_log (tokenHash : String) (rowId : Nat) :
    (tables.deleteSession tokenHash rowId).log = tables.log := by
  unfold AccessTables.deleteSession
  split <;> rfl

theorem createInvite_log {invite : String} {adminId : AdminId} {now : Instant}
    (created : tables.createInvite invite adminId now = some later) : later.log = tables.log := by
  unfold AccessTables.createInvite at created
  split at created <;> cases created
  rfl

theorem redeemInvite_log {invite : String} {claimedAt : Instant}
    (claims : tables.redeemInvite invite claimedAt = some later) : later.log = tables.log := by
  unfold AccessTables.redeemInvite at claims
  split at claims
  · cases claims
  · split at claims <;> cases claims
    rfl

theorem changePassword_log {adminId : AdminId} {passwordHash : String} {doomed : String → Option Nat}
    (changed : tables.changePassword adminId passwordHash doomed = some later) : later.log = tables.log := by
  unfold AccessTables.changePassword at changed
  split at changed <;> cases changed
  rfl

theorem commit_log {stage : AccessStage} (commits : Commits hashToken tables stage later) :
    ∃ more, later.log = tables.log ++ more := by
  cases commits with
  | nothing => exact ⟨[], (List.append_nil _).symm⟩
  | setup inserted created =>
    dsimp only [AccessTables.record]
    rw [createSession_log created, AccessTables.record, insertAdmin_log inserted]
    exact ⟨_, List.append_assoc _ _ _⟩
  | login created => exact ⟨_, congrArg (· ++ _) (createSession_log created)⟩
  | logout cookie rowId readAt => exact ⟨_, congrArg (· ++ _) (deleteSession_log _ rowId)⟩
  | invite created => exact ⟨_, congrArg (· ++ _) (createInvite_log created)⟩
  | join claims inserted created =>
    dsimp only [AccessTables.record]
    rw [createSession_log created, AccessTables.record, insertAdmin_log inserted, redeemInvite_log claims]
    exact ⟨_, List.append_assoc _ _ _⟩
  | password changed => exact ⟨_, congrArg (· ++ _) (changePassword_log changed)⟩
  | delete adminId => exact ⟨_, rfl⟩

theorem stage_append {log : List AccessEvent} {stage : AccessStage} (read : StageLogged hashToken log stage)
    (more : List AccessEvent) : StageLogged hashToken (log ++ more) stage := by
  cases stage with
  | selected cookie rowId readAt =>
    dsimp only [StageLogged] at read ⊢
    rw [List.take_append_of_le_length read.1, List.length_append]
    exact ⟨Nat.le_add_right_of_le read.1, read.2⟩
  | authenticated adminId cookie readAt =>
    dsimp only [StageLogged] at read ⊢
    rw [List.take_append_of_le_length read.1, List.length_append]
    exact ⟨Nat.le_add_right_of_le read.1, read.2⟩
  | swept admin cookie doomed readAt =>
    dsimp only [StageLogged] at read ⊢
    rw [List.take_append_of_le_length read.1, List.length_append]
    exact ⟨Nat.le_add_right_of_le read.1, read.2⟩
  | received | checked | found | verified | claiming | changing | counted | located | answered => exact trivial

theorem stage_commit {stage other : AccessStage} (read : StageLogged hashToken tables.log other)
    (commits : Commits hashToken tables stage later) : StageLogged hashToken later.log other := by
  obtain ⟨more, log⟩ := commit_log commits
  rw [log]
  exact stage_append read more

theorem selected_logged {cookie : String} {row : SessionRow} (logged : SessionsLogged hashToken tables)
    (found : tables.sessions (hashToken cookie) = some row) :
    StageLogged hashToken tables.log (.selected cookie row.id tables.log.length) := by
  refine ⟨Nat.le_refl _, ?_⟩
  intro place
  simp only [List.take_length, ← logged.held, found, Option.some.injEq]
  constructor
  · intro same
    exact ⟨row.adminId, row.expiresAt - sessionTtl, by rw [same, opened_eq]⟩
  · intro ⟨adminId, openedAt, same⟩
    rw [same]
    rfl

theorem swept_logged {admin : Admin} {cookie : String} (logged : SessionsLogged hashToken tables) :
    StageLogged hashToken tables.log
      (.swept admin cookie (tables.otherSessions admin.id (hashToken cookie)) tables.log.length) := by
  refine ⟨Nat.le_refl _, ?_⟩
  intro tokenHash rowId
  simp only [List.take_length, ← logged.held]
  unfold AccessTables.otherSessions
  by_cases own : tokenHash = hashToken cookie
  · simp [own]
  · rw [if_neg own]
    cases held : tables.sessions tokenHash with
    | none => simp
    | some row =>
      simp only [Option.bind_some, ne_eq, own, not_false_eq_true, true_and, Option.some.injEq]
      constructor
      · intro listed
        split at listed
        · rename_i owner
          refine ⟨row.expiresAt - sessionTtl, ?_⟩
          rw [← owner, ← Option.some.inj listed, opened_eq]
        · cases listed
      · intro ⟨openedAt, same⟩
        rw [same]
        exact if_pos rfl

/-- What a turn has read, it has read in the log. -/
theorem serve_read {hasher : PasswordHasher} {request : AccessRequest} {now : Instant} {stage : AccessStage}
    (logged : SessionsLogged hashToken tables) (read : StageLogged hashToken tables.log stage) :
    StageLogged hashToken (tables.serve hasher hashToken request now stage).1.log
      (tables.serve hasher hashToken request now stage).2 := by
  unfold AccessTables.serve
  split
  case h_1 => split <;> [exact trivial; split <;> exact trivial]
  case h_2 =>
    unfold AccessTables.join
    split
    · exact trivial
    · dsimp only
      split <;> exact trivial
  case h_3 => split <;> exact trivial
  case h_4 => split <;> exact trivial
  case h_5 =>
    unfold AccessTables.logIn
    split <;> exact trivial
  case h_6 =>
    split
    · exact trivial
    · split
      · exact trivial
      · split
        · exact trivial
        · rename_i row found
          exact selected_logged logged found
  case h_7 => exact trivial
  case h_8 =>
    split
    · exact trivial
    · rename_i admin answered
      exact authenticated_logged logged answered
  case h_9 => split <;> exact trivial
  case h_10 => split <;> exact trivial
  case h_11 =>
    split
    · exact trivial
    · unfold AccessTables.join
      split
      · exact trivial
      · dsimp only
        split <;> exact trivial
  case h_12 => split <;> [exact trivial; split <;> exact trivial]
  case h_13 => split <;> exact trivial
  case h_14 => exact swept_logged logged
  case h_15 => split <;> exact trivial
  case h_16 =>
    split
    · exact trivial
    · rename_i admin answered
      exact authenticated_logged logged answered
  case h_17 => split <;> exact trivial
  case h_18 => split <;> exact trivial
  case h_19 => exact trivial
  case h_20 => exact read

structure AccessLogged {ι : Type u} (hashToken : String → String) (hub : AccessHub ι) : Prop where
  sessions : SessionsLogged hashToken hub.tables
  accounts : AccountsLogged hashToken hub.tables
  stages : ∀ request, StageLogged hashToken hub.tables.log (hub.stages request)

theorem installed_logged {ι : Type u} : AccessLogged hashToken ({} : AccessHub ι) := by
  constructor
  · constructor
    · intro tokenHash adminId openedAt place
      constructor
      · intro held
        cases held
      · intro loggedIn
        exact absurd loggedIn EventLog.not_since_nil
    · intro tokenHash row held
      cases held
  · constructor
    · intro adminId listed
      cases listed
    · intro token there
      cases there
    · intro token
      simp
    · exact List.nodup_nil
  · intro request
    exact trivial

end Stages

section Runs

variable {ι : Type u} [DecidableEq ι] (hasher : PasswordHasher) (hashToken : String → String)
  (requests : ι → AccessRequest)

theorem step_logged (hub : AccessHub ι) (turn : AccessTurn ι) (logged : AccessLogged hashToken hub) :
    AccessLogged hashToken (hub.step hasher hashToken requests turn) := by
  have read := logged.stages turn.request
  have commits := serve_commits hasher hashToken hub.tables (requests turn.request) turn.now
    (hub.stages turn.request)
  constructor
  · exact sessions_commit logged.sessions read commits
  · exact accounts_commit logged.accounts read commits
  · intro request
    unfold AccessHub.step
    dsimp only
    by_cases own : request = turn.request
    · rw [own, Function.update_self]
      exact serve_read logged.sessions read
    · rw [Function.update_of_ne own]
      exact stage_commit (logged.stages request) commits

theorem run_logged (turns : List (AccessTurn ι)) :
    AccessLogged hashToken (Runs.run (AccessHub.step hasher hashToken requests) {} turns) := by
  apply Runs.run_invariant (AccessLogged hashToken)
  · exact installed_logged
  · exact step_logged hasher hashToken requests

/-- A cookie is accepted as one of its admin's from the login that set it to the end of its 30 days, unless its own
    logout, a change of the admin's password in another session or the admin's deletion has ended it. -/
theorem cookie_answers_iff (turns : List (AccessTurn ι)) (token : String) (adminId : AdminId) (now : Instant) :
    let tables := (Runs.run (AccessHub.step hasher hashToken requests) {} turns).tables
    (tables.getCurrentAdmin hashToken (some token) now).map Admin.id = some adminId ↔
      token ≠ "" ∧ ∃ openedAt place, now ≤ openedAt + sessionTtl ∧
        LoggedIn hashToken tables.log (hashToken token) adminId openedAt place := by
  intro tables
  exact getCurrentAdmin_iff (run_logged hasher hashToken requests turns).sessions

/-- Whoever has an account or a cookie that is accepted was let in by a chain of invites from the setup page. -/
theorem admins_trusted (turns : List (AccessTurn ι)) (token : Option String) (now : Instant) :
    let tables := (Runs.run (AccessHub.step hasher hashToken requests) {} turns).tables
    (∀ admin ∈ tables.admins, Trusted hashToken tables.log admin.id) ∧
      ∀ admin, tables.getCurrentAdmin hashToken token now = some admin → Trusted hashToken tables.log admin.id := by
  intro tables
  have logged : AccountsLogged hashToken tables := (run_logged hasher hashToken requests turns).accounts
  have listed : ∀ admin ∈ tables.admins, Trusted hashToken tables.log admin.id :=
    fun admin member => logged.trusted admin.id (List.mem_map_of_mem member)
  constructor
  · exact listed
  · intro admin answered
    obtain ⟨adminId, _, found⟩ := Option.bind_eq_some_iff.mp answered
    exact listed admin (List.mem_of_find?_eq_some found)

/-- An invite is spent by the account it makes and by nothing else, so a submission that was refused leaves it
    open, and two accounts never share one. -/
theorem invite_spent_iff (turns : List (AccessTurn ι)) :
    let tables := (Runs.run (AccessHub.step hasher hashToken requests) {} turns).tables
    (∀ token, (∃ usedAt, (tables.invites token).map AdminInvite.usedAt = some (some usedAt)) ↔
        ∃ adminId, AccessEvent.joined adminId (some token) ∈ tables.log) ∧
      (tables.log.filterMap AccessEvent.inviteUsed).Nodup := by
  intro tables
  have logged : AccountsLogged hashToken tables := (run_logged hasher hashToken requests turns).accounts
  constructor
  · intro token
    rw [logged.used token, List.mem_filterMap]
    constructor
    · intro ⟨event, listed, used⟩
      cases event with
      | joined adminId invite => exact ⟨adminId, by rw [← used]; exact listed⟩
      | opened | loggedOut | passwordChanged | deleted | invited => cases used
    · intro ⟨adminId, listed⟩
      exact ⟨_, listed, rfl⟩
  · exact logged.once

end Runs

end TimekprProof
