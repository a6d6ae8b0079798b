import TimekprHub.Hub.FirstSetup

namespace TimekprModel

universe u

structure LoginRequest where
  email : String
  password : String
  rawToken : String
  deriving DecidableEq, Repr

structure PasswordChange where
  token : Option String
  currentPassword : String
  newPassword : String
  salt : String

/-- A row of admin_sessions, and as a ghost the password its login verified. -/
structure OpenedSession extends AdminSession where
  openedWith : String
  deriving DecidableEq, Repr

inductive LoginStage
  | received
  | found (admin : Admin)
  | verified (admin : Admin)
  | opened
  | refused
  | failed
  deriving DecidableEq, Repr

inductive ChangeStage
  | received
  | authenticated (admin : Admin)
  | verified (admin : Admin)
  | rehashed (admin : Admin) (passwordHash : String)
  /-- The other sessions are selected; the UPDATE and the DELETEs are not committed. -/
  | swept (admin : Admin) (passwordHash : String) (doomed : String → Bool)
  | changed (admin : Admin)
  | answered (status : Nat)

namespace ChangeStage

def swept? : ChangeStage → Option AdminId
  | .swept admin _ _ | .changed admin => some admin.id
  | .received | .authenticated _ | .verified _ | .rehashed _ _ | .answered _ => none

def changed? : ChangeStage → Option AdminId
  | .changed admin => some admin.id
  | .received | .authenticated _ | .verified _ | .rehashed _ _ | .swept _ _ _ | .answered _ => none

def doomed : ChangeStage → String → Bool
  | .swept _ _ doomed => doomed
  | .received | .authenticated _ | .verified _ | .rehashed _ _ | .changed _ | .answered _ => fun _ => false

end ChangeStage

structure PasswordHub (ι : Type u) where
  admins : List Admin
  sessions : String → Option OpenedSession
  change : ChangeStage := .received
  logins : ι → LoginStage := fun _ => .received

inductive PasswordTurn (ι : Type u)
  | login (login : ι) (now : Instant)
  | change (now : Instant)

namespace PasswordHub

variable {ι : Type u} (hasher : PasswordHasher) (hashToken : String → String)

def accounts (hub : PasswordHub ι) : AdminHub Empty where
  admins := (hub.admins.map Admin.id).toFinset
  sessions := fun tokenHash => (hub.sessions tokenHash).map OpenedSession.toAdminSession

def getCurrentAdmin (hub : PasswordHub ι) (token : Option String) (now : Instant) : Option Admin :=
  (hub.accounts.getCurrentAdmin hashToken token now).bind fun adminId =>
    hub.admins.find? fun admin => admin.id = adminId

def keepHash (change : PasswordChange) : String := hashToken (change.token.getD "")

def otherSessions (hub : PasswordHub ι) (adminId : AdminId) (keepHash tokenHash : String) : Bool :=
  (hub.sessions tokenHash).any (fun session => session.adminId = adminId) && tokenHash ≠ keepHash

/-- One statement of the change, or a stretch of argon2 work between two. -/
def changeStep (change : PasswordChange) (hub : PasswordHub ι) (now : Instant) : PasswordHub ι :=
  match hub.change with
  | .received =>
    match hub.getCurrentAdmin hashToken change.token now with
    | none => { hub with change := .answered 401 }
    | some admin =>
      if change.newPassword.length < 8 then { hub with change := .answered 422 }
      else { hub with change := .authenticated admin }
  | .authenticated admin =>
    if hasher.verify change.currentPassword admin.passwordHash then
      { hub with change := .verified admin }
    else { hub with change := .answered 401 }
  | .verified admin =>
    { hub with change := .rehashed admin (hasher.hash change.salt change.newPassword) }
  | .rehashed admin passwordHash =>
    { hub with
      change := .swept admin passwordHash (hub.otherSessions admin.id (keepHash hashToken change)) }
  | .swept admin passwordHash doomed =>
    { hub with
      change := .changed admin
      admins := hub.admins.map fun row => if row.id = admin.id then { row with passwordHash } else row
      sessions := fun tokenHash => if doomed tokenHash then none else hub.sessions tokenHash }
  | .changed _ | .answered _ => hub

variable [DecidableEq ι] (logins : ι → LoginRequest)

def moved (hub : PasswordHub ι) (login : ι) (stage : LoginStage) : PasswordHub ι :=
  { hub with logins := Function.update hub.logins login stage }

def opened (hub : PasswordHub ι) (login : ι) (admin : Admin) (tokenHash password : String)
    (now : Instant) : PasswordHub ι :=
  { hub.moved login .opened with
    sessions := Function.update hub.sessions tokenHash (some ⟨⟨admin.id, now + sessionTtl⟩, password⟩) }

def loginStep (hub : PasswordHub ι) (login : ι) (now : Instant) : PasswordHub ι :=
  let request := logins login
  match hub.logins login with
  | .received =>
    match hub.admins.find? fun admin => admin.email = request.email with
    | none => hub.moved login .refused
    | some admin => hub.moved login (.found admin)
  | .found admin =>
    if hasher.verify request.password admin.passwordHash then hub.moved login (.verified admin)
    else hub.moved login .refused
  | .verified admin =>
    match hub.sessions (hashToken request.rawToken) with
    | none => hub.opened login admin (hashToken request.rawToken) request.password now
    | some _ => hub.moved login .failed
  | .opened | .refused | .failed => hub

def step (change : PasswordChange) (hub : PasswordHub ι) : PasswordTurn ι → PasswordHub ι
  | .login login now => hub.loginStep hasher hashToken logins login now
  | .change now => hub.changeStep hasher hashToken change now

/-- No session is committed after the change has selected the ones to delete by a login that verified
    another hash than the new one, unless its password is the new one all the same. -/
def NoStaleLogin (change : PasswordChange) (hub : PasswordHub ι) (turn : PasswordTurn ι) : Prop :=
  ∀ login now admin, turn = .login login now → hub.logins login = .verified admin →
    hub.change.swept? = some admin.id → hub.sessions (hashToken (logins login).rawToken) = none →
    admin.passwordHash ≠ hasher.hash change.salt change.newPassword →
      (logins login).password = change.newPassword

omit [DecidableEq ι] in
/-- Every session of the admin but the changing one was opened with the new password. -/
def OnlyNewSessions (change : PasswordChange) (adminId : AdminId) (hub : PasswordHub ι) : Prop :=
  ∀ tokenHash session, hub.sessions tokenHash = some session → session.adminId = adminId →
    tokenHash ≠ keepHash hashToken change → session.openedWith = change.newPassword

end PasswordHub

def annsHub : PasswordHub Unit where
  admins := [⟨"ann", "ann@home", "old-secret"⟩]
  sessions := fun tokenHash =>
    if tokenHash = "desk" then some ⟨⟨"ann", 1000⟩, "old-secret"⟩ else none

def annsChange : PasswordChange := ⟨some "desk", "old-secret", "new-secret", ""⟩

end TimekprModel

namespace TimekprProof

open TimekprModel

universe u

variable {ι : Type u} {hasher : PasswordHasher} {hashToken : String → String} {change : PasswordChange}
  {logins : ι → LoginRequest} {hub : PasswordHub ι}

def Swept (hashToken : String → String) (change : PasswordChange) (hub : PasswordHub ι) : Prop :=
  ∀ adminId, hub.change.swept? = some adminId → ∀ tokenHash session,
    hub.sessions tokenHash = some session → session.adminId = adminId →
    tokenHash ≠ PasswordHub.keepHash hashToken change → hub.change.doomed tokenHash = false →
      session.openedWith = change.newPassword

def Underway : ChangeStage → Prop
  | .received | .answered _ => False
  | .authenticated _ | .verified _ | .rehashed _ _ | .swept _ _ _ | .changed _ => True

structure LoginsChecked (hasher : PasswordHasher) (hashToken : String → String) (change : PasswordChange)
    (logins : ι → LoginRequest) (hub : PasswordHub ι) : Prop where
  verified : ∀ login admin, hub.logins login = .verified admin →
    hasher.verify (logins login).password admin.passwordHash = true
  kept : Underway hub.change → hub.sessions (PasswordHub.keepHash hashToken change) ≠ none
  doomed : ∀ tokenHash, hub.change.doomed tokenHash = true → hub.sessions tokenHash ≠ none
  spared : hub.change.doomed (PasswordHub.keepHash hashToken change) = false

theorem current_admin_session {now : Instant} {admin : Admin}
    (current : hub.getCurrentAdmin hashToken change.token now = some admin) :
    hub.sessions (PasswordHub.keepHash hashToken change) ≠ none := by
  intro absent
  unfold PasswordHub.getCurrentAdmin AdminHub.getCurrentAdmin at current
  unfold PasswordHub.keepHash at absent
  cases token : change.token with
  | none => simp [token] at current
  | some rawToken =>
    simp only [token, Option.getD_some] at absent current
    by_cases blank : rawToken = ""
    · simp [blank] at current
    · simp [blank, AdminHub.getAdminBySessionToken, PasswordHub.accounts, absent] at current

theorem swept_underway {stage : ChangeStage} {adminId : AdminId} (swept : stage.swept? = some adminId) :
    Underway stage := by
  cases stage <;> simp_all [ChangeStage.swept?, Underway]

theorem change_step_checked (checked : LoginsChecked hasher hashToken change logins hub) (now : Instant) :
    LoginsChecked hasher hashToken change logins (hub.changeStep hasher hashToken change now) := by
  unfold PasswordHub.changeStep
  cases stage : hub.change with
  | received =>
    simp only
    split
    · exact ⟨checked.verified, False.elim, by simp [ChangeStage.doomed], rfl⟩
    · rename_i admin current
      split
      · exact ⟨checked.verified, False.elim, by simp [ChangeStage.doomed], rfl⟩
      · exact ⟨checked.verified, fun _ => current_admin_session current, by simp [ChangeStage.doomed], rfl⟩
  | authenticated admin =>
    have kept := checked.kept (by simp [stage, Underway])
    simp only
    split
    · exact ⟨checked.verified, fun _ => kept, by simp [ChangeStage.doomed], rfl⟩
    · exact ⟨checked.verified, False.elim, by simp [ChangeStage.doomed], rfl⟩
  | verified admin =>
    have kept := checked.kept (by simp [stage, Underway])
    exact ⟨checked.verified, fun _ => kept, by simp [ChangeStage.doomed], rfl⟩
  | rehashed admin passwordHash =>
    have kept := checked.kept (by simp [stage, Underway])
    refine ⟨checked.verified, fun _ => kept, ?_, ?_⟩
    · intro tokenHash selected absent
      have missing : hub.sessions tokenHash = none := absent
      simp [ChangeStage.doomed, PasswordHub.otherSessions, missing] at selected
    · simp [ChangeStage.doomed, PasswordHub.otherSessions]
  | swept admin passwordHash doomed =>
    have kept := checked.kept (by simp [stage, Underway])
    have spared := checked.spared
    rw [stage] at spared
    simp only [ChangeStage.doomed] at spared
    refine ⟨checked.verified, fun _ => ?_, by simp [ChangeStage.doomed], rfl⟩
    simpa only [spared, Bool.false_eq_true, if_false] using kept
  | changed admin =>
    simp only
    exact checked
  | answered status =>
    simp only
    exact checked

theorem change_step_swept_iff (hub : PasswordHub ι) (now : Instant) :
    Swept hashToken change (hub.changeStep hasher hashToken change now) ↔ Swept hashToken change hub := by
  have early : ∀ later : PasswordHub ι, later.change.swept? = none → hub.change.swept? = none →
      (Swept hashToken change later ↔ Swept hashToken change hub) := by
    intro later after before
    simp [Swept, after, before]
  unfold PasswordHub.changeStep
  cases stage : hub.change with
  | received =>
    have before : hub.change.swept? = none := by rw [stage]; rfl
    simp only
    split
    · exact early _ rfl before
    · split
      · exact early _ rfl before
      · exact early _ rfl before
  | authenticated admin =>
    have before : hub.change.swept? = none := by rw [stage]; rfl
    simp only
    split
    · exact early _ rfl before
    · exact early _ rfl before
  | verified admin => exact early _ rfl (by rw [stage]; rfl)
  | rehashed admin passwordHash =>
    have before : hub.change.swept? = none := by rw [stage]; rfl
    simp only
    constructor
    · intro _ adminId swept
      rw [before] at swept
      cases swept
    · intro _ adminId swept tokenHash session held own differs undoomed
      simp only [ChangeStage.swept?, Option.some.injEq] at swept
      simp only at held
      simp [ChangeStage.doomed, PasswordHub.otherSessions, held, own, swept, differs] at undoomed
  | swept admin passwordHash doomed =>
    simp only [Swept, stage, ChangeStage.swept?, ChangeStage.doomed]
    constructor
    · intro after adminId same tokenHash session held own differs undoomed
      apply after adminId same tokenHash session _ own differs trivial
      simpa only [undoomed, Bool.false_eq_true, if_false] using held
    · intro before adminId same tokenHash session held own differs _
      cases selected : doomed tokenHash with
      | true =>
        simp only [selected, if_true] at held
        cases held
      | false =>
        simp only [selected, Bool.false_eq_true, if_false] at held
        exact before adminId same tokenHash session held own differs selected
  | changed admin => exact Iff.rfl
  | answered status => exact Iff.rfl

section Login

variable [DecidableEq ι]

theorem login_step_cases (login : ι) (now : Instant) :
    (∃ admin, hub.logins login = .verified admin ∧
        hub.sessions (hashToken (logins login).rawToken) = none ∧
        hub.loginStep hasher hashToken logins login now =
          hub.opened login admin (hashToken (logins login).rawToken) (logins login).password now) ∨
      ((∀ admin, hub.logins login = .verified admin →
          hub.sessions (hashToken (logins login).rawToken) ≠ none) ∧
        (hub.loginStep hasher hashToken logins login now).sessions = hub.sessions ∧
        (hub.loginStep hasher hashToken logins login now).change = hub.change) := by
  unfold PasswordHub.loginStep
  cases stage : hub.logins login with
  | received =>
    refine Or.inr ⟨by simp, ?_⟩
    simp only
    split
    · exact ⟨rfl, rfl⟩
    · exact ⟨rfl, rfl⟩
  | found admin =>
    refine Or.inr ⟨by simp, ?_⟩
    simp only
    split
    · exact ⟨rfl, rfl⟩
    · exact ⟨rfl, rfl⟩
  | verified admin =>
    simp only
    cases taken : hub.sessions (hashToken (logins login).rawToken) with
    | none => exact Or.inl ⟨admin, rfl, rfl, rfl⟩
    | some session => exact Or.inr ⟨by simp, rfl, rfl⟩
  | opened => exact Or.inr ⟨by simp, rfl, rfl⟩
  | refused => exact Or.inr ⟨by simp, rfl, rfl⟩
  | failed => exact Or.inr ⟨by simp, rfl, rfl⟩

theorem login_step_verified (checked : LoginsChecked hasher hashToken change logins hub) (login : ι)
    (now : Instant) (other : ι) (admin : Admin)
    (verified : (hub.loginStep hasher hashToken logins login now).logins other = .verified admin) :
    hasher.verify (logins other).password admin.passwordHash = true := by
  have kept : ∀ stage, (∀ held, stage = LoginStage.verified held →
      hasher.verify (logins login).password held.passwordHash = true) →
      (hub.moved login stage).logins other = .verified admin →
        hasher.verify (logins other).password admin.passwordHash = true := by
    intro stage own moved
    by_cases same : other = login
    · subst same
      simp only [PasswordHub.moved, Function.update_self] at moved
      exact own admin moved
    · simp only [PasswordHub.moved, Function.update_of_ne same] at moved
      exact checked.verified other admin moved
  unfold PasswordHub.loginStep at verified
  cases stage : hub.logins login with
  | received =>
    simp only [stage] at verified
    split at verified
    · exact kept .refused (by simp) verified
    · exact kept (.found _) (by simp) verified
  | found held =>
    simp only [stage] at verified
    split at verified
    · rename_i passes
      refine kept (.verified held) ?_ verified
      intro held' same
      cases same
      exact passes
    · exact kept .refused (by simp) verified
  | verified held =>
    simp only [stage] at verified
    split at verified
    · exact kept .opened (by simp) verified
    · exact kept .failed (by simp) verified
  | opened | refused | failed =>
    simp only [stage] at verified
    exact checked.verified other admin verified

theorem login_step_checked (checked : LoginsChecked hasher hashToken change logins hub) (login : ι)
    (now : Instant) :
    LoginsChecked hasher hashToken change logins (hub.loginStep hasher hashToken logins login now) := by
  have verified := login_step_verified checked login now
  rcases @login_step_cases ι hasher hashToken logins hub _ login now with
    ⟨admin, _, _, opened⟩ | ⟨_, sessions, same⟩
  · have still : ∀ tokenHash, hub.sessions tokenHash ≠ none →
        (hub.loginStep hasher hashToken logins login now).sessions tokenHash ≠ none := by
      intro tokenHash held
      rw [opened]
      by_cases own : tokenHash = hashToken (logins login).rawToken
      · subst own
        simp [PasswordHub.opened]
      · simpa only [PasswordHub.opened, PasswordHub.moved, Function.update_of_ne own] using held
    have same : (hub.loginStep hasher hashToken logins login now).change = hub.change := by
      rw [opened]
      rfl
    refine ⟨verified, ?_, ?_, ?_⟩
    · rw [same]
      exact fun underway => still _ (checked.kept underway)
    · rw [same]
      exact fun tokenHash doomed => still _ (checked.doomed tokenHash doomed)
    · rw [same]
      exact checked.spared
  · refine ⟨verified, ?_, ?_, ?_⟩
    · rw [sessions, same]
      exact checked.kept
    · rw [sessions, same]
      exact checked.doomed
    · rw [same]
      exact checked.spared

theorem password_step_checked (checked : LoginsChecked hasher hashToken change logins hub)
    (turn : PasswordTurn ι) :
    LoginsChecked hasher hashToken change logins (hub.step hasher hashToken logins change turn) := by
  cases turn with
  | login login now => exact login_step_checked checked login now
  | change now => exact change_step_checked checked now

theorem login_step_swept_iff (checked : LoginsChecked hasher hashToken change logins hub) (login : ι)
    (now : Instant) :
    Swept hashToken change (hub.loginStep hasher hashToken logins login now) ↔
      Swept hashToken change hub ∧ hub.NoStaleLogin hasher hashToken logins change (.login login now) := by
  rcases @login_step_cases ι hasher hashToken logins hub _ login now with
    ⟨admin, verified, free, opened⟩ | ⟨blocked, sessions, same⟩
  · have apart : ∀ tokenHash session, hub.sessions tokenHash = some session →
        tokenHash ≠ hashToken (logins login).rawToken := by
      intro tokenHash session held own
      rw [own, free] at held
      cases held
    rw [opened]
    constructor
    · intro after
      constructor
      · intro adminId swept tokenHash session held own differs undoomed
        apply after adminId swept tokenHash session _ own differs undoomed
        simpa only [PasswordHub.opened, Function.update_of_ne (apart tokenHash session held)] using held
      · intro login' now' admin' turn verified' swept _ _
        cases turn
        rw [verified] at verified'
        cases verified'
        -- The row just inserted is the admin's, is not the changing session's and is not selected.
        have kept := checked.kept (swept_underway swept)
        apply after admin.id swept (hashToken (logins login).rawToken) ⟨⟨admin.id, now + sessionTtl⟩, _⟩
        · simp only [PasswordHub.opened, Function.update_self]
        · rfl
        · intro keep
          rw [← keep] at kept
          exact kept free
        · have undoomed := mt (checked.doomed (hashToken (logins login).rawToken)) (not_not.mpr free)
          exact Bool.eq_false_iff.mpr undoomed
    · intro before adminId swept tokenHash session held own differs undoomed
      obtain ⟨clean, fresh⟩ := before
      by_cases inserted : tokenHash = hashToken (logins login).rawToken
      · subst inserted
        simp only [PasswordHub.opened, Function.update_self, Option.some.injEq] at held
        subst held
        simp only at own
        subst own
        by_cases current : admin.passwordHash = hasher.hash change.salt change.newPassword
        · have passed := checked.verified login admin verified
          rw [current] at passed
          exact (hasher.verify_hash _ _ _).mp passed
        · exact fresh login now admin rfl verified swept free current
      · simp only [PasswordHub.opened, Function.update_of_ne inserted] at held
        exact clean adminId swept tokenHash session held own differs undoomed
  · have fresh : hub.NoStaleLogin hasher hashToken logins change (.login login now) := by
      intro login' now' admin turn verified _ free
      cases turn
      exact absurd free (blocked admin verified)
    simp only [Swept, sessions, same, fresh, and_true]

theorem password_step_swept_iff (checked : LoginsChecked hasher hashToken change logins hub)
    (turn : PasswordTurn ι) :
    Swept hashToken change (hub.step hasher hashToken logins change turn) ↔
      Swept hashToken change hub ∧ hub.NoStaleLogin hasher hashToken logins change turn := by
  cases turn with
  | login login now => exact login_step_swept_iff checked login now
  | change now =>
    have fresh : hub.NoStaleLogin hasher hashToken logins change (.change now) := by
      intro login now' admin turn
      cases turn
    simp only [PasswordHub.step, change_step_swept_iff hub now, fresh, and_true]

end Login

theorem changed_swept {adminId : AdminId} (changed : hub.change.changed? = some adminId) :
    hub.change.swept? = some adminId ∧ hub.change.doomed = fun _ => false := by
  cases stage : hub.change with
  | changed admin =>
    rw [stage] at changed
    exact ⟨changed, rfl⟩
  | received | authenticated | verified | rehashed | swept | answered =>
    rw [stage] at changed
    cases changed

theorem swept_changed_iff {adminId : AdminId} (changed : hub.change.changed? = some adminId) :
    Swept hashToken change hub ↔ hub.OnlyNewSessions hashToken change adminId := by
  obtain ⟨swept, undoomed⟩ := changed_swept changed
  constructor
  · intro clean tokenHash session held own differs
    exact clean adminId swept tokenHash session held own differs (by rw [undoomed])
  · intro only other swept' tokenHash session held own differs _
    rw [swept] at swept'
    cases swept'
    exact only tokenHash session held own differs

/-- Once the change is committed, only the new password's sessions are left beside the changing one
    exactly when no login of an older hash has been committed after the sweep. -/
theorem password_change_iff [DecidableEq ι] (hasher : PasswordHasher) (hashToken : String → String)
    (logins : ι → LoginRequest) (change : PasswordChange) (admins : List Admin)
    (sessions : String → Option OpenedSession) (turns : List (PasswordTurn ι)) (adminId : AdminId)
    (changed : (Runs.run (PasswordHub.step hasher hashToken logins change) { admins, sessions }
      turns).change.changed? = some adminId) :
    (Runs.run (PasswordHub.step hasher hashToken logins change) { admins, sessions }
        turns).OnlyNewSessions hashToken change adminId ↔
      Runs.StepsMeet (PasswordHub.step hasher hashToken logins change)
        (PasswordHub.NoStaleLogin hasher hashToken logins change) { admins, sessions } turns := by
  have unbegun : LoginsChecked hasher hashToken change logins ({ admins, sessions } : PasswordHub ι) := by
    refine ⟨?_, False.elim, ?_, rfl⟩
    · intro _ _ verified
      cases verified
    · intro _ doomed
      cases doomed
  have whole := Runs.run_iff_of_steps (Swept hashToken change)
    (LoginsChecked hasher hashToken change logins)
    (fun _ turn checked => password_step_checked checked turn)
    (fun _ turn checked => password_step_swept_iff checked turn) unbegun turns
  rw [← swept_changed_iff changed, whole]
  apply and_iff_right
  intro _ swept
  cases swept

/-- The login is done before the change begins. -/
theorem password_change_iff_in_turn :
    (Runs.run (PasswordHub.step plainHasher id (fun _ => ⟨"ann@home", "old-secret", "sofa"⟩) annsChange)
        annsHub (([.login (), .login (), .login (), .change, .change, .change, .change, .change]
          : List (Instant → PasswordTurn Unit)).map fun turn => turn 0)).OnlyNewSessions id annsChange "ann" ↔
      Runs.StepsMeet (PasswordHub.step plainHasher id (fun _ => ⟨"ann@home", "old-secret", "sofa"⟩) annsChange)
        (PasswordHub.NoStaleLogin plainHasher id (fun _ => ⟨"ann@home", "old-secret", "sofa"⟩) annsChange)
        annsHub (([.login (), .login (), .login (), .change, .change, .change, .change, .change]
          : List (Instant → PasswordTurn Unit)).map fun turn => turn 0) :=
  password_change_iff plainHasher id _ annsChange _ _ _ "ann" (by decide)

/-- The login has verified the old hash, and its session comes when the others have been selected. -/
theorem old_password_session_survives :
    let hub := Runs.run
      (PasswordHub.step plainHasher id (fun _ => ⟨"ann@home", "old-secret", "sofa"⟩) annsChange) annsHub
      (([.login (), .login (), .change, .change, .change, .change, .change, .login ()]
        : List (Instant → PasswordTurn Unit)).map fun turn => turn 0)
    hub.change.changed? = some "ann" ∧ hub.logins () = .opened ∧
      ¬hub.OnlyNewSessions id annsChange "ann" := by
  intro hub
  refine ⟨by decide, by decide, ?_⟩
  intro only
  have same := only "sofa" ⟨⟨"ann", sessionTtl⟩, "old-secret"⟩ (by decide) rfl (by decide)
  exact absurd same (by decide)

end TimekprProof
