import TimekprHub.Hub.AdminDeletion

namespace TimekprModel

universe u

structure Admin where
  id : AdminId
  email : String
  passwordHash : String
  deriving DecidableEq, Repr

/-- argon2: a salted hash, which only the password it was made of verifies. -/
structure PasswordHasher where
  hash : String → String → String
  verify : String → String → Bool
  verify_hash : ∀ password salt other, verify other (hash salt password) = true ↔ other = password

def sessionTtl : Int := 30 * 24 * 3600 * second

structure SetupRequest where
  email : String
  password : String
  id : AdminId
  salt : String
  rawToken : String

inductive SetupStage
  | received
  /-- `any_admin_exists` has answered no. -/
  | checked
  | hashed (passwordHash : String)
  /-- The INSERT has run and is not committed. -/
  | inserted (admin : Admin)
  | answered (status : Nat)
  deriving DecidableEq, Repr

/-- The committed rows, the emails of rows inserted and not committed, and the submissions. As ghosts, how
    many submissions have been committed, and how many had been when a submission's check ran. -/
structure SetupHub (ι : Type u) where
  admins : List Admin := []
  sessions : String → Option AdminSession := fun _ => none
  inserting : List String := []
  stages : ι → SetupStage := fun _ => .received
  commits : Nat := 0
  checkedAt : ι → Nat := fun _ => 0

structure SetupTurn (ι : Type u) where
  request : ι
  now : Instant

namespace SetupHub

variable {ι : Type u}

def anyAdminExists (hub : SetupHub ι) : Bool := !hub.admins.isEmpty

variable [DecidableEq ι]

def moved (hub : SetupHub ι) (request : ι) (stage : SetupStage) : SetupHub ι :=
  { hub with stages := Function.update hub.stages request stage }

def commit (hub : SetupHub ι) (request : ι) (admin : Admin) (tokenHash : String) (now : Instant) :
    SetupHub ι :=
  { hub.moved request (.answered 303) with
    admins := hub.admins ++ [admin]
    sessions := Function.update hub.sessions tokenHash (some ⟨admin.id, now + sessionTtl⟩)
    inserting := hub.inserting.erase admin.email
    commits := hub.commits + 1 }

variable (hasher : PasswordHasher) (hashToken : String → String) (requests : ι → SetupRequest)

/-- One statement of one submission: each sees what is committed when it runs. -/
def step (hub : SetupHub ι) (turn : SetupTurn ι) : SetupHub ι :=
  let request := requests turn.request
  match hub.stages turn.request with
  | .received =>
    if request.password.length < 8 then hub.moved turn.request (.answered 422)
    else if hub.anyAdminExists then hub.moved turn.request (.answered 404)
    else
      { hub.moved turn.request .checked with
        checkedAt := Function.update hub.checkedAt turn.request hub.commits }
  | .checked => hub.moved turn.request (.hashed (hasher.hash request.salt request.password))
  | .hashed passwordHash =>
    -- Another transaction has inserted the email: wait for it.
    if request.email ∈ hub.inserting then hub
    else if request.email ∈ hub.admins.map Admin.email then hub.moved turn.request (.answered 500)
    else
      { hub.moved turn.request (.inserted ⟨request.id, request.email, passwordHash⟩) with
        inserting := request.email :: hub.inserting }
  | .inserted admin =>
    match hub.sessions (hashToken request.rawToken) with
    | none => hub.commit turn.request admin (hashToken request.rawToken) turn.now
    | some _ =>
      { hub.moved turn.request (.answered 500) with inserting := hub.inserting.erase admin.email }
  | .answered _ => hub

/-- A submission about to be committed: no other has been since it ran its check. -/
def UnwonSinceCheck (hub : SetupHub ι) (turn : SetupTurn ι) : Prop :=
  ∀ admin, hub.stages turn.request = .inserted admin →
    hub.sessions (hashToken (requests turn.request).rawToken) = none →
      hub.commits = hub.checkedAt turn.request

omit [DecidableEq ι] in
def WonOnce (hub : SetupHub ι) : Prop :=
  hub.admins.length ≤ 1 ∧
    ∀ one other, hub.stages one = .answered 303 → hub.stages other = .answered 303 → one = other

end SetupHub

def plainHasher : PasswordHasher where
  hash _ password := password
  verify password passwordHash := decide (password = passwordHash)
  verify_hash := by
    intro password salt other
    exact decide_eq_true_iff

def claimants (second : Bool) : SetupRequest :=
  if second then ⟨"ben@home", "hunter2hunter2", "ben", "", "ben"⟩
  else ⟨"ann@home", "correcthorse", "ann", "", "ann"⟩

def setupTurns (order : List Bool) : List (SetupTurn Bool) := order.map fun request => ⟨request, 0⟩

end TimekprModel

namespace TimekprProof

open TimekprModel

universe u

variable {ι : Type u}

/-- Each commit is an admin row and a success stands for one, and a check that passed found none. -/
structure Rowed (hub : SetupHub ι) : Prop where
  rows : hub.commits = hub.admins.length
  success : ∀ request, hub.stages request = .answered 303 → hub.admins ≠ []
  checked : ∀ request, hub.checkedAt request = 0

section Step

variable [DecidableEq ι] (hasher : PasswordHasher) (hashToken : String → String)
  (requests : ι → SetupRequest) {hub : SetupHub ι}

theorem setup_moved_success (request : ι) {stage : SetupStage} (unanswered : stage ≠ .answered 303)
    (other : ι) (success : (hub.moved request stage).stages other = .answered 303) :
    hub.stages other = .answered 303 := by
  by_cases own : other = request
  · subst own
    simp only [SetupHub.moved, Function.update_self] at success
    exact absurd success unanswered
  · simpa only [SetupHub.moved, Function.update_of_ne own] using success

theorem setup_moved_kept (request : ι) {stage : SetupStage} (pending : hub.stages request ≠ .answered 303)
    (other : ι) (success : hub.stages other = .answered 303) :
    (hub.moved request stage).stages other = .answered 303 := by
  have differs : other ≠ request := by
    intro own
    subst own
    exact pending success
  simpa only [SetupHub.moved, Function.update_of_ne differs] using success

structure Quiet (hub next : SetupHub ι) : Prop where
  admins : next.admins = hub.admins
  commits : next.commits = hub.commits
  successes : ∀ request, next.stages request = .answered 303 ↔ hub.stages request = .answered 303
  checked : ∀ request, next.checkedAt request = hub.checkedAt request ∨
    hub.admins = [] ∧ next.checkedAt request = hub.commits

omit [DecidableEq ι] in
theorem quiet_refl (hub : SetupHub ι) : Quiet hub hub :=
  ⟨rfl, rfl, fun _ => Iff.rfl, fun _ => .inl rfl⟩

theorem quiet_moved (turn : SetupTurn ι) {stage : SetupStage} (unanswered : stage ≠ .answered 303)
    (pending : hub.stages turn.request ≠ .answered 303) : Quiet hub (hub.moved turn.request stage) := by
  refine ⟨rfl, rfl, ?_, fun _ => .inl rfl⟩
  intro request
  exact ⟨setup_moved_success turn.request unanswered request, setup_moved_kept turn.request pending request⟩

theorem quiet_checked (turn : SetupTurn ι) (pending : hub.stages turn.request ≠ .answered 303)
    (none : hub.anyAdminExists = false) :
    Quiet hub { hub.moved turn.request .checked with
      checkedAt := Function.update hub.checkedAt turn.request hub.commits } := by
  have moved := quiet_moved turn (by simp : SetupStage.checked ≠ .answered 303) pending
  refine ⟨rfl, rfl, moved.successes, ?_⟩
  intro request
  by_cases own : request = turn.request
  · subst own
    have empty : hub.admins = [] := by simpa [SetupHub.anyAdminExists] using none
    exact .inr ⟨empty, Function.update_self ..⟩
  · exact .inl (Function.update_of_ne own ..)

theorem setup_step_cases (turn : SetupTurn ι) :
    (∃ admin, hub.stages turn.request = .inserted admin ∧
        hub.sessions (hashToken (requests turn.request).rawToken) = none ∧
        hub.step hasher hashToken requests turn =
          hub.commit turn.request admin (hashToken (requests turn.request).rawToken) turn.now) ∨
      (∀ admin, hub.stages turn.request = .inserted admin →
          hub.sessions (hashToken (requests turn.request).rawToken) ≠ none) ∧
        Quiet hub (hub.step hasher hashToken requests turn) := by
  unfold SetupHub.step
  cases stage : hub.stages turn.request with
  | received =>
    have pending : hub.stages turn.request ≠ .answered 303 := by simp [stage]
    refine Or.inr ⟨by simp, ?_⟩
    simp only
    split
    · exact quiet_moved turn (by simp) pending
    · split
      · exact quiet_moved turn (by simp) pending
      · rename_i none
        exact quiet_checked turn pending (Bool.eq_false_of_not_eq_true none)
  | checked =>
    have pending : hub.stages turn.request ≠ .answered 303 := by simp [stage]
    exact Or.inr ⟨by simp, quiet_moved turn (by simp) pending⟩
  | hashed passwordHash =>
    have pending : hub.stages turn.request ≠ .answered 303 := by simp [stage]
    refine Or.inr ⟨by simp, ?_⟩
    simp only
    split
    · exact quiet_refl hub
    · split
      · exact quiet_moved turn (by simp) pending
      · have unanswered : ∀ admin, SetupStage.inserted admin ≠ .answered 303 := by simp
        let admin : Admin := ⟨(requests turn.request).id, (requests turn.request).email, passwordHash⟩
        have moved := quiet_moved turn (unanswered admin) pending
        exact ⟨rfl, rfl, moved.successes, moved.checked⟩
  | inserted admin =>
    have pending : hub.stages turn.request ≠ .answered 303 := by simp [stage]
    simp only
    cases taken : hub.sessions (hashToken (requests turn.request).rawToken) with
    | none => exact Or.inl ⟨admin, rfl, rfl, rfl⟩
    | some session =>
      have moved := quiet_moved turn (by simp : SetupStage.answered 500 ≠ .answered 303) pending
      exact Or.inr ⟨by simp, rfl, rfl, moved.successes, moved.checked⟩
  | answered status => exact Or.inr ⟨by simp, quiet_refl hub⟩

theorem step_rowed (rowed : Rowed hub) (turn : SetupTurn ι) :
    Rowed (hub.step hasher hashToken requests turn) := by
  rcases setup_step_cases hasher hashToken requests turn with ⟨admin, _, _, committed⟩ | ⟨_, quiet⟩
  · rw [committed]
    refine ⟨?_, ?_, rowed.checked⟩
    · simp [SetupHub.commit, rowed.rows]
    · intro request _
      simp [SetupHub.commit]
  · refine ⟨?_, ?_, ?_⟩
    · rw [quiet.commits, quiet.admins, rowed.rows]
    · intro request success
      rw [quiet.admins]
      exact rowed.success request ((quiet.successes request).mp success)
    · intro request
      rcases quiet.checked request with same | ⟨empty, now⟩
      · rw [same, rowed.checked]
      · rw [now, rowed.rows, empty, List.length_nil]

omit [DecidableEq ι] in
/-- What the check found still holds exactly when nobody has won since. -/
theorem unwon_iff_unclaimed (rowed : Rowed hub) {turn : SetupTurn ι} {admin : Admin}
    (inserted : hub.stages turn.request = .inserted admin)
    (free : hub.sessions (hashToken (requests turn.request).rawToken) = none) :
    hub.UnwonSinceCheck hashToken requests turn ↔ hub.admins = [] := by
  rw [← List.length_eq_zero_iff, ← rowed.rows, ← rowed.checked turn.request]
  constructor
  · intro unwon
    exact unwon admin inserted free
  · intro same _ _ _
    exact same

theorem step_won_once_iff (rowed : Rowed hub) (turn : SetupTurn ι) :
    (hub.step hasher hashToken requests turn).WonOnce ↔
      hub.WonOnce ∧ hub.UnwonSinceCheck hashToken requests turn := by
  rcases setup_step_cases hasher hashToken requests turn with ⟨admin, inserted, free, committed⟩ | ⟨blocked, quiet⟩
  · rw [committed, unwon_iff_unclaimed hashToken requests rowed inserted free]
    constructor
    · intro won
      have single := won.1
      simp only [SetupHub.commit, List.length_append, List.length_singleton] at single
      have empty : hub.admins = [] := List.eq_nil_of_length_eq_zero (by omega)
      refine ⟨⟨by simp [empty], ?_⟩, empty⟩
      intro one _ success _
      exact absurd empty (rowed.success one success)
    · intro before
      obtain ⟨_, empty⟩ := before
      have only : ∀ one, (hub.moved turn.request (.answered 303)).stages one = .answered 303 →
          one = turn.request := by
        intro one success
        by_cases own : one = turn.request
        · exact own
        · simp only [SetupHub.moved, Function.update_of_ne own] at success
          exact absurd empty (rowed.success one success)
      refine ⟨by simp [SetupHub.commit, empty], ?_⟩
      intro one other success success'
      rw [only one success, only other success']
  · have holds : hub.UnwonSinceCheck hashToken requests turn :=
      fun admin inserted free => absurd free (blocked admin inserted)
    simp only [SetupHub.WonOnce, quiet.admins, quiet.successes, holds, and_true]

/-- First-run setup is won at most once exactly when no submission is committed after another has been
    since its check. -/
theorem setup_won_once_iff (sessions : String → Option AdminSession)
    (turns : List (SetupTurn ι)) :
    (Runs.run (SetupHub.step hasher hashToken requests) { sessions } turns).WonOnce ↔
      Runs.StepsMeet (SetupHub.step hasher hashToken requests)
        (SetupHub.UnwonSinceCheck hashToken requests) { sessions } turns := by
  have unclaimed : Rowed ({ sessions } : SetupHub ι) := by
    refine ⟨rfl, ?_, fun _ => rfl⟩
    intro request success
    cases success
  have whole := Runs.run_iff_of_steps SetupHub.WonOnce Rowed
    (fun _ turn rowed => step_rowed hasher hashToken requests rowed turn)
    (fun _ turn rowed => step_won_once_iff hasher hashToken requests rowed turn) unclaimed turns
  rw [whole]
  apply and_iff_right
  refine ⟨Nat.zero_le 1, ?_⟩
  intro one _ success _
  cases success

end Step

/-- Both check before either is committed: two emails, so neither waits for the other. -/
theorem setup_won_twice :
    let hub := Runs.run (SetupHub.step plainHasher id claimants) {}
      (setupTurns [false, true, false, true, false, true, false, true])
    hub.stages false = .answered 303 ∧ hub.stages true = .answered 303 ∧ hub.admins.length = 2 := by
  decide

end TimekprProof
