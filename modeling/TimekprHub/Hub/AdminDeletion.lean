import Mathlib.Data.Finset.Card
import Mathlib.Logic.Function.Basic
import TimekprHub.Core.Calendar
import TimekprHub.Library.Runs

namespace TimekprModel

universe u

abbrev AdminId := String

structure AdminSession where
  adminId : AdminId
  expiresAt : Instant
  deriving DecidableEq, Repr

structure DeleteRequest where
  token : Option String
  adminId : AdminId

/-- How far a request has come, by the statements it has run. From the count on it carries what it
    counted, and as a ghost how many deletions had been committed by then. -/
inductive DeleteStage
  | received
  | authenticated
  | counted (admins deletions : Nat)
  | found (admins deletions : Nat)
  /-- The DELETE has run and is not committed; `matched` says whether its row was there. -/
  | deleted (admins deletions : Nat) (matched : Bool)
  | answered (status : Nat)
  deriving DecidableEq, Repr

def DeleteStage.count? : DeleteStage → Option (Nat × Nat)
  | .counted admins deletions | .found admins deletions | .deleted admins deletions _ =>
    some (admins, deletions)
  | .received | .authenticated | .answered _ => none

structure AdminHub (ι : Type u) where
  admins : Finset AdminId
  sessions : String → Option AdminSession
  locked : Finset AdminId := ∅
  stages : ι → DeleteStage := fun _ => .received
  deletions : Nat := 0

structure DeleteTurn (ι : Type u) where
  request : ι
  now : Instant

namespace AdminHub

variable {ι : Type u}

def anyAdminExists (hub : AdminHub ι) : Bool := decide hub.admins.Nonempty

def countAdmins (hub : AdminHub ι) : Nat := hub.admins.card

variable (hashToken : String → String)

def getAdminBySessionToken (hub : AdminHub ι) (rawToken : String) (now : Instant) : Option AdminId :=
  match hub.sessions (hashToken rawToken) with
  | none => none
  | some session =>
    if session.expiresAt < now then none
    else if session.adminId ∈ hub.admins then some session.adminId
    else none

def getCurrentAdmin (hub : AdminHub ι) (token : Option String) (now : Instant) : Option AdminId :=
  match token with
  | none => none
  | some rawToken => if rawToken = "" then none else hub.getAdminBySessionToken hashToken rawToken now

variable [DecidableEq ι] (requests : ι → DeleteRequest)

def moved (hub : AdminHub ι) (request : ι) (stage : DeleteStage) : AdminHub ι :=
  { hub with stages := Function.update hub.stages request stage }

/-- One statement of one request: each sees what is committed when it runs. -/
def step (hub : AdminHub ι) (turn : DeleteTurn ι) : AdminHub ι :=
  let target := (requests turn.request).adminId
  match hub.stages turn.request with
  | .received =>
    match hub.getCurrentAdmin hashToken (requests turn.request).token turn.now with
    | none => hub.moved turn.request (.answered 401)
    | some _ => hub.moved turn.request .authenticated
  | .authenticated =>
    if hub.countAdmins ≤ 1 then hub.moved turn.request (.answered 409)
    else hub.moved turn.request (.counted hub.countAdmins hub.deletions)
  | .counted admins deletions =>
    if target ∈ hub.admins then hub.moved turn.request (.found admins deletions)
    else hub.moved turn.request (.answered 404)
  | .found admins deletions =>
    -- Another transaction has deleted the row: wait for it.
    if target ∈ hub.locked then hub
    else if target ∈ hub.admins then
      { hub.moved turn.request (.deleted admins deletions true) with locked := insert target hub.locked }
    else hub.moved turn.request (.deleted admins deletions false)
  | .deleted _ _ true =>
    { hub.moved turn.request (.answered 200) with
      admins := hub.admins.erase target
      sessions := fun tokenHash => (hub.sessions tokenHash).filter fun session => session.adminId ≠ target
      locked := hub.locked.erase target
      deletions := hub.deletions + 1 }
  | .deleted _ _ false => hub.moved turn.request (.answered 200)
  | .answered _ => hub

/-- A deletion about to be committed: since it counted the admins, fewer than all but one of them have
    been deleted. -/
def CountStillHolds (hub : AdminHub ι) (turn : DeleteTurn ι) : Prop :=
  ∀ admins deletions, hub.stages turn.request = .deleted admins deletions true →
    hub.deletions - deletions < admins - 1

def UndeletedSinceCount (hub : AdminHub ι) (turn : DeleteTurn ι) : Prop :=
  ∀ admins deletions, hub.stages turn.request = .deleted admins deletions true → hub.deletions = deletions

end AdminHub

def rivals : AdminHub Bool where
  admins := {"ann", "ben"}
  sessions := fun tokenHash => some ⟨tokenHash, 1000⟩

def rivalRequest (byBen : Bool) : DeleteRequest :=
  if byBen then ⟨some "ben", "ann"⟩ else ⟨some "ann", "ben"⟩

def rivalTurns (order : List Bool) : List (DeleteTurn Bool) := order.map fun request => ⟨request, 0⟩

end TimekprModel

namespace TimekprProof

open TimekprModel

universe u

variable {ι : Type u}

/-- What the requests remember of their counts agrees with what has been deleted since, and the row a
    transaction locks is there and is its own. -/
structure Booked (requests : ι → DeleteRequest) (total : Nat) (hub : AdminHub ι) : Prop where
  remaining : hub.admins.card + hub.deletions = total
  counted : ∀ request admins deletions, (hub.stages request).count? = some (admins, deletions) →
    admins + deletions = total ∧ deletions ≤ hub.deletions
  held : ∀ request admins deletions, hub.stages request = .deleted admins deletions true →
    (requests request).adminId ∈ hub.admins ∧ (requests request).adminId ∈ hub.locked
  exclusive : ∀ request admins deletions other admins' deletions',
    hub.stages request = .deleted admins deletions true →
    hub.stages other = .deleted admins' deletions' true →
    (requests request).adminId = (requests other).adminId → request = other

section Step

variable [DecidableEq ι] (hashToken : String → String) {requests : ι → DeleteRequest} {total : Nat}
  {hub : AdminHub ι}

theorem moved_own (request : ι) (stage : DeleteStage) : (hub.moved request stage).stages request = stage :=
  Function.update_self ..

theorem moved_other {request other : ι} (stage : DeleteStage) (differs : other ≠ request) :
    (hub.moved request stage).stages other = hub.stages other :=
  Function.update_of_ne differs ..

/-- A transaction that locks no row leaves the locks to the others. -/
theorem deleted_of_moved {request other : ι} {stage : DeleteStage} {admins deletions : Nat}
    (free : ∀ admins deletions, stage ≠ .deleted admins deletions true)
    (now : (hub.moved request stage).stages other = .deleted admins deletions true) :
    other ≠ request ∧ hub.stages other = .deleted admins deletions true := by
  by_cases own : other = request
  · rw [own, moved_own] at now
    exact absurd now (free admins deletions)
  · rw [moved_other stage own] at now
    exact ⟨own, now⟩

theorem Booked.counted_moved (booked : Booked requests total hub) {request other : ι} {stage : DeleteStage}
    {admins deletions : Nat}
    (counted : ∀ admins deletions, stage.count? = some (admins, deletions) →
      admins + deletions = total ∧ deletions ≤ hub.deletions)
    (shown : ((hub.moved request stage).stages other).count? = some (admins, deletions)) :
    admins + deletions = total ∧ deletions ≤ hub.deletions := by
  by_cases own : other = request
  · rw [own, moved_own] at shown
    exact counted admins deletions shown
  · rw [moved_other stage own] at shown
    exact booked.counted other admins deletions shown

theorem Booked.moved (booked : Booked requests total hub) (request : ι) {stage : DeleteStage}
    (counted : ∀ admins deletions, stage.count? = some (admins, deletions) →
      admins + deletions = total ∧ deletions ≤ hub.deletions)
    (free : ∀ admins deletions, stage ≠ .deleted admins deletions true) :
    Booked requests total (hub.moved request stage) := by
  refine ⟨booked.remaining, ?_, ?_, ?_⟩
  · intro other admins deletions shown
    exact booked.counted_moved counted shown
  · intro other admins deletions now
    exact booked.held other admins deletions (deleted_of_moved free now).2
  · intro one admins deletions other admins' deletions' now now'
    exact booked.exclusive _ _ _ _ _ _ (deleted_of_moved free now).2 (deleted_of_moved free now').2

theorem Booked.lock (booked : Booked requests total hub) {request : ι} {admins deletions : Nat}
    (found : hub.stages request = .found admins deletions)
    (unlocked : (requests request).adminId ∉ hub.locked) (present : (requests request).adminId ∈ hub.admins) :
    Booked requests total
      { hub.moved request (.deleted admins deletions true) with
        locked := insert (requests request).adminId hub.locked } := by
  have counted : ∀ admins' deletions',
      (DeleteStage.deleted admins deletions true).count? = some (admins', deletions') →
        admins' + deletions' = total ∧ deletions' ≤ hub.deletions := by
    intro admins' deletions' shown
    cases shown
    exact booked.counted request admins deletions (by rw [found]; rfl)
  have older : ∀ other admins' deletions', other ≠ request →
      (hub.moved request (.deleted admins deletions true)).stages other = .deleted admins' deletions' true →
        hub.stages other = .deleted admins' deletions' true := by
    intro other admins' deletions' differs now
    rwa [moved_other _ differs] at now
  refine ⟨booked.remaining, ?_, ?_, ?_⟩
  · intro other admins' deletions' shown
    exact booked.counted_moved counted shown
  · intro other admins' deletions' now
    by_cases own : other = request
    · subst own
      exact ⟨present, Finset.mem_insert_self _ _⟩
    · obtain ⟨there, locked⟩ := booked.held _ _ _ (older _ _ _ own now)
      exact ⟨there, Finset.mem_insert_of_mem locked⟩
  · -- The new lock is on a row that was free, so no other transaction's target.
    intro one n d other n' d' now now' same
    by_cases own : one = request
    · by_cases own' : other = request
      · rw [own, own']
      · have locked := (booked.held _ _ _ (older _ _ _ own' now')).2
        rw [← same, own] at locked
        exact absurd locked unlocked
    · by_cases own' : other = request
      · have locked := (booked.held _ _ _ (older _ _ _ own now)).2
        rw [same, own'] at locked
        exact absurd locked unlocked
      · exact booked.exclusive _ _ _ _ _ _ (older _ _ _ own now) (older _ _ _ own' now') same

theorem Booked.commit (booked : Booked requests total hub) {request : ι} {admins deletions : Nat}
    (deleted : hub.stages request = .deleted admins deletions true)
    (sessions : String → Option AdminSession) :
    Booked requests total
      { hub.moved request (.answered 200) with
        admins := hub.admins.erase (requests request).adminId
        sessions
        locked := hub.locked.erase (requests request).adminId
        deletions := hub.deletions + 1 } := by
  obtain ⟨present, _⟩ := booked.held _ _ _ deleted
  have free : ∀ admins' deletions', DeleteStage.answered 200 ≠ .deleted admins' deletions' true := by
    intro admins' deletions' same
    cases same
  refine ⟨?_, ?_, ?_, ?_⟩
  · have one := Finset.card_erase_add_one present
    have before := booked.remaining
    simp only
    omega
  · intro other admins' deletions' shown
    have none : ∀ admins' deletions', (DeleteStage.answered 200).count? = some (admins', deletions') →
        admins' + deletions' = total ∧ deletions' ≤ hub.deletions := by
      intro admins' deletions' counted
      cases counted
    obtain ⟨sum, le⟩ := booked.counted_moved none shown
    exact ⟨sum, Nat.le_succ_of_le le⟩
  · intro other admins' deletions' now
    obtain ⟨differs, before⟩ := deleted_of_moved free now
    obtain ⟨there, locked⟩ := booked.held _ _ _ before
    have apart : (requests other).adminId ≠ (requests request).adminId :=
      fun same => differs (booked.exclusive _ _ _ _ _ _ before deleted same)
    exact ⟨Finset.mem_erase.mpr ⟨apart, there⟩, Finset.mem_erase.mpr ⟨apart, locked⟩⟩
  · intro one n d other n' d' now now'
    exact booked.exclusive _ _ _ _ _ _ (deleted_of_moved free now).2 (deleted_of_moved free now').2

theorem step_booked (booked : Booked requests total hub) (turn : DeleteTurn ι) :
    Booked requests total (hub.step hashToken requests turn) := by
  have silent : ∀ status admins deletions, (DeleteStage.answered status).count? = some (admins, deletions) →
      admins + deletions = total ∧ deletions ≤ hub.deletions := by
    intro status admins deletions shown
    cases shown
  have answered : ∀ status, Booked requests total (hub.moved turn.request (.answered status)) :=
    fun status => booked.moved turn.request (silent status) (by intro _ _ same; cases same)
  unfold AdminHub.step
  cases stage : hub.stages turn.request with
  | received =>
    simp only
    split
    · exact answered 401
    · exact booked.moved turn.request (by intro _ _ shown; cases shown) (by intro _ _ same; cases same)
  | authenticated =>
    simp only
    split
    · exact answered 409
    · refine booked.moved turn.request ?_ (by intro _ _ same; cases same)
      intro admins deletions shown
      cases shown
      exact ⟨booked.remaining, le_refl _⟩
  | counted admins deletions =>
    have count := booked.counted turn.request admins deletions (by rw [stage]; rfl)
    simp only
    split
    · refine booked.moved turn.request ?_ (by intro _ _ same; cases same)
      intro _ _ shown
      cases shown
      exact count
    · exact answered 404
  | found admins deletions =>
    have count := booked.counted turn.request admins deletions (by rw [stage]; rfl)
    simp only
    split
    · exact booked
    · rename_i unlocked
      split
      · rename_i present
        exact booked.lock stage unlocked present
      · refine booked.moved turn.request ?_ (by intro _ _ same; cases same)
        intro _ _ shown
        cases shown
        exact count
  | deleted admins deletions matched =>
    cases matched with
    | true => exact booked.commit stage _
    | false => exact answered 200
  | answered status => exact booked

theorem step_keeps_admin_iff (booked : Booked requests total hub) (turn : DeleteTurn ι) :
    (hub.step hashToken requests turn).anyAdminExists = true ↔
      hub.anyAdminExists = true ∧ hub.CountStillHolds turn := by
  have still : ∀ later : AdminHub ι, later.admins = hub.admins →
      (∀ admins deletions, hub.stages turn.request ≠ .deleted admins deletions true) →
        (later.anyAdminExists = true ↔ hub.anyAdminExists = true ∧ hub.CountStillHolds turn) := by
    intro later same uncommitted
    have holds : hub.CountStillHolds turn :=
      fun admins deletions deleted => absurd deleted (uncommitted admins deletions)
    simp only [AdminHub.anyAdminExists, same, holds, and_true]
  by_cases committing : ∃ admins deletions, hub.stages turn.request = .deleted admins deletions true
  · obtain ⟨admins, deletions, deleted⟩ := committing
    obtain ⟨present, _⟩ := booked.held _ _ _ deleted
    obtain ⟨sum, le⟩ := booked.counted turn.request admins deletions (by rw [deleted]; rfl)
    have remaining := booked.remaining
    have one := Finset.card_erase_add_one present
    have holds : hub.CountStillHolds turn ↔ hub.deletions - deletions < admins - 1 := by
      unfold AdminHub.CountStillHolds
      rw [deleted]
      constructor
      · intro all
        exact all admins deletions rfl
      · intro fewer _ _ same
        cases same
        exact fewer
    have some : hub.anyAdminExists = true := decide_eq_true ⟨_, present⟩
    rw [holds]
    simp only [AdminHub.step, deleted, AdminHub.anyAdminExists, decide_eq_true_eq, ← Finset.card_pos]
    omega
  · have uncommitted : ∀ admins deletions, hub.stages turn.request ≠ .deleted admins deletions true :=
      fun admins deletions deleted => committing ⟨admins, deletions, deleted⟩
    apply still _ _ uncommitted
    unfold AdminHub.step
    cases stage : hub.stages turn.request with
    | deleted admins deletions matched =>
      cases matched with
      | true => exact absurd stage (uncommitted admins deletions)
      | false => rfl
    | received | authenticated | counted | found | answered =>
      simp only
      repeat' split
      all_goals rfl

omit [DecidableEq ι] in
theorem claimed_booked (requests : ι → DeleteRequest) (admins : Finset AdminId)
    (sessions : String → Option AdminSession) :
    Booked requests admins.card ({ admins, sessions } : AdminHub ι) := by
  refine ⟨rfl, ?_, ?_, ?_⟩
  · intro _ _ _ shown
    cases shown
  · intro _ _ _ deleted
    cases deleted
  · intro _ _ _ _ _ _ deleted
    cases deleted

/-- Whatever the order of their statements, the requests leave an admin exactly where every deletion that
    is committed still has its count. -/
theorem admin_remains_iff (requests : ι → DeleteRequest)
    (admins : Finset AdminId) (sessions : String → Option AdminSession) (claimed : admins.Nonempty)
    (turns : List (DeleteTurn ι)) :
    (Runs.run (AdminHub.step hashToken requests) { admins, sessions } turns).anyAdminExists = true ↔
      Runs.StepsMeet (AdminHub.step hashToken requests) AdminHub.CountStillHolds { admins, sessions }
        turns := by
  have whole := Runs.run_iff_of_steps (fun hub : AdminHub ι => hub.anyAdminExists = true)
    (Booked requests admins.card) (fun _ turn booked => step_booked hashToken booked turn)
    (fun _ turn booked => step_keeps_admin_iff hashToken booked turn)
    (claimed_booked requests admins sessions) turns
  rw [whole]
  apply and_iff_right
  exact decide_eq_true claimed

def Guarded (hub : AdminHub ι) : Prop :=
  ∀ request admins deletions, (hub.stages request).count? = some (admins, deletions) → 1 < admins

theorem Guarded.moved (guarded : Guarded hub) {request : ι} {stage : DeleteStage}
    (several : ∀ admins deletions, stage.count? = some (admins, deletions) → 1 < admins) :
    Guarded (hub.moved request stage) := by
  intro other admins deletions shown
  by_cases own : other = request
  · rw [own, moved_own] at shown
    exact several admins deletions shown
  · rw [moved_other stage own] at shown
    exact guarded other admins deletions shown

theorem step_guarded (guarded : Guarded hub) (turn : DeleteTurn ι) :
    Guarded (hub.step hashToken requests turn) := by
  have silent : ∀ {stage : DeleteStage}, stage.count? = none → Guarded (hub.moved turn.request stage) := by
    intro stage uncounted
    apply guarded.moved
    intro admins deletions shown
    rw [uncounted] at shown
    cases shown
  have carried : ∀ {admins deletions : Nat} {stage : DeleteStage},
      (hub.stages turn.request).count? = some (admins, deletions) → stage.count? = some (admins, deletions) →
        Guarded (hub.moved turn.request stage) := by
    intro admins deletions stage before after
    apply guarded.moved
    intro admins' deletions' shown
    rw [after] at shown
    cases shown
    exact guarded turn.request admins deletions before
  unfold AdminHub.step
  cases stage : hub.stages turn.request with
  | received =>
    simp only
    split
    · exact silent rfl
    · exact silent rfl
  | authenticated =>
    simp only
    split
    · exact silent rfl
    · rename_i several
      apply guarded.moved
      intro admins deletions shown
      cases shown
      exact Nat.not_le.mp several
  | counted admins deletions =>
    simp only
    split
    · exact carried (by rw [stage]; rfl) rfl
    · exact silent rfl
  | found admins deletions =>
    have before : (hub.stages turn.request).count? = some (admins, deletions) := by rw [stage]; rfl
    simp only
    split
    · exact guarded
    · split
      · exact carried before rfl
      · exact carried before rfl
  | deleted admins deletions matched =>
    cases matched with
    | true => exact silent rfl
    | false => exact silent rfl
  | answered status => exact guarded

/-- Where no deletion comes between another's count and its commit, every count holds. -/
theorem counts_hold_of_undeleted (admins : Finset AdminId) (sessions : String → Option AdminSession)
    (turns : List (DeleteTurn ι))
    (undeleted : Runs.StepsMeet (AdminHub.step hashToken requests) AdminHub.UndeletedSinceCount
      { admins, sessions } turns) :
    Runs.StepsMeet (AdminHub.step hashToken requests) AdminHub.CountStillHolds { admins, sessions } turns := by
  apply undeleted.imp_of_invariant Guarded
  · intro _ _ _ shown
    cases shown
  · exact fun _ turn guarded => step_guarded hashToken guarded turn
  · intro hub turn guarded same admins deletions deleted
    have several := guarded turn.request admins deletions (by rw [deleted]; rfl)
    rw [same admins deletions deleted]
    omega

end Step

/-- One after the other: the second finds itself the last. -/
theorem admin_remains_iff_in_turn :
    (Runs.run (AdminHub.step id rivalRequest) rivals
        (rivalTurns [false, false, false, false, false, true, true])).anyAdminExists = true ↔
      Runs.StepsMeet (AdminHub.step id rivalRequest) AdminHub.CountStillHolds rivals
        (rivalTurns [false, false, false, false, false, true, true]) :=
  admin_remains_iff id rivalRequest {"ann", "ben"} _ ⟨"ann", by decide⟩ _

/-- Both count two admins before either deletion is committed. -/
theorem rivals_delete_each_other :
    (Runs.run (AdminHub.step id rivalRequest) rivals
      (rivalTurns [false, true, false, true, false, true, false, true, false, true])).anyAdminExists =
        false := by
  decide

end TimekprProof
