import Mathlib.Data.String.Basic
import TimekprHub.Hub.EnrollTransactions
import TimekprHub.Hub.SyncRows
import TimekprHub.Library.LockTable
import TimekprHub.Library.Runs

namespace TimekprModel

universe u

/-- The user rows `get_or_create_policy` locks along a sync, entry by entry. -/
def syncLocks (digest : PolicyPayload → String) (deviceId : DeviceId) (device : Device) (day : Date)
    (now : Instant) (store : HubStore) : List SyncUserRequest → List UserId
  | [] => []
  | req :: rest =>
    let (_, userId, _) := resolveUser store deviceId req.username
    let (store, _) := syncOneUser digest deviceId device day now store req
    userId :: syncLocks digest deviceId device day now store rest

/-- The local users an enroll has still to provision, each by a `get_or_create_policy` that locks its row. -/
def EnrollStage.usersToLock : EnrollStage → List String
  | .provisioning _ localUsername _ rest => localUsername :: rest
  | .received | .unclaimed | .refused _ _ | .claimed | .selected _ | .provisioned _ | .bound _ | .committed _
  | .aborted => []

inductive LockingRequest
  | sync (deviceId : DeviceId) (users : List SyncUserRequest)
  | enroll (localUsers : List String)

def LockingRequest.userLocks (store : HubStore) : LockingRequest → List UserId
  | .sync deviceId users => users.map fun req => store.userOf deviceId req.username
  -- Enrolling joins the user of the same canonical name.
  | .enroll localUsers => localUsers

def userLocksOf {ι : Type u} (store : HubStore) (requests : ι → LockingRequest) (i : ι) : List UserId :=
  (requests i).userLocks store

def idleRequest (username : String) : SyncUserRequest where
  username
  cumulativeSpentS := 0
  activeSpans := []
  observed := { balanceS := 0, spentDayS := 0, limitTodayS := 3600, loggedIn := false, active := false }

def siblingRequests (laptop : Bool) : LockingRequest :=
  if laptop then .sync "laptop" [idleRequest "ann", idleRequest "ben"]
  else .sync "desktop" [idleRequest "ben", idleRequest "ann"]

end TimekprModel

namespace TimekprProof

open TimekprModel

universe u v

theorem syncLocks_eq (digest : PolicyPayload → String) (deviceId : DeviceId) (device : Device) (day : Date)
    (now : Instant) (store : HubStore) (users : List SyncUserRequest) :
    syncLocks digest deviceId device day now store users =
      (LockingRequest.sync deviceId users).userLocks store := by
  induction users generalizing store with
  | nil => rfl
  | cons req rest ih =>
    obtain ⟨own, _⟩ := resolveUser_spec store deviceId req.username day
    have recorded := syncOneUser_recorded digest deviceId device day now store req
    have later := ih (syncOneUser digest deviceId device day now store req).1
    have same : (LockingRequest.sync deviceId rest).userLocks
        (syncOneUser digest deviceId device day now store req).1 =
          (LockingRequest.sync deviceId rest).userLocks store := by
      simp only [LockingRequest.userLocks, recorded.userOf]
    rw [same] at later
    simp only [syncLocks, LockingRequest.userLocks, List.map_cons] at later ⊢
    rw [own, later]

section Enrolls

variable {ι : Type u} [DecidableEq ι] {arrivals : ι → EnrollArrival} {hub : EnrollHub ι}

def ListsFollowed (arrivals : ι → EnrollArrival) (hub : EnrollHub ι) : Prop :=
  ∀ request, (hub.stages request).usersToLock <:+ (arrivals request).req.localUsers

theorem next_usersToLock (progress : EnrollProgress) (rest : List String) :
    (progress.next rest).usersToLock = rest := by
  cases rest <;> rfl

theorem ListsFollowed.moved {other : ι} {stage : EnrollStage} (followed : ListsFollowed arrivals hub)
    (goesOn : stage.usersToLock <:+ (arrivals other).req.localUsers) (request : ι) :
    (Function.update hub.stages other stage request).usersToLock <:+ (arrivals request).req.localUsers := by
  by_cases own : request = other
  · rw [own, Function.update_self]
    exact goesOn
  · rw [Function.update_of_ne own]
    exact followed request

theorem ListsFollowed.flushed (followed : ListsFollowed arrivals hub) (hashToken : String → String) (other : ι)
    (existingDevice : Option EnrolledDevice) :
    ListsFollowed arrivals (hub.flushDevice other hashToken (arrivals other) existingDevice) := by
  have begins : ∀ progress : EnrollProgress,
      (progress.next (arrivals other).req.localUsers).usersToLock <:+ (arrivals other).req.localUsers := by
    intro progress
    rw [next_usersToLock]
  unfold EnrollHub.flushDevice
  cases existingDevice with
  | some loaded =>
    dsimp only
    split
    · exact followed
    · exact followed.moved List.nil_suffix
    · exact followed.moved (begins _)
  | none =>
    dsimp only
    split
    · exact followed
    · exact followed.moved List.nil_suffix
    · exact followed.moved (begins _)

theorem ListsFollowed.provisioned (followed : ListsFollowed arrivals hub) {other : ι} {progress : EnrollProgress}
    {localUsername : String} {stage : ProvisionStage} {rest : List String}
    (here : hub.stages other = .provisioning progress localUsername stage rest) :
    ListsFollowed arrivals (hub.provisionUser other (arrivals other) progress localUsername stage rest) := by
  have own : localUsername :: rest <:+ (arrivals other).req.localUsers := by
    have listed := followed other
    rw [here] at listed
    exact listed
  unfold EnrollHub.provisionUser
  split
  · exact followed
  · exact followed.moved List.nil_suffix
  · exact followed.moved own
  · apply followed.moved
    rw [next_usersToLock]
    exact (List.suffix_cons localUsername rest).trans own

theorem ListsFollowed.step (hashToken : String → String) (settings : Settings) (turn : EnrollTurn ι)
    (followed : ListsFollowed arrivals hub) : ListsFollowed arrivals (hub.step hashToken settings arrivals turn) := by
  cases turn with
  | advance other =>
    simp only [EnrollHub.step, EnrollHub.advance]
    cases here : hub.stages other with
    | received =>
      simp only [EnrollHub.claimCode]
      split
      · exact followed
      · exact followed.moved List.nil_suffix
      · exact followed.moved List.nil_suffix
    | unclaimed =>
      have refused : (hub.refusal other (arrivals other)).usersToLock = [] := by
        unfold EnrollHub.refusal
        repeat' split
        all_goals rfl
      apply followed.moved
      rw [refused]
      exact List.nil_suffix
    | claimed => exact followed.moved List.nil_suffix
    | selected existingDevice => exact followed.flushed hashToken other existingDevice
    | provisioning progress localUsername stage rest => exact followed.provisioned here
    | provisioned progress =>
      simp only [EnrollHub.bindCode]
      split
      · exact followed
      · exact followed.moved List.nil_suffix
      · exact followed.moved List.nil_suffix
    | bound progress => exact followed.moved List.nil_suffix
    | refused status detail => exact followed
    | committed response => exact followed
    | aborted => exact followed
  | abort other =>
    simp only [EnrollHub.step]
    split
    · exact followed
    · exact followed.moved List.nil_suffix

/-- However enrolls are interleaved, each provisions its local users in the order of its list. -/
theorem enrolls_follow_lists (hashToken : String → String) (settings : Settings) (rows : EnrollRows)
    (turns : List (EnrollTurn ι)) (store : HubStore) (request : ι) :
    ((Runs.run (EnrollHub.step hashToken settings arrivals) rows.begin turns).stages request).usersToLock <:+
      (LockingRequest.enroll (arrivals request).req.localUsers).userLocks store := by
  have run : ListsFollowed arrivals (Runs.run (EnrollHub.step hashToken settings arrivals) rows.begin turns) := by
    apply Runs.run_invariant (ListsFollowed arrivals)
    · exact fun _ => List.nil_suffix
    · exact fun _ turn followed => followed.step hashToken settings turn
  exact run request

end Enrolls

section Requests

variable {ι : Type u} [DecidableEq ι] (store : HubStore) (requests : ι → LockingRequest)

/-- Syncs and enrollments can come to wait for each other in a circle exactly where their lists cross. -/
theorem user_locks_never_circular_iff [Finite ι] :
    (∀ state, LockTable.Reachable (userLocksOf store requests) state →
        ¬ LockTable.Deadlocked (userLocksOf store requests) state) ↔
      ¬ LockTable.Crossing (userLocksOf store requests) := by
  rw [← LockTable.deadlock_reachable_iff]
  constructor
  · intro free ⟨state, reachable, deadlocked⟩
    exact free state reachable deadlocked
  · intro none state reachable deadlocked
    exact none ⟨state, reachable, deadlocked⟩

/-- Lists in one common order of the users would be enough. -/
theorem ordered_requests_never_deadlock {α : Type v} [LinearOrder α] {rank : UserId → α}
    (injective : Function.Injective rank)
    (ordered : ∀ i, (userLocksOf store requests i).Pairwise fun one other => rank one ≤ rank other) {state : ι → Nat}
    (reachable : LockTable.Reachable (userLocksOf store requests) state) :
    ¬ LockTable.Deadlocked (userLocksOf store requests) state :=
  LockTable.not_deadlocked_of_sorted injective ordered reachable

end Requests

theorem user_locks_never_circular_iff_siblings :
    (∀ state, LockTable.Reachable (userLocksOf {} siblingRequests) state →
        ¬ LockTable.Deadlocked (userLocksOf {} siblingRequests) state) ↔
      ¬ LockTable.Crossing (userLocksOf {} siblingRequests) :=
  user_locks_never_circular_iff {} siblingRequests

/-- Each has locked the child it lists first and waits for the other. -/
theorem siblings_deadlock :
    ∃ state, LockTable.Reachable (userLocksOf {} siblingRequests) state ∧
      LockTable.Deadlocked (userLocksOf {} siblingRequests) state := by
  apply LockTable.deadlocked_of_crossing
  refine ⟨Set.univ, fun _ => 1, ⟨true, trivial⟩, ?_, ?_⟩
  · intro i _ j _ differ
    rw [List.disjoint_left]
    revert differ
    cases i <;> cases j <;> decide
  · intro i _
    refine ⟨!i, trivial, ?_, ?_⟩
    · cases i <;> decide
    · cases i
      · exact ⟨"ann", by decide, by decide⟩
      · exact ⟨"ben", by decide, by decide⟩

end TimekprProof
