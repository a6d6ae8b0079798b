import TimekprHub.Hub.EnrollTransactions
import TimekprHub.Library.ClaimOnce
import TimekprHub.Library.Runs

namespace TimekprModel

universe u

structure CodesHonoured {ι : Type u} (arrivals : ι → EnrollArrival) (start : EnrollRows) (hub : EnrollHub ι) :
    Prop where
  once : ∀ one other, hub.Redeemed one → hub.Redeemed other →
    (arrivals one).req.enrollmentCode = (arrivals other).req.enrollmentCode → one = other
  used : ∀ code row, hub.rows.codes code = some row →
    (row.usedAt.isSome = true ↔
      (∃ first, start.codes code = some first ∧ first.usedAt.isSome = true) ∨
        ∃ request, hub.Redeemed request ∧ (arrivals request).req.enrollmentCode = code)
  kept : ∀ code, (∀ request, hub.Redeemed request → (arrivals request).req.enrollmentCode ≠ code) →
    hub.rows.codes code = start.codes code
  device : ∀ request response, hub.stages request = .committed response →
    ∃ row device, hub.rows.codes (arrivals request).req.enrollmentCode = some row ∧
      row.usedAt = some (arrivals request).now ∧ row.usedByDeviceId = some response.deviceId ∧
      hub.rows.devices (arrivals request).req.machineId = some device ∧ device.id = response.deviceId

end TimekprModel

namespace TimekprProof

open TimekprModel

universe u

variable {ι : Type u}

def EnrollPhase.claim : EnrollPhase → ClaimOnce.Claim (Option DeviceId)
  | .unclaimed | .aborted => .idle
  | .claimed | .selected _ | .located _ => .holding none
  | .bound deviceId => .holding (some deviceId)
  | .redeemed deviceId => .redeemed (some deviceId)

def EnrollPhase.device? : EnrollPhase → Option DeviceId
  | .selected existing => existing
  | .located deviceId | .bound deviceId => some deviceId
  | .unclaimed | .claimed | .redeemed _ | .aborted => none

def desk (hub : EnrollHub ι) : ClaimOnce.Desk ι String EnrollmentCode (Option DeviceId) where
  table := hub.codes
  claims := fun request => EnrollPhase.claim (hub.stages request).phase

def CodeUsed (code : EnrollmentCode) : Prop := code.usedAt ≠ none

structure SameRows (tables other : ProvisionTables ι) : Prop where
  users : tables.users.committed = other.users.committed
  policies : tables.policies.committed = other.policies.committed
  aliases : tables.aliases.committed = other.aliases.committed

def Provision.Stored (tables : ProvisionTables ι) : Provision ι → Prop
  | .waits | .fails => True
  | .continues later _ | .returns later _ _ => SameRows later tables

section Run

variable (arrivals : ι → EnrollArrival)

def codeOf (request : ι) : String := (arrivals request).req.enrollmentCode

def machineOf (request : ι) : String := (arrivals request).req.machineId

def Records (request : ι) (device : Option DeviceId) (code : EnrollmentCode) : Prop :=
  code.usedAt = some (arrivals request).now ∧ ∀ deviceId, device = some deviceId → code.usedByDeviceId = device

variable [DecidableEq ι]

structure DevicesInv (hub : EnrollHub ι) : Prop where
  fixed : hub.devices.Fixed EnrolledDevice.id
  seen : ∀ request deviceId, EnrollPhase.device? (hub.stages request).phase = some deviceId →
    (hub.devices.visible request (machineOf arrivals request)).map EnrolledDevice.id = some deviceId
  settled : ∀ request deviceId, (hub.stages request).phase = .redeemed deviceId →
    (hub.devices.committed (machineOf arrivals request)).map EnrolledDevice.id = some deviceId

structure EnrollInv (start : EnrollRows) (hub : EnrollHub ι) : Prop where
  codes : ClaimOnce.Inv (codeOf arrivals) CodeUsed (Records arrivals) start.codes (desk hub)
  devices : DevicesInv arrivals hub

inductive EnrollMove (hub : EnrollHub ι) (request : ι) : EnrollHub ι → Prop
  | stays : EnrollMove hub request hub
  | moves (stage : EnrollStage) (accounts : ProvisionTables ι) (same : stage.phase = (hub.stages request).phase)
      (idle : stage.phase = .unclaimed → accounts = hub.accounts) (stored : SameRows accounts hub.accounts) :
      EnrollMove hub request { hub.moved request stage with accounts }
  | claims (row : EnrollmentCode) (fresh : (hub.stages request).phase = .unclaimed)
      (free : hub.codes.writtenByOther request (codeOf arrivals request) = false)
      (seen : hub.codes.visible request (codeOf arrivals request) = some row) (unused : row.usedAt = none) :
      EnrollMove hub request
        { hub.moved request .claimed with
          codes := hub.codes.write request (codeOf arrivals request)
            { row with usedAt := some (arrivals request).now } }
  | selects (claimed : (hub.stages request).phase = .claimed) :
      EnrollMove hub request
        (hub.moved request (.selected (hub.devices.visible request (machineOf arrivals request))))
  | locates (stage : EnrollStage) (device : EnrolledDevice) (existing : Option DeviceId)
      (selected : (hub.stages request).phase = .selected existing) (located : stage.phase = .located device.id)
      (free : hub.devices.writtenByOther request (machineOf arrivals request) = false)
      (kept : ∀ old, hub.devices.visible request (machineOf arrivals request) = some old → device.id = old.id) :
      EnrollMove hub request
        { hub.moved request stage with
          devices := hub.devices.write request (machineOf arrivals request) device }
  | binds (progress : EnrollProgress) (row : EnrollmentCode)
      (located : (hub.stages request).phase = .located progress.deviceId)
      (own : hub.codes.written (codeOf arrivals request) = some (request, row)) :
      EnrollMove hub request
        { hub.moved request (.bound progress) with
          codes := hub.codes.write request (codeOf arrivals request)
            { row with usedByDeviceId := some progress.deviceId } }
  | commits (response : EnrollResponse) (bound : (hub.stages request).phase = .bound response.deviceId) :
      EnrollMove hub request (hub.commit request response)
  | aborts (unredeemed : ∀ deviceId, (hub.stages request).phase ≠ .redeemed deviceId) :
      EnrollMove hub request (hub.abort request)

variable {arrivals : ι → EnrollArrival} {start : EnrollRows} {hub later : EnrollHub ι} {request : ι}

theorem provision_stored (tables : ProvisionTables ι) (deviceId : DeviceId) (localUsername : String)
    (request : ι) (snapshot : Option LocalPolicySnapshot) (stage : ProvisionStage) :
    Provision.Stored tables (tables.provisionUserAlias request deviceId localUsername snapshot stage) := by
  have same : SameRows tables tables := ⟨rfl, rfl, rfl⟩
  cases stage with
  | inserting =>
    simp only [ProvisionTables.provisionUserAlias]
    split
    · trivial
    · exact same
    · rename_i done
      exact ⟨RowTable.insert_committed done, rfl, rfl⟩
  | existing =>
    simp only [ProvisionTables.provisionUserAlias]
    split
    · trivial
    · exact same
  | locking =>
    simp only [ProvisionTables.provisionUserAlias]
    split
    · trivial
    · trivial
    · rename_i done
      split
      · trivial
      · exact ⟨RowTable.lock_committed done, rfl, rfl⟩
  | locked user =>
    simp only [ProvisionTables.provisionUserAlias]
    split
    · exact same
    · exact same
  | seeding isNew =>
    simp only [ProvisionTables.provisionUserAlias, ProvisionTables.seed]
    split
    · trivial
    · trivial
    · rename_i inserted
      split
      · rename_i pointed
        exact ⟨RowTable.update_committed pointed, RowTable.insert_committed inserted, rfl⟩
      · trivial
  | aliasing policy isNew =>
    simp only [ProvisionTables.provisionUserAlias]
    split
    · trivial
    · exact same
    · rename_i done
      exact ⟨rfl, rfl, RowTable.insert_committed done⟩

theorem provision_move {progress : EnrollProgress} {localUsername : String} {stage : ProvisionStage}
    {rest : List String} (here : hub.stages request = .provisioning progress localUsername stage rest) :
    EnrollMove arrivals hub request
      (hub.provisionUser request (arrivals request) progress localUsername stage rest) := by
  have located : (hub.stages request).phase = .located progress.deviceId := by rw [here]; rfl
  have stored := provision_stored hub.accounts progress.deviceId localUsername request
    ((arrivals request).req.localPolicies.lookup localUsername) stage
  unfold EnrollHub.provisionUser
  split
  · exact .stays
  · apply EnrollMove.aborts
    intro deviceId
    rw [located]
    nofun
  · rename_i accounts next result
    rw [result] at stored
    apply EnrollMove.moves
    · exact located.symm
    · nofun
    · exact stored
  · rename_i accounts policy isNew result
    rw [result] at stored
    have goesOn : ((progress.add localUsername policy isNew).next rest).phase = .located progress.deviceId := by
      cases rest <;> rfl
    apply EnrollMove.moves
    · rw [goesOn, located]
    · rw [goesOn]
      nofun
    · exact stored

theorem claim_move (here : hub.stages request = .received) :
    EnrollMove arrivals hub request (hub.claimCode request (arrivals request)) := by
  have fresh : (hub.stages request).phase = .unclaimed := by rw [here]; rfl
  simp only [EnrollHub.claimCode]
  split
  · exact .stays
  · exact .moves .unclaimed hub.accounts fresh.symm (fun _ => rfl) ⟨rfl, rfl, rfl⟩
  · rename_i attempt
    obtain ⟨row, seen, matched, free, rfl⟩ := RowTable.update_done attempt
    exact .claims row fresh free seen (of_decide_eq_true matched).1

theorem flush_move (hashToken : String → String) (devices : DevicesInv arrivals hub)
    {existingDevice : Option EnrolledDevice} (here : hub.stages request = .selected existingDevice) :
    EnrollMove arrivals hub request (hub.flushDevice request hashToken (arrivals request) existingDevice) := by
  have selected : (hub.stages request).phase = .selected (existingDevice.map EnrolledDevice.id) := by
    rw [here]; rfl
  have unredeemed : ∀ deviceId, (hub.stages request).phase ≠ .redeemed deviceId := by
    intro deviceId
    rw [selected]
    nofun
  cases existingDevice with
  | some loaded =>
    have same := devices.seen request loaded.id (by rw [selected]; rfl)
    simp only [EnrollHub.flushDevice]
    split
    · exact .stays
    · exact .aborts unredeemed
    · rename_i attempt
      obtain ⟨current, seen, _, free, rfl⟩ := RowTable.update_done attempt
      rw [machineOf, seen, Option.map_some, Option.some.injEq] at same
      refine .locates _ _ (some loaded.id) selected ?_ free ?_
      · simp only [same]
        cases (arrivals request).req.localUsers <;> rfl
      · intro old visible
        rw [machineOf, seen] at visible
        cases visible
        rfl
  | none =>
    simp only [EnrollHub.flushDevice]
    split
    · exact .stays
    · exact .aborts unredeemed
    · rename_i attempt
      obtain ⟨absent, free, rfl⟩ := RowTable.insert_done attempt
      refine .locates _ _ none selected ?_ free ?_
      · cases (arrivals request).req.localUsers <;> rfl
      · intro old visible
        rw [machineOf, absent] at visible
        cases visible

theorem bind_move (inv : EnrollInv arrivals start hub) {progress : EnrollProgress}
    (here : hub.stages request = .provisioned progress) :
    EnrollMove arrivals hub request (hub.bindCode request (arrivals request) progress) := by
  have holding : (desk hub).claims request = .holding none := by
    simp only [desk, here]
    rfl
  obtain ⟨⟨row, own, _⟩, _⟩ := inv.codes.held request none holding
  have located : (hub.stages request).phase = .located progress.deviceId := by rw [here]; rfl
  have written : hub.codes.written (arrivals request).req.enrollmentCode = some (request, row) := own
  simp only [EnrollHub.bindCode]
  rw [RowTable.update_own written rfl]
  exact .binds progress row located own

theorem step_move (hashToken : String → String) (settings : Settings) (inv : EnrollInv arrivals start hub)
    (turn : EnrollTurn ι) :
    EnrollMove arrivals hub turn.request (hub.step hashToken settings arrivals turn) := by
  cases turn with
  | advance request =>
    simp only [EnrollHub.step, EnrollHub.advance, EnrollTurn.request]
    cases here : hub.stages request with
    | received => exact claim_move here
    | unclaimed =>
      have refused : (hub.refusal request (arrivals request)).phase = .unclaimed := by
        unfold EnrollHub.refusal
        repeat' split
        all_goals rfl
      refine .moves _ hub.accounts ?_ (fun _ => rfl) ⟨rfl, rfl, rfl⟩
      rw [refused, here]
      rfl
    | claimed => exact .selects (by rw [here]; rfl)
    | selected existingDevice => exact flush_move hashToken inv.devices here
    | provisioning progress localUsername stage rest => exact provision_move here
    | provisioned progress => exact bind_move inv here
    | bound progress => exact .commits _ (by rw [here]; rfl)
    | refused status detail => exact .stays
    | committed response => exact .stays
    | aborted => exact .stays
  | abort request =>
    simp only [EnrollHub.step, EnrollTurn.request]
    split
    · exact .stays
    · rename_i running
      apply EnrollMove.aborts
      intro deviceId redeemed
      cases here : hub.stages request with
      | committed response => simp [here, EnrollStage.ended] at running
      | _ =>
        rw [here] at redeemed
        cases redeemed

section Desk

variable (hub) (request) (stage : EnrollStage) (devices : RowTable ι String EnrolledDevice)
  (accounts : ProvisionTables ι)

theorem desk_moved (codes : RowTable ι String EnrollmentCode) :
    desk ⟨codes, devices, accounts, Function.update hub.stages request stage⟩ =
      ⟨codes, Function.update (desk hub).claims request (EnrollPhase.claim stage.phase)⟩ := by
  unfold desk
  congr 1
  funext other
  by_cases own : other = request
  · subst own
    simp only [Function.update_self]
  · simp only [Function.update_of_ne own]

theorem desk_same (same : EnrollPhase.claim stage.phase = EnrollPhase.claim (hub.stages request).phase) :
    desk ⟨hub.codes, devices, accounts, Function.update hub.stages request stage⟩ = desk hub := by
  have stands : (desk hub).claims request = EnrollPhase.claim (hub.stages request).phase := rfl
  rw [desk_moved, same, ← stands, Function.update_eq_self]
  rfl

end Desk

/-- On the codes, a statement is a step of claiming or nothing. -/
theorem move_desk (inv : EnrollInv arrivals start hub) (move : EnrollMove arrivals hub request later) :
    desk later = desk hub ∨ ClaimOnce.Step (codeOf arrivals) CodeUsed (Records arrivals) (desk hub) (desk later) := by
  have stands : (desk hub).claims request = EnrollPhase.claim (hub.stages request).phase := rfl
  have becomes := desk_moved hub request
  cases move with
  | stays => exact .inl rfl
  | moves stage accounts same idle stored =>
    exact .inl (desk_same hub request stage hub.devices accounts (congrArg EnrollPhase.claim same))
  | selects claimed =>
    refine .inl (desk_same hub request _ hub.devices hub.accounts ?_)
    rw [claimed]
    rfl
  | locates stage device existing selected located free kept =>
    refine .inl (desk_same hub request stage _ hub.accounts ?_)
    rw [located, selected]
    rfl
  | claims row fresh free seen unused =>
    rw [fresh] at stands
    have step : ClaimOnce.Step (codeOf arrivals) CodeUsed (Records arrivals) (desk hub) _ :=
      .claim request none row { row with usedAt := some (arrivals request).now } stands free seen
        (fun used => used unused) ⟨rfl, nofun⟩
    have after := becomes .claimed hub.devices hub.accounts
    exact .inr (after _ ▸ step)
  | binds progress row located own =>
    rw [located] at stands
    obtain ⟨⟨version, written, recorded⟩, _⟩ := inv.codes.held request none stands
    have same : some (request, row) = some (request, version) := own.symm.trans written
    cases same
    have step : ClaimOnce.Step (codeOf arrivals) CodeUsed (Records arrivals) (desk hub) _ :=
      .amend request none (some progress.deviceId) { row with usedByDeviceId := some progress.deviceId } stands
        ⟨recorded.1, fun _ _ => rfl⟩
    have after := becomes (.bound progress) hub.devices hub.accounts
    exact .inr (after _ ▸ step)
  | commits response bound =>
    rw [bound] at stands
    have step : ClaimOnce.Step (codeOf arrivals) CodeUsed (Records arrivals) (desk hub) _ :=
      .commit request (some response.deviceId) stands
    have after := becomes (.committed response) (hub.devices.commit request)
      (hub.commit request response).accounts
    exact .inr (after _ ▸ step)
  | aborts unredeemed =>
    have pending : ∀ value, (desk hub).claims request ≠ .redeemed value := by
      intro value redeemed
      rw [stands] at redeemed
      cases phase : (hub.stages request).phase with
      | redeemed deviceId => exact unredeemed deviceId phase
      | _ =>
        rw [phase] at redeemed
        cases redeemed
    have step : ClaimOnce.Step (codeOf arrivals) CodeUsed (Records arrivals) (desk hub) _ := .abort request pending
    have after := becomes .aborted (hub.devices.rollback request) (hub.abort request).accounts
    exact .inr (after _ ▸ step)

theorem devices_moved (inv : DevicesInv arrivals hub) (stage : EnrollStage)
    (codes : RowTable ι String EnrollmentCode) (devices : RowTable ι String EnrolledDevice)
    (accounts : ProvisionTables ι) (fixed : devices.Fixed EnrolledDevice.id)
    (others : ∀ other machine deviceId, other ≠ request →
      (hub.devices.visible other machine).map EnrolledDevice.id = some deviceId →
      (devices.visible other machine).map EnrolledDevice.id = some deviceId)
    (stored : ∀ machine deviceId, (hub.devices.committed machine).map EnrolledDevice.id = some deviceId →
      (devices.committed machine).map EnrolledDevice.id = some deviceId)
    (seen : ∀ deviceId, EnrollPhase.device? stage.phase = some deviceId →
      (devices.visible request (machineOf arrivals request)).map EnrolledDevice.id = some deviceId)
    (settled : ∀ deviceId, stage.phase = .redeemed deviceId →
      (devices.committed (machineOf arrivals request)).map EnrolledDevice.id = some deviceId) :
    DevicesInv arrivals ⟨codes, devices, accounts, Function.update hub.stages request stage⟩ := by
  refine ⟨fixed, ?_, ?_⟩
  · intro other deviceId found
    by_cases own : other = request
    · subst own
      simp only [Function.update_self] at found
      exact seen deviceId found
    · simp only [Function.update_of_ne own] at found
      exact others other _ deviceId own (inv.seen other deviceId found)
  · intro other deviceId redeemed
    by_cases own : other = request
    · subst own
      simp only [Function.update_self] at redeemed
      exact settled deviceId redeemed
    · simp only [Function.update_of_ne own] at redeemed
      exact stored _ deviceId (inv.settled other deviceId redeemed)

theorem devices_kept (inv : DevicesInv arrivals hub) (stage : EnrollStage)
    (codes : RowTable ι String EnrollmentCode) (accounts : ProvisionTables ι)
    (seen : ∀ deviceId, EnrollPhase.device? stage.phase = some deviceId →
      (hub.devices.visible request (machineOf arrivals request)).map EnrolledDevice.id = some deviceId)
    (settled : ∀ deviceId, stage.phase = .redeemed deviceId → (hub.stages request).phase = .redeemed deviceId) :
    DevicesInv arrivals ⟨codes, hub.devices, accounts, Function.update hub.stages request stage⟩ :=
  devices_moved inv stage codes hub.devices accounts inv.fixed (fun _ _ _ _ found => found)
    (fun _ _ found => found) seen fun deviceId redeemed => inv.settled request deviceId (settled deviceId redeemed)

theorem move_devices (inv : DevicesInv arrivals hub) (move : EnrollMove arrivals hub request later) :
    DevicesInv arrivals later := by
  cases move with
  | stays => exact inv
  | moves stage accounts same idle stored =>
    apply devices_kept inv stage hub.codes accounts
    · intro deviceId found
      rw [same] at found
      exact inv.seen request deviceId found
    · intro deviceId redeemed
      rw [← same, redeemed]
  | claims row fresh free seen unused => exact devices_kept inv .claimed _ hub.accounts nofun nofun
  | selects claimed =>
    apply devices_kept inv _ hub.codes hub.accounts
    · intro deviceId found
      exact found
    · nofun
  | locates stage device existing selected located free kept =>
    apply devices_moved inv stage hub.codes _ hub.accounts
    · exact inv.fixed.write free kept
    · intro other machine deviceId differ found
      rw [RowTable.write_visible free differ]
      exact found
    · exact fun _ _ found => found
    · intro deviceId found
      rw [RowTable.visible_own RowTable.write_written_same, Option.map_some, ← found, located]
      rfl
    · intro deviceId redeemed
      rw [located] at redeemed
      cases redeemed
  | binds progress row located own =>
    apply devices_kept inv _ _ hub.accounts
    · intro deviceId found
      apply inv.seen request deviceId
      rw [located]
      exact found
    · nofun
  | commits response bound =>
    have seen := inv.seen request response.deviceId (by rw [bound]; rfl)
    apply devices_moved inv (.committed response) _ _ (hub.commit request response).accounts
    · exact inv.fixed.commit request
    · intro other machine deviceId differ found
      exact inv.fixed.commit_visible differ found
    · intro machine deviceId found
      exact inv.fixed.commit_committed found request
    · nofun
    · intro deviceId redeemed
      cases redeemed
      exact seen
  | aborts unredeemed =>
    apply devices_moved inv .aborted _ _ (hub.abort request).accounts
    · exact inv.fixed.rollback request
    · intro other machine deviceId differ found
      rw [RowTable.rollback_visible differ]
      exact found
    · exact fun _ _ found => found
    · nofun
    · nofun

theorem begin_inv (start : EnrollRows) : EnrollInv arrivals start (start.begin : EnrollHub ι) where
  codes := ClaimOnce.inv_start start.codes
  devices := by
    refine ⟨?_, nofun, nofun⟩
    intro machine writer row old written
    cases written

theorem move_inv (inv : EnrollInv arrivals start hub) (move : EnrollMove arrivals hub request later) :
    EnrollInv arrivals start later := by
  refine ⟨?_, move_devices inv.devices move⟩
  have marks : ∀ one device row, Records arrivals one device row → CodeUsed row := by
    intro one device row recorded
    simp [CodeUsed, recorded.1]
  rcases move_desk inv move with same | step
  · rw [same]
    exact inv.codes
  · exact ClaimOnce.step_inv marks inv.codes step

omit [DecidableEq ι] in
theorem redeemed_phase : hub.Redeemed request ↔ ∃ deviceId, (hub.stages request).phase = .redeemed deviceId := by
  unfold EnrollHub.Redeemed
  cases hub.stages request <;> simp [EnrollStage.phase]

omit [DecidableEq ι] in
theorem redeemed_iff : hub.Redeemed request ↔ ∃ value, (desk hub).claims request = .redeemed value := by
  simp only [EnrollHub.Redeemed, desk]
  cases hub.stages request <;> simp [EnrollStage.phase, EnrollPhase.claim]

theorem inv_honoured (inv : EnrollInv arrivals start hub) : CodesHonoured arrivals start hub := by
  have kept : ∀ code, (∀ request, hub.Redeemed request → codeOf arrivals request ≠ code) →
      hub.rows.codes code = start.codes code := by
    intro code unredeemed
    apply inv.codes.kept code
    intro request value redeemed
    exact unredeemed request (redeemed_iff.mpr ⟨value, redeemed⟩)
  have device : ∀ request response, hub.stages request = .committed response →
      ∃ row device, hub.rows.codes (codeOf arrivals request) = some row ∧
        row.usedAt = some (arrivals request).now ∧ row.usedByDeviceId = some response.deviceId ∧
        hub.rows.devices (machineOf arrivals request) = some device ∧ device.id = response.deviceId := by
    intro request response here
    have redeemed : (desk hub).claims request = .redeemed (some response.deviceId) := by
      simp only [desk, here]
      rfl
    obtain ⟨row, committed, usedAt, usedBy⟩ := inv.codes.redeemed request _ redeemed
    have settled := inv.devices.settled request response.deviceId (by rw [here]; rfl)
    obtain ⟨device, stored, same⟩ := Option.map_eq_some_iff.mp settled
    exact ⟨row, device, committed, usedAt, usedBy response.deviceId rfl, stored, same⟩
  refine ⟨?_, ?_, kept, device⟩
  · intro one other won won' shared
    obtain ⟨value, redeemed⟩ := redeemed_iff.mp won
    obtain ⟨value', redeemed'⟩ := redeemed_iff.mp won'
    exact inv.codes.once one other value value' redeemed redeemed' shared
  · intro code row committed
    by_cases won : ∃ request, hub.Redeemed request ∧ codeOf arrivals request = code
    · obtain ⟨request, ⟨response, here⟩, rfl⟩ := won
      obtain ⟨row', _, committed', usedAt, _⟩ := device request response here
      rw [committed] at committed'
      cases committed'
      constructor
      · intro _
        exact .inr ⟨request, ⟨response, here⟩, rfl⟩
      · intro _
        simp [usedAt]
    · have first := kept code fun request redeemed same => won ⟨request, redeemed, same⟩
      rw [committed] at first
      constructor
      · intro used
        exact .inl ⟨row, first.symm, used⟩
      · rintro (⟨row', before, used⟩ | redeemed)
        · rw [before] at first
          cases first
          exact used
        · exact absurd redeemed won

theorem move_others (move : EnrollMove arrivals hub request later) {other : ι} (differ : other ≠ request) :
    later.stages other = hub.stages other := by
  cases move with
  | stays => rfl
  | moves stage => exact Function.update_of_ne differ stage hub.stages
  | claims row => exact Function.update_of_ne differ .claimed hub.stages
  | selects claimed => exact Function.update_of_ne differ _ hub.stages
  | locates stage => exact Function.update_of_ne differ stage hub.stages
  | binds progress => exact Function.update_of_ne differ (.bound progress) hub.stages
  | commits response => exact Function.update_of_ne differ (.committed response) hub.stages
  | aborts unredeemed => exact Function.update_of_ne differ .aborted hub.stages

theorem move_rows (move : EnrollMove arrivals hub request later) (uncommitted : ¬ later.Redeemed request) :
    later.rows = hub.rows := by
  cases move with
  | stays | claims row | selects claimed | locates stage | binds progress | aborts unredeemed => rfl
  | moves stage accounts same idle stored =>
    simp only [EnrollHub.rows, EnrollHub.moved, stored.users, stored.policies, stored.aliases]
  | commits response => exact absurd ⟨response, Function.update_self ..⟩ uncommitted

theorem moved_phase (stage : EnrollStage) : ((hub.moved request stage).stages request).phase = stage.phase := by
  simp only [EnrollHub.moved, Function.update_self]

/-- A request that has not claimed its code afterwards had not before, and its statement wrote nothing. -/
theorem move_unclaimed (move : EnrollMove arrivals hub request later)
    (unclaimed : (later.stages request).phase = .unclaimed) :
    (hub.stages request).phase = .unclaimed ∧ later.codes = hub.codes ∧ later.devices = hub.devices ∧
      later.accounts = hub.accounts := by
  cases move with
  | stays => exact ⟨unclaimed, rfl, rfl, rfl⟩
  | moves stage accounts same idle stored =>
    have phase : stage.phase = .unclaimed := (moved_phase stage).symm.trans unclaimed
    exact ⟨same ▸ phase, rfl, rfl, idle phase⟩
  | claims row => exact absurd ((moved_phase .claimed).symm.trans unclaimed) nofun
  | selects claimed => exact absurd ((moved_phase _).symm.trans unclaimed) nofun
  | locates stage device existing selected located =>
    have phase : stage.phase = .unclaimed := (moved_phase stage).symm.trans unclaimed
    rw [located] at phase
    cases phase
  | binds progress => exact absurd ((moved_phase (.bound progress)).symm.trans unclaimed) nofun
  | commits response => exact absurd ((moved_phase (.committed response)).symm.trans unclaimed) nofun
  | aborts unredeemed => exact absurd ((moved_phase .aborted).symm.trans unclaimed) nofun

theorem move_redeemed (move : EnrollMove arrivals hub request later) {other : ι} (redeemed : hub.Redeemed other) :
    later.Redeemed other := by
  by_cases own : other = request
  · subst own
    obtain ⟨deviceId, phase⟩ := redeemed_phase.mp redeemed
    cases move with
    | stays => exact redeemed
    | moves stage accounts same =>
      apply redeemed_phase.mpr
      exact ⟨deviceId, (moved_phase stage).trans (same.trans phase)⟩
    | claims row fresh => exact absurd (fresh.symm.trans phase) nofun
    | selects claimed => exact absurd (claimed.symm.trans phase) nofun
    | locates stage device existing selected => exact absurd (selected.symm.trans phase) nofun
    | binds progress row located => exact absurd (located.symm.trans phase) nofun
    | commits response => exact ⟨response, Function.update_self ..⟩
    | aborts unredeemed => exact absurd phase (unredeemed deviceId)
  · obtain ⟨response, here⟩ := redeemed
    exact ⟨response, (move_others move own).trans here⟩

theorem move_still_claimed (move : EnrollMove arrivals hub request later) {other : ι}
    (claimed : (hub.stages other).phase ≠ .unclaimed) : (later.stages other).phase ≠ .unclaimed := by
  by_cases own : other = request
  · subst own
    intro unclaimed
    exact claimed (move_unclaimed move unclaimed).1
  · rw [move_others move own]
    exact claimed

section Turns

variable (hashToken : String → String) (settings : Settings)

theorem run_inv (inv : EnrollInv arrivals start hub) (turns : List (EnrollTurn ι)) :
    EnrollInv arrivals start (Runs.run (EnrollHub.step hashToken settings arrivals) hub turns) :=
  Runs.run_invariant (EnrollInv arrivals start) hub turns inv
    fun _ turn inv => move_inv inv (step_move hashToken settings inv turn)

theorem run_redeemed (inv : EnrollInv arrivals start hub) (redeemed : hub.Redeemed request)
    (turns : List (EnrollTurn ι)) :
    (Runs.run (EnrollHub.step hashToken settings arrivals) hub turns).Redeemed request := by
  refine (Runs.run_invariant (fun hub => EnrollInv arrivals start hub ∧ hub.Redeemed request) hub turns
    ⟨inv, redeemed⟩ ?_).2
  intro hub turn ⟨inv, redeemed⟩
  have move := step_move hashToken settings inv turn
  exact ⟨move_inv inv move, move_redeemed move redeemed⟩

theorem run_still_claimed (inv : EnrollInv arrivals start hub) (claimed : (hub.stages request).phase ≠ .unclaimed)
    (turns : List (EnrollTurn ι)) :
    ((Runs.run (EnrollHub.step hashToken settings arrivals) hub turns).stages request).phase ≠ .unclaimed := by
  refine (Runs.run_invariant
    (fun hub => EnrollInv arrivals start hub ∧ (hub.stages request).phase ≠ .unclaimed) hub turns
    ⟨inv, claimed⟩ ?_).2
  intro hub turn ⟨inv, claimed⟩
  have move := step_move hashToken settings inv turn
  exact ⟨move_inv inv move, move_still_claimed move claimed⟩

/-- Codes are redeemed at most once and never used up for nothing, however the requests interleave and
    wherever they fail. A statement of a request that has not committed in the end changes nothing that is
    committed; one of a request that has not claimed its code writes nothing at all. -/
theorem codes_redeemed_once (arrivals : ι → EnrollArrival) (start : EnrollRows) (turns : List (EnrollTurn ι)) :
    let step := EnrollHub.step hashToken settings arrivals
    let hub := Runs.run step start.begin turns
    CodesHonoured arrivals start hub ∧
      ∀ before turn after, turns = before ++ turn :: after →
        let earlier := Runs.run step start.begin before
        let later := step earlier turn
        (¬ hub.Redeemed turn.request → later.rows = earlier.rows) ∧
          ((hub.stages turn.request).phase = .unclaimed →
            later.codes = earlier.codes ∧ later.devices = earlier.devices ∧ later.accounts = earlier.accounts) := by
  intro step hub
  refine ⟨inv_honoured (run_inv hashToken settings (begin_inv start) turns), ?_⟩
  intro before turn after split earlier later
  have inv : EnrollInv arrivals start earlier := run_inv hashToken settings (begin_inv start) before
  have move := step_move hashToken settings inv turn
  have after_inv := move_inv inv move
  have goesOn : hub = Runs.run step later after := by
    simp only [hub, split, Runs.run, List.foldl_append, List.foldl_cons]
    rfl
  rw [goesOn]
  constructor
  · intro uncommitted
    apply move_rows move
    intro redeemed
    exact uncommitted (run_redeemed hashToken settings after_inv redeemed after)
  · intro unclaimed
    by_cases claimed : (later.stages turn.request).phase = .unclaimed
    · exact (move_unclaimed move claimed).2
    · exact absurd unclaimed (run_still_claimed hashToken settings after_inv claimed after)

end Turns

end Run

def laptopAndDesktop (second : Bool) : EnrollArrival where
  req :=
    { enrollmentCode := "CODE"
      hostname := "host"
      machineId := if second then "desktop" else "laptop"
      agentVersion := "1"
      localUsers := ["kid"]
      localPolicies := []
      codeLength := by decide
      hostnameLength := by decide
      machineIdLength := by cases second <;> decide
      agentVersionLength := by decide }
  now := 0
  deviceId := if second then "two" else "one"
  tokenUrlsafe := "token"

def oneFreeCode : EnrollRows where
  codes code := if code = "CODE" then some { expiresAt := 900 } else none
  devices _ := none
  users _ := none
  policies _ := none
  aliases _ := none

/-- The second waits for the code the first has claimed, and gets it where the first fails. -/
example :
    let step := EnrollHub.step id {} laptopAndDesktop
    let race := [.advance false, .advance true] ++ List.replicate 8 (.advance false)
    let won := Runs.run step oneFreeCode.begin (race ++ List.replicate 2 (.advance true))
    let lost := Runs.run step oneFreeCode.begin (race.take 6 ++ .abort false :: List.replicate 8 (.advance true))
    (won.stages false).phase = .redeemed "one" ∧ (won.stages true).phase = .unclaimed ∧
      (lost.stages false).phase = .aborted ∧ (lost.stages true).phase = .redeemed "two" := by
  decide

end TimekprProof
