import TimekprHub.Library.RowTable

universe u v w x

namespace ClaimOnce

inductive Claim (α : Type x)
  | idle
  | holding (value : α)
  | redeemed (value : α)

/-- A table of rows to be claimed and the transactions that claim them. -/
structure Desk (τ : Type u) (κ : Type v) (ρ : Type w) (α : Type x) where
  table : RowTable τ κ ρ
  claims : τ → Claim α := fun _ => .idle

variable {τ : Type u} {κ : Type v} {ρ : Type w} {α : Type x} [DecidableEq τ]

section Steps

variable (key : τ → κ) (used : ρ → Prop) (records : τ → α → ρ → Prop)

variable [DecidableEq κ] in
/-- A transaction claims its row where it is not used, may change what it has put into it, and commits or
    gives up. -/
inductive Step (desk : Desk τ κ ρ α) : Desk τ κ ρ α → Prop
  | claim (one : τ) (value : α) (old row : ρ) (idle : desk.claims one = .idle)
      (free : desk.table.writtenByOther one (key one) = false)
      (seen : desk.table.visible one (key one) = some old) (unused : ¬ used old)
      (recorded : records one value row) :
      Step desk
        { table := desk.table.write one (key one) row
          claims := Function.update desk.claims one (.holding value) }
  | amend (one : τ) (before value : α) (row : ρ) (holding : desk.claims one = .holding before)
      (recorded : records one value row) :
      Step desk
        { table := desk.table.write one (key one) row
          claims := Function.update desk.claims one (.holding value) }
  | commit (one : τ) (value : α) (holding : desk.claims one = .holding value) :
      Step desk
        { table := desk.table.commit one
          claims := Function.update desk.claims one (.redeemed value) }
  | abort (one : τ) (unredeemed : ∀ value, desk.claims one ≠ .redeemed value) :
      Step desk
        { table := desk.table.rollback one
          claims := Function.update desk.claims one .idle }

structure Inv (start : κ → Option ρ) (desk : Desk τ κ ρ α) : Prop where
  written : ∀ k one row, desk.table.written k = some (one, row) →
    k = key one ∧ ∃ value, desk.claims one = .holding value
  held : ∀ one value, desk.claims one = .holding value →
    (∃ row, desk.table.written (key one) = some (one, row) ∧ records one value row) ∧
      ∃ old, desk.table.committed (key one) = some old ∧ ¬ used old
  redeemed : ∀ one value, desk.claims one = .redeemed value →
    ∃ row, desk.table.committed (key one) = some row ∧ records one value row
  kept : ∀ k, (∀ one value, desk.claims one = .redeemed value → key one ≠ k) →
    desk.table.committed k = start k
  once : ∀ one other value value', desk.claims one = .redeemed value → desk.claims other = .redeemed value' →
    key one = key other → one = other

end Steps

variable {key : τ → κ} {used : ρ → Prop} {records : τ → α → ρ → Prop} {start : κ → Option ρ}
  {desk later : Desk τ κ ρ α}

omit [DecidableEq τ] in
theorem inv_start (start : κ → Option ρ) :
    Inv key used records start ({ table := { committed := start } } : Desk τ κ ρ α) where
  written := by
    intro k one row version
    cases version
  held := by
    intro one value holding
    cases holding
  redeemed := by
    intro one value won
    cases won
  kept := fun _ _ => rfl
  once := by
    intro one other value value' won
    cases won

omit [DecidableEq τ] in
theorem unredeemed_while_held (inv : Inv key used records start desk)
    (marks : ∀ one value row, records one value row → used row) {one other : τ} {value value' : α}
    (holding : desk.claims one = .holding value) (won : desk.claims other = .redeemed value') :
    key other ≠ key one := by
  intro same
  obtain ⟨_, old, committed, unused⟩ := inv.held one value holding
  obtain ⟨row, committed', recorded⟩ := inv.redeemed other value' won
  rw [same, committed] at committed'
  cases committed'
  exact unused (marks other value' old recorded)

variable [DecidableEq κ] in
theorem write_inv (inv : Inv key used records start desk) (one : τ) (value : α) (row : ρ)
    (unredeemed : ∀ value, desk.claims one ≠ .redeemed value)
    (free : desk.table.writtenByOther one (key one) = false)
    (unused : ∃ old, desk.table.committed (key one) = some old ∧ ¬ used old)
    (recorded : records one value row) :
    Inv key used records start
      { table := desk.table.write one (key one) row
        claims := Function.update desk.claims one (.holding value) } := by
  have redeemers : ∀ other value', Function.update desk.claims one (.holding value) other = .redeemed value' →
      desk.claims other = .redeemed value' := by
    intro other value' won
    by_cases own : other = one
    · subst own
      rw [Function.update_self] at won
      cases won
    · rwa [Function.update_of_ne own] at won
  refine ⟨?_, ?_, ?_, ?_, ?_⟩
  · intro k writer version written
    by_cases own : k = key one
    · subst own
      simp only [RowTable.write_written_same, Option.some.injEq, Prod.mk.injEq] at written
      obtain ⟨rfl, _⟩ := written
      exact ⟨rfl, value, Function.update_self ..⟩
    · simp only [RowTable.write_written_other own] at written
      obtain ⟨rfl, value', holding⟩ := inv.written k writer version written
      have other : writer ≠ one := by
        intro same
        exact own (congrArg key same)
      exact ⟨rfl, value', by simpa only [Function.update_of_ne other] using holding⟩
  · intro other value' holding
    by_cases own : other = one
    · subst own
      simp only [Function.update_self, Claim.holding.injEq] at holding
      subst holding
      exact ⟨⟨row, RowTable.write_written_same, recorded⟩, unused⟩
    · simp only [Function.update_of_ne own] at holding
      obtain ⟨⟨version, written, shown⟩, committed⟩ := inv.held other value' holding
      exact ⟨⟨version, RowTable.write_written_kept free own written, shown⟩, committed⟩
  · intro other value' won
    exact inv.redeemed other value' (redeemers other value' won)
  · intro k unclaimed
    apply inv.kept k
    intro other value' won
    have differ : other ≠ one := by
      intro same
      subst same
      exact unredeemed value' won
    exact unclaimed other value' (by simpa only [Function.update_of_ne differ] using won)
  · intro first second value' value'' won won'
    exact inv.once first second value' value'' (redeemers _ _ won) (redeemers _ _ won')

theorem commit_inv (inv : Inv key used records start desk)
    (marks : ∀ one value row, records one value row → used row) (one : τ) (value : α)
    (holding : desk.claims one = .holding value) :
    Inv key used records start
      { table := desk.table.commit one
        claims := Function.update desk.claims one (.redeemed value) } := by
  obtain ⟨⟨row, own, recorded⟩, _⟩ := inv.held one value holding
  have elsewhere : ∀ k, k ≠ key one → (desk.table.commit one).committed k = desk.table.committed k := by
    intro k differ
    apply RowTable.commit_committed_other
    intro version written
    exact differ (inv.written k one version written).1
  have redeemers : ∀ other value', other ≠ one →
      Function.update desk.claims one (.redeemed value) other = .redeemed value' →
      desk.claims other = .redeemed value' := by
    intro other value' differ won
    rwa [Function.update_of_ne differ] at won
  have apart : ∀ other value', other ≠ one →
      Function.update desk.claims one (.redeemed value) other = .redeemed value' → key other ≠ key one :=
    fun other value' differ won => unredeemed_while_held inv marks holding (redeemers other value' differ won)
  refine ⟨?_, ?_, ?_, ?_, ?_⟩
  · intro k writer version written
    obtain ⟨other, written⟩ := RowTable.commit_written written
    obtain ⟨same, value', holding'⟩ := inv.written k writer version written
    exact ⟨same, value', by simpa only [Function.update_of_ne other] using holding'⟩
  · intro other value' holding'
    by_cases same : other = one
    · subst same
      simp only [Function.update_self, reduceCtorEq] at holding'
    · simp only [Function.update_of_ne same] at holding'
      obtain ⟨⟨version, written, shown⟩, old, committed, unused⟩ := inv.held other value' holding'
      have differ : key other ≠ key one := by
        intro shared
        rw [shared, own] at written
        cases written
        exact same rfl
      refine ⟨⟨version, RowTable.commit_written_kept same written, shown⟩, old, ?_, unused⟩
      rw [elsewhere _ differ]
      exact committed
  · intro other value' won
    by_cases same : other = one
    · subst same
      simp only [Function.update_self, Claim.redeemed.injEq] at won
      subst won
      exact ⟨row, RowTable.commit_committed_own own, recorded⟩
    · rw [elsewhere _ (apart other value' same won)]
      exact inv.redeemed other value' (redeemers other value' same won)
  · intro k unclaimed
    have differ : k ≠ key one := fun same => unclaimed one value (Function.update_self ..) same.symm
    rw [elsewhere k differ]
    apply inv.kept k
    intro other value' won
    by_cases same : other = one
    · subst same
      exact Ne.symm differ
    · exact unclaimed other value' (by simpa only [Function.update_of_ne same] using won)
  · intro first second value' value'' won won' shared
    by_cases same : first = one
    · subst same
      by_contra differ
      exact apart second value'' (Ne.symm differ) won' shared.symm
    · by_cases same' : second = one
      · subst same'
        exact absurd shared (apart first value' same won)
      · exact inv.once first second value' value'' (redeemers _ _ same won) (redeemers _ _ same' won') shared

theorem abort_inv (inv : Inv key used records start desk) (one : τ)
    (unredeemed : ∀ value, desk.claims one ≠ .redeemed value) :
    Inv key used records start
      { table := desk.table.rollback one
        claims := Function.update desk.claims one .idle } := by
  have others : ∀ other claim, claim ≠ .idle → Function.update desk.claims one .idle other = claim →
      other ≠ one ∧ desk.claims other = claim := by
    intro other claim busy stands
    by_cases own : other = one
    · subst own
      rw [Function.update_self] at stands
      exact absurd stands.symm busy
    · rw [Function.update_of_ne own] at stands
      exact ⟨own, stands⟩
  refine ⟨?_, ?_, ?_, ?_, ?_⟩
  · intro k writer version written
    obtain ⟨other, written⟩ := RowTable.rollback_written written
    obtain ⟨same, value, holding⟩ := inv.written k writer version written
    exact ⟨same, value, by simpa only [Function.update_of_ne other] using holding⟩
  · intro other value holding
    obtain ⟨differ, holding⟩ := others other _ (by simp) holding
    obtain ⟨⟨version, written, shown⟩, committed⟩ := inv.held other value holding
    exact ⟨⟨version, RowTable.rollback_written_kept differ written, shown⟩, committed⟩
  · intro other value won
    exact inv.redeemed other value (others other _ (by simp) won).2
  · intro k unclaimed
    apply inv.kept k
    intro other value won
    have differ : other ≠ one := by
      intro same
      subst same
      exact unredeemed value won
    exact unclaimed other value (by simpa only [Function.update_of_ne differ] using won)
  · intro first second value value' won won'
    exact inv.once first second value value' (others first _ (by simp) won).2 (others second _ (by simp) won').2

variable [DecidableEq κ] in
theorem step_inv (marks : ∀ one value row, records one value row → used row)
    (inv : Inv key used records start desk) (step : Step key used records desk later) :
    Inv key used records start later := by
  cases step with
  | claim one value old row idle free seen unused recorded =>
    have unredeemed : ∀ value, desk.claims one ≠ .redeemed value := by simp [idle]
    have fresh : ∀ row, desk.table.written (key one) ≠ some (one, row) := by
      intro row written
      obtain ⟨_, value, holding⟩ := inv.written (key one) one row written
      rw [idle] at holding
      cases holding
    rw [RowTable.visible_other fresh] at seen
    exact write_inv inv one value row unredeemed free ⟨old, seen, unused⟩ recorded
  | amend one before value row holding recorded =>
    have unredeemed : ∀ value, desk.claims one ≠ .redeemed value := by simp [holding]
    obtain ⟨⟨version, written, _⟩, committed⟩ := inv.held one before holding
    have free : desk.table.writtenByOther one (key one) = false := by simp [RowTable.writtenByOther, written]
    exact write_inv inv one value row unredeemed free committed recorded
  | commit one value holding => exact commit_inv inv marks one value holding
  | abort one unredeemed => exact abort_inv inv one unredeemed

end ClaimOnce
