import Mathlib.Logic.Function.Basic

universe u v w x

/-- A table under READ COMMITTED: the committed rows, for each row with a version that is not committed yet
    that version and the transaction it is of, and who has locked a row with SELECT ... FOR UPDATE. -/
structure RowTable (τ : Type u) (κ : Type v) (ρ : Type w) where
  committed : κ → Option ρ
  written : κ → Option (τ × ρ) := fun _ => none
  locks : κ → Option τ := fun _ => none

/-- How a statement ends: it has to wait for another transaction, it finds no row it may change, or it is
    done. -/
inductive Attempt (α : Type u)
  | waits
  | misses
  | done (result : α)

namespace RowTable

variable {τ : Type u} {κ : Type v} {ρ : Type w} [DecidableEq τ]

def visible (table : RowTable τ κ ρ) (transaction : τ) (key : κ) : Option ρ :=
  match table.written key with
  | some (writer, row) => if writer = transaction then some row else table.committed key
  | none => table.committed key

def writtenByOther (table : RowTable τ κ ρ) (transaction : τ) (key : κ) : Bool :=
  (table.written key).any fun version => version.1 ≠ transaction

def heldByOther (table : RowTable τ κ ρ) (transaction : τ) (key : κ) : Bool :=
  match table.written key with
  | some (writer, _) => writer ≠ transaction
  | none => (table.locks key).any fun holder => holder ≠ transaction

def commit (table : RowTable τ κ ρ) (transaction : τ) : RowTable τ κ ρ where
  committed := table.visible transaction
  written := fun key => (table.written key).filter fun version => version.1 ≠ transaction
  locks := fun key => (table.locks key).filter fun holder => holder ≠ transaction

def rollback (table : RowTable τ κ ρ) (transaction : τ) : RowTable τ κ ρ where
  committed := table.committed
  written := fun key => (table.written key).filter fun version => version.1 ≠ transaction
  locks := fun key => (table.locks key).filter fun holder => holder ≠ transaction

section Statements

variable [DecidableEq κ]

def write (table : RowTable τ κ ρ) (transaction : τ) (key : κ) (row : ρ) : RowTable τ κ ρ :=
  { table with written := Function.update table.written key (some (transaction, row)) }

/-- An INSERT. Another transaction's version of the key's row makes it wait; a lock does not. -/
def insert (table : RowTable τ κ ρ) (transaction : τ) (key : κ) (row : ρ) : Attempt (RowTable τ κ ρ) :=
  if table.writtenByOther transaction key then .waits
  else
    match table.visible transaction key with
    | some _ => .misses
    | none => .done (table.write transaction key row)

/-- An UPDATE of the row of a key. A row that matches and is locked makes it wait; as it runs again, its
    condition is evaluated on the row that is committed by then. -/
def update (table : RowTable τ κ ρ) (transaction : τ) (key : κ) (matching : ρ → Bool) (set : ρ → ρ) :
    Attempt (RowTable τ κ ρ) :=
  match table.visible transaction key with
  | none => .misses
  | some row =>
    if matching row then
      if table.heldByOther transaction key then .waits
      else .done (table.write transaction key (set row))
    else .misses

def lock (table : RowTable τ κ ρ) (transaction : τ) (key : κ) : Attempt (RowTable τ κ ρ) :=
  match table.visible transaction key with
  | none => .misses
  | some _ =>
    if table.heldByOther transaction key then .waits
    else .done { table with locks := Function.update table.locks key (some transaction) }

end Statements

def Fixed {α : Type x} (column : ρ → α) (table : RowTable τ κ ρ) : Prop :=
  ∀ key transaction row old, table.written key = some (transaction, row) → table.committed key = some old →
    column row = column old

variable {table : RowTable τ κ ρ} {transaction : τ} {key : κ} {row : ρ}

theorem visible_own (own : table.written key = some (transaction, row)) :
    table.visible transaction key = some row := by
  simp [visible, own]

theorem visible_other (own : ∀ row, table.written key ≠ some (transaction, row)) :
    table.visible transaction key = table.committed key := by
  unfold visible
  cases version : table.written key with
  | none => rfl
  | some version' =>
    obtain ⟨writer, row⟩ := version'
    apply if_neg
    intro same
    subst same
    exact own row version

theorem not_writtenByOther (free : table.writtenByOther transaction key = false) {writer : τ}
    (version : table.written key = some (writer, row)) : writer = transaction := by
  simpa [writtenByOther, version] using free

theorem not_heldByOther (free : table.heldByOther transaction key = false) :
    table.writtenByOther transaction key = false := by
  unfold heldByOther at free
  unfold writtenByOther
  cases version : table.written key with
  | none => rfl
  | some version' =>
    rw [version] at free
    exact free

theorem commit_written {writer : τ} (version : (table.commit transaction).written key = some (writer, row)) :
    writer ≠ transaction ∧ table.written key = some (writer, row) := by
  simp only [commit, Option.filter_eq_some_iff, ne_eq, decide_eq_true_eq] at version
  exact ⟨version.2, version.1⟩

theorem rollback_written {writer : τ}
    (version : (table.rollback transaction).written key = some (writer, row)) :
    writer ≠ transaction ∧ table.written key = some (writer, row) := commit_written version

theorem commit_written_kept {writer : τ} (other : writer ≠ transaction)
    (version : table.written key = some (writer, row)) :
    (table.commit transaction).written key = some (writer, row) := by
  simp [commit, version, Option.filter, other]

theorem rollback_written_kept {writer : τ} (other : writer ≠ transaction)
    (version : table.written key = some (writer, row)) :
    (table.rollback transaction).written key = some (writer, row) := commit_written_kept other version

theorem commit_committed_own (own : table.written key = some (transaction, row)) :
    (table.commit transaction).committed key = some row := visible_own own

theorem commit_committed_other (own : ∀ row, table.written key ≠ some (transaction, row)) :
    (table.commit transaction).committed key = table.committed key := visible_other own

@[simp] theorem rollback_committed : (table.rollback transaction).committed = table.committed := rfl

section Statements

variable [DecidableEq κ]

omit [DecidableEq τ] in
@[simp] theorem write_committed : (table.write transaction key row).committed = table.committed := rfl

omit [DecidableEq τ] in
@[simp] theorem write_written_same :
    (table.write transaction key row).written key = some (transaction, row) :=
  Function.update_self key _ table.written

omit [DecidableEq τ] in
theorem write_written_other {other : κ} (differ : other ≠ key) :
    (table.write transaction key row).written other = table.written other :=
  Function.update_of_ne differ _ table.written

theorem write_written_kept (free : table.writtenByOther transaction key = false) {writer : τ} {other : κ}
    {version : ρ} (differ : writer ≠ transaction) (held : table.written other = some (writer, version)) :
    (table.write transaction key row).written other = some (writer, version) := by
  have apart : other ≠ key := by
    intro same
    subst same
    exact differ (not_writtenByOther free held)
  rw [write_written_other apart]
  exact held

theorem insert_done {later : RowTable τ κ ρ} (done : table.insert transaction key row = .done later) :
    table.visible transaction key = none ∧ table.writtenByOther transaction key = false ∧
      later = table.write transaction key row := by
  unfold insert at done
  split at done
  · cases done
  · rename_i free
    cases seen : table.visible transaction key with
    | some _ =>
      rw [seen] at done
      cases done
    | none =>
      rw [seen] at done
      cases done
      exact ⟨rfl, eq_false_of_ne_true free, rfl⟩

theorem insert_committed {later : RowTable τ κ ρ} (done : table.insert transaction key row = .done later) :
    later.committed = table.committed := by
  obtain ⟨_, _, rfl⟩ := insert_done done
  rfl

variable {matching : ρ → Bool} {set : ρ → ρ}

theorem update_done {later : RowTable τ κ ρ} (done : table.update transaction key matching set = .done later) :
    ∃ row, table.visible transaction key = some row ∧ matching row = true ∧
      table.writtenByOther transaction key = false ∧ later = table.write transaction key (set row) := by
  unfold update at done
  cases seen : table.visible transaction key with
  | none =>
    rw [seen] at done
    cases done
  | some row =>
    simp only [seen] at done
    split at done
    · rename_i matched
      split at done
      · cases done
      · rename_i free
        cases done
        exact ⟨row, rfl, matched, not_heldByOther (eq_false_of_ne_true free), rfl⟩
    · cases done

theorem update_committed {later : RowTable τ κ ρ}
    (done : table.update transaction key matching set = .done later) : later.committed = table.committed := by
  obtain ⟨_, _, _, _, rfl⟩ := update_done done
  rfl

theorem update_own (own : table.written key = some (transaction, row)) (matched : matching row = true) :
    table.update transaction key matching set = .done (table.write transaction key (set row)) := by
  have free : table.heldByOther transaction key = false := by simp [heldByOther, own]
  simp [update, visible_own own, matched, free]

theorem lock_committed {later : RowTable τ κ ρ} (done : table.lock transaction key = .done later) :
    later.committed = table.committed := by
  unfold lock at done
  split at done
  · cases done
  · split at done
    · cases done
    · cases done
      rfl

end Statements

section Fixed

variable {α : Type x} {column : ρ → α} {value : α}

theorem Fixed.commit (fixed : table.Fixed column) (transaction : τ) : (table.commit transaction).Fixed column := by
  intro key writer row old written committed
  obtain ⟨other, written⟩ := commit_written written
  have elsewhere : (table.commit transaction).committed key = table.committed key := by
    apply commit_committed_other
    intro version own
    rw [written] at own
    cases own
    exact other rfl
  rw [elsewhere] at committed
  exact fixed key writer row old written committed

theorem Fixed.rollback (fixed : table.Fixed column) (transaction : τ) :
    (table.rollback transaction).Fixed column := by
  intro key writer row old written committed
  exact fixed key writer row old (rollback_written written).2 committed

theorem Fixed.visible (fixed : table.Fixed column) (committed : (table.committed key).map column = some value)
    (transaction : τ) : (table.visible transaction key).map column = some value := by
  obtain ⟨old, stored, same⟩ := Option.map_eq_some_iff.mp committed
  by_cases own : ∃ row, table.written key = some (transaction, row)
  · obtain ⟨row, written⟩ := own
    rw [visible_own written, Option.map_some, fixed key transaction row old written stored, same]
  · rw [visible_other (not_exists.mp own)]
    exact committed

theorem Fixed.commit_committed (fixed : table.Fixed column)
    (committed : (table.committed key).map column = some value) (transaction : τ) :
    ((table.commit transaction).committed key).map column = some value := fixed.visible committed transaction

theorem Fixed.commit_visible (fixed : table.Fixed column) {other : τ} (differ : other ≠ transaction)
    (seen : (table.visible other key).map column = some value) :
    ((table.commit transaction).visible other key).map column = some value := by
  by_cases own : ∃ row, table.written key = some (other, row)
  · obtain ⟨row, written⟩ := own
    rw [visible_own written] at seen
    rw [visible_own (commit_written_kept differ written)]
    exact seen
  · have without := not_exists.mp own
    rw [visible_other without] at seen
    rw [visible_other]
    · exact fixed.commit_committed seen transaction
    · intro row written
      exact without row (commit_written written).2

theorem rollback_visible {other : τ} (differ : other ≠ transaction) :
    (table.rollback transaction).visible other key = table.visible other key := by
  by_cases own : ∃ row, table.written key = some (other, row)
  · obtain ⟨row, written⟩ := own
    rw [visible_own written, visible_own (rollback_written_kept differ written)]
  · have without := not_exists.mp own
    rw [visible_other without, visible_other, rollback_committed]
    intro row written
    exact without row (rollback_written written).2

variable [DecidableEq κ]

theorem Fixed.write (fixed : table.Fixed column) (free : table.writtenByOther transaction key = false)
    (kept : ∀ old, table.visible transaction key = some old → column row = column old) :
    (table.write transaction key row).Fixed column := by
  intro other writer version old written committed
  rw [write_committed] at committed
  by_cases same : other = key
  · subst same
    rw [write_written_same] at written
    cases written
    by_cases own : ∃ mine, table.written other = some (transaction, mine)
    · obtain ⟨mine, before⟩ := own
      rw [kept mine (visible_own before)]
      exact fixed other transaction mine old before committed
    · exact kept old (by rw [visible_other (not_exists.mp own), committed])
  · rw [write_written_other same] at written
    exact fixed other writer version old written committed

theorem write_visible {other : τ} {k : κ} (free : table.writtenByOther transaction key = false)
    (differ : other ≠ transaction) :
    (table.write transaction key row).visible other k = table.visible other k := by
  by_cases own : ∃ version, table.written k = some (other, version)
  · obtain ⟨version, written⟩ := own
    rw [visible_own written, visible_own (write_written_kept free differ written)]
  · have without := not_exists.mp own
    rw [visible_other without, visible_other, write_committed]
    intro version written
    by_cases same : k = key
    · subst same
      rw [write_written_same] at written
      cases written
      exact differ rfl
    · rw [write_written_other same] at written
      exact without version written

end Fixed

end RowTable
