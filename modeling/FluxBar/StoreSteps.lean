import FluxBar.Store
import FluxBar.Library.Procedure

/-! What one statement and one turn of a loop can have done, each said once: the
rows it found, and the store it left. -/
namespace FluxBar.Store
open Relational Procedure

variable {store after : Store} {accountId now batchId : String} {entryId : Int}
  {read undoable : Bool} {clock : Nat → String}

theorem insertRow_ok {ρ κ : Type} {key : ρ → κ} [DecidableEq κ] {columns : String}
    {table inserted : Table key} {row : ρ} (ran : insertRow columns table row = .ok inserted) :
    table.insert? row = some inserted := by
  unfold insertRow at ran
  split at ran
  · rename_i found
    cases ran
    exact found
  · cases ran

/-- A batch is opened for an undoable call only, under an id that was not taken. -/
theorem openBatch_cases (opened : store.openBatch now accountId batchId undoable = .ok after) :
    (undoable = false ∧ after = store) ∨
      (undoable = true ∧ ∃ undoBatches,
        store.undoBatches.insert? { accountId, id := batchId, createdAt := now } = some undoBatches ∧
        after = { store with undoBatches }) := by
  cases undoable with
  | false =>
    cases opened
    exact .inl ⟨rfl, rfl⟩
  | true =>
    obtain ⟨undoBatches, inserted, same⟩ := bind_eq_ok.mp opened
    cases same
    exact .inr ⟨rfl, undoBatches, insertRow_ok inserted, rfl⟩

theorem recordUndo_ok {priorRead : Bool}
    (recorded : store.recordUndo accountId batchId entryId priorRead = .ok after) :
    ∃ undoItems, store.undoItems.insert? { accountId, batchId, entryId, priorRead } = some undoItems ∧
      after = { store with undoItems } := by
  obtain ⟨undoItems, inserted, same⟩ := bind_eq_ok.mp recorded
  cases same
  exact ⟨undoItems, insertRow_ok inserted, rfl⟩

/-- The store a turn of `set_read` looks the entry up in. -/
def readStart (store : Store) (accountId : String) (entryId : Int) (undoable : Bool) : Store :=
  if undoable then store else store.forgetUndo accountId entryId

/-- A stored entry with its new status and pending row. -/
def markEntry (store : Store) (now accountId : String) (entryId : Int) (read : Bool) : Store :=
  (store.setStatus accountId entryId (statusText read)).upsertPending now accountId entryId .read read

/-- A turn of `set_read` passes an entry over, or marks it after noting what it was; nothing
else happens in it. -/
theorem setReadEntry_cases {progress advanced : ReadProgress}
    (ran : setReadEntry clock accountId read undoable progress entryId = .ok advanced) :
    (advanced = { progress with store := progress.store.readStart accountId entryId undoable } ∧
      ∀ row, progress.store.entries.find? (accountId, entryId) = some row →
        row.status = statusText read) ∨
    ∃ row noted, progress.store.entries.find? (accountId, entryId) = some row ∧
      row.status ≠ statusText read ∧
      (undoable = false ∧ noted = progress.store.forgetUndo accountId entryId ∨
        undoable = true ∧ progress.store.recordUndo accountId progress.receipt.id entryId
          (row.status = "read") = .ok noted) ∧
      advanced = {
        store := noted.markEntry (clock progress.readings) accountId entryId read
        receipt := { progress.receipt with count := progress.receipt.count + 1 }
        readings := progress.readings + 1 } := by
  unfold setReadEntry at ran
  have entries : (if undoable then progress.store
      else progress.store.forgetUndo accountId entryId).entries = progress.store.entries := by
    cases undoable <;> rfl
  dsimp only at ran
  rw [entries] at ran
  cases found : progress.store.entries.find? (accountId, entryId) with
  | none =>
    rw [found] at ran
    cases ran
    exact .inl ⟨rfl, fun row absurd => by cases absurd⟩
  | some row =>
    rw [found] at ran
    dsimp only at ran
    by_cases same : row.status = statusText read
    · rw [if_pos same] at ran
      cases ran
      refine .inl ⟨rfl, fun other held => ?_⟩
      cases held
      exact same
    · rw [if_neg same] at ran
      cases undoable with
      | false =>
        cases ran
        exact .inr ⟨row, _, rfl, same, .inl ⟨rfl, rfl⟩, rfl⟩
      | true =>
        obtain ⟨noted, recorded, ended⟩ := bind_eq_ok.mp ran
        cases ended
        exact .inr ⟨row, noted, rfl, same, .inr ⟨rfl, recorded⟩, rfl⟩

/-- `set_read` opens its batch, takes its turns, and closes up. A call that succeeds has
gone through all three. -/
theorem setRead_ok {receiptId : String} {entryIds : List Int} {receipt : Option MutationReceipt}
    (ran : store.setRead clock receiptId accountId entryIds read undoable = .ok (after, receipt)) :
    ∃ opened progress, store.openBatch (clock 0) accountId receiptId undoable = .ok opened ∧
      entryIds.foldlM (setReadEntry clock accountId read undoable)
        { store := opened, receipt := { id := receiptId, count := 0 }, readings := 1 } =
          .ok progress ∧
      after = progress.store.closeBatch accountId undoable progress.receipt ∧
      receipt = if undoable && 0 < progress.receipt.count then some progress.receipt else none := by
  obtain ⟨opened, start, ran⟩ := bind_eq_ok.mp ran
  obtain ⟨progress, turned, ran⟩ := bind_eq_ok.mp ran
  cases ran
  exact ⟨opened, progress, start, turned, rfl, rfl⟩

end FluxBar.Store
