import FluxBar.StoreSteps
import FluxBar.Library.WriteBehind

/-! What each transaction of the store does to one field of one entry. The rows
of `entries` and `pending_mutations` that concern the field form a cell: the
remote and the effective column, and the pending change. A transaction moves
the cells it reaches and leaves the others as they are. -/
namespace FluxBar
open Relational WriteBehind Relation

/-- The values a field takes. -/
def MutationField.Value : MutationField → Type
  | .read => String
  | .starred => Bool

namespace MutationField

/-- The value a pending row stands for. -/
def value : (field : MutationField) → Bool → field.Value
  | .read, desired => statusText desired
  | .starred, desired => desired

/-- The remote column. -/
def baseline : (field : MutationField) → EntryRow → field.Value
  | .read, row => row.remoteStatus
  | .starred, row => row.remoteStarred

/-- The effective column. -/
def effective : (field : MutationField) → EntryRow → field.Value
  | .read, row => row.status
  | .starred, row => row.starred

/-- Both columns of a field, as the copy that a write-behind cache keeps of it. -/
def copy (field : MutationField) (row : EntryRow) : Copy field.Value :=
  ⟨field.baseline row, field.effective row⟩

/-- The value a browsed entry brings. -/
def browsed : (field : MutationField) → Entry → field.Value
  | .read, entry => entry.status.asStr
  | .starred, entry => entry.starred

/-- The value absence from a complete result stands for: an article that is not listed as
unread is read, and one not listed as starred carries no star. -/
def absent : (field : MutationField) → field.Value
  | .read => "read"
  | .starred => false

end MutationField

/-- A listed mutation, as the ticket of its delivery. -/
def PendingMutation.ticket (mutation : PendingMutation) : Intent mutation.field.Value :=
  ⟨mutation.field.value mutation.desired, mutation.revision⟩

namespace Store
variable {store after : Store} {accountId otherAccount : String} {entryId otherEntry : Int}
  {field otherField : MutationField} {desired : Bool} {now : String}

/-- One field of one entry, as a cell of a write-behind cache: the row's two columns, and
the pending change where there is one. -/
def cell (store : Store) (accountId : String) (entryId : Int) (field : MutationField) :
    Cell field.Value where
  copy := (store.entries.find? (accountId, entryId)).map field.copy
  intent := (store.pendingMutations.find? (accountId, entryId, field)).map fun row =>
    ⟨field.value row.desired, row.revision⟩

/-- What an account may learn from the server about a field of an entry; a refresh supplies
it, and a local change has none. -/
abbrev Evidence := String → Int → (field : MutationField) → field.Value → Prop

/-- Every cell went through local changes and observations of what was seen. This is what
each transaction is shown to do, and all that runs need to know of it. -/
def Moved (seen : Evidence) (store after : Store) : Prop :=
  ∀ accountId entryId field, ReflTransGen (Cell.Move (seen accountId entryId field))
    (store.cell accountId entryId field) (after.cell accountId entryId field)

theorem cell_known :
    (store.cell accountId entryId field).copy.isSome ↔
      (store.entries.find? (accountId, entryId)).isSome := by
  simp [cell]

theorem cell_pending :
    (store.cell accountId entryId field).intent.isSome = store.hasPending accountId entryId field := by
  simp only [cell, Option.isSome_map, hasPending, Table.has]

namespace Moved
variable {seen : Evidence} {middle : Store}

theorem refl : Moved seen store store := fun _ _ _ => .refl

theorem trans (first : Moved seen store middle) (second : Moved seen middle after) :
    Moved seen store after :=
  fun accountId entryId field =>
    (first accountId entryId field).trans (second accountId entryId field)

/-- Only the two tables of the cells matter; a transaction that leaves both moves nothing.
-/
theorem of_tables (entries : after.entries = store.entries)
    (pending : after.pendingMutations = store.pendingMutations) : Moved seen store after := by
  intro accountId entryId field
  have same : after.cell accountId entryId field = store.cell accountId entryId field := by
    simp only [cell, entries, pending]
  exact same ▸ .refl

/-- No entry is ever dropped. -/
theorem stored (moved : Moved seen store after)
    (held : (store.entries.find? (accountId, entryId)).isSome) :
    (after.entries.find? (accountId, entryId)).isSome :=
  cell_known.mp (Cell.known_moves (cell_known.mpr held) (moved accountId entryId .read))

end Moved

/-! ## Local changes -/

section LocalChanges
variable (change : EntryRow → EntryRow) (keeps : ∀ row, (change row).key = row.key)

/-- The pair of statements of a local change: one effective column of one entry,
and the pending row of that field. -/
def changeField (store : Store) (now accountId : String) (entryId : Int) (field : MutationField)
    (desired : Bool) (change : EntryRow → EntryRow)
    (keeps : ∀ row, (change row).key = row.key) : Store :=
  upsertPending
    { store with
      entries := store.entries.update
        (fun row => row.accountId = accountId && row.id = entryId) change keeps }
    now accountId entryId field desired

theorem cell_changeField (effective : ∀ row, field.effective (change row) = field.value desired)
    (baseline : ∀ row, field.baseline (change row) = field.baseline row) :
    (store.changeField now accountId entryId field desired change keeps).cell accountId entryId field =
      (store.cell accountId entryId field).write (field.value desired) := by
  ext1
  · cases found : store.entries.find? (accountId, entryId) with
    | none => simp [cell, changeField, upsertPending, Cell.write, found]
    | some row =>
      have key := Table.key_of_find? found
      simp only [EntryRow.key, Prod.mk.injEq] at key
      simp [cell, MutationField.copy, changeField, upsertPending, Cell.write, found, key, effective, baseline]
  · cases found : store.pendingMutations.find? (accountId, entryId, field) <;>
      simp [cell, changeField, upsertPending, Cell.write, found, PendingRow.key]

theorem cell_changeField_other
    (elsewhere : (otherAccount, otherEntry, otherField) ≠ (accountId, entryId, field))
    (effective : otherField ≠ field → ∀ row, otherField.effective (change row) = otherField.effective row)
    (baseline : ∀ row, otherField.baseline (change row) = otherField.baseline row) :
    (store.changeField now accountId entryId field desired change keeps).cell
        otherAccount otherEntry otherField =
      store.cell otherAccount otherEntry otherField := by
  ext1
  · cases found : store.entries.find? (otherAccount, otherEntry) with
    | none => simp [cell, changeField, upsertPending, found]
    | some row =>
      have key := Table.key_of_find? found
      simp only [EntryRow.key, Prod.mk.injEq] at key
      by_cases same : otherAccount = accountId ∧ otherEntry = entryId
      · obtain ⟨rfl, rfl⟩ := same
        have unlike : otherField ≠ field := by
          rintro rfl
          exact elsewhere rfl
        simp [cell, MutationField.copy, changeField, upsertPending, found, key, baseline, effective unlike]
      · simp [cell, MutationField.copy, changeField, upsertPending, found, key, same]
  · simp only [cell, changeField, upsertPending, Table.find?_upsert, PendingRow.key,
      if_neg elsewhere]

/-- A local change of a stored entry is one write of one cell, and no move of any other. -/
theorem moved_changeField {seen : Evidence}
    (held : (store.entries.find? (accountId, entryId)).isSome)
    (effective : ∀ row, field.effective (change row) = field.value desired)
    (others : ∀ other, other ≠ field → ∀ row, other.effective (change row) = other.effective row)
    (baseline : ∀ (other : MutationField) row, other.baseline (change row) = other.baseline row) :
    Moved seen store (store.changeField now accountId entryId field desired change keeps) := by
  intro otherAccount otherEntry otherField
  by_cases here : (otherAccount, otherEntry, otherField) = (accountId, entryId, field)
  · simp only [Prod.mk.injEq] at here
    obtain ⟨rfl, rfl, rfl⟩ := here
    rw [cell_changeField change keeps effective (baseline _)]
    exact .single (.write _ (cell_known.mpr held))
  · rw [cell_changeField_other change keeps here (others _) (baseline _)]

end LocalChanges

/-- The two statements `set_read` and `undo` run for one entry, which are one write of its
read state. -/
theorem moved_setStatus {seen : Evidence}
    (held : (store.entries.find? (accountId, entryId)).isSome) :
    Moved seen store ((store.setStatus accountId entryId (statusText desired)).upsertPending now
      accountId entryId .read desired) := by
  refine moved_changeField (fun row => { row with status := statusText desired }) (fun _ => rfl)
    held (fun _ => rfl) ?_ ?_
  · intro other unlike row
    cases other
    · exact absurd rfl unlike
    · rfl
  · intro other row
    cases other <;> rfl

theorem moved_setStarred {seen : Evidence} {starred : Bool}
    (held : (store.entries.find? (accountId, entryId)).isSome) :
    Moved seen store (store.setStarred now accountId entryId starred) := by
  refine moved_changeField (fun row => { row with starred }) (fun _ => rfl)
    held (fun _ => rfl) ?_ ?_
  · intro other unlike row
    cases other
    · rfl
    · exact absurd rfl unlike
  · intro other row
    cases other <;> rfl

/-- Every undo item names an entry that is stored, so that an undo never writes a cell of
none. -/
def UndoStored (store : Store) : Prop :=
  ∀ item ∈ store.undoItems.rows, (store.entries.find? (item.accountId, item.entryId)).isSome

/-- What local changes keep: the cells move by what was seen, and undo items name stored
entries. -/
structure Changed (seen : Evidence) (store after : Store) : Prop where
  moved : Moved seen store after
  undoStored : store.UndoStored → after.UndoStored

namespace Changed
variable {seen : Evidence} {middle : Store}

theorem refl : Changed seen store store := ⟨.refl, id⟩

theorem trans (first : Changed seen store middle) (second : Changed seen middle after) :
    Changed seen store after :=
  ⟨first.moved.trans second.moved, second.undoStored ∘ first.undoStored⟩

/-- Moves of the cells that add no undo item. -/
theorem of_fewer (moved : Moved seen store after)
    (fewer : ∀ item ∈ after.undoItems.rows, item ∈ store.undoItems.rows) :
    Changed seen store after :=
  ⟨moved, fun stored item held => moved.stored (stored item (fewer item held))⟩

end Changed

theorem changed_ensureAccount {seen : Evidence} {server : String} :
    Changed seen store (store.ensureAccount accountId server) := by
  unfold ensureAccount
  exact .of_fewer (.of_tables rfl rfl) fun _ held => held

theorem changed_openBatch {seen : Evidence} {undoable : Bool} {batchId : String}
    (opened : store.openBatch now accountId batchId undoable = .ok after) :
    Changed seen store after := by
  rcases openBatch_cases opened with ⟨_, rfl⟩ | ⟨_, undoBatches, _, rfl⟩
  · exact .refl
  · exact .of_fewer (.of_tables rfl rfl) fun _ held => held

theorem changed_forgetUndo {seen : Evidence} :
    Changed seen store (store.forgetUndo accountId entryId) :=
  .of_fewer (.of_tables rfl rfl) fun _ held => List.mem_of_mem_filter held

theorem changed_recordUndo {seen : Evidence} {batchId : String} {priorRead : Bool}
    (held : (store.entries.find? (accountId, entryId)).isSome)
    (recorded : store.recordUndo accountId batchId entryId priorRead = .ok after) :
    Changed seen store after := by
  obtain ⟨undoItems, inserted, rfl⟩ := recordUndo_ok recorded
  refine ⟨.of_tables rfl rfl, fun stored item listed => ?_⟩
  change item ∈ undoItems.rows at listed
  rw [Table.rows_insert? _ inserted, List.mem_append, List.mem_singleton] at listed
  rcases listed with old | rfl
  · exact stored item old
  · exact held

theorem changed_setStatus {seen : Evidence}
    (held : (store.entries.find? (accountId, entryId)).isSome) :
    Changed seen store ((store.setStatus accountId entryId (statusText desired)).upsertPending now
      accountId entryId .read desired) :=
  .of_fewer (moved_setStatus held) fun _ listed => listed

theorem changed_setReadEntry {seen : Evidence} {clock : Nat → String} {read undoable : Bool}
    {progress advanced : ReadProgress}
    (ran : setReadEntry clock accountId read undoable progress entryId = .ok advanced) :
    Changed seen progress.store advanced.store := by
  rcases setReadEntry_cases ran with ⟨rfl, _⟩ | ⟨row, noted, found, _, noting, rfl⟩
  · unfold readStart
    split
    · exact .refl
    · exact changed_forgetUndo
  · have held : (progress.store.entries.find? (accountId, entryId)).isSome := by
      rw [found]
      rfl
    have recorded : Changed seen progress.store noted := by
      rcases noting with ⟨_, rfl⟩ | ⟨_, recorded⟩
      · exact changed_forgetUndo
      · exact changed_recordUndo held recorded
    exact recorded.trans (changed_setStatus (recorded.moved.stored held))

theorem changed_closeBatch {seen : Evidence} {undoable : Bool} {receipt : MutationReceipt} :
    Changed seen store (store.closeBatch accountId undoable receipt) := by
  unfold closeBatch
  split
  · split
    · exact .of_fewer (.of_tables rfl rfl) fun _ held => held
    · exact .refl
  · exact .of_fewer (.of_tables rfl rfl) fun _ held => held

/-- `set_read` writes cells of stored entries, whatever ids it is given and in whatever
order. -/
theorem changed_setRead {seen : Evidence} {clock : Nat → String} {receiptId : String}
    {entryIds : List Int} {read undoable : Bool} {receipt : Option MutationReceipt}
    (ran : store.setRead clock receiptId accountId entryIds read undoable = .ok (after, receipt)) :
    Changed seen store after := by
  obtain ⟨opened, progress, start, finished, rfl, _⟩ := setRead_ok ran
  have turned := Transition.foldlM_invariant
    (fun progress : ReadProgress => Changed seen opened progress.store)
    (fun _ _ _ before turn => before.trans (changed_setReadEntry turn)) .refl finished
  exact (changed_openBatch start).trans (turned.trans changed_closeBatch)

theorem changed_setStarred {seen : Evidence} {starred : Bool}
    (held : (store.entries.find? (accountId, entryId)).isSome) :
    Changed seen store (store.setStarred now accountId entryId starred) :=
  .of_fewer (moved_setStarred held) fun _ listed => listed

theorem changed_discardUndo {seen : Evidence} {batchId : String} :
    Changed seen store (store.discardUndo accountId batchId) :=
  .of_fewer (.of_tables rfl rfl) fun _ held => List.mem_of_mem_filter held

theorem changed_undoEntries {seen : Evidence} {clock : Nat → String} {items : List UndoItemRow}
    {turns : Nat} (held : ∀ item ∈ items, (store.entries.find? (accountId, item.entryId)).isSome) :
    Changed seen store (items.foldl (undoEntry clock accountId) (store, turns)).1 := by
  induction items generalizing store turns with
  | nil => exact .refl
  | cons item rest ih =>
    have first : Changed seen store (undoEntry clock accountId (store, turns) item).1 :=
      changed_setStatus (held item List.mem_cons_self)
    exact first.trans (ih fun other listed =>
      first.moved.stored (held other (List.mem_cons_of_mem item listed)))

/-- `undo` writes the cells of its batch, all of them of stored entries. -/
theorem changed_undo {seen : Evidence} {scan : Scan} {clock : Nat → String} {batchId : String}
    (stored : store.UndoStored) :
    Changed seen store (store.undo scan clock accountId batchId).1 := by
  refine Changed.trans (changed_undoEntries ?_) changed_discardUndo
  intro item listed
  have selected := (scan.perm _).mem_iff.mp listed
  simp only [Table.select, List.mem_filter, Bool.and_eq_true, decide_eq_true_eq] at selected
  exact selected.2.1 ▸ stored item selected.1

/-! ## Acknowledgement -/

section Acknowledgement
variable {mutation : PendingMutation}

/-- Acknowledging fails on a mutation whose entry is not stored, and only there; this is
what can block a queue. -/
theorem acknowledge_isOk_iff :
    (store.acknowledge accountId mutation).isOk ↔
      (store.entries.find? (accountId, mutation.entryId)).isSome := by
  unfold acknowledge
  split <;> simp_all [Except.isOk, Except.toBool]

/-- Acknowledging takes the mutation out of the queue where its revision still stands, and
leaves the undo journal. -/
theorem acknowledge_parts (done : store.acknowledge accountId mutation = .ok after) :
    after.pendingMutations = (store.pendingMutations.delete fun pending =>
      pending.accountId = accountId && pending.entryId = mutation.entryId &&
        pending.field = mutation.field && pending.revision = mutation.revision) ∧
      after.undoItems = store.undoItems ∧ after.undoBatches = store.undoBatches := by
  unfold acknowledge at done
  split at done
  · cases done
  · cases done
    unfold acknowledgeRead acknowledgeStarred
    cases mutation.field <;> dsimp only <;> split_ifs <;> exact ⟨rfl, rfl, rfl⟩

/-- The baseline column of the delivered field takes the delivered value. -/
def acknowledgeRow (mutation : PendingMutation) (row : EntryRow) : EntryRow :=
  match mutation.field with
  | .read => { row with remoteStatus := statusText mutation.desired }
  | .starred => { row with remoteStarred := mutation.desired }

theorem effective_acknowledgeRow (field : MutationField) (row : EntryRow) :
    field.effective (acknowledgeRow mutation row) = field.effective row := by
  unfold acknowledgeRow
  cases field <;> split <;> rfl

theorem baseline_acknowledgeRow (row : EntryRow) :
    mutation.field.baseline (acknowledgeRow mutation row) =
      mutation.field.value mutation.desired := by
  cases mutation with
  | mk entryId field => cases field <;> rfl

theorem baseline_acknowledgeRow_other (row : EntryRow) (unlike : otherField ≠ mutation.field) :
    otherField.baseline (acknowledgeRow mutation row) = otherField.baseline row := by
  cases mutation with
  | mk entryId field =>
    cases field <;> cases otherField
    · exact absurd rfl unlike
    · rfl
    · rfl
    · exact absurd rfl unlike

theorem find?_acknowledge (done : store.acknowledge accountId mutation = .ok after) :
    after.entries.find? (otherAccount, otherEntry) =
      (store.entries.find? (otherAccount, otherEntry)).map fun row =>
        if otherAccount = accountId ∧ otherEntry = mutation.entryId then acknowledgeRow mutation row
        else row := by
  unfold acknowledge at done
  split at done
  · cases done
  · rename_i held found
    have heldKey := Table.key_of_find? found
    simp only [Prod.mk.injEq] at heldKey
    cases done
    cases other : store.entries.find? (otherAccount, otherEntry) with
    | none =>
      unfold acknowledgeRead acknowledgeStarred
      cases mutation.field <;> dsimp only <;> split_ifs <;> simp [other]
    | some row =>
      have key := Table.key_of_find? other
      simp only [Prod.mk.injEq] at key
      unfold acknowledgeRead acknowledgeStarred acknowledgeRow
      cases mutation.field <;> dsimp only <;> split_ifs <;> simp_all

theorem cell_acknowledge (done : store.acknowledge accountId mutation = .ok after) :
    after.cell accountId mutation.entryId mutation.field =
      (store.cell accountId mutation.entryId mutation.field).acknowledge mutation.ticket := by
  ext1
  · simp only [cell, find?_acknowledge done, Cell.acknowledge, Option.map_map, PendingMutation.ticket]
    simp [Function.comp_def, MutationField.copy, baseline_acknowledgeRow,
      effective_acknowledgeRow]
  · simp only [cell, (acknowledge_parts done).1, Cell.acknowledge, Table.find?_delete]
    cases found : store.pendingMutations.find? (accountId, mutation.entryId, mutation.field) with
    | none => rfl
    | some row =>
      have key := Table.key_of_find? found
      simp only [Prod.mk.injEq] at key
      by_cases same : row.revision = mutation.revision <;>
        simp [key, same, Option.filter, PendingMutation.ticket]

theorem cell_acknowledge_other (done : store.acknowledge accountId mutation = .ok after)
    (elsewhere : (otherAccount, otherEntry, otherField) ≠
      (accountId, mutation.entryId, mutation.field)) :
    after.cell otherAccount otherEntry otherField = store.cell otherAccount otherEntry otherField := by
  ext1
  · simp only [cell, find?_acknowledge done, Option.map_map]
    by_cases same : otherAccount = accountId ∧ otherEntry = mutation.entryId
    · obtain ⟨rfl, rfl⟩ := same
      have unlike : otherField ≠ mutation.field := by
        rintro rfl
        exact elsewhere rfl
      congr 1
      funext row
      simp [MutationField.copy, baseline_acknowledgeRow_other _ unlike, effective_acknowledgeRow]
    · simp [same, Function.comp_def]
  · simp only [cell, (acknowledge_parts done).1, Table.find?_delete]
    cases found : store.pendingMutations.find? (otherAccount, otherEntry, otherField) with
    | none => rfl
    | some row =>
      have key := Table.key_of_find? found
      simp only [Prod.mk.injEq] at key
      have kept : ¬(row.accountId = accountId ∧ row.entryId = mutation.entryId ∧
          row.field = mutation.field) := by
        rintro ⟨account, entry, field⟩
        exact elsewhere (by rw [← key.1, ← key.2.1, ← key.2.2, account, entry, field])
      simp only [Option.filter_some]
      grind

end Acknowledgement

end Store
end FluxBar
