import FluxBar.StoreRuns

/-! What the operations other than a refresh leave alone: which entries are
stored, and everything of an entry but its four state columns. -/
namespace FluxBar
open Relational Transition

/-- A row but for its state columns, which is what a local change keeps of it. -/
def EntryRow.content (row : EntryRow) : EntryRow :=
  { row with remoteStatus := "", remoteStarred := false, status := "", starred := false }

namespace Store
variable {store middle after : Store} {accountId : String} {entryId : Int}

/-- The same entries are stored, with the same content; only their states may differ. -/
def SameContent (store after : Store) : Prop :=
  ∀ key, (after.entries.find? key).map EntryRow.content =
    (store.entries.find? key).map EntryRow.content

namespace SameContent

theorem refl : SameContent store store := fun _ => rfl

theorem trans (first : SameContent store middle) (second : SameContent middle after) :
    SameContent store after :=
  fun key => (second key).trans (first key)

theorem of_entries (same : after.entries = store.entries) : SameContent store after :=
  fun _ => by rw [same]

theorem of_update {condition : EntryRow → Bool} (change : EntryRow → EntryRow)
    (keeps : ∀ row, (change row).key = row.key)
    (updated : after.entries = store.entries.update condition change keeps)
    (content : ∀ row, (change row).content = row.content) : SameContent store after := by
  intro key
  rw [updated, Table.find?_update, Option.map_map]
  congr 1
  funext row
  simp only [Function.comp_apply]
  split
  · exact content row
  · rfl

theorem stored {key : String × Int} (same : SameContent store after)
    (held : (store.entries.find? key).isSome) : (after.entries.find? key).isSome := by
  have contents := congrArg Option.isSome (same key)
  simpa using contents.trans (by simpa using held)

end SameContent

/-- No entry is dropped, whatever becomes of its columns. -/
def KeepsEntries (store after : Store) : Prop :=
  ∀ key, (store.entries.find? key).isSome → (after.entries.find? key).isSome

namespace KeepsEntries

theorem refl : KeepsEntries store store := fun _ held => held

theorem trans (first : KeepsEntries store middle) (second : KeepsEntries middle after) :
    KeepsEntries store after :=
  fun key held => second key (first key held)

end KeepsEntries

theorem SameContent.keepsEntries (same : SameContent store after) : KeepsEntries store after :=
  fun _ => same.stored

theorem sameContent_setStatus {status : String} :
    SameContent store (store.setStatus accountId entryId status) :=
  .of_update (fun row => { row with status }) (fun _ => rfl) rfl fun _ => rfl

/-- An update of one entry leaves the others. -/
theorem find?_update_other {table : Table EntryRow.key} {change : EntryRow → EntryRow}
    {key : String × Int} (unlike : key ≠ (accountId, entryId))
    (keeps : ∀ row, (change row).key = row.key) :
    (table.update (fun row => row.accountId = accountId && row.id = entryId) change keeps).find? key =
      table.find? key := by
  rw [Table.find?_update]
  cases found : table.find? key with
  | none => rfl
  | some row =>
    have elsewhere : ¬ (row.accountId = accountId ∧ row.id = entryId) := by
      rintro ⟨rfl, rfl⟩
      exact unlike (Table.key_of_find? found).symm
    simp [elsewhere]

theorem find?_setStatus_other {status : String} {key : String × Int}
    (unlike : key ≠ (accountId, entryId)) :
    (store.setStatus accountId entryId status).entries.find? key = store.entries.find? key :=
  find?_update_other unlike fun _ => by rfl

theorem sameContent_setStarred {now : String} {starred : Bool} :
    SameContent store (store.setStarred now accountId entryId starred) :=
  .of_update (fun row => { row with starred }) (fun _ => rfl) rfl fun _ => rfl

theorem find?_setStarred_other {now : String} {starred : Bool} {key : String × Int}
    (unlike : key ≠ (accountId, entryId)) :
    (store.setStarred now accountId entryId starred).entries.find? key = store.entries.find? key :=
  find?_update_other unlike fun _ => by rfl

theorem entries_openBatch {now batchId : String} {undoable : Bool}
    (opened : store.openBatch now accountId batchId undoable = .ok after) :
    after.entries = store.entries := by
  rcases openBatch_cases opened with ⟨_, rfl⟩ | ⟨_, undoBatches, _, rfl⟩
  · rfl
  · rfl

theorem entries_recordUndo {batchId : String} {priorRead : Bool}
    (recorded : store.recordUndo accountId batchId entryId priorRead = .ok after) :
    after.entries = store.entries := by
  obtain ⟨undoItems, _, rfl⟩ := recordUndo_ok recorded
  rfl

theorem entries_closeBatch {undoable : Bool} {receipt : MutationReceipt} :
    (store.closeBatch accountId undoable receipt).entries = store.entries := by
  unfold closeBatch
  split_ifs <;> rfl

/-- A turn of `set_read` changes the entries by one status at most. -/
theorem entries_setReadEntry {clock : Nat → String} {read undoable : Bool}
    {progress advanced : ReadProgress}
    (ran : setReadEntry clock accountId read undoable progress entryId = .ok advanced) :
    advanced.store.entries = progress.store.entries ∨
      advanced.store.entries =
        (progress.store.setStatus accountId entryId (statusText read)).entries := by
  rcases setReadEntry_cases ran with ⟨rfl, _⟩ | ⟨row, noted, _, _, noting, rfl⟩
  · left
    unfold readStart
    split <;> rfl
  · right
    have same : noted.entries = progress.store.entries := by
      rcases noting with ⟨_, rfl⟩ | ⟨_, recorded⟩
      · rfl
      · exact entries_recordUndo recorded
    simp only [markEntry, upsertPending, setStatus, same]

theorem sameContent_setReadEntry {clock : Nat → String} {read undoable : Bool}
    {progress advanced : ReadProgress}
    (ran : setReadEntry clock accountId read undoable progress entryId = .ok advanced) :
    SameContent progress.store advanced.store := by
  rcases entries_setReadEntry ran with same | marked
  · exact .of_entries same
  · exact sameContent_setStatus.trans (.of_entries marked)

theorem sameContent_setRead {clock : Nat → String} {receiptId : String} {entryIds : List Int}
    {read undoable : Bool} {receipt : Option MutationReceipt}
    (ran : store.setRead clock receiptId accountId entryIds read undoable = .ok (after, receipt)) :
    SameContent store after := by
  obtain ⟨opened, progress, start, finished, rfl, _⟩ := setRead_ok ran
  have turned := foldlM_invariant
    (fun progress : ReadProgress => SameContent opened progress.store)
    (fun _ _ _ before turn => before.trans (sameContent_setReadEntry turn)) .refl finished
  exact (SameContent.of_entries (entries_openBatch start)).trans
    (turned.trans (.of_entries entries_closeBatch))

/-- `set_read` leaves every entry it does not name as it is, and those of other accounts. -/
theorem find?_setRead_other {clock : Nat → String} {receiptId : String} {entryIds : List Int}
    {read undoable : Bool} {receipt : Option MutationReceipt} {key : String × Int}
    (ran : store.setRead clock receiptId accountId entryIds read undoable = .ok (after, receipt))
    (unnamed : ∀ entryId ∈ entryIds, key ≠ (accountId, entryId)) :
    after.entries.find? key = store.entries.find? key := by
  obtain ⟨opened, progress, start, finished, rfl, _⟩ := setRead_ok ran
  rw [entries_closeBatch, ← entries_openBatch start]
  refine foldlM_invariant_mem
    (fun progress : ReadProgress => progress.store.entries.find? key = opened.entries.find? key)
    ?_ rfl finished
  intro progress entryId listed advanced before turn
  refine Eq.trans ?_ before
  rcases entries_setReadEntry turn with same | marked
  · rw [same]
  · rw [marked]
    exact find?_setStatus_other (unnamed entryId listed)

theorem sameContent_undo {scan : Scan} {clock : Nat → String} {batchId : String} :
    SameContent store (store.undo scan clock accountId batchId).1 := by
  have turned : ∀ (items : List UndoItemRow) (progress : Store × Nat),
      SameContent progress.1 (items.foldl (undoEntry clock accountId) progress).1 := by
    intro items
    induction items with
    | nil => exact fun _ => .refl
    | cons item rest ih =>
      intro progress
      rw [List.foldl_cons]
      have first : SameContent progress.1 (undoEntry clock accountId progress item).1 :=
        sameContent_setStatus.trans (.of_entries rfl)
      exact first.trans (ih _)
  exact (turned _ (store, 0)).trans (.of_entries rfl)

theorem sameContent_acknowledge {mutation : PendingMutation}
    (done : store.acknowledge accountId mutation = .ok after) : SameContent store after := by
  rintro ⟨otherAccount, otherEntry⟩
  rw [find?_acknowledge done, Option.map_map]
  congr 1
  funext row
  simp only [Function.comp_apply]
  split
  · unfold acknowledgeRow
    cases mutation.field <;> rfl
  · rfl

/-- Every local operation keeps the content of the entries; only a refresh brings in a new
one. -/
theorem sameContent_operation {operation : Operation}
    (unrefreshed : ∀ now accountId snapshot, operation ≠ .applySnapshot now accountId snapshot)
    (ran : operation.run store = .ok after) : SameContent store after := by
  cases operation with
  | applySnapshot now accountId snapshot => exact absurd rfl (unrefreshed now accountId snapshot)
  | setRead clock receiptId accountId entryIds read undoable =>
    simp only [Operation.run] at ran
    cases result : store.setRead clock receiptId accountId entryIds read undoable with
    | error failure => simp [result, Except.map] at ran
    | ok pair =>
      rw [result] at ran
      cases ran
      exact sameContent_setRead result
  | ensureAccount accountId server | discardUndo accountId batchId =>
    cases ran
    exact .of_entries rfl
  | setStarred now accountId entryId starred =>
    cases ran
    exact sameContent_setStarred
  | undo scan clock accountId batchId =>
    cases ran
    exact sameContent_undo

/-- No operation drops an entry; articles that are gone from the server stay stored as read.
-/
theorem keepsEntries_operation {operation : Operation} (ran : operation.run store = .ok after) :
    KeepsEntries store after := by
  by_cases refreshed : ∃ now accountId snapshot, operation = .applySnapshot now accountId snapshot
  · obtain ⟨now, accountId, snapshot, rfl⟩ := refreshed
    simp only [Operation.run] at ran
    rintro ⟨otherAccount, otherEntry⟩ held
    exact (changed_applySnapshot ran).moved.stored held
  · exact (sameContent_operation (fun now accountId snapshot same =>
      refreshed ⟨now, accountId, snapshot, same⟩) ran).keepsEntries

theorem keepsEntries_acknowledge (mutation : PendingMutation) :
    KeepsEntries store (store.commit (store.acknowledge accountId mutation)) := by
  cases done : store.acknowledge accountId mutation with
  | ok after => exact (sameContent_acknowledge done).keepsEntries
  | error failure => exact fun _ held => held

end Store
end FluxBar
