import FluxBar.StoreFrames

/-! Single writes of the store, acknowledgements included: whatever one does, no
entry is dropped, and where the server knows two statuses so does the store. -/
namespace FluxBar
open Relational Transition Procedure

/-- A write of the store: an operation, or the acknowledgement of a delivered change. -/
inductive Write where
  | operation (operation : Operation)
  | acknowledge (accountId : String) (mutation : PendingMutation)

namespace Write

/-- The transaction of a write. -/
def run (store : Store) : Write → Except StoreError Store
  | .operation performed => performed.run store
  | .acknowledge accountId mutation => store.acknowledge accountId mutation

/-- The store after a write, which may have failed. -/
def apply (store : Store) (write : Write) : Store := store.commit (write.run store)

end Write

/-! ## Two statuses -/

/-- A status of the server. -/
def KnownStatus (status : String) : Prop := status = "read" ∨ status = "unread"

/-- Every status a write brings in is `read` or `unread`; a server may have others, which no
counter counts. -/
def Operation.TwoStatuses : Operation → Prop
  | .applySnapshot _ _ snapshot => ∀ entry ∈ snapshot.entries, KnownStatus entry.status.asStr
  | _ => True

theorem knownStatus_statusText (read : Bool) : KnownStatus (statusText read) := by
  cases read with
  | true => exact .inl rfl
  | false => exact .inr rfl

/-- A known status is the text of a read state. -/
theorem KnownStatus.statusText_eq {status : String} (known : KnownStatus status) :
    statusText (status = "read") = status := by
  rcases known with rfl | rfl <;> rfl

/-- Both status columns are known. -/
def EntryRow.TwoStatuses (row : EntryRow) : Prop :=
  KnownStatus row.status ∧ KnownStatus row.remoteStatus

namespace Store
variable {store after : Store} {accountId : String} {entryId : Int}

/-- Every stored entry is read or unread, here and on the server. Runs keep this while
refreshes bring in no other status. -/
def TwoStatuses (store : Store) : Prop :=
  ∀ key row, store.entries.find? key = some row → row.TwoStatuses

namespace TwoStatuses

theorem of_entries (two : store.TwoStatuses) (same : after.entries = store.entries) :
    after.TwoStatuses := by
  intro key row found
  exact two key row (same ▸ found)

theorem of_rows (two : store.TwoStatuses) {change : String × Int → EntryRow → EntryRow}
    (changed : ∀ key, after.entries.find? key = (store.entries.find? key).map (change key))
    (keeps : ∀ key row, row.TwoStatuses → (change key row).TwoStatuses) : after.TwoStatuses := by
  intro key row found
  rw [changed, Option.map_eq_some_iff] at found
  obtain ⟨held, found, rfl⟩ := found
  exact keeps key held (two key held found)

theorem of_update {condition : EntryRow → Bool} (two : store.TwoStatuses)
    (change : EntryRow → EntryRow) (keeps : ∀ row, (change row).key = row.key)
    (updated : after.entries = store.entries.update condition change keeps)
    (known : ∀ row, row.TwoStatuses → (change row).TwoStatuses) : after.TwoStatuses := by
  refine two.of_rows (fun key => by rw [updated, Table.find?_update]) ?_
  intro key row held
  split
  · exact known row held
  · exact held

theorem setStatus (two : store.TwoStatuses) (read : Bool) :
    (store.setStatus accountId entryId (statusText read)).TwoStatuses := by
  exact two.of_update (fun row => { row with status := statusText read }) (fun _ => rfl) rfl
    fun row known => ⟨knownStatus_statusText read, known.2⟩

theorem setReadEntry {clock : Nat → String} {read undoable : Bool} {progress advanced : ReadProgress}
    (two : progress.store.TwoStatuses)
    (ran : Store.setReadEntry clock accountId read undoable progress entryId = .ok advanced) :
    advanced.store.TwoStatuses := by
  rcases entries_setReadEntry ran with same | marked
  · exact two.of_entries same
  · exact (two.setStatus read).of_entries marked

theorem setRead {clock : Nat → String} {receiptId : String} {entryIds : List Int}
    {read undoable : Bool} {receipt : Option MutationReceipt} (two : store.TwoStatuses)
    (ran : store.setRead clock receiptId accountId entryIds read undoable = .ok (after, receipt)) :
    after.TwoStatuses := by
  obtain ⟨opened, progress, start, finished, rfl, _⟩ := setRead_ok ran
  refine of_entries ?_ entries_closeBatch
  exact foldlM_invariant (fun progress : ReadProgress => progress.store.TwoStatuses)
    (fun _ _ _ known turn => known.setReadEntry turn) (two.of_entries (entries_openBatch start)) finished

theorem undo {scan : Scan} {clock : Nat → String} {batchId : String} (two : store.TwoStatuses) :
    (store.undo scan clock accountId batchId).1.TwoStatuses := by
  have turned : ∀ (items : List UndoItemRow) (progress : Store × Nat), progress.1.TwoStatuses →
      (items.foldl (undoEntry clock accountId) progress).1.TwoStatuses := by
    intro items
    induction items with
    | nil => exact fun _ known => known
    | cons item rest ih =>
      intro progress known
      rw [List.foldl_cons]
      refine ih _ ?_
      exact (known.setStatus item.priorRead).of_entries rfl
  exact (turned _ (store, 0) two).of_entries rfl

theorem storeEntry {entry : Entry} (two : store.TwoStatuses) (known : KnownStatus entry.status.asStr) :
    (Store.storeEntry accountId store entry).TwoStatuses := by
  intro key row found
  rw [find?_storeEntry] at found
  split_ifs at found
  · cases found
    unfold storedRow
    cases held : store.entries.find? (accountId, entry.id) with
    | none => exact ⟨known, known⟩
    | some old =>
      refine ⟨?_, known⟩
      simp only [Option.elim_some, mergeEntry]
      split
      · exact (two _ old held).1
      · exact known
  · exact two key row found

theorem dismissRow {row : EntryRow} {selection : Selection} (known : row.TwoStatuses) :
    (Store.dismissRow store selection row).TwoStatuses := by
  unfold Store.dismissRow
  split_ifs
  · exact ⟨known.1, .inl rfl⟩
  · exact ⟨.inl rfl, .inl rfl⟩
  · exact known
  · exact known
  · exact known
  · exact known

theorem applySnapshot {now : String} {snapshot : SnapshotData} (two : store.TwoStatuses)
    (known : ∀ entry ∈ snapshot.entries, KnownStatus entry.status.asStr)
    (applied : store.applySnapshot now accountId snapshot = .ok after) : after.TwoStatuses := by
  obtain ⟨reconciled, navigated, refreshed⟩ := applySnapshot_parts applied
  have start : navigated.TwoStatuses := by
    refine of_entries (two.of_rows refreshed.rows ?_)
      (navigationOnly_insertCategories refreshed.inserted).entries
    intro key row held
    split
    · exact dismissRow held
    · exact held
  rw [refreshed.stored]
  clear refreshed applied
  generalize snapshot.entries = entries at known
  induction entries generalizing navigated with
  | nil => exact start
  | cons entry rest ih =>
    rw [List.foldl_cons]
    refine ih _ ?_ fun other listed => known other (List.mem_cons_of_mem entry listed)
    exact start.storeEntry (known entry List.mem_cons_self)

theorem operation {operation : Operation} (two : store.TwoStatuses) (known : operation.TwoStatuses)
    (ran : operation.run store = .ok after) : after.TwoStatuses := by
  cases operation with
  | applySnapshot now accountId snapshot =>
    change store.applySnapshot now accountId snapshot = .ok after at ran
    exact two.applySnapshot known ran
  | setRead clock receiptId accountId entryIds read undoable =>
    obtain ⟨⟨stored, receipt⟩, marked, rfl⟩ := map_eq_ok.mp ran
    exact two.setRead marked
  | ensureAccount accountId server | discardUndo accountId batchId =>
    cases ran
    exact two.of_entries rfl
  | setStarred now accountId entryId starred =>
    cases ran
    exact two.of_update (fun row => { row with starred }) (fun _ => rfl) rfl fun row known => known
  | undo scan clock accountId batchId =>
    cases ran
    exact two.undo

theorem commit (two : store.TwoStatuses) (operation : Operation) (known : operation.TwoStatuses) :
    (store.commit (operation.run store)).TwoStatuses := by
  cases ran : operation.run store with
  | ok after => exact two.operation known ran
  | error failure => exact two

theorem acknowledge {mutation : PendingMutation} (two : store.TwoStatuses)
    (done : store.acknowledge accountId mutation = .ok after) : after.TwoStatuses := by
  have changed : ∀ key, after.entries.find? key = (store.entries.find? key).map fun row =>
      if key.1 = accountId ∧ key.2 = mutation.entryId then acknowledgeRow mutation row else row :=
    fun key => find?_acknowledge done
  refine two.of_rows changed ?_
  intro key row known
  split
  · unfold acknowledgeRow
    cases mutation.field with
    | read => exact ⟨known.1, knownStatus_statusText mutation.desired⟩
    | starred => exact known
  · exact known

end TwoStatuses

/-! ## Stored entries -/

/-- No write drops an entry. -/
theorem stored_apply (write : Write) {key : String × Int}
    (held : (store.entries.find? key).isSome) : ((write.apply store).entries.find? key).isSome := by
  unfold Write.apply
  cases ran : write.run store with
  | error failure => exact held
  | ok after =>
    cases write with
    | acknowledge accountId mutation => exact (sameContent_acknowledge ran).stored held
    | operation performed =>
      by_cases refresh : ∃ now accountId snapshot, performed = .applySnapshot now accountId snapshot
      · obtain ⟨now, accountId, snapshot, rfl⟩ := refresh
        change store.applySnapshot now accountId snapshot = .ok after at ran
        exact (changed_applySnapshot ran).moved.stored held
      · refine SameContent.stored (sameContent_operation ?_ ran) held
        intro now accountId snapshot same
        exact refresh ⟨now, accountId, snapshot, same⟩

theorem stored_writes (writes : List Write) {key : String × Int}
    (held : (store.entries.find? key).isSome) :
    ((writes.foldl Write.apply store).entries.find? key).isSome := by
  induction writes generalizing store with
  | nil => exact held
  | cons write rest ih => exact ih (stored_apply write held)

end Store
end FluxBar
