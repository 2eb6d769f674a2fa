import FluxBar.StoreSteps
import FluxBar.Snapshot
import FluxBar.Library.OwnedRows
import FluxBar.Library.Procedure
import FluxBar.Library.TransitionSystem

/-! The rows of an account: a transaction for the account acts alike on two stores that
hold the same ones, and leaves those of every other account as they are. -/
namespace FluxBar
open Relational Procedure

/-! ## The rows of an account -/

/-- The keys of an account's rows, the account id being their first column. -/
def ofAccount {κ : Type} (accountId : String) (key : String × κ) : Bool := key.1 = accountId

theorem ofAccount_other {κ : Type} {accountId other : String} {key : String × κ}
    (named : key.1 = accountId) (unlike : other ≠ accountId) : ofAccount other key = false := by
  apply decide_eq_false
  rw [named]
  exact unlike.symm

namespace Store

/-- Two stores hold the same rows of an account, in each of the eight tables. The rows of
other accounts may differ in any way. -/
structure Agree (accountId : String) (left right : Store) : Prop where
  accounts : Table.Agree (fun id => decide (id = accountId)) left.accounts right.accounts
  categories : Table.Agree (ofAccount accountId) left.categories right.categories
  feeds : Table.Agree (ofAccount accountId) left.feeds right.feeds
  selectionTotals : Table.Agree (ofAccount accountId) left.selectionTotals right.selectionTotals
  entries : Table.Agree (ofAccount accountId) left.entries right.entries
  pendingMutations : Table.Agree (ofAccount accountId) left.pendingMutations right.pendingMutations
  undoBatches : Table.Agree (ofAccount accountId) left.undoBatches right.undoBatches
  undoItems : Table.Agree (ofAccount accountId) left.undoItems right.undoItems

variable {accountId other now : String} {left right middle store after : Store}

theorem Agree.refl (store : Store) : store.Agree accountId store :=
  ⟨rfl, rfl, rfl, rfl, rfl, rfl, rfl, rfl⟩

theorem Agree.trans (first : left.Agree accountId middle) (second : middle.Agree accountId right) :
    left.Agree accountId right :=
  ⟨first.accounts.trans second.accounts, first.categories.trans second.categories,
    first.feeds.trans second.feeds, first.selectionTotals.trans second.selectionTotals,
    first.entries.trans second.entries, first.pendingMutations.trans second.pendingMutations,
    first.undoBatches.trans second.undoBatches, first.undoItems.trans second.undoItems⟩

end Store

/-! ## Two stores with the same rows -/

namespace Store

theorem lockstep_insertRow {ρ κ : Type} {key : ρ → κ} [DecidableEq κ] {owned : κ → Bool}
    {left right : Table key} {columns : String} {row : ρ} (agree : Table.Agree owned left right)
    (mine : owned (key row) = true) :
    Lockstep (Table.Agree owned) (insertRow columns left row) (insertRow columns right row) := by
  unfold insertRow
  rcases agree.insert? mine with ⟨first, second⟩ | ⟨left', right', first, second, inserted⟩
  · rw [first, second]
    exact .error _
  · rw [first, second]
    exact .ok inserted

theorem agree_insertRow {ρ κ : Type} {key : ρ → κ} [DecidableEq κ] {owned : κ → Bool}
    {table after : Table key} {columns : String} {row : ρ}
    (inserted : insertRow columns table row = .ok after) (elsewhere : owned (key row) = false) :
    Table.Agree owned after table := by
  unfold insertRow at inserted
  split at inserted
  · rename_i found
    cases inserted
    exact Table.agree_insert? found elsewhere
  · cases inserted

end Store

namespace Store.Agree
variable {accountId now batchId : String} {entryId : Int} {field : MutationField} {desired : Bool}
  {left right : Store} (agree : left.Agree accountId right)

include agree

theorem hasPending (entryId : Int) (field : MutationField) :
    left.hasPending accountId entryId field = right.hasPending accountId entryId field :=
  agree.pendingMutations.has (by simp [ofAccount])

theorem findEntry (entryId : Int) :
    left.entries.find? (accountId, entryId) = right.entries.find? (accountId, entryId) :=
  agree.entries.find? (by simp [ofAccount])

theorem ensureAccount {server : String} :
    (left.ensureAccount accountId server).Agree accountId (right.ensureAccount accountId server) :=
  { agree with accounts := agree.accounts.upsert_same (by simp) fun _ => by rfl }

theorem setStatus {status : String} :
    (left.setStatus accountId entryId status).Agree accountId
      (right.setStatus accountId entryId status) :=
  { agree with entries := agree.entries.update_same fun _ => by rfl }

theorem upsertPending :
    (left.upsertPending now accountId entryId field desired).Agree accountId
      (right.upsertPending now accountId entryId field desired) :=
  { agree with
    pendingMutations := agree.pendingMutations.upsert_same (by simp [ofAccount]) fun _ => by rfl }

/-! ### `apply_snapshot` -/

theorem recordTotals {selection : Selection} {snapshot : SnapshotData} :
    (left.recordTotals now accountId selection snapshot).Agree accountId
      (right.recordTotals now accountId selection snapshot) :=
  { agree with
    accounts := agree.accounts.update_same fun _ => by rfl
    selectionTotals := agree.selectionTotals.upsert_same (by simp [ofAccount]) fun _ => by rfl }

theorem reconcileCompleteSelection {selection : Selection} {entries : List Entry} :
    Lockstep (Agree accountId) (left.reconcileCompleteSelection accountId selection entries)
      (right.reconcileCompleteSelection accountId selection entries) := by
  unfold Store.reconcileCompleteSelection
  have ids : Lockstep Eq (remoteIds entries) (remoteIds entries) := by
    cases remoteIds entries with
    | error failure => exact .error failure
    | ok ids => exact .ok rfl
  refine ids.bind ?_
  rintro ids _ rfl
  dsimp only
  have mine : ∀ row : EntryRow, ofAccount accountId row.key = true →
      ∀ field, left.hasPending row.accountId row.id field = right.hasPending row.accountId row.id field := by
    intro row owned field
    have named : row.accountId = accountId := by simpa [ofAccount] using owned
    rw [named]
    exact agree.hasPending row.id field
  split_ifs
  · refine .ok { agree with entries := agree.entries.update ?_ (fun _ => by rfl) fun _ => by rfl }
    intro row owned
    have pending := mine row owned .read
    unfold Store.hasPending at pending ⊢
    rw [pending]
  · refine .ok { agree with entries := agree.entries.update ?_ (fun _ => by rfl) fun _ => by rfl }
    intro row owned
    have pending := mine row owned .starred
    unfold Store.hasPending at pending ⊢
    rw [pending]
  · exact .ok { agree with }

theorem clearNavigation :
    (left.clearNavigation accountId).Agree accountId (right.clearNavigation accountId) :=
  { agree with
    feeds := agree.feeds.delete fun _ _ => rfl
    categories := agree.categories.delete fun _ _ => rfl }

theorem insertFeed {categoryId : Int} {feed : Feed} :
    Lockstep (Agree accountId) (Store.insertFeed accountId categoryId left feed)
      (Store.insertFeed accountId categoryId right feed) := by
  unfold Store.insertFeed
  refine (lockstep_insertRow agree.feeds (by simp [ofAccount])).bind ?_
  intro feeds feeds' inserted
  exact .ok { agree with feeds := inserted }

theorem insertCategory {category : Category} :
    Lockstep (Agree accountId) (Store.insertCategory accountId left category)
      (Store.insertCategory accountId right category) := by
  unfold Store.insertCategory
  refine (lockstep_insertRow agree.categories (by simp [ofAccount])).bind ?_
  intro categories categories' inserted
  refine Lockstep.foldlM ?_ category.feeds { agree with categories := inserted }
  intro store store' feed same
  exact same.insertFeed

theorem storeEntry {entry : Entry} :
    (Store.storeEntry accountId left entry).Agree accountId
      (Store.storeEntry accountId right entry) := by
  refine { agree with
    entries := agree.entries.upsert (by simp [ofAccount, entryRow]) ?_ (fun _ => by rfl)
      fun _ => by rfl }
  intro old
  rw [agree.hasPending, agree.hasPending]

theorem storeEntries (entries : List Entry) :
    (entries.foldl (Store.storeEntry accountId) left).Agree accountId
      (entries.foldl (Store.storeEntry accountId) right) := by
  induction entries generalizing left right with
  | nil => exact agree
  | cons entry rest ih => exact ih agree.storeEntry

theorem applySnapshot {snapshot : SnapshotData} :
    Lockstep (Agree accountId) (left.applySnapshot now accountId snapshot)
      (right.applySnapshot now accountId snapshot) := by
  have rest : ∀ left right : Store, left.Agree accountId right → Lockstep (Agree accountId)
      (do
        let store ← snapshot.categories.foldlM (Store.insertCategory accountId)
          (left.clearNavigation accountId)
        return snapshot.entries.foldl (Store.storeEntry accountId) store)
      (do
        let store ← snapshot.categories.foldlM (Store.insertCategory accountId)
          (right.clearNavigation accountId)
        return snapshot.entries.foldl (Store.storeEntry accountId) store) := by
    intro left right agree
    have filled : Lockstep (Agree accountId)
        (snapshot.categories.foldlM (Store.insertCategory accountId) (left.clearNavigation accountId))
        (snapshot.categories.foldlM (Store.insertCategory accountId)
          (right.clearNavigation accountId)) :=
      Lockstep.foldlM (fun _ _ _ same => same.insertCategory) _ agree.clearNavigation
    exact filled.bind fun _ _ same => .ok (same.storeEntries snapshot.entries)
  unfold Store.applySnapshot
  generalize normalizeSelection snapshot.selection = selection
  dsimp only
  split
  · exact agree.recordTotals.reconcileCompleteSelection.bind rest
  · exact rest _ _ agree.recordTotals

/-! ### `set_read`, `set_starred` and the undo batches -/

theorem setStarred {starred : Bool} :
    (left.setStarred now accountId entryId starred).Agree accountId
      (right.setStarred now accountId entryId starred) := by
  unfold Store.setStarred
  apply upsertPending
  exact { agree with entries := agree.entries.update_same fun _ => by rfl }

theorem openBatch {undoable : Bool} :
    Lockstep (Agree accountId) (left.openBatch now accountId batchId undoable)
      (right.openBatch now accountId batchId undoable) := by
  unfold Store.openBatch
  cases undoable with
  | false => exact .ok agree
  | true =>
    refine (lockstep_insertRow agree.undoBatches (by simp [ofAccount])).bind ?_
    intro batches batches' inserted
    exact .ok { agree with undoBatches := inserted }

theorem recordUndo {priorRead : Bool} :
    Lockstep (Agree accountId) (left.recordUndo accountId batchId entryId priorRead)
      (right.recordUndo accountId batchId entryId priorRead) := by
  unfold Store.recordUndo
  refine (lockstep_insertRow agree.undoItems (by simp [ofAccount])).bind ?_
  intro items items' inserted
  exact .ok { agree with undoItems := inserted }

theorem forgetUndo :
    (left.forgetUndo accountId entryId).Agree accountId (right.forgetUndo accountId entryId) :=
  { agree with undoItems := agree.undoItems.delete fun _ _ => rfl }

theorem closeBatch {undoable : Bool} {receipt : MutationReceipt} :
    (left.closeBatch accountId undoable receipt).Agree accountId
      (right.closeBatch accountId undoable receipt) := by
  unfold Store.closeBatch
  split
  · split
    · exact { agree with undoBatches := agree.undoBatches.delete fun _ _ => rfl }
    · exact agree
  · refine { agree with undoBatches := agree.undoBatches.delete ?_ }
    intro batch owned
    have named : batch.accountId = accountId := by simpa [ofAccount] using owned
    have items : (left.undoItems.rows.any fun item =>
        item.accountId = batch.accountId && item.batchId = batch.id) =
        right.undoItems.rows.any fun item =>
          item.accountId = batch.accountId && item.batchId = batch.id := by
      refine agree.undoItems.any ?_
      intro item held
      simp only [Bool.and_eq_true, decide_eq_true_eq] at held
      simp [ofAccount, held.1, named]
    rw [items]

theorem discardUndo :
    (left.discardUndo accountId batchId).Agree accountId (right.discardUndo accountId batchId) :=
  { agree with
    undoItems := agree.undoItems.delete fun _ _ => rfl
    undoBatches := agree.undoBatches.delete fun _ _ => rfl }

theorem setReadEntry {clock : Nat → String} {read undoable : Bool} {receipt : MutationReceipt}
    {readings : Nat} :
    Lockstep (fun progress progress' : ReadProgress =>
        progress.store.Agree accountId progress'.store ∧ progress.receipt = progress'.receipt ∧
          progress.readings = progress'.readings)
      (Store.setReadEntry clock accountId read undoable ⟨left, receipt, readings⟩ entryId)
      (Store.setReadEntry clock accountId read undoable ⟨right, receipt, readings⟩ entryId) := by
  unfold Store.setReadEntry
  have started : (if undoable then left else left.forgetUndo accountId entryId).Agree accountId
      (if undoable then right else right.forgetUndo accountId entryId) := by
    split
    · exact agree
    · exact agree.forgetUndo
  dsimp only
  generalize (if undoable then left else left.forgetUndo accountId entryId) = first at started ⊢
  generalize (if undoable then right else right.forgetUndo accountId entryId) = second at started ⊢
  rw [started.findEntry entryId]
  cases second.entries.find? (accountId, entryId) with
  | none => exact .ok ⟨started, rfl, rfl⟩
  | some row =>
    dsimp only
    split
    · exact .ok ⟨started, rfl, rfl⟩
    · split
      · refine started.recordUndo.bind ?_
        intro store store' same
        exact .ok ⟨same.setStatus.upsertPending, rfl, rfl⟩
      · exact .ok ⟨started.setStatus.upsertPending, rfl, rfl⟩

theorem setRead {clock : Nat → String} {receiptId : String} {entryIds : List Int}
    {read undoable : Bool} :
    Lockstep (fun result result' : Store × Option MutationReceipt =>
        result.1.Agree accountId result'.1 ∧ result.2 = result'.2)
      (left.setRead clock receiptId accountId entryIds read undoable)
      (right.setRead clock receiptId accountId entryIds read undoable) := by
  unfold Store.setRead
  refine agree.openBatch.bind ?_
  intro opened opened' same
  have turned : Lockstep (fun progress progress' : ReadProgress =>
      progress.store.Agree accountId progress'.store ∧ progress.receipt = progress'.receipt ∧
        progress.readings = progress'.readings)
      (entryIds.foldlM (Store.setReadEntry clock accountId read undoable) ⟨opened, ⟨receiptId, 0⟩, 1⟩)
      (entryIds.foldlM (Store.setReadEntry clock accountId read undoable)
        ⟨opened', ⟨receiptId, 0⟩, 1⟩) := by
    refine Lockstep.foldlM ?_ entryIds ⟨same, rfl, rfl⟩
    rintro ⟨store, receipt, readings⟩ ⟨store', _, _⟩ entryId ⟨same, rfl, rfl⟩
    exact same.setReadEntry
  refine turned.bind ?_
  rintro ⟨store, receipt, readings⟩ ⟨store', _, _⟩ ⟨same, rfl, rfl⟩
  exact .ok ⟨same.closeBatch, rfl⟩

theorem undo (scan : Scan) (clock : Nat → String) (batchId : String) :
    (left.undo scan clock accountId batchId).1.Agree accountId
        (right.undo scan clock accountId batchId).1 ∧
      (left.undo scan clock accountId batchId).2 = (right.undo scan clock accountId batchId).2 := by
  have items : left.batchItems scan accountId batchId = right.batchItems scan accountId batchId := by
    unfold batchItems
    rw [agree.undoItems.select]
    intro item selected
    simp only [Bool.and_eq_true, decide_eq_true_eq] at selected
    simp [ofAccount, selected.1]
  have turned : ∀ (items : List UndoItemRow) (left right : Store) (turns : Nat),
      left.Agree accountId right →
      (items.foldl (undoEntry clock accountId) (left, turns)).1.Agree accountId
        (items.foldl (undoEntry clock accountId) (right, turns)).1 := by
    intro items
    induction items with
    | nil => exact fun _ _ _ agree => agree
    | cons item rest ih => exact fun _ _ _ agree => ih _ _ _ agree.setStatus.upsertPending
  unfold Store.undo
  rw [items]
  exact ⟨(turned _ _ _ 0 agree).discardUndo, rfl⟩

/-! ### `pending` and `acknowledge` -/

theorem pending (scan : Scan) : left.pending scan accountId = right.pending scan accountId := by
  unfold Store.pending
  rw [agree.pendingMutations.select]
  intro row selected
  simpa [ofAccount] using selected

theorem acknowledgeRead {row : EntryRow} :
    (left.acknowledgeRead accountId row desired).Agree accountId
      (right.acknowledgeRead accountId row desired) := by
  unfold Store.acknowledgeRead
  dsimp only
  generalize (if row.remoteStatus = "unread" && desired then -1
    else if row.remoteStatus = "read" && !desired then 1 else 0 : Int) = delta
  split
  · exact { agree with entries := agree.entries.update_same fun _ => by rfl }
  · exact { agree with
      feeds := agree.feeds.update_same fun _ => by rfl
      selectionTotals := agree.selectionTotals.update_same fun _ => by rfl
      entries := agree.entries.update_same fun _ => by rfl }

theorem acknowledgeStarred {row : EntryRow} :
    (left.acknowledgeStarred accountId row desired).Agree accountId
      (right.acknowledgeStarred accountId row desired) := by
  unfold Store.acknowledgeStarred
  dsimp only
  generalize (if !row.remoteStarred && desired then 1
    else if row.remoteStarred && !desired then -1 else 0 : Int) = delta
  split
  · exact { agree with entries := agree.entries.update_same fun _ => by rfl }
  · exact { agree with
      accounts := agree.accounts.update_same fun _ => by rfl
      selectionTotals := agree.selectionTotals.update_same fun _ => by rfl
      entries := agree.entries.update_same fun _ => by rfl }

theorem deletePending (condition : PendingRow → Bool) :
    Agree accountId { left with pendingMutations := left.pendingMutations.delete condition }
      { right with pendingMutations := right.pendingMutations.delete condition } :=
  { agree with pendingMutations := agree.pendingMutations.delete fun _ _ => rfl }

theorem acknowledge {mutation : PendingMutation} :
    Lockstep (Agree accountId) (left.acknowledge accountId mutation)
      (right.acknowledge accountId mutation) := by
  unfold Store.acknowledge
  rw [agree.findEntry]
  cases right.entries.find? (accountId, mutation.entryId) with
  | none => exact .error _
  | some row =>
    dsimp only
    cases mutation.field with
    | read => exact .ok (agree.acknowledgeRead.deletePending _)
    | starred => exact .ok (agree.acknowledgeStarred.deletePending _)

/-! ### `local_snapshot` -/

theorem pendingEntries (field : MutationField) :
    left.pendingEntries accountId field = right.pendingEntries accountId field := by
  unfold Store.pendingEntries
  simp only [agree.hasPending]
  refine agree.entries.select ?_
  intro row selected
  simp only [Bool.and_eq_true, decide_eq_true_eq] at selected
  simp [ofAccount, selected.1]

theorem navigation (scan : Scan) :
    left.navigation scan accountId = right.navigation scan accountId := by
  have feed : left.navigationFeed accountId = right.navigationFeed accountId := by
    funext row
    unfold Store.navigationFeed pendingReadDeltaForFeed
    rw [agree.pendingEntries]
  have category : left.navigationCategory scan accountId = right.navigationCategory scan accountId := by
    funext progress row
    unfold Store.navigationCategory
    rw [feed, agree.feeds.select]
    intro feed selected
    simp only [Bool.and_eq_true, decide_eq_true_eq] at selected
    simp [ofAccount, selected.1]
  unfold Store.navigation
  rw [category, agree.categories.select]
  intro row selected
  simpa [ofAccount] using selected

theorem starredTotal : left.starredTotal accountId = right.starredTotal accountId := by
  unfold Store.starredTotal
  rw [agree.accounts.find? (by simp), agree.pendingEntries]

theorem selectionTotal (selection : Selection) :
    left.selectionTotal accountId selection = right.selectionTotal accountId selection := by
  unfold Store.selectionTotal
  rw [agree.selectionTotals.find? (by simp [ofAccount])]

theorem selectionPendingDelta (selection : Selection) :
    left.selectionPendingDelta accountId selection = right.selectionPendingDelta accountId selection := by
  unfold Store.selectionPendingDelta
  dsimp only
  rw [agree.pendingEntries]

theorem selectEntries {condition : EntryRow → Bool}
    (within : ∀ row, condition row = true → row.accountId = accountId) :
    left.entries.select condition = right.entries.select condition := by
  refine agree.entries.select ?_
  intro row selected
  simp [ofAccount, within row selected]

theorem snapshotEntries (scan : Scan) (selection : Selection) (newestFirst : Bool)
    (retainIds : List Int) :
    left.snapshotEntries scan accountId selection newestFirst retainIds =
      right.snapshotEntries scan accountId selection newestFirst retainIds := by
  unfold Store.snapshotEntries
  rw [agree.selectEntries]
  intro row selected
  simp only [selectionClause, Bool.or_eq_true, Bool.and_eq_true, decide_eq_true_eq] at selected
  rcases selected with ⟨⟨⟨named, _⟩, _⟩, _⟩ | ⟨named, _⟩
  · exact named
  · exact named

theorem localSnapshot (scan : Scan) (selection : Selection) (newestFirst : Bool)
    (retainIds : List Int) :
    left.localSnapshot scan accountId selection newestFirst retainIds =
      right.localSnapshot scan accountId selection newestFirst retainIds := by
  have count : left.entries.select (selectionClause accountId (normalizeSelection selection)) =
      right.entries.select (selectionClause accountId (normalizeSelection selection)) := by
    refine agree.selectEntries ?_
    intro row selected
    simp only [selectionClause, Bool.and_eq_true, decide_eq_true_eq] at selected
    exact selected.1.1.1
  unfold Store.localSnapshot
  simp only [agree.navigation, agree.starredTotal, count, agree.selectionTotal,
    agree.selectionPendingDelta, agree.snapshotEntries]

end Store.Agree

/-! ## Another account -/

namespace Store
variable {accountId other now batchId : String} {entryId : Int} {field : MutationField}
  {desired : Bool} {store after : Store} (unlike : other ≠ accountId)

include unlike

theorem agree_ensureAccount {server : String} :
    (store.ensureAccount accountId server).Agree other store :=
  { Agree.refl store with
    accounts := Table.agree_upsert store.accounts (by simpa using unlike.symm) fun _ => by rfl }

theorem agree_setStatus {status : String} : (store.setStatus accountId entryId status).Agree other store := by
  refine { Agree.refl store with entries := Table.agree_update store.entries ?_ fun _ => by rfl }
  intro row selected
  simp only [Bool.and_eq_true, decide_eq_true_eq] at selected
  exact ofAccount_other selected.1 unlike

theorem agree_upsertPending :
    (store.upsertPending now accountId entryId field desired).Agree other store :=
  { Agree.refl store with
    pendingMutations := Table.agree_upsert store.pendingMutations
      (ofAccount_other rfl unlike) fun _ => by rfl }

theorem agree_recordTotals {selection : Selection} {snapshot : SnapshotData} :
    (store.recordTotals now accountId selection snapshot).Agree other store := by
  refine { Agree.refl store with
    accounts := Table.agree_update store.accounts ?_ fun _ => by rfl
    selectionTotals := Table.agree_upsert store.selectionTotals (ofAccount_other rfl unlike) fun _ => by rfl }
  intro row selected
  simp only [decide_eq_true_eq] at selected
  simpa [selected] using unlike.symm

theorem agree_reconcile {selection : Selection} {entries : List Entry}
    (ran : store.reconcileCompleteSelection accountId selection entries = .ok after) :
    after.Agree other store := by
  have elsewhere : ∀ (ids : Table (id : Int → Int)) (row : EntryRow),
      isMissing accountId selection ids row = true → ofAccount other row.key = false := by
    intro ids row missing
    simp only [isMissing, Bool.and_eq_true, decide_eq_true_eq] at missing
    exact ofAccount_other missing.1.1 unlike
  unfold Store.reconcileCompleteSelection at ran
  obtain ⟨ids, _, ran⟩ := bind_eq_ok.mp ran
  dsimp only at ran
  split_ifs at ran
  · cases ran
    refine { Agree.refl store with entries := Table.agree_update store.entries ?_ fun _ => by rfl }
    intro row selected
    exact elsewhere ids row (Bool.and_eq_true_iff.mp selected).1
  · cases ran
    refine { Agree.refl store with entries := Table.agree_update store.entries ?_ fun _ => by rfl }
    intro row selected
    exact elsewhere ids row (Bool.and_eq_true_iff.mp selected).1
  · cases ran
    exact { Agree.refl store with }

theorem agree_clearNavigation : (store.clearNavigation accountId).Agree other store := by
  refine { Agree.refl store with
    feeds := Table.agree_delete store.feeds ?_
    categories := Table.agree_delete store.categories ?_ }
  · intro row selected
    simp only [decide_eq_true_eq] at selected
    exact ofAccount_other selected unlike
  · intro row selected
    simp only [decide_eq_true_eq] at selected
    exact ofAccount_other selected unlike

theorem agree_insertFeed {categoryId : Int} {feed : Feed}
    (ran : insertFeed accountId categoryId store feed = .ok after) : after.Agree other store := by
  obtain ⟨feeds, inserted, ran⟩ := bind_eq_ok.mp ran
  cases ran
  exact { Agree.refl store with feeds := agree_insertRow inserted (ofAccount_other rfl unlike) }

theorem agree_insertCategory {category : Category}
    (ran : insertCategory accountId store category = .ok after) : after.Agree other store := by
  obtain ⟨categories, inserted, ran⟩ := bind_eq_ok.mp ran
  have added : Agree other { store with categories } store :=
    { Agree.refl store with
      categories := agree_insertRow inserted (ofAccount_other rfl unlike) }
  exact Transition.foldlM_invariant (fun state : Store => state.Agree other store)
    (fun _ _ _ agree turn => (agree_insertFeed unlike turn).trans agree) added ran

theorem agree_storeEntry {entry : Entry} : (storeEntry accountId store entry).Agree other store :=
  { Agree.refl store with
    entries := Table.agree_upsert store.entries (ofAccount_other rfl unlike) fun _ => by rfl }

theorem agree_storeEntries (entries : List Entry) :
    (entries.foldl (storeEntry accountId) store).Agree other store := by
  induction entries generalizing store with
  | nil => exact .refl store
  | cons entry rest ih => exact ih.trans (agree_storeEntry unlike)

theorem agree_applySnapshot {snapshot : SnapshotData}
    (ran : store.applySnapshot now accountId snapshot = .ok after) : after.Agree other store := by
  have rest : ∀ start : Store, start.Agree other store →
      (do
        let filled ← snapshot.categories.foldlM (insertCategory accountId)
          (start.clearNavigation accountId)
        return snapshot.entries.foldl (storeEntry accountId) filled : Except StoreError Store) =
        .ok after → after.Agree other store := by
    intro start agree ran
    obtain ⟨filled, inserted, ran⟩ := bind_eq_ok.mp ran
    cases ran
    have navigated := Transition.foldlM_invariant (fun state : Store => state.Agree other store)
      (fun _ _ _ agree turn => (agree_insertCategory unlike turn).trans agree)
      ((agree_clearNavigation unlike).trans agree) inserted
    exact (agree_storeEntries unlike snapshot.entries).trans navigated
  unfold Store.applySnapshot at ran
  generalize normalizeSelection snapshot.selection = selection at ran
  dsimp only at ran
  split at ran
  · obtain ⟨reconciled, reconciles, ran⟩ := bind_eq_ok.mp ran
    exact rest _ ((agree_reconcile unlike reconciles).trans (agree_recordTotals unlike)) ran
  · exact rest _ (agree_recordTotals unlike) ran

theorem agree_forgetUndo : (store.forgetUndo accountId entryId).Agree other store := by
  refine { Agree.refl store with undoItems := Table.agree_delete store.undoItems ?_ }
  intro item selected
  simp only [Bool.and_eq_true, decide_eq_true_eq] at selected
  exact ofAccount_other selected.1 unlike

theorem agree_recordUndo {priorRead : Bool}
    (ran : store.recordUndo accountId batchId entryId priorRead = .ok after) :
    after.Agree other store := by
  obtain ⟨items, inserted, ran⟩ := bind_eq_ok.mp ran
  cases ran
  exact { Agree.refl store with
    undoItems := agree_insertRow inserted (ofAccount_other rfl unlike) }

theorem agree_openBatch {undoable : Bool}
    (ran : store.openBatch now accountId batchId undoable = .ok after) : after.Agree other store := by
  cases undoable with
  | false =>
    cases ran
    exact .refl store
  | true =>
    obtain ⟨batches, inserted, ran⟩ := bind_eq_ok.mp ran
    cases ran
    exact { Agree.refl store with
      undoBatches := agree_insertRow inserted (ofAccount_other rfl unlike) }

theorem agree_closeBatch {undoable : Bool} {receipt : MutationReceipt} :
    (store.closeBatch accountId undoable receipt).Agree other store := by
  unfold closeBatch
  split_ifs
  · refine { Agree.refl store with undoBatches := Table.agree_delete store.undoBatches ?_ }
    intro batch selected
    simp only [Bool.and_eq_true, decide_eq_true_eq] at selected
    exact ofAccount_other selected.1 unlike
  · exact .refl store
  · refine { Agree.refl store with undoBatches := Table.agree_delete store.undoBatches ?_ }
    intro batch selected
    simp only [Bool.and_eq_true, decide_eq_true_eq] at selected
    exact ofAccount_other selected.1 unlike

theorem agree_discardUndo : (store.discardUndo accountId batchId).Agree other store := by
  refine { Agree.refl store with
    undoItems := Table.agree_delete store.undoItems ?_
    undoBatches := Table.agree_delete store.undoBatches ?_ }
  · intro item selected
    simp only [Bool.and_eq_true, decide_eq_true_eq] at selected
    exact ofAccount_other selected.1 unlike
  · intro batch selected
    simp only [Bool.and_eq_true, decide_eq_true_eq] at selected
    exact ofAccount_other selected.1 unlike

theorem agree_setReadEntry {clock : Nat → String} {read undoable : Bool}
    {progress advanced : ReadProgress}
    (ran : setReadEntry clock accountId read undoable progress entryId = .ok advanced) :
    advanced.store.Agree other progress.store := by
  rcases setReadEntry_cases ran with ⟨rfl, _⟩ | ⟨row, noted, _, _, noting, rfl⟩
  · unfold readStart
    split
    · exact .refl _
    · exact agree_forgetUndo unlike
  · have started : noted.Agree other progress.store := by
      rcases noting with ⟨_, rfl⟩ | ⟨_, recorded⟩
      · exact agree_forgetUndo unlike
      · exact agree_recordUndo unlike recorded
    exact ((agree_upsertPending unlike).trans (agree_setStatus unlike)).trans started

theorem agree_setRead {clock : Nat → String} {receiptId : String} {entryIds : List Int}
    {read undoable : Bool} {receipt : Option MutationReceipt}
    (ran : store.setRead clock receiptId accountId entryIds read undoable = .ok (after, receipt)) :
    after.Agree other store := by
  obtain ⟨opened, start, ran⟩ := bind_eq_ok.mp ran
  obtain ⟨progress, turned, ran⟩ := bind_eq_ok.mp ran
  cases ran
  have kept := Transition.foldlM_invariant
    (fun progress : ReadProgress => progress.store.Agree other store)
    (fun _ _ _ agree turn => (agree_setReadEntry unlike turn).trans agree)
    (agree_openBatch unlike start) turned
  exact (agree_closeBatch unlike).trans kept

theorem agree_setStarred {starred : Bool} :
    (store.setStarred now accountId entryId starred).Agree other store := by
  refine (agree_upsertPending unlike).trans ?_
  refine { Agree.refl store with entries := Table.agree_update store.entries ?_ fun _ => by rfl }
  intro row selected
  simp only [Bool.and_eq_true, decide_eq_true_eq] at selected
  exact ofAccount_other selected.1 unlike

theorem agree_undo {scan : Scan} {clock : Nat → String} :
    (store.undo scan clock accountId batchId).1.Agree other store := by
  have turned : ∀ (items : List UndoItemRow) (start : Store) (turns : Nat),
      (items.foldl (undoEntry clock accountId) (start, turns)).1.Agree other start := by
    intro items
    induction items with
    | nil => exact fun start _ => .refl start
    | cons item rest ih =>
      exact fun start _ => (ih _ _).trans ((agree_upsertPending unlike).trans (agree_setStatus unlike))
  exact (agree_discardUndo unlike).trans (turned _ store 0)

theorem agree_acknowledgeRead {row : EntryRow} :
    (store.acknowledgeRead accountId row desired).Agree other store := by
  have entries : ∀ start : Store, Agree other { start with
      entries := start.entries.update
        (fun entry => entry.accountId = accountId && entry.id = row.id)
        (fun entry => { entry with remoteStatus := statusText desired }) fun _ => rfl } start := by
    intro start
    refine { Agree.refl start with entries := Table.agree_update start.entries ?_ fun _ => by rfl }
    intro entry selected
    simp only [Bool.and_eq_true, decide_eq_true_eq] at selected
    exact ofAccount_other selected.1 unlike
  unfold acknowledgeRead
  dsimp only
  generalize (if row.remoteStatus = "unread" && desired then -1
    else if row.remoteStatus = "read" && !desired then 1 else 0 : Int) = delta
  split
  · exact entries store
  · refine (entries _).trans { Agree.refl store with
      feeds := Table.agree_update store.feeds ?_ fun _ => by rfl
      selectionTotals := Table.agree_update store.selectionTotals ?_ fun _ => by rfl }
    · intro feed selected
      simp only [Bool.and_eq_true, decide_eq_true_eq] at selected
      exact ofAccount_other selected.1 unlike
    · intro total selected
      simp only [countsUnread, Bool.and_eq_true, decide_eq_true_eq] at selected
      exact ofAccount_other selected.1 unlike

theorem agree_acknowledgeStarred {row : EntryRow} :
    (store.acknowledgeStarred accountId row desired).Agree other store := by
  have entries : ∀ start : Store, Agree other { start with
      entries := start.entries.update
        (fun entry => entry.accountId = accountId && entry.id = row.id)
        (fun entry => { entry with remoteStarred := desired }) fun _ => rfl } start := by
    intro start
    refine { Agree.refl start with entries := Table.agree_update start.entries ?_ fun _ => by rfl }
    intro entry selected
    simp only [Bool.and_eq_true, decide_eq_true_eq] at selected
    exact ofAccount_other selected.1 unlike
  unfold acknowledgeStarred
  dsimp only
  generalize (if !row.remoteStarred && desired then 1
    else if row.remoteStarred && !desired then -1 else 0 : Int) = delta
  split
  · exact entries store
  · refine (entries _).trans { Agree.refl store with
      accounts := Table.agree_update store.accounts ?_ fun _ => by rfl
      selectionTotals := Table.agree_update store.selectionTotals ?_ fun _ => by rfl }
    · intro account selected
      simp only [decide_eq_true_eq] at selected
      simpa [selected] using unlike.symm
    · intro total selected
      simp only [Bool.and_eq_true, decide_eq_true_eq] at selected
      exact ofAccount_other selected.1 unlike

omit unlike in
theorem agree_deletePending {condition : PendingRow → Bool}
    (elsewhere : ∀ row, condition row = true → ofAccount other row.key = false) :
    Agree other { store with pendingMutations := store.pendingMutations.delete condition } store :=
  { Agree.refl store with
    pendingMutations := Table.agree_delete store.pendingMutations elsewhere }

theorem agree_acknowledge {mutation : PendingMutation}
    (ran : store.acknowledge accountId mutation = .ok after) : after.Agree other store := by
  unfold acknowledge at ran
  split at ran
  · cases ran
  · rename_i row found
    cases ran
    refine (agree_deletePending ?_).trans ?_
    · intro pending selected
      simp only [Bool.and_eq_true, decide_eq_true_eq] at selected
      exact ofAccount_other selected.1.1.1 unlike
    · cases mutation.field with
      | read => exact agree_acknowledgeRead unlike
      | starred => exact agree_acknowledgeStarred unlike

end Store

end FluxBar
