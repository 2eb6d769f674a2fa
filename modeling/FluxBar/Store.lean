import FluxBar.Domain
import FluxBar.Library.KeyedTable

/-! The local store: the tables of its schema and the transactions that write
them. A transaction is a function of the whole store; one that fails returns no
store, so its caller keeps the old one, as a rolled-back connection does. The
clock readings and receipt ids a transaction takes are arguments. -/
namespace FluxBar
open Relational

/-! ## Schema -/

/-- `pending_mutations.field`, which the schema restricts to these two. -/
inductive MutationField where
  | read
  | starred
  deriving DecidableEq, Repr

/-- The text a field is stored as. -/
def MutationField.text : MutationField → String
  | .read => "read"
  | .starred => "starred"

/-- A row of `accounts`. The starred total is the server's, before the pending stars. -/
structure AccountRow where
  id : String
  server : String
  remoteStarredTotal : Int
  lastSyncAt : Option String
  deriving DecidableEq, Repr

/-- A row of `categories`, written anew by every refresh. -/
structure CategoryRow where
  accountId : String
  id : Int
  title : String
  deriving DecidableEq, Repr

/-- A row of `feeds`, with the unread count as the server gave it. -/
structure FeedRow where
  accountId : String
  id : Int
  categoryId : Int
  title : String
  remoteUnreadCount : Int
  deriving DecidableEq, Repr

/-- A row of `selection_totals`: how many articles the server has of a selection, under the
kind, the scope and the filter that name it. -/
structure SelectionTotalRow where
  accountId : String
  kind : String
  selectionId : Int
  unreadOnly : Bool
  total : Int
  deriving DecidableEq, Repr

/-- A row of `entries`. The flags stand twice: as they are shown, with the local changes,
and as the server last had them. -/
structure EntryRow where
  accountId : String
  id : Int
  title : String
  url : String
  commentsUrl : String
  feedId : Int
  feedName : String
  categoryId : Int
  publishedAt : String
  preview : String
  imageUrl : String
  remoteStatus : String
  remoteStarred : Bool
  status : String
  starred : Bool
  deriving DecidableEq, Repr

/-- A row of `pending_mutations`: a local change that the server has not been told of, and
how often it was made over. -/
structure PendingRow where
  accountId : String
  entryId : Int
  field : MutationField
  desired : Bool
  revision : Int
  updatedAt : String
  deriving DecidableEq, Repr

/-- A row of `undo_batches`: one automatic change of several articles, under the id of its
receipt. -/
structure UndoBatchRow where
  accountId : String
  id : String
  createdAt : String
  deriving DecidableEq, Repr

/-- A row of `undo_items`: one article of a batch, with the state to go back to. -/
structure UndoItemRow where
  accountId : String
  batchId : String
  entryId : Int
  priorRead : Bool
  deriving DecidableEq, Repr

abbrev CategoryRow.key (row : CategoryRow) : String × Int := (row.accountId, row.id)
abbrev FeedRow.key (row : FeedRow) : String × Int := (row.accountId, row.id)
abbrev SelectionTotalRow.key (row : SelectionTotalRow) : String × String × Int × Bool :=
  (row.accountId, row.kind, row.selectionId, row.unreadOnly)
abbrev EntryRow.key (row : EntryRow) : String × Int := (row.accountId, row.id)
abbrev PendingRow.key (row : PendingRow) : String × Int × MutationField :=
  (row.accountId, row.entryId, row.field)
abbrev UndoBatchRow.key (row : UndoBatchRow) : String × String := (row.accountId, row.id)
abbrev UndoItemRow.key (row : UndoItemRow) : String × String × Int :=
  (row.accountId, row.batchId, row.entryId)

/-- The eight tables of `SCHEMA`, and the connection's temporary table
`fluxbar_remote_selection_ids`, which no account owns. -/
@[ext] structure Store where
  accounts : Table AccountRow.id
  categories : Table CategoryRow.key
  feeds : Table FeedRow.key
  selectionTotals : Table SelectionTotalRow.key
  entries : Table EntryRow.key
  pendingMutations : Table PendingRow.key
  undoBatches : Table UndoBatchRow.key
  undoItems : Table UndoItemRow.key
  remoteSelectionIds : Table (id : Int → Int)

/-- A store `SCHEMA` has just created: no account, and nothing stored for any. -/
def Store.empty : Store where
  accounts := .empty
  categories := .empty
  feeds := .empty
  selectionTotals := .empty
  entries := .empty
  pendingMutations := .empty
  undoBatches := .empty
  undoItems := .empty
  remoteSelectionIds := .empty

/-! ## Values passed in and out -/

/-- `rusqlite::Error`, as far as the store's statements raise it: a key that is taken, a row
that is missing, and a number that an `i32` does not hold. -/
inductive StoreError where
  | uniqueViolation (columns : String)
  | queryReturnedNoRows
  | integralValueOutOfRange (column : Nat) (value : Int)
  deriving DecidableEq, Repr

/-- What `to_string` makes of an error. -/
def StoreError.message : StoreError → String
  | .uniqueViolation columns => s!"UNIQUE constraint failed: {columns}"
  | .queryReturnedNoRows => "Query returned no rows"
  | .integralValueOutOfRange column value => s!"Integer {value} out of range at index {column}"

/-- `SnapshotData`: what a refresh brings and what a read shows, the entries of one
selection under the navigation and the three figures of the account. -/
structure SnapshotData where
  version : Int
  selection : Selection
  entries : List Entry
  categories : List Category
  total : Int
  unreadTotal : Int
  starredTotal : Int
  deriving DecidableEq, Repr

/-- `MutationReceipt`: the batch that an automatic change opened, and how many articles it
holds. -/
structure MutationReceipt where
  id : String
  count : Int
  deriving DecidableEq, Repr

/-- `PendingMutation`: one change as a flush delivers it. The revision tells at the
acknowledgement whether the row has changed meanwhile. -/
structure PendingMutation where
  entryId : Int
  field : MutationField
  desired : Bool
  revision : Int
  deriving DecidableEq, Repr

/-- The order in which SQLite visits rows that no `ORDER BY` orders: some
permutation of the stored ones. -/
structure Scan where
  order : {α : Type} → List α → List α
  perm : ∀ {α : Type} (rows : List α), (order rows).Perm rows

/-- Rows in storage order. -/
def Scan.storage : Scan := ⟨fun rows => rows, fun rows => .refl rows⟩

/-- The text of a read state. -/
def statusText (read : Bool) : String := if read then "read" else "unread"

/-- `normalize_selection`: the store's own check of a selection, which sends a scope without
a positive id to the fallback. -/
def normalizeSelection : Selection → Selection
  | .category id unreadOnly => if 0 < id then .category id unreadOnly else .fallback
  | .feed id unreadOnly => if 0 < id then .feed id unreadOnly else .fallback
  | selection => selection

theorem normalizeSelection_of_normal {selection : Selection} (normal : selection.Normal) :
    normalizeSelection selection = selection := by
  cases selection <;> simp_all [normalizeSelection, Selection.Normal]

/-- `selection_kind`: the text that totals are stored under. -/
def selectionKind : Selection → String
  | .all .. => "all"
  | .unread .. => "unread"
  | .starred .. => "starred"
  | .category .. => "category"
  | .feed .. => "feed"

/-- `matches!(selection, Selection::Starred { .. })`. -/
def Selection.isStarred : Selection → Bool
  | .starred _ => true
  | _ => false

namespace Store
variable (store : Store)

/-- A plain `INSERT` under a primary key: it fails, and leaves the table as it was, where
the key is taken. -/
def insertRow {ρ κ : Type} {key : ρ → κ} [DecidableEq κ] (columns : String) (table : Table key)
    (row : ρ) : Except StoreError (Table key) :=
  match table.insert? row with
  | some inserted => .ok inserted
  | none => .error (.uniqueViolation columns)

/-- Whether a pending row of the field stands for the entry, in which case the shown flag is
the user's and not the server's. -/
def hasPending (accountId : String) (entryId : Int) (field : MutationField) : Bool :=
  store.pendingMutations.has (accountId, entryId, field)

/-- `upsert_pending`: the first change of a flag starts at revision 1, and every later one
keeps the row, with the value wanted last, the next revision and a new time. -/
def upsertPending (now : String) (accountId : String) (entryId : Int) (field : MutationField)
    (desired : Bool) : Store :=
  { store with
    pendingMutations := store.pendingMutations.upsert
      { accountId, entryId, field, desired, revision := 1, updatedAt := now }
      fun old => { old with desired, revision := old.revision + 1, updatedAt := now } }

/-- `UPDATE entries SET status=?1 WHERE account_id=?2 AND id=?3`. -/
def setStatus (accountId : String) (entryId : Int) (status : String) : Store :=
  { store with
    entries := store.entries.update
      (fun row => row.accountId = accountId && row.id = entryId) fun row => { row with status } }

/-! ## `ensure_account` -/

def ensureAccount (accountId server : String) : Store :=
  { store with
    accounts := store.accounts.upsert
      { id := accountId, server, remoteStarredTotal := 0, lastSyncAt := none }
      fun old => { old with server } }

/-! ## `apply_snapshot` -/

/-- The counters a snapshot brings: the account's starred total and the total
of the selection browsed. -/
def recordTotals (now accountId : String) (selection : Selection) (snapshot : SnapshotData) : Store :=
  { store with
    accounts := store.accounts.update (fun row => row.id = accountId) fun row =>
      { row with remoteStarredTotal := snapshot.starredTotal, lastSyncAt := some now }
    selectionTotals := store.selectionTotals.upsert
      { accountId, kind := selectionKind selection, selectionId := selection.scopeId,
        unreadOnly := selection.isUnreadOnly, total := snapshot.total }
      fun old => { old with total := snapshot.total } }

/-- The `category_id=?2` or `feed_id=?2` condition of a scoped selection; every row is in
the scope of the others. -/
def inScope (selection : Selection) (row : EntryRow) : Bool :=
  match selection with
  | .category id _ => row.categoryId = id
  | .feed id _ => row.feedId = id
  | _ => true

/-- `fluxbar_remote_selection_ids` filled with the ids of the browsed entries, one at a
time; an id that comes twice fails the transaction. -/
def remoteIds (entries : List Entry) : Except StoreError (Table (id : Int → Int)) :=
  entries.foldlM (fun table entry =>
    insertRow "fluxbar_remote_selection_ids.id" table entry.id) .empty

/-- The rows `reconcile_complete_selection` takes for gone: in the scope of the
selection, but not among the browsed ids. -/
def isMissing (accountId : String) (selection : Selection) (ids : Table (id : Int → Int))
    (row : EntryRow) : Bool :=
  row.accountId = accountId && inScope selection row && !ids.has row.id

/-- `reconcile_complete_selection`: what a complete result does not list is no
longer unread (or starred). The effective column stays where a pending row
stands for it. -/
def reconcileCompleteSelection (accountId : String) (selection : Selection)
    (entries : List Entry) : Except StoreError Store := do
  let ids ← remoteIds entries
  let store := { store with remoteSelectionIds := ids }
  if selection.isUnreadOnly then
    return { store with
      entries := store.entries.update
        (fun row => isMissing accountId selection ids row && row.remoteStatus = "unread") fun row =>
          { row with
            remoteStatus := "read"
            status := if store.hasPending row.accountId row.id .read then row.status else "read" } }
  else if selection.isStarred then
    return { store with
      entries := store.entries.update
        (fun row => isMissing accountId selection ids row && row.remoteStarred) fun row =>
          { row with
            remoteStarred := false
            starred := if store.hasPending row.accountId row.id .starred then row.starred
              else false } }
  else return store

/-- `DELETE FROM feeds` and `DELETE FROM categories` of the account, before the browsed ones
are inserted. -/
def clearNavigation (accountId : String) : Store :=
  { store with
    feeds := store.feeds.delete fun row => row.accountId = accountId
    categories := store.categories.delete fun row => row.accountId = accountId }

def insertFeed (accountId : String) (categoryId : Int) (store : Store) (feed : Feed) :
    Except StoreError Store := do
  let feeds ← insertRow "feeds.account_id, feeds.id" store.feeds
    { accountId, id := feed.id, categoryId, title := feed.title,
      remoteUnreadCount := feed.unreadCount }
  return { store with feeds }

def insertCategory (accountId : String) (store : Store) (category : Category) :
    Except StoreError Store := do
  let categories ← insertRow "categories.account_id, categories.id" store.categories
    { accountId, id := category.id, title := category.title }
  category.feeds.foldlM (insertFeed accountId category.id) { store with categories }

/-- The row of a browsed entry that is new: its effective columns are the remote
ones. -/
def entryRow (accountId : String) (entry : Entry) : EntryRow where
  accountId
  id := entry.id
  title := entry.title
  url := entry.url
  commentsUrl := entry.commentsUrl
  feedId := entry.feedId
  feedName := entry.feedName
  categoryId := entry.categoryId
  publishedAt := entry.publishedAtRfc3339
  preview := entry.preview
  imageUrl := entry.imageUrl
  remoteStatus := entry.status.asStr
  remoteStarred := entry.starred
  status := entry.status.asStr
  starred := entry.starred

/-- The `DO UPDATE SET` of a held row: an effective column stays where a pending
row stands for it. -/
def mergeEntry (pendingRead pendingStarred : Bool) (entry : Entry) (old : EntryRow) : EntryRow :=
  { entryRow old.accountId entry with
    id := old.id
    status := if pendingRead then old.status else entry.status.asStr
    starred := if pendingStarred then old.starred else entry.starred }

theorem key_mergeEntry (pendingRead pendingStarred : Bool) (entry : Entry) (old : EntryRow) :
    (mergeEntry pendingRead pendingStarred entry old).key = old.key := rfl

/-- The upsert of one browsed entry: a new row takes the server's flags for both sides, a
known one takes them for the server's side, and for the shown side where nothing is pending.
-/
def storeEntry (accountId : String) (store : Store) (entry : Entry) : Store :=
  { store with
    entries := store.entries.upsert (entryRow accountId entry)
      (mergeEntry (store.hasPending accountId entry.id .read)
        (store.hasPending accountId entry.id .starred) entry)
      (key_mergeEntry _ _ entry) }

/-- Whether a snapshot is evidence of absence in its selection: it is complete, and of
unread or starred articles only, so that an article may have left it. -/
def reconciles (selection : Selection) (snapshot : SnapshotData) : Bool :=
  snapshot.total ≤ toI32 snapshot.entries.length && (selection.isUnreadOnly || selection.isStarred)

/-- `apply_snapshot`: the totals, then the articles that have left the selection, then the
navigation, written anew, and last the browsed entries. All of it is one transaction. -/
def applySnapshot (now accountId : String) (snapshot : SnapshotData) : Except StoreError Store := do
  let selection := normalizeSelection snapshot.selection
  let store := store.recordTotals now accountId selection snapshot
  let store ← if reconciles selection snapshot
    then store.reconcileCompleteSelection accountId selection snapshot.entries
    else pure store
  let store ← snapshot.categories.foldlM (insertCategory accountId) (store.clearNavigation accountId)
  return snapshot.entries.foldl (storeEntry accountId) store

/-! ## `set_read` and `set_starred` -/

/-- Where `set_read` stands in its list: the store so far, the receipt with its count, and
the number of clock readings made. -/
structure ReadProgress where
  store : Store
  receipt : MutationReceipt
  readings : Nat

/-- The undo item an undoable change leaves behind, with the state the entry was in. -/
def recordUndo (accountId batchId : String) (entryId : Int) (priorRead : Bool) :
    Except StoreError Store := do
  let undoItems ← insertRow "undo_items.account_id, undo_items.batch_id, undo_items.entry_id"
    store.undoItems { accountId, batchId, entryId, priorRead }
  return { store with undoItems }

/-- A manual change takes the entry out of every undo batch, so that no later undo reverts
what the user did by hand. -/
def forgetUndo (accountId : String) (entryId : Int) : Store :=
  { store with
    undoItems := store.undoItems.delete fun item =>
      item.accountId = accountId && item.entryId = entryId }

/-- One turn of the loop of `set_read`: an entry that is not stored, or reads as wanted
already, is passed over and not counted; any other is recorded for the undo where that is
asked for, changed, and queued for delivery. -/
def setReadEntry (clock : Nat → String) (accountId : String) (read undoable : Bool)
    (progress : ReadProgress) (entryId : Int) : Except StoreError ReadProgress := do
  let store := if undoable then progress.store else progress.store.forgetUndo accountId entryId
  match store.entries.find? (accountId, entryId) with
  | none => return { progress with store }
  | some row =>
    if row.status = statusText read then return { progress with store }
    else
      let store ← if undoable
        then store.recordUndo accountId progress.receipt.id entryId (row.status = "read")
        else pure store
      let store := (store.setStatus accountId entryId (statusText read)).upsertPending
        (clock progress.readings) accountId entryId .read read
      return {
        store
        receipt := { progress.receipt with count := progress.receipt.count + 1 }
        readings := progress.readings + 1 }

/-- The batch row an undoable `set_read` starts with; the insertion fails where the id of
the receipt is taken. -/
def openBatch (now accountId batchId : String) (undoable : Bool) : Except StoreError Store := do
  if undoable then
    let undoBatches ← insertRow "undo_batches.account_id, undo_batches.id" store.undoBatches
      { accountId, id := batchId, createdAt := now }
    return { store with undoBatches }
  else return store

/-- What `set_read` does to the batches at its end: an undoable call that changed
nothing drops its own, a manual call drops every batch left without items. -/
def closeBatch (accountId : String) (undoable : Bool) (receipt : MutationReceipt) : Store :=
  if undoable then
    if receipt.count = 0 then
      { store with
        undoBatches := store.undoBatches.delete fun batch =>
          batch.accountId = accountId && batch.id = receipt.id }
    else store
  else
    { store with
      undoBatches := store.undoBatches.delete fun batch =>
        batch.accountId = accountId && !store.undoItems.rows.any fun item =>
          item.accountId = batch.accountId && item.batchId = batch.id }

/-- `set_read`; `receiptId` is the value `random_id` returned. A receipt is handed out for
an undoable change of at least one article, and else the batch is closed again. -/
def setRead (clock : Nat → String) (receiptId accountId : String) (entryIds : List Int)
    (read undoable : Bool) : Except StoreError (Store × Option MutationReceipt) := do
  let opened ← store.openBatch (clock 0) accountId receiptId undoable
  let progress ← entryIds.foldlM (setReadEntry clock accountId read undoable)
    { store := opened, receipt := { id := receiptId, count := 0 }, readings := 1 }
  return (progress.store.closeBatch accountId undoable progress.receipt,
    if undoable && 0 < progress.receipt.count then some progress.receipt else none)

/-- `set_starred`: the shown flag of the entry, if it is stored, and a pending row in any
case. -/
def setStarred (now accountId : String) (entryId : Int) (starred : Bool) : Store :=
  upsertPending
    { store with
      entries := store.entries.update
        (fun row => row.accountId = accountId && row.id = entryId) fun row => { row with starred } }
    now accountId entryId .starred starred

/-! ## `pending` and `acknowledge` -/

/-- `pending`: the changes of the account as a flush delivers them, by the text of their
time and, within one text, in the order the rows are visited. -/
def pending (scan : Scan) (accountId : String) : List PendingMutation :=
  let rows := scan.order (store.pendingMutations.select fun row => row.accountId = accountId)
  (rows.mergeSort fun left right => decide (left.updatedAt ≤ right.updatedAt)).map fun row =>
    { entryId := row.entryId, field := row.field, desired := row.desired, revision := row.revision }

/-- The selection totals a read change in this feed and category moves: those of unread
articles that the article is in. -/
def countsUnread (accountId : String) (feedId categoryId : Int) (row : SelectionTotalRow) : Bool :=
  row.accountId = accountId && (row.kind = "unread" ||
    (row.unreadOnly && (row.kind = "all" ||
      (row.kind = "feed" && row.selectionId = feedId) ||
      (row.kind = "category" && row.selectionId = categoryId))))

/-- The `"read"` arm of `acknowledge`, the deletion of the pending row aside. -/
def acknowledgeRead (accountId : String) (row : EntryRow) (desired : Bool) : Store :=
  let delta : Int :=
    if row.remoteStatus = "unread" && desired then -1
    else if row.remoteStatus = "read" && !desired then 1
    else 0
  let store := if delta = 0 then store else {
    store with
    feeds := store.feeds.update (fun feed => feed.accountId = accountId && feed.id = row.feedId)
      fun feed => { feed with remoteUnreadCount := max 0 (feed.remoteUnreadCount + delta) }
    selectionTotals := store.selectionTotals.update
      (countsUnread accountId row.feedId row.categoryId)
      fun total => { total with total := max 0 (total.total + delta) } }
  { store with
    entries := store.entries.update
      (fun entry => entry.accountId = accountId && entry.id = row.id)
      fun entry => { entry with remoteStatus := statusText desired } }

/-- The other arm of `acknowledge`. -/
def acknowledgeStarred (accountId : String) (row : EntryRow) (desired : Bool) : Store :=
  let delta : Int :=
    if !row.remoteStarred && desired then 1
    else if row.remoteStarred && !desired then -1
    else 0
  let store := if delta = 0 then store else {
    store with
    accounts := store.accounts.update (fun account => account.id = accountId)
      fun account => { account with remoteStarredTotal := max 0 (account.remoteStarredTotal + delta) }
    selectionTotals := store.selectionTotals.update
      (fun total => total.accountId = accountId && total.kind = "starred")
      fun total => { total with total := max 0 (total.total + delta) } }
  { store with
    entries := store.entries.update
      (fun entry => entry.accountId = accountId && entry.id = row.id)
      fun entry => { entry with remoteStarred := desired } }

/-- `acknowledge`: the delivered value becomes the baseline; the pending row goes
only if no later change has raised its revision. -/
def acknowledge (accountId : String) (mutation : PendingMutation) : Except StoreError Store :=
  match store.entries.find? (accountId, mutation.entryId) with
  | none => .error .queryReturnedNoRows
  | some row =>
    let store := match mutation.field with
      | .read => store.acknowledgeRead accountId row mutation.desired
      | .starred => store.acknowledgeStarred accountId row mutation.desired
    .ok { store with
      pendingMutations := store.pendingMutations.delete fun pending =>
        pending.accountId = accountId && pending.entryId = mutation.entryId &&
          pending.field = mutation.field && pending.revision = mutation.revision }

/-! ## `undo` and `discard_undo` -/

/-- One turn of the loop of `undo`: the entry goes back to its recorded state, and the
change back is queued like any other. -/
def undoEntry (clock : Nat → String) (accountId : String) (progress : Store × Nat)
    (item : UndoItemRow) : Store × Nat :=
  ((progress.1.setStatus accountId item.entryId (statusText item.priorRead)).upsertPending
    (clock progress.2) accountId item.entryId .read item.priorRead, progress.2 + 1)

/-- The items of a batch. -/
def batchItems (scan : Scan) (accountId batchId : String) : List UndoItemRow :=
  scan.order (store.undoItems.select fun item => item.accountId = accountId && item.batchId = batchId)

/-- `discard_undo`: the batch and its items are deleted, and the entries keep the state they
have. -/
def discardUndo (accountId batchId : String) : Store :=
  { store with
    undoItems := store.undoItems.delete fun item =>
      item.accountId = accountId && item.batchId = batchId
    undoBatches := store.undoBatches.delete fun batch =>
      batch.accountId = accountId && batch.id = batchId }

/-- `undo`, with the ids of the entries it reverted: every item of the batch is turned back,
and the batch is closed. -/
def undo (scan : Scan) (clock : Nat → String) (accountId batchId : String) : Store × List Int :=
  let items := store.batchItems scan accountId batchId
  let reverted := (items.foldl (undoEntry clock accountId) (store, 0)).1
  (reverted.discardUndo accountId batchId, items.map (·.entryId))

end Store

end FluxBar
