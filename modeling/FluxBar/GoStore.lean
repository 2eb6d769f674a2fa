import FluxBar.GoSnapshot

/-! The store of the Go core: the transactions that write the tables, and the entries
a snapshot lists. Its moments are values of a type of their own; the texts the
tables hold of them come from the standard library. -/
namespace FluxBar.Inbox
open Relational

/-- `model.Entry`, the icons aside, with a moment for its `time.Time`. -/
structure Entry (τ : Type) where
  id : Int
  title : String
  url : String
  commentsURL : String
  feedID : Int
  feedName : String
  categoryID : Int
  publishedAt : τ
  preview : String
  imageURL : String
  status : String
  starred : Bool
  deriving DecidableEq, Repr

/-- `UTC().Format(time.RFC3339Nano)`, and `time.Parse` of such a text, which leaves the
zero time where it fails. -/
structure Moments (τ : Type) where
  format : τ → String
  parse : String → τ

/-- `model.BrowseSnapshot`, with its entries. -/
structure Listing (τ : Type) extends BrowseSnapshot where
  entries : List (Entry τ)

/-! ## Rows under their keys -/

theorem id_served (server : String) (old : AccountRow) :
    AccountRow.id { old with server } = old.id := rfl

theorem key_desired (desired : Bool) (now : String) (old : PendingRow) :
    PendingRow.key { old with desired, revision := old.revision + 1, updatedAt := now } =
      old.key := rfl

theorem key_turned (status : String) (row : EntryRow) :
    EntryRow.key { row with status } = row.key := rfl

theorem key_starred (starred : Bool) (row : EntryRow) :
    EntryRow.key { row with starred } = row.key := rfl

section Store
variable {τ : Type} (moments : Moments τ) (store : Store)

/-! ## Accounts and pending rows -/

/-- `Store.EnsureAccount`: a new account, or a known one under a new address. -/
def ensureAccount (accountID server : String) : Store :=
  { store with
    accounts := store.accounts.upsert
      { id := accountID, server, remoteStarredTotal := 0, lastSyncAt := none }
      (fun old => { old with server }) (id_served server) }

/-- `upsertPending`: the first change of a flag, or the next revision of it. -/
def upsertPending (now accountID : String) (entryID : Int) (field : MutationField)
    (desired : Bool) : Store :=
  { store with
    pendingMutations := store.pendingMutations.upsert
      { accountId := accountID, entryId := entryID, field, desired, revision := 1, updatedAt := now }
      (fun old => { old with desired, revision := old.revision + 1, updatedAt := now })
      (key_desired desired now) }

/-- `UPDATE entries SET status=? WHERE account_id=? AND id=?`. -/
def updateStatus (accountID : String) (entryID : Int) (status : String) : Store :=
  { store with
    entries := store.entries.update
      (fun row => row.accountId = accountID && row.id = entryID) (fun row => { row with status })
      (key_turned status) }

/-! ## `ApplySnapshot` -/

/-- The pending rows of an entry's field. -/
def pendingRows (accountID : String) (entryID : Int) (field : MutationField) : List PendingRow :=
  store.pendingMutations.select fun row =>
    row.accountId = accountID && row.entryId = entryID && row.field = field

/-- The ids inserted into `fluxbar_remote_selection_ids`; one that comes twice fails the
transaction. -/
def insertIDs (entries : List (Entry τ)) : Except StoreError (Table (id : Int → Int)) :=
  entries.foldlM (fun table entry =>
    Store.insertRow "fluxbar_remote_selection_ids.id" table entry.id) .empty

/-- `reconcileCompleteSelection`: rows of the selection that are not listed lose the
server's flag, and the shown one where nothing of it is pending. -/
def reconcileCompleteSelection (accountID : String) (selection : Selection)
    (entries : List (Entry τ)) : Except StoreError Store := do
  let ids ← insertIDs entries
  let store := { store with remoteSelectionIds := ids }
  let missing (row : EntryRow) : Bool :=
    row.accountId = accountID && inScope selection row && !ids.rows.any fun id => id = row.id
  if selection.unreadOnly || selection.kind = "unread" then
    return { store with
      entries := store.entries.update (fun row => missing row && row.remoteStatus = "unread") fun row =>
        { row with
          remoteStatus := "read"
          status := if (pendingRows store row.accountId row.id .read).isEmpty then "read"
            else row.status } }
  else if selection.kind = "starred" then
    return { store with
      entries := store.entries.update (fun row => missing row && row.remoteStarred) fun row =>
        { row with
          remoteStarred := false
          starred := if (pendingRows store row.accountId row.id .starred).isEmpty then false
            else row.starred } }
  else return store

/-- The inner loop over the feeds of a category. -/
def insertFeed (accountID : String) (categoryID : Int) (store : Store) (feed : Feed) :
    Except StoreError Store := do
  let feeds ← Store.insertRow "feeds.account_id, feeds.id" store.feeds
    { accountId := accountID, id := feed.id, categoryId := categoryID, title := feed.title,
      remoteUnreadCount := feed.unreadCount }
  return { store with feeds }

/-- One turn of the loop over the categories. -/
def insertCategory (accountID : String) (store : Store) (category : Category) :
    Except StoreError Store := do
  let categories ← Store.insertRow "categories.account_id, categories.id" store.categories
    { accountId := accountID, id := category.id, title := category.title }
  category.feeds.foldlM (insertFeed accountID category.id) { store with categories }

/-- The values of the `INSERT` of an entry, its moment written as a UTC text. -/
def insertedRow (accountID : String) (entry : Entry τ) : EntryRow where
  accountId := accountID
  id := entry.id
  title := entry.title
  url := entry.url
  commentsUrl := entry.commentsURL
  feedId := entry.feedID
  feedName := entry.feedName
  categoryId := entry.categoryID
  publishedAt := moments.format entry.publishedAt
  preview := entry.preview
  imageUrl := entry.imageURL
  remoteStatus := entry.status
  remoteStarred := entry.starred
  status := entry.status
  starred := entry.starred

/-- Its `ON CONFLICT ... DO UPDATE SET`: a flag with a pending change stays as it is shown.
-/
def updatedRow (pendingRead pendingStarred : Bool) (entry : Entry τ) (old : EntryRow) : EntryRow :=
  { old with
    title := entry.title
    url := entry.url
    commentsUrl := entry.commentsURL
    feedId := entry.feedID
    feedName := entry.feedName
    categoryId := entry.categoryID
    publishedAt := moments.format entry.publishedAt
    preview := entry.preview
    imageUrl := entry.imageURL
    remoteStatus := entry.status
    remoteStarred := entry.starred
    status := if pendingRead then old.status else entry.status
    starred := if pendingStarred then old.starred else entry.starred }

/-- One turn of the loop over the entries. -/
def storeEntry (accountID : String) (store : Store) (entry : Entry τ) : Store :=
  let pendingRead := (pendingRows store accountID entry.id .read).length
  let pendingStarred := (pendingRows store accountID entry.id .starred).length
  { store with
    entries := store.entries.upsert (insertedRow moments accountID entry)
      (updatedRow moments (decide (0 < pendingRead)) (decide (0 < pendingStarred)) entry) }

/-- `Store.ApplySnapshot`: totals, reconciliation, navigation and entries, in one
transaction. -/
def applySnapshot (now accountID : String) (snapshot : Listing τ) : Except StoreError Store := do
  let store := { store with
    accounts := store.accounts.update (fun row => row.id = accountID) fun row =>
      { row with remoteStarredTotal := snapshot.starredTotal, lastSyncAt := some now } }
  let selection := snapshot.selection.normalized
  let store := { store with
    selectionTotals := store.selectionTotals.upsert
      { accountId := accountID, kind := selection.kind, selectionId := selection.id,
        unreadOnly := selection.unreadOnly, total := snapshot.total }
      fun old => { old with total := snapshot.total } }
  let store ← if decide (snapshot.total ≤ snapshot.entries.length) &&
      (selection.unreadOnly || selection.kind = "unread" || selection.kind = "starred")
    then reconcileCompleteSelection store accountID selection snapshot.entries
    else pure store
  let store := { store with feeds := store.feeds.delete fun row => row.accountId = accountID }
  let store := { store with
    categories := store.categories.delete fun row => row.accountId = accountID }
  let store ← snapshot.categories.foldlM (insertCategory accountID) store
  return snapshot.entries.foldl (storeEntry moments accountID) store

/-! ## `SetRead` and `SetStarred` -/

/-- One turn of the loop of `SetRead`, over the store, the receipt's count and the number
of clock readings so far. -/
def setReadEntry (clock : Nat → String) (accountID receiptID : String) (read undoable : Bool)
    (progress : Store × Int × Nat) (entryID : Int) : Except StoreError (Store × Int × Nat) := do
  let (store, count, readings) := progress
  let status := if read then "read" else "unread"
  let store := if undoable then store else
    { store with
      undoItems := store.undoItems.delete fun item =>
        item.accountId = accountID && item.entryId = entryID }
  match store.entries.find? (accountID, entryID) with
  | none => return (store, count, readings)
  | some row =>
    if row.status = status then return (store, count, readings)
    let undoItems ← if undoable then
        Store.insertRow "undo_items.account_id, undo_items.batch_id, undo_items.entry_id"
          store.undoItems
          { accountId := accountID, batchId := receiptID, entryId := entryID,
            priorRead := row.status = "read" }
      else pure store.undoItems
    let store := updateStatus { store with undoItems } accountID entryID status
    let store := upsertPending store (clock readings) accountID entryID .read read
    return (store, count + 1, readings + 1)

/-- The batch an undoable `SetRead` starts with. -/
def openBatch (now accountID receiptID : String) (undoable : Bool) : Except StoreError Store :=
  if undoable then do
    let undoBatches ← Store.insertRow "undo_batches.account_id, undo_batches.id" store.undoBatches
      { accountId := accountID, id := receiptID, createdAt := now }
    return { store with undoBatches }
  else return store

/-- The deletions of batches at the end of `SetRead`: its own where nothing changed, and
after a manual one all that are left without items. -/
def closeBatches (accountID receiptID : String) (undoable : Bool) (count : Int) : Store :=
  let store := if undoable && count = 0 then
      { store with
        undoBatches := store.undoBatches.delete fun batch =>
          batch.accountId = accountID && batch.id = receiptID }
    else store
  if undoable then store
  else
    { store with
      undoBatches := store.undoBatches.delete fun batch =>
        batch.accountId = accountID && (store.undoItems.select fun item =>
          item.accountId = batch.accountId && item.batchId = batch.id).isEmpty }

/-- `Store.SetRead`; `receiptID` is what `randomID` returned. A receipt is handed out for an
undoable change of at least one article. -/
def setRead (clock : Nat → String) (receiptID accountID : String) (entryIDs : List Int)
    (read undoable : Bool) : Except StoreError (Store × Option MutationReceipt) := do
  let opened ← openBatch store (clock 0) accountID receiptID undoable
  let (store, count, _) ← entryIDs.foldlM (setReadEntry clock accountID receiptID read undoable)
    (opened, 0, 1)
  let store := closeBatches store accountID receiptID undoable count
  if !undoable || count = 0 then return (store, none)
  return (store, some { id := receiptID, count })

/-- `Store.SetStarred`: the shown flag, and a pending change of it whether or not the entry
is stored. -/
def setStarred (now accountID : String) (entryID : Int) (starred : Bool) : Store :=
  let store := { store with
    entries := store.entries.update
      (fun row => row.accountId = accountID && row.id = entryID) (fun row => { row with starred })
      (key_starred starred) }
  upsertPending store now accountID entryID .starred starred

/-! ## `Undo` and `DiscardUndo` -/

/-- `Store.DiscardUndo`. -/
def discardUndo (accountID batchID : String) : Store :=
  let store := { store with
    undoItems := store.undoItems.delete fun item =>
      item.accountId = accountID && item.batchId = batchID }
  { store with
    undoBatches := store.undoBatches.delete fun batch =>
      batch.accountId = accountID && batch.id = batchID }

/-- One turn of the loop of `Undo`. -/
def undoItem (clock : Nat → String) (accountID : String) (progress : Store × Nat)
    (item : UndoItemRow) : Store × Nat :=
  let status := if item.priorRead then "read" else "unread"
  let store := updateStatus progress.1 accountID item.entryId status
  (upsertPending store (clock progress.2) accountID item.entryId .read item.priorRead,
    progress.2 + 1)

/-- `Store.Undo`: the items of the batch are turned back one after the other, and the batch
is deleted. -/
def undo (scan : Scan) (clock : Nat → String) (accountID batchID : String) : Store × List Int :=
  let items := scan.order (store.undoItems.select fun item =>
    item.accountId = accountID && item.batchId = batchID)
  let (store, _) := items.foldl (undoItem clock accountID) (store, 0)
  let store := { store with
    undoItems := store.undoItems.delete fun item =>
      item.accountId = accountID && item.batchId = batchID }
  ({ store with
    undoBatches := store.undoBatches.delete fun batch =>
      batch.accountId = accountID && batch.id = batchID }, items.map (·.entryId))

/-! ## `Pending` and `Acknowledge` -/

/-- `Store.Pending`: the changes of the account by the text of their time. -/
def pending (scan : Scan) (accountID : String) : List PendingMutation :=
  ((scan.order (store.pendingMutations.select fun row => row.accountId = accountID)).mergeSort
    fun left right => decide (left.updatedAt ≤ right.updatedAt)).map fun row =>
      { entryId := row.entryId, field := row.field, desired := row.desired, revision := row.revision }

/-- `Store.Acknowledge`; an entry the store does not hold ends it with `sql.ErrNoRows`. -/
def acknowledge (accountID : String) (mutation : PendingMutation) : Except StoreError Store :=
  match store.entries.find? (accountID, mutation.entryId) with
  | none => .error .queryReturnedNoRows
  | some row =>
    let store := match mutation.field with
      | .read =>
        let delta : Int := if row.remoteStatus = "unread" && mutation.desired then -1
          else if row.remoteStatus = "read" && !mutation.desired then 1 else 0
        let store := if delta = 0 then store else
          { store with
            feeds := store.feeds.update
              (fun feed => feed.accountId = accountID && feed.id = row.feedId) fun feed =>
                { feed with remoteUnreadCount := max 0 (feed.remoteUnreadCount + delta) }
            selectionTotals := store.selectionTotals.update (fun total =>
              total.accountId = accountID && (total.kind = "unread" || (total.unreadOnly &&
                (total.kind = "all" || (total.kind = "feed" && total.selectionId = row.feedId) ||
                  (total.kind = "category" && total.selectionId = row.categoryId))))) fun total =>
                    { total with total := max 0 (total.total + delta) } }
        { store with
          entries := store.entries.update
            (fun entry => entry.accountId = accountID && entry.id = mutation.entryId) fun entry =>
              { entry with remoteStatus := if mutation.desired then "read" else "unread" } }
      | .starred =>
        let delta : Int := if !row.remoteStarred && mutation.desired then 1
          else if row.remoteStarred && !mutation.desired then -1 else 0
        let store := if delta = 0 then store else
          { store with
            accounts := store.accounts.update (fun account => account.id = accountID) fun account =>
              { account with remoteStarredTotal := max 0 (account.remoteStarredTotal + delta) }
            selectionTotals := store.selectionTotals.update (fun total =>
              total.accountId = accountID && total.kind = "starred") fun total =>
                { total with total := max 0 (total.total + delta) } }
        { store with
          entries := store.entries.update
            (fun entry => entry.accountId = accountID && entry.id = mutation.entryId) fun entry =>
              { entry with remoteStarred := mutation.desired } }
    .ok { store with
      pendingMutations := store.pendingMutations.delete fun pending =>
        pending.accountId = accountID && pending.entryId = mutation.entryId &&
          pending.field = mutation.field && pending.revision = mutation.revision }

/-! ## The entries of `Snapshot` -/

/-- An entry read from its row. -/
def scannedEntry (row : EntryRow) : Entry τ where
  id := row.id
  title := row.title
  url := row.url
  commentsURL := row.commentsUrl
  feedID := row.feedId
  feedName := row.feedName
  categoryID := row.categoryId
  publishedAt := moments.parse row.publishedAt
  preview := row.preview
  imageURL := row.imageUrl
  status := row.status
  starred := row.starred

/-- One turn of the loop over the rows of `Snapshot`, with the ids `seen`. -/
def listEntry (progress : List Int × List (Entry τ)) (row : EntryRow) : List Int × List (Entry τ) :=
  let entry := scannedEntry moments row
  if entry.id ∈ progress.1 then progress
  else (entry.id :: progress.1, progress.2 ++ [entry])

/-- The entries of `Snapshot`, by the text of their publication, at most 200; without
retained ids the query has no second part. -/
def snapshotEntries (scan : Scan) (accountID : String) (selection : Selection) (newestFirst : Bool)
    (retainIDs : List Int) : List (Entry τ) :=
  let condition (row : EntryRow) : Bool :=
    if retainIDs.length = 0 then selectionClause selection accountID row
    else selectionClause selection accountID row ||
      (row.accountId = accountID && row.id ∈ retainIDs)
  let rows := (scan.order (store.entries.select condition)).mergeSort fun left right =>
    if newestFirst then decide (right.publishedAt ≤ left.publishedAt)
    else decide (left.publishedAt ≤ right.publishedAt)
  ((rows.take snapshotLimit).foldl (listEntry moments) ([], [])).2

/-- `Store.Snapshot`, its entries included, each with the moment its text is parsed as. -/
def localSnapshot (scan : Scan) (accountID : String) (selection : Selection) (newestFirst : Bool)
    (retainIDs : List Int) : Except StoreError (Listing τ) := do
  let figures ← snapshot store accountID scan selection
  return { figures with
    entries := snapshotEntries moments store scan accountID selection.normalized newestFirst
      retainIDs }

end Store

end FluxBar.Inbox
