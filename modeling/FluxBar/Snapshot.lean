import FluxBar.Store
import Mathlib.Algebra.BigOperators.Group.List.Basic

/-! `local_snapshot`: what the store shows of a selection. Counts of the last
refresh are corrected by what pending mutations will change; columns read as
`i32` fail outside its range. -/
namespace FluxBar
open Relational

/-- `SNAPSHOT_LIMIT`. -/
def snapshotLimit : Nat := 200

/-- A title as `COLLATE NOCASE` compares it: ASCII letters in lower case. -/
def nocase (title : String) : String := title.map Char.toLower

/-- `ORDER BY title COLLATE NOCASE`, over rows as they are visited, which decides between
equal titles. -/
def orderByTitle {α : Type} (title : α → String) (rows : List α) : List α :=
  rows.mergeSort fun left right => decide (nocase (title left) ≤ nocase (title right))

/-- `map_entry_row`. -/
def EntryRow.toEntry (row : EntryRow) : Entry where
  id := row.id
  title := row.title
  url := row.url
  commentsUrl := row.commentsUrl
  feedId := row.feedId
  feedName := row.feedName
  categoryId := row.categoryId
  publishedAtRfc3339 := row.publishedAt
  preview := row.preview
  imageUrl := row.imageUrl
  status := .parse row.status
  starred := row.starred

/-- How a pending read change moves the unread counts: by one up or down where the shown
state and the server's differ, and else not at all. -/
def EntryRow.readDelta (row : EntryRow) : Int :=
  if row.status = "unread" && row.remoteStatus = "read" then 1
  else if row.status = "read" && row.remoteStatus = "unread" then -1
  else 0

/-- How a pending starred change moves the starred counts: by one up or down where the shown
star and the server's differ, and else not at all. -/
def EntryRow.starredDelta (row : EntryRow) : Int :=
  if row.starred && !row.remoteStarred then 1
  else if !row.starred && row.remoteStarred then -1
  else 0

namespace Store
variable (store : Store)

/-- `row.get` of an integer column as `i32`, which refuses what does not fit. -/
def readI32 (column : Nat) (value : Int) : Except StoreError Int :=
  if InI32 value then .ok value else .error (.integralValueOutOfRange column value)

/-- `entries` joined with the pending rows of a field. -/
def pendingEntries (accountId : String) (field : MutationField) : List EntryRow :=
  store.entries.select fun row => row.accountId = accountId && store.hasPending accountId row.id field

/-- `pending_read_delta_for_feed`: what the pending reads of a feed come to, read as an
`i32`. -/
def pendingReadDeltaForFeed (accountId : String) (feedId : Int) : Except StoreError Int :=
  readI32 0 (((store.pendingEntries accountId .read).filter (·.feedId = feedId)).map
    EntryRow.readDelta).sum

/-- One feed of `navigation`; a delta that cannot be read counts as none. -/
def navigationFeed (accountId : String) (row : FeedRow) : Except StoreError Feed := do
  let remoteCount ← readI32 2 row.remoteUnreadCount
  let delta := match store.pendingReadDeltaForFeed accountId row.id with
    | .ok delta => delta
    | .error _ => 0
  return {
    id := row.id
    title := row.title
    categoryId := row.categoryId
    unreadCount := max 0 (toI32 (remoteCount + delta)) }

/-- The `i32` sum of the feeds' counts, wrapping at each addition. -/
def addCounts (total : Int) (feeds : List Feed) : Int :=
  feeds.foldl (fun total feed => toI32 (total + feed.unreadCount)) total

/-- One turn of the category loop of `navigation`: the feeds of the category in their order,
the category with their sum, and the total moved on by it. -/
def navigationCategory (scan : Scan) (accountId : String) (progress : List Category × Int)
    (row : CategoryRow) : Except StoreError (List Category × Int) := do
  let feeds ← (orderByTitle FeedRow.title (scan.order (store.feeds.select fun feed =>
    feed.accountId = accountId && feed.categoryId = row.id))).mapM (store.navigationFeed accountId)
  return (progress.1 ++ [{
    id := row.id
    title := row.title
    unreadCount := addCounts 0 feeds
    feeds }], addCounts progress.2 feeds)

/-- `navigation`: the stored categories and feeds in the order of their titles, with the
server's counts as the pending reads correct them, and the number of all unread articles. -/
def navigation (scan : Scan) (accountId : String) : Except StoreError (List Category × Int) :=
  (orderByTitle CategoryRow.title (scan.order (store.categories.select fun row =>
    row.accountId = accountId))).foldlM (store.navigationCategory scan accountId) ([], 0)

/-- `starred_total`: the server's number of starred articles, corrected by the pending
stars, and never below zero. An account that is not stored has none. -/
def starredTotal (accountId : String) : Except StoreError Int :=
  match store.accounts.find? accountId with
  | none => .error .queryReturnedNoRows
  | some account =>
    .ok (toI32 (max 0 (account.remoteStarredTotal +
      ((store.pendingEntries accountId .starred).map EntryRow.starredDelta).sum)))

/-- `selection_total`: the server's number of articles in a selection, where one is stored
under its key. -/
def selectionTotal (accountId : String) (selection : Selection) : Except StoreError (Option Int) :=
  match store.selectionTotals.find?
      (accountId, selectionKind selection, selection.scopeId, selection.isUnreadOnly) with
  | none => .ok none
  | some row => do
    let total ← readI32 0 row.total
    return some total

/-- `selection_pending_delta`: what the pending changes move the total of a selection by. A
starred selection counts stars, whether filtered or not; another filtered one counts reads;
and the rest do not move. -/
def selectionPendingDelta (accountId : String) (selection : Selection) : Except StoreError Int :=
  let readSide := !selection.isStarred && selection.isUnreadOnly
  if !readSide && !selection.isStarred then .ok 0
  else
    let rows := (store.pendingEntries accountId (if readSide then .read else .starred)).filter
      (inScope selection)
    readI32 0 (rows.map (if readSide then EntryRow.readDelta else EntryRow.starredDelta)).sum

/-- `selection_clause`: the `WHERE` that makes a stored entry one of a selection. -/
def selectionClause (accountId : String) (selection : Selection) (row : EntryRow) : Bool :=
  row.accountId = accountId && (!selection.isUnreadOnly || row.status = "unread") &&
    (!selection.isStarred || row.starred) && inScope selection row

/-- The entries of a query result, each id once, at its first place. -/
def distinctEntries (entries : List Entry) : List Entry :=
  (entries.foldl (fun (seen, kept) entry =>
    if entry.id ∈ seen then (seen, kept) else (entry.id :: seen, kept ++ [entry]))
    (([], []) : List Int × List Entry)).2

/-- `snapshot_entries`: the rows of the selection and the retained ones, by the text of
their publication, and of these the first 200. -/
def snapshotEntries (scan : Scan) (accountId : String) (selection : Selection) (newestFirst : Bool)
    (retainIds : List Int) : List Entry :=
  let rows := scan.order (store.entries.select fun row => selectionClause accountId selection row ||
    (row.accountId = accountId && row.id ∈ retainIds))
  let ordered := rows.mergeSort fun left right =>
    if newestFirst then decide (right.publishedAt ≤ left.publishedAt)
    else decide (left.publishedAt ≤ right.publishedAt)
  distinctEntries ((ordered.take snapshotLimit).map EntryRow.toEntry)

/-- `local_snapshot`: the entries at hand and the figures of the account. The total of the
selection is the server's as pending changes correct it, and at least the number of rows at
hand; where no total is stored, it is that number. -/
def localSnapshot (scan : Scan) (accountId : String) (selection : Selection) (newestFirst : Bool)
    (retainIds : List Int) : Except StoreError SnapshotData := do
  let selection := normalizeSelection selection
  let (categories, unreadTotal) ← store.navigation scan accountId
  let starredTotal ← store.starredTotal accountId
  let count ← readI32 0 (store.entries.select (selectionClause accountId selection)).length
  let total ← match ← store.selectionTotal accountId selection with
    | some remoteTotal => do
      let delta ← store.selectionPendingDelta accountId selection
      pure (max count (max 0 (toI32 (remoteTotal + delta))))
    | none => pure count
  return {
    version := 1
    selection
    entries := store.snapshotEntries scan accountId selection newestFirst retainIds
    categories
    total
    unreadTotal
    starredTotal }

end Store

end FluxBar
