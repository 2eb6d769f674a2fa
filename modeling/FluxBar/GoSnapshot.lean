import FluxBar.Snapshot

/-! `Store.Snapshot` of the Go core, over the same tables: its selections, the
clauses it builds from them, and the figures it shows. Its integers are 64 bits
wide, and it tells selections apart by kind, id and flag. The entries it lists
are left out. -/
namespace FluxBar.Inbox
open Relational

/-- `model.Selection`: one record for every kind, the kind as a text. -/
structure Selection where
  kind : String
  id : Int
  unreadOnly : Bool
  deriving DecidableEq, Repr

/-- `Selection.Normalized`: an id is kept for `all` and for scopes, and a kind that is not
known becomes the unread articles. -/
def Selection.normalized (selection : Selection) : Selection :=
  if selection.kind = "all" then selection
  else if selection.kind = "unread" ∨ selection.kind = "starred" then
    { kind := selection.kind, id := 0, unreadOnly := selection.unreadOnly }
  else if (selection.kind = "category" ∨ selection.kind = "feed") ∧ 0 < selection.id then selection
  else { kind := "all", id := 0, unreadOnly := true }

/-- Whether a selection is restricted to unread entries. -/
def Selection.restrictsToUnread (selection : Selection) : Bool :=
  selection.unreadOnly || selection.kind = "unread"

/-- The `category_id=?` and `feed_id=?` conditions. -/
def inScope (selection : Selection) (row : EntryRow) : Bool :=
  (selection.kind != "category" || row.categoryId = selection.id) &&
    (selection.kind != "feed" || row.feedId = selection.id)

/-- `selectionClause`: the `WHERE` of a selection, one condition after the other. -/
def selectionClause (selection : Selection) (accountId : String) (row : EntryRow) : Bool :=
  row.accountId = accountId && (!selection.restrictsToUnread || row.status = "unread") &&
    (selection.kind != "starred" || row.starred) && inScope selection row

section Store
variable (store : Store) (accountId : String)

/-- `selectionPendingDelta`: a restricted selection counts reads, be it starred or not;
another starred one counts stars. -/
def selectionPendingDelta (selection : Selection) : Int :=
  if selection.restrictsToUnread then
    (((store.pendingEntries accountId .read).filter (inScope selection)).map EntryRow.readDelta).sum
  else if selection.kind = "starred" then
    (((store.pendingEntries accountId .starred).filter (inScope selection)).map
      EntryRow.starredDelta).sum
  else 0

/-- The pending change of a feed's count. -/
def feedDelta (feedId : Int) : Int :=
  (((store.pendingEntries accountId .read).filter (·.feedId = feedId)).map EntryRow.readDelta).sum

/-- One feed of `navigation`, its count corrected in 64 bits and never below zero. -/
def navigationFeed (row : FeedRow) : Feed where
  id := row.id
  title := row.title
  categoryId := row.categoryId
  unreadCount := max 0 (row.remoteUnreadCount + feedDelta store accountId row.id)

/-- One turn of the category loop of `navigation`. -/
def navigationCategory (scan : Scan) (progress : List Category × Int) (row : CategoryRow) :
    List Category × Int :=
  let feeds := (orderByTitle FeedRow.title (scan.order (store.feeds.select fun feed =>
    feed.accountId = accountId && feed.categoryId = row.id))).map (navigationFeed store accountId)
  (progress.1 ++ [{
    id := row.id
    title := row.title
    unreadCount := (feeds.map Feed.unreadCount).sum
    feeds }], progress.2 + (feeds.map Feed.unreadCount).sum)

/-- `navigation`: categories and feeds in the order of their titles, and the number of all
unread articles. -/
def navigation (scan : Scan) : List Category × Int :=
  (orderByTitle CategoryRow.title (scan.order (store.categories.select fun row =>
    row.accountId = accountId))).foldl (navigationCategory store accountId scan) ([], 0)

/-- `starredTotal`: the server's number, corrected by the pending stars; an account that is
not stored has none. -/
def starredTotal : Except StoreError Int :=
  match store.accounts.find? accountId with
  | none => .error .queryReturnedNoRows
  | some account =>
    .ok (max 0 (account.remoteStarredTotal +
      ((store.pendingEntries accountId .starred).map EntryRow.starredDelta).sum))

/-- `model.BrowseSnapshot`, without its entries, which `Listing` adds. -/
structure BrowseSnapshot where
  version : Int
  selection : Selection
  categories : List Category
  total : Int
  unreadTotal : Int
  starredTotal : Int

/-- `Store.Snapshot`, its figures: as in the other core, but for the sizes of the numbers
and the change that corrects a total. -/
def snapshot (scan : Scan) (selection : Selection) : Except StoreError BrowseSnapshot := do
  let selection := selection.normalized
  let (categories, unreadTotal) := navigation store accountId scan
  let starredTotal ← starredTotal store accountId
  let count : Int := (store.entries.select (selectionClause selection accountId)).length
  let total := match store.selectionTotals.find?
      (accountId, selection.kind, selection.id, selection.unreadOnly) with
    | some row => max count (max 0 (row.total + selectionPendingDelta store accountId selection))
    | none => count
  return { version := 1, selection, categories, total, unreadTotal, starredTotal }

end Store

end FluxBar.Inbox
