import FluxBar.GoService
import FluxBar.Transport

/-! The core API of the Go core, in a session: a request on articles is handed to the
service, and what it returns is answered as `encoding/json` writes it. -/
namespace FluxBar.CoreAPI
open JsonFormat

/-! ## Payloads -/

/-- `model.Selection`. -/
def encodeSelection (selection : Inbox.Selection) : Json := objectOf [
  member "kind" (.string selection.kind),
  memberUnless (selection.id = 0) "id" (.int selection.id),
  memberUnless (!selection.unreadOnly) "unreadOnly" (.bool selection.unreadOnly)]

/-- `model.Feed`. -/
def encodeFeed (feed : Feed) : Json := objectOf [
  member "id" (.int feed.id),
  member "title" (.string feed.title),
  member "categoryID" (.int feed.categoryId),
  member "unreadCount" (.int feed.unreadCount)]

/-- `model.Category`; its feeds are never nil. -/
def encodeCategory (category : Category) : Json := objectOf [
  member "id" (.int category.id),
  member "title" (.string category.title),
  member "unreadCount" (.int category.unreadCount),
  member "feeds" (.array (category.feeds.map encodeFeed))]

/-- `inbox.MutationReceipt`. -/
def encodeReceipt (receipt : MutationReceipt) : Json := objectOf [
  member "id" (.string receipt.id),
  member "count" (.int receipt.count)]

section Payloads
variable {τ : Type} (moments : Inbox.Moments τ)

/-- `model.Entry`, whose icons are not set. -/
def encodeEntry (entry : Inbox.Entry τ) : Json := objectOf [
  member "id" (.int entry.id),
  member "title" (.string entry.title),
  member "url" (.string entry.url),
  memberUnless entry.commentsURL.isEmpty "commentsURL" (.string entry.commentsURL),
  member "feedID" (.int entry.feedID),
  member "feedName" (.string entry.feedName),
  memberUnless (entry.categoryID = 0) "categoryID" (.int entry.categoryID),
  member "publishedAt" (.string (moments.format entry.publishedAt)),
  member "preview" (.string entry.preview),
  memberUnless entry.imageURL.isEmpty "imageURL" (.string entry.imageURL),
  member "status" (.string entry.status),
  member "starred" (.bool entry.starred)]

/-- `model.BrowseSnapshot`. Categories that none was appended to are nil, and written so. -/
def encodeSnapshot (snapshot : Inbox.Listing τ) : Json := objectOf [
  member "version" (.int snapshot.version),
  member "selection" (encodeSelection snapshot.selection),
  member "entries" (.array (snapshot.entries.map (encodeEntry moments))),
  member "categories" (if snapshot.categories.isEmpty then .null
    else .array (snapshot.categories.map encodeCategory)),
  member "total" (.int snapshot.total),
  member "unreadTotal" (.int snapshot.unreadTotal),
  member "starredTotal" (.int snapshot.starredTotal)]

/-- `Response`, its icon aside. -/
structure Response (τ : Type) where
  ok : Bool := false
  error : String := ""
  text : String := ""
  snapshot : Option (Inbox.Listing τ) := none
  receipt : Option MutationReceipt := none

def Response.encode (response : Response τ) : Json := objectOf [
  member "ok" (.bool response.ok),
  memberUnless response.error.isEmpty "error" (.string response.error),
  memberUnless response.text.isEmpty "text" (.string response.text),
  memberIfSome "snapshot" (encodeSnapshot moments) response.snapshot,
  memberIfSome "receipt" encodeReceipt response.receipt]

end Payloads

/-! ## `Runtime.handle` -/

/-- The texts of what is not this repository's: an error of the SQLite driver, and a
string under `%q`. -/
structure Texts where
  driver : StoreError → String
  quoted : String → String

section Handle
variable {σ τ α : Type} (texts : Texts) (engine : Inbox.Service σ τ)

/-- The `Error` of a call. -/
def Texts.error (texts : Texts) : Inbox.Failure → Option String
  | .remote (.error message) => some message
  | .remote .panicked => none
  | .store failure => some (texts.driver failure)

/-- A call of the engine, answered. A panic ends the process, and answers nothing. -/
def respond (call : Inbox.ServiceM σ α) (answer : α → Response τ) :
    StateM (Inbox.World σ) (Option (Response τ)) := fun world =>
  match call world with
  | (.ok value, world) => (some (answer value), world)
  | (.error failure, world) => ((texts.error failure).map fun error => { error }, world)

/-- A snapshot that was returned without an error. -/
def shown (snapshot : Inbox.Listing τ) : Response τ where
  ok := true
  snapshot := some snapshot

/-- `Runtime.localSnapshot`. -/
def localSnapshot (selection : Inbox.Selection) (retainIDs : List Int) :
    StateM (Inbox.World σ) (Option (Response τ)) :=
  respond texts (engine.localSnapshot selection retainIDs) shown

/-- The `"refresh"` case; an error comes with the snapshot that it was returned with. -/
def refresh (selection : Inbox.Selection) (retainIDs : List Int) :
    StateM (Inbox.World σ) (Option (Response τ)) :=
  respond texts (engine.sync selection retainIDs) fun (snapshot, failure) =>
    match failure with
    | none => shown snapshot
    | some failure =>
      let error := ((texts.error (.remote failure)).getD "")
      if 0 < snapshot.version then { shown snapshot with error } else { error }

/-- The `"set_read"` case. -/
def setRead (request : Transport.Request) (selection : Inbox.Selection) :
    StateM (Inbox.World σ) (Option (Response τ)) :=
  let ids := if request.entryIds.length = 0 && 0 < request.entryId then [request.entryId]
    else request.entryIds
  if ids.length = 0 then pure (some { error := "missing entry IDs" })
  else respond texts (engine.markRead selection ids request.retainEntryIds request.read
    (request.mutationSource = "automatic")) fun (snapshot, receipt) => { shown snapshot with receipt }

/-- The `"flush_pending"` case. -/
def flushPending (selection : Inbox.Selection) (retainIDs : List Int) :
    StateM (Inbox.World σ) (Option (Response τ)) :=
  respond texts (do
    engine.flush
    engine.localSnapshot selection retainIDs) shown

/-- `Runtime.handle`, among the operations on articles. -/
def handle (request : Transport.Request) : StateM (Inbox.World σ) (Option (Response τ)) :=
  let selection : Inbox.Selection :=
    ⟨request.selection.kind, request.selection.id, request.selection.unreadOnly⟩
  match request.operation with
  | "local_snapshot" => localSnapshot texts engine selection request.retainEntryIds
  | "refresh" => refresh texts engine selection request.retainEntryIds
  | "set_read" => setRead texts engine request selection
  | "set_starred" => respond texts (engine.setStarred selection request.entryId
      request.desiredStarred request.retainEntryIds) shown
  | "undo_read" => respond texts (engine.undo selection request.mutationId request.retainEntryIds)
      shown
  | "discard_undo" => respond texts (engine.discardUndo request.mutationId) fun _ => { ok := true }
  | "flush_pending" => flushPending texts engine selection request.retainEntryIds
  | other => pure (some { error := s!"unsupported operation {texts.quoted other}" })

end Handle

end FluxBar.CoreAPI
