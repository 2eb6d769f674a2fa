import FluxBar.Store
import FluxBar.Library.Json

/-! The wire format of the core: the payloads it answers with, as `serde` writes
them, and the selection it reads from a request. -/
namespace FluxBar.Transport
open JsonFormat

/-! ## `transport::response` -/

/-- `SelectionDto`: a selection as the client reads it. -/
structure SelectionDto where
  kind : String
  id : Int
  unreadOnly : Bool
  deriving DecidableEq, Repr

def SelectionDto.encode (selection : SelectionDto) : Json := objectOf [
  member "kind" (.string selection.kind),
  memberUnless (selection.id = 0) "id" (.int selection.id),
  memberUnless (!selection.unreadOnly) "unreadOnly" (.bool selection.unreadOnly)]

/-- `EntryDto`: an article as the client reads it, the status as a text. -/
structure EntryDto where
  id : Int
  title : String
  url : String
  commentsUrl : String
  feedId : Int
  feedName : String
  categoryId : Int
  publishedAt : String
  preview : String
  imageUrl : String
  status : String
  starred : Bool
  deriving DecidableEq, Repr

def EntryDto.encode (entry : EntryDto) : Json := objectOf [
  member "id" (.int entry.id),
  member "title" (.string entry.title),
  member "url" (.string entry.url),
  -- without a `rename` the field keeps its Rust name
  memberUnless entry.commentsUrl.isEmpty "comments_url" (.string entry.commentsUrl),
  member "feedID" (.int entry.feedId),
  member "feedName" (.string entry.feedName),
  memberUnless (entry.categoryId = 0) "categoryID" (.int entry.categoryId),
  member "publishedAt" (.string entry.publishedAt),
  member "preview" (.string entry.preview),
  memberUnless entry.imageUrl.isEmpty "imageURL" (.string entry.imageUrl),
  member "status" (.string entry.status),
  member "starred" (.bool entry.starred)]

/-- `FeedDto`. -/
structure FeedDto where
  id : Int
  title : String
  categoryId : Int
  unreadCount : Int
  deriving DecidableEq, Repr

def FeedDto.encode (feed : FeedDto) : Json := objectOf [
  member "id" (.int feed.id),
  member "title" (.string feed.title),
  member "categoryID" (.int feed.categoryId),
  member "unreadCount" (.int feed.unreadCount)]

/-- `CategoryDto`: a category and its feeds, as the client reads them. -/
structure CategoryDto where
  id : Int
  title : String
  unreadCount : Int
  feeds : List FeedDto
  deriving DecidableEq, Repr

def CategoryDto.encode (category : CategoryDto) : Json := objectOf [
  member "id" (.int category.id),
  member "title" (.string category.title),
  member "unreadCount" (.int category.unreadCount),
  member "feeds" (.array (category.feeds.map FeedDto.encode))]

/-- `BrowseSnapshot`: what the client shows. Categories that are none are left out of the
body, and so are optional here. -/
structure BrowseSnapshot where
  version : Int
  selection : SelectionDto
  entries : List EntryDto
  categories : Option (List CategoryDto)
  total : Int
  unreadTotal : Int
  starredTotal : Int
  deriving DecidableEq, Repr

def BrowseSnapshot.encode (snapshot : BrowseSnapshot) : Json := objectOf [
  member "version" (.int snapshot.version),
  member "selection" snapshot.selection.encode,
  member "entries" (.array (snapshot.entries.map EntryDto.encode)),
  member "categories" (match snapshot.categories with
    | some categories => .array (categories.map CategoryDto.encode)
    | none => .null),
  member "total" (.int snapshot.total),
  member "unreadTotal" (.int snapshot.unreadTotal),
  member "starredTotal" (.int snapshot.starredTotal)]

/-- `Receipt`. -/
structure Receipt where
  id : String
  count : Int
  deriving DecidableEq, Repr

def Receipt.encode (receipt : Receipt) : Json := objectOf [
  member "id" (.string receipt.id),
  member "count" (.int receipt.count)]

/-- `Response`, icons and probe data aside; its defaults are those of `Default`, and a
default is left out of the body. -/
structure Response where
  ok : Bool := false
  error : String := ""
  text : String := ""
  snapshot : Option BrowseSnapshot := none
  receipt : Option Receipt := none
  deriving DecidableEq, Repr

def Response.encode (response : Response) : Json := objectOf [
  member "ok" (.bool response.ok),
  memberUnless response.error.isEmpty "error" (.string response.error),
  memberUnless response.text.isEmpty "text" (.string response.text),
  memberIfSome "snapshot" BrowseSnapshot.encode response.snapshot,
  memberIfSome "receipt" Receipt.encode response.receipt]

/-! ## `snapshot` -/

/-- `selection_dto`: the kind by name, with the id that `all` echoes or the scope has, and
zero for the rest. -/
def selectionDto : Selection → SelectionDto
  | .all id unreadOnly => ⟨"all", id, unreadOnly⟩
  | .unread unreadOnly => ⟨"unread", 0, unreadOnly⟩
  | .starred unreadOnly => ⟨"starred", 0, unreadOnly⟩
  | .category id unreadOnly => ⟨"category", id, unreadOnly⟩
  | .feed id unreadOnly => ⟨"feed", id, unreadOnly⟩

/-- `entry_dto`. -/
def entryDto (entry : Entry) : EntryDto where
  id := entry.id
  title := entry.title
  url := entry.url
  commentsUrl := entry.commentsUrl
  feedId := entry.feedId
  feedName := entry.feedName
  categoryId := entry.categoryId
  publishedAt := entry.publishedAtRfc3339
  preview := entry.preview
  imageUrl := entry.imageUrl
  status := entry.status.asStr
  starred := entry.starred

/-- `feed_dto`. -/
def feedDto (feed : Feed) : FeedDto where
  id := feed.id
  title := feed.title
  categoryId := feed.categoryId
  unreadCount := feed.unreadCount

/-- `category_dto`. -/
def categoryDto (category : Category) : CategoryDto where
  id := category.id
  title := category.title
  unreadCount := category.unreadCount
  feeds := category.feeds.map feedDto

/-- `assemble`: the snapshot of the store as the client is sent it. A navigation without
categories is sent as none. -/
def assemble (data : SnapshotData) : BrowseSnapshot where
  version := data.version
  selection := selectionDto data.selection
  entries := data.entries.map entryDto
  categories := if data.categories.isEmpty then none else some (data.categories.map categoryDto)
  total := data.total
  unreadTotal := data.unreadTotal
  starredTotal := data.starredTotal

/-- `snapshot_response`. A partial refresh adds its error and `set_read` a receipt. -/
def snapshotResponse (data : SnapshotData) : Response where
  ok := true
  snapshot := some (assemble data)

/-- `Response::error`. -/
def errorResponse (message : String) : Response where
  error := message

/-- `invalid_request`: the answer to a body that is no request. -/
def invalidRequest (reason : String) : Response := errorResponse s!"invalid request: {reason}"

/-! ## `transport::request` -/

/-- `request::Selection`: a selection as a client sent it, not yet checked; its defaults are
those of `Default`. -/
structure WireSelection where
  kind : String := ""
  id : Int := 0
  unreadOnly : Bool := false
  deriving DecidableEq, Repr

/-- `eq_ignore_ascii_case`: names that differ only in the case of ASCII letters. -/
def eqIgnoreAsciiCase (left right : String) : Bool :=
  left.toList.map Char.toLower = right.toList.map Char.toLower

/-- One turn of `SelectionVisitor::visit_map`: a known member replaces the value read so
far, by its default where it is null, and an unknown one is passed over. -/
def visitMember (selection : WireSelection) (entry : String × Json) : Option WireSelection :=
  if eqIgnoreAsciiCase entry.1 "kind" then
    (nullable asString entry.2).map fun kind => { selection with kind := kind.getD "" }
  else if eqIgnoreAsciiCase entry.1 "id" then
    (nullable asI64 entry.2).map fun id => { selection with id := id.getD 0 }
  else if eqIgnoreAsciiCase entry.1 "unreadOnly" then
    (nullable asBool entry.2).map fun unreadOnly =>
      { selection with unreadOnly := unreadOnly.getD false }
  else some selection

/-- `Selection::deserialize`: an object, its members read in turn, so that the last of one
name counts. -/
def WireSelection.decode : Json → Option WireSelection
  | .object members => members.foldlM visitMember {}
  | _ => none

/-- The selection as `RequestMapVisitor` rewrites it, under the names that `Request` reads.
-/
def WireSelection.canonical (selection : WireSelection) : Json := .object [
  ("kind", .string selection.kind),
  ("id", .int selection.id),
  ("unreadOnly", .bool selection.unreadOnly)]

/-- The `selection` member of `parse_request`: read and rewritten member by member,
then read again as part of the request. -/
def parseSelection (value : Json) : Option WireSelection := do
  let rewritten ← nullable WireSelection.decode value
  match rewritten with
  | some selection => WireSelection.decode selection.canonical
  | none => return {}

/-- `to_domain`. -/
def WireSelection.toDomain (selection : WireSelection) : Selection :=
  .normalize selection.kind selection.id selection.unreadOnly

/-- `REQUEST_FIELDS`. The last eleven are no fields of a request but in a probe build. -/
def requestFields : List String := [
  "operation", "server", "apiKey", "newestFirst", "configurationGeneration", "locales", "key",
  "fallback", "oneFallback", "otherFallback", "count", "selection", "entryID", "entryIDs",
  "retainEntryIDs", "read", "mutationSource", "mutationID", "currentStarred", "desiredStarred",
  "feedID", "feedName", "probeAction", "probePayload", "probeSize", "probeAllowedRoot",
  "probeDbFilename", "probeKey", "probeValue", "probeUrl", "probeTimeoutMs", "probeIterations",
  "probeConfirmPanic"]

/-- The name a member is read under: that of the field it names in whatever case, or its
own. -/
def canonicalKey (key : String) : String :=
  (requestFields.find? fun field => eqIgnoreAsciiCase field key).getD key

/-- The value a member is read with; a selection is decoded and written anew, and anything
else is kept. -/
def canonicalValue (canonical : String) (value : Json) : Option Json :=
  if canonical = "selection" then
    (nullable WireSelection.decode value).map fun selection =>
      selection.elim .null WireSelection.canonical
  else some value

/-- One turn of `RequestMapVisitor::visit_map`; a later member replaces an earlier one of
the same field, also where it is null. -/
def insertMember (object : List (String × Json)) (entry : String × Json) :
    Option (List (String × Json)) :=
  let canonical := canonicalKey entry.1
  (canonicalValue canonical entry.2).map fun value =>
    (canonical, value) :: object.filter fun other => other.1 ≠ canonical

/-- `Request`: every field of every operation, with the defaults of `Default`. -/
structure Request where
  operation : String := ""
  server : String := ""
  apiKey : String := ""
  newestFirst : Bool := false
  configurationGeneration : Int := 0
  locales : List String := []
  key : String := ""
  fallback : String := ""
  oneFallback : String := ""
  otherFallback : String := ""
  count : Int := 0
  selection : WireSelection := {}
  entryId : Int := 0
  entryIds : List Int := []
  retainEntryIds : List Int := []
  read : Bool := false
  mutationSource : String := ""
  mutationId : String := ""
  currentStarred : Bool := false
  desiredStarred : Bool := false
  feedId : Int := 0
  feedName : String := ""
  deriving DecidableEq, Repr

/-- A member under `deserialize_null_default`: what is missing or null is the default, and
what is of another type fails. -/
def decodeDefault {α : Type} (decode : Json → Option α) (default : α) (json : Json) (key : String) :
    Option α :=
  (decodeIfPresent decode json key).map (·.getD default)

/-- A member under `deserialize_null_default_vec`: a list whose nulls are defaults, and the
empty list where it is missing or null. -/
def decodeDefaultVec {α : Type} (decode : Json → Option α) (default : α) (json : Json)
    (key : String) : Option (List α) :=
  (decodeDefault (asArray (nullable decode)) [] json key).map (·.map (·.getD default))

/-- `Request::deserialize`: the fields one by one, integers in 64 bits; one that does not
decode refuses the request. -/
def Request.decode (json : Json) : Option Request := do
  let operation ← decodeDefault asString "" json "operation"
  let server ← decodeDefault asString "" json "server"
  let apiKey ← decodeDefault asString "" json "apiKey"
  let newestFirst ← decodeDefault asBool false json "newestFirst"
  let configurationGeneration ← decodeDefault asI64 0 json "configurationGeneration"
  let locales ← decodeDefaultVec asString "" json "locales"
  let key ← decodeDefault asString "" json "key"
  let fallback ← decodeDefault asString "" json "fallback"
  let oneFallback ← decodeDefault asString "" json "oneFallback"
  let otherFallback ← decodeDefault asString "" json "otherFallback"
  let count ← decodeDefault asI64 0 json "count"
  let selection ← decodeDefault WireSelection.decode {} json "selection"
  let entryId ← decodeDefault asI64 0 json "entryID"
  let entryIds ← decodeDefaultVec asI64 0 json "entryIDs"
  let retainEntryIds ← decodeDefaultVec asI64 0 json "retainEntryIDs"
  let read ← decodeDefault asBool false json "read"
  let mutationSource ← decodeDefault asString "" json "mutationSource"
  let mutationId ← decodeDefault asString "" json "mutationID"
  let currentStarred ← decodeDefault asBool false json "currentStarred"
  let desiredStarred ← decodeDefault asBool false json "desiredStarred"
  let feedId ← decodeDefault asI64 0 json "feedID"
  let feedName ← decodeDefault asString "" json "feedName"
  return { operation, server, apiKey, newestFirst, configurationGeneration, locales, key, fallback,
           oneFallback, otherFallback, count, selection, entryId, entryIds, retainEntryIds, read,
           mutationSource, mutationId, currentStarred, desiredStarred, feedId, feedName }

/-- `parse_request`: an object whose members are put under the names of the fields first. -/
def parseRequest : Json → Option Request
  | .object members => do
    let object ← members.foldlM insertMember []
    Request.decode (.object object)
  | _ => none

/-- `Operation`: the operations on articles. -/
inductive Operation where
  | localSnapshot (selection : WireSelection) (retainEntryIds : List Int)
  | refresh (selection : WireSelection) (retainEntryIds : List Int)
  | setRead (selection : WireSelection) (entryId : Int) (entryIds retainEntryIds : List Int)
      (read : Bool) (mutationSource : String)
  | setStarred (selection : WireSelection) (entryId : Int) (retainEntryIds : List Int)
      (desiredStarred : Bool)
  | undoRead (selection : WireSelection) (mutationId : String) (retainEntryIds : List Int)
  | discardUndo (mutationId : String)
  | flushPending (selection : WireSelection) (retainEntryIds : List Int)
  deriving DecidableEq, Repr

/-- `into_operation`, among these operations: each takes the fields it needs, and a name
that is not known is an error. -/
def Request.intoOperation (request : Request) : Except String Operation :=
  match request.operation with
  | "local_snapshot" => .ok (.localSnapshot request.selection request.retainEntryIds)
  | "refresh" => .ok (.refresh request.selection request.retainEntryIds)
  | "set_read" => .ok (.setRead request.selection request.entryId request.entryIds
      request.retainEntryIds request.read request.mutationSource)
  | "set_starred" => .ok (.setStarred request.selection request.entryId request.retainEntryIds
      request.desiredStarred)
  | "undo_read" => .ok (.undoRead request.selection request.mutationId request.retainEntryIds)
  | "discard_undo" => .ok (.discardUndo request.mutationId)
  | "flush_pending" => .ok (.flushPending request.selection request.retainEntryIds)
  | other => .error s!"unsupported operation \"{other}\""

end FluxBar.Transport
