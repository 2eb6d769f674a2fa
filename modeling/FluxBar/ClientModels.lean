import FluxBar.Library.Json

/-! The models of the macOS client, with the decoders and encoders Swift derives
for them: a property that is not optional needs its key with a value, an optional
one takes a missing or null value for `nil`, and `nil` is not written. -/
namespace FluxBar.Client
open JsonFormat

/-- `ArticleSelection`: a list as the client asks for it; what is not set is left out of the
request. -/
structure ArticleSelection where
  kind : String
  id : Option Int
  unreadOnly : Option Bool
  deriving DecidableEq, Repr

namespace ArticleSelection

def decode (json : Json) : Option ArticleSelection := do
  let kind ← decodeMember asString json "kind"
  let id ← decodeIfPresent asInt json "id"
  let unreadOnly ← decodeIfPresent asBool json "unreadOnly"
  return { kind, id, unreadOnly }

def encode (selection : ArticleSelection) : Json := objectOf [
  member "kind" (.string selection.kind),
  memberIfSome "id" .int selection.id,
  memberIfSome "unreadOnly" .bool selection.unreadOnly]

/-- `matchesRoute`: the same list, whatever the filter. -/
def matchesRoute (selection other : ArticleSelection) : Bool :=
  selection.kind = other.kind && selection.id = other.id

/-- `BrowserStore.supportsUnreadFilter`. -/
def supportsUnreadFilter (selection : ArticleSelection) : Bool :=
  selection.kind = "all" || selection.kind = "category" || selection.kind = "feed"

/-- `BrowserStore.showsUnreadOnly`: a selection that names no filter is shown as filtered.
-/
def showsUnreadOnly (selection : ArticleSelection) : Bool := selection.unreadOnly.getD true

end ArticleSelection

/-- `Article`: a row of the list, as it is decoded of a response. -/
structure Article where
  id : Int
  title : String
  url : String
  commentsURL : Option String
  feedID : Int
  feedName : String
  categoryID : Option Int
  publishedAt : String
  preview : String
  imageURL : Option String
  status : String
  starred : Bool
  deriving DecidableEq, Repr

def Article.decode (json : Json) : Option Article := do
  let id ← decodeMember asInt json "id"
  let title ← decodeMember asString json "title"
  let url ← decodeMember asString json "url"
  let commentsURL ← decodeIfPresent asString json "commentsURL"
  let feedID ← decodeMember asInt json "feedID"
  let feedName ← decodeMember asString json "feedName"
  let categoryID ← decodeIfPresent asInt json "categoryID"
  let publishedAt ← decodeMember asString json "publishedAt"
  let preview ← decodeMember asString json "preview"
  let imageURL ← decodeIfPresent asString json "imageURL"
  let status ← decodeMember asString json "status"
  let starred ← decodeMember asBool json "starred"
  return { id, title, url, commentsURL, feedID, feedName, categoryID, publishedAt, preview, imageURL,
           status, starred }

/-- `Feed`. -/
structure Feed where
  id : Int
  title : String
  categoryID : Int
  unreadCount : Int
  deriving DecidableEq, Repr

def Feed.decode (json : Json) : Option Feed := do
  let id ← decodeMember asInt json "id"
  let title ← decodeMember asString json "title"
  let categoryID ← decodeMember asInt json "categoryID"
  let unreadCount ← decodeMember asInt json "unreadCount"
  return { id, title, categoryID, unreadCount }

/-- `FeedCategory`. -/
structure FeedCategory where
  id : Int
  title : String
  unreadCount : Int
  feeds : List Feed
  deriving DecidableEq, Repr

def FeedCategory.decode (json : Json) : Option FeedCategory := do
  let id ← decodeMember asInt json "id"
  let title ← decodeMember asString json "title"
  let unreadCount ← decodeMember asInt json "unreadCount"
  let feeds ← decodeMember (asArray Feed.decode) json "feeds"
  return { id, title, unreadCount, feeds }

/-- `BrowseSnapshot`: what the popover shows, as it is decoded of a response. -/
structure BrowseSnapshot where
  version : Int
  selection : ArticleSelection
  entries : List Article
  categories : List FeedCategory
  total : Int
  unreadTotal : Int
  starredTotal : Int
  deriving DecidableEq, Repr

def BrowseSnapshot.decode (json : Json) : Option BrowseSnapshot := do
  let version ← decodeMember asInt json "version"
  let selection ← decodeMember ArticleSelection.decode json "selection"
  let entries ← decodeMember (asArray Article.decode) json "entries"
  let categories ← decodeMember (asArray FeedCategory.decode) json "categories"
  let total ← decodeMember asInt json "total"
  let unreadTotal ← decodeMember asInt json "unreadTotal"
  let starredTotal ← decodeMember asInt json "starredTotal"
  return { version, selection, entries, categories, total, unreadTotal, starredTotal }

/-- `MutationReceipt`. -/
structure MutationReceipt where
  id : String
  count : Int
  deriving DecidableEq, Repr

def MutationReceipt.decode (json : Json) : Option MutationReceipt := do
  let id ← decodeMember asString json "id"
  let count ← decodeMember asInt json "count"
  return { id, count }

/-- `CoreResponse`, its icon aside; what a response leaves out is decoded as none. -/
structure CoreResponse where
  ok : Bool
  error : Option String
  text : Option String
  snapshot : Option BrowseSnapshot
  receipt : Option MutationReceipt
  deriving DecidableEq, Repr

def CoreResponse.decode (json : Json) : Option CoreResponse := do
  let ok ← decodeMember asBool json "ok"
  let error ← decodeIfPresent asString json "error"
  let text ← decodeIfPresent asString json "text"
  let snapshot ← decodeIfPresent BrowseSnapshot.decode json "snapshot"
  let receipt ← decodeIfPresent MutationReceipt.decode json "receipt"
  return { ok, error, text, snapshot, receipt }

/-- `CoreRequest`: the properties the requests on articles set, of which those not set are
left out of the body. -/
structure CoreRequest where
  operation : String
  selection : Option ArticleSelection := none
  entryID : Option Int := none
  entryIDs : Option (List Int) := none
  retainEntryIDs : Option (List Int) := none
  read : Option Bool := none
  mutationSource : Option String := none
  mutationID : Option String := none
  desiredStarred : Option Bool := none
  deriving DecidableEq, Repr

def CoreRequest.encode (request : CoreRequest) : Json := objectOf [
  member "operation" (.string request.operation),
  memberIfSome "selection" ArticleSelection.encode request.selection,
  memberIfSome "entryID" .int request.entryID,
  memberIfSome "entryIDs" (fun ids => .array (ids.map .int)) request.entryIDs,
  memberIfSome "retainEntryIDs" (fun ids => .array (ids.map .int)) request.retainEntryIDs,
  memberIfSome "read" .bool request.read,
  memberIfSome "mutationSource" .string request.mutationSource,
  memberIfSome "mutationID" .string request.mutationID,
  memberIfSome "desiredStarred" .bool request.desiredStarred]

/-- `GoCoreError`, among those a response can end in: it does not decode, or the core
refused. -/
inductive GoCoreError where
  | invalidResponse (error : String)
  | core (message : String)
  deriving DecidableEq, Repr

/-- `errorDescription`. -/
def GoCoreError.errorDescription : GoCoreError → String
  | .invalidResponse error => error
  | .core message => message

/-- The end of `GoCore.request`; `error` is what `Foundation` says of a response that
does not decode. -/
def GoCore.received (error : String) (json : Json) : Except GoCoreError CoreResponse :=
  match CoreResponse.decode json with
  | none => .error (.invalidResponse error)
  | some response =>
    if response.ok then .ok response
    else .error (.core (response.error.getD "Unknown Go core error"))

end FluxBar.Client
