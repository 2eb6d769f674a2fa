import FluxBar.Sync
import FluxBar.Transport
import FluxBar.ClientModels

/-! The core as its client calls it: a request is parsed, dispatched to the sync
service of the session, and answered. -/
namespace FluxBar
open JsonFormat Transport

namespace AppRuntime
variable {σ α : Type}

/-- A result of the service as a response; an error is answered with its message. -/
def respond (operation : SyncM σ α) (answer : α → Response) : StateM (World σ) Response :=
  fun world =>
    match operation world with
    | (.ok value, world) => (answer value, world)
    | (.error failure, world) => (errorResponse failure, world)

variable (engine : SyncService σ)

/-- `local_snapshot`: what the store holds of a selection. -/
def localSnapshot (selection : WireSelection) (retainEntryIds : List Int) :
    StateM (World σ) Response :=
  respond (engine.localSnapshotUntil selection.toDomain retainEntryIds) snapshotResponse

/-- `refresh`: a response with a snapshot also where the server was not reached, and then
with the error beside it. -/
def refresh (selection : WireSelection) (retainEntryIds : List Int) : StateM (World σ) Response :=
  respond (engine.sync selection.toDomain retainEntryIds) fun
    | .success data => snapshotResponse data
    | .partialResult data error => { snapshotResponse data with error }

/-- `set_read`: the ids of a list, or else the one id; without any the request is refused.
The receipt of an undoable change goes along. -/
def setRead (selection : WireSelection) (entryId : Int) (entryIds retainEntryIds : List Int)
    (read automatic : Bool) : StateM (World σ) Response :=
  let ids := if entryIds.isEmpty && 0 < entryId then [entryId] else entryIds
  if ids.isEmpty then pure (errorResponse "missing entry IDs")
  else respond (engine.markRead selection.toDomain ids retainEntryIds read automatic)
    fun (data, receipt) =>
      { snapshotResponse data with receipt := receipt.map fun receipt => ⟨receipt.id, receipt.count⟩ }

/-- `set_starred`: the star of one article, and the list afterwards. -/
def setStarred (selection : WireSelection) (entryId : Int) (retainEntryIds : List Int)
    (starred : Bool) : StateM (World σ) Response :=
  respond (engine.setStarred selection.toDomain entryId starred retainEntryIds) snapshotResponse

/-- `undo_read`: the batch of a receipt turned back, and the list afterwards. -/
def undoRead (selection : WireSelection) (mutationId : String) (retainEntryIds : List Int) :
    StateM (World σ) Response :=
  respond (engine.undo selection.toDomain mutationId retainEntryIds) snapshotResponse

/-- `discard_undo`: the receipt is given up, and nothing is shown. -/
def discardUndo (mutationId : String) : StateM (World σ) Response :=
  respond (engine.discardUndo mutationId) fun _ => { ok := true }

/-- `flush_pending`: the pending changes delivered, and the list afterwards. -/
def flushPending (selection : WireSelection) (retainEntryIds : List Int) :
    StateM (World σ) Response :=
  respond (engine.flushAndSnapshot selection.toDomain retainEntryIds) snapshotResponse

/-- `dispatch`, in a session: the operation by the engine of the account. A change is
automatic where its source says so. -/
def dispatch : Transport.Operation → StateM (World σ) Response
  | .localSnapshot selection retainEntryIds => localSnapshot engine selection retainEntryIds
  | .refresh selection retainEntryIds => refresh engine selection retainEntryIds
  | .setRead selection entryId entryIds retainEntryIds read mutationSource =>
    setRead engine selection entryId entryIds retainEntryIds read (mutationSource = "automatic")
  | .setStarred selection entryId retainEntryIds desiredStarred =>
    setStarred engine selection entryId retainEntryIds desiredStarred
  | .undoRead selection mutationId retainEntryIds => undoRead engine selection mutationId retainEntryIds
  | .discardUndo mutationId => discardUndo engine mutationId
  | .flushPending selection retainEntryIds => flushPending engine selection retainEntryIds

end AppRuntime

/-- What the JSON libraries of the two sides report: `serde` of a malformed request,
`Foundation` of a response that does not decode. -/
structure JsonErrors where
  malformed : String
  undecodable : String

section Requests
variable {σ : Type} (engine : SyncService σ) (errors : JsonErrors)

/-- `handle_json`: a body is decoded, the operation found, and its outcome told as a
response; `null` stands for a request with no fields. -/
def handleJson (json : Json) : StateM (World σ) Response :=
  let request : Option Request := match json with
    | .null => some {}
    | json => parseRequest json
  match request with
  | none => pure (invalidRequest errors.malformed)
  | some request =>
    match request.intoOperation with
    | .error failure => pure (errorResponse failure)
    | .ok operation => AppRuntime.dispatch engine operation

/-- `GoCore.request`: what the client gets for a request, and what is left of the core. -/
def GoCore.request (request : Client.CoreRequest) (world : World σ) :
    Except Client.GoCoreError Client.CoreResponse × World σ :=
  let (response, world) := handleJson engine errors request.encode world
  (Client.GoCore.received errors.undecodable response.encode, world)

end Requests
end FluxBar
