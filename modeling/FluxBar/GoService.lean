import FluxBar.GoMiniflux

/-! The sync service of the Go core: local changes and their snapshots, the flush of
pending mutations, and the refresh of a selection. A panic of the remote side runs
through all of it. -/
namespace FluxBar.Inbox

/-- How a call of the service ends badly: over the remote side, or over the store. -/
inductive Failure where
  | remote (failure : GoMiniflux.Failure)
  | store (failure : StoreError)
  deriving DecidableEq, Repr

/-- `Remote`, the icons aside: what the service asks the server for. -/
structure Remote (σ τ : Type) where
  browse : Selection → ExceptT GoMiniflux.Failure (StateM σ) (Listing τ)
  setReadBatch : List Int → Bool → ExceptT GoMiniflux.Failure (StateM σ) Unit
  entryState : Int → ExceptT GoMiniflux.Failure (StateM σ) Bool
  toggleStarred : Int → ExceptT GoMiniflux.Failure (StateM σ) Unit

/-- `miniflux.Service`, as the remote side of a service. -/
def minifluxRemote {σ τ : Type} (host : Host) (capacity : Int) (client : GoMiniflux.Client σ τ) :
    Remote σ τ where
  browse := GoMiniflux.browse host capacity client
  setReadBatch := GoMiniflux.setReadBatch client
  entryState := GoMiniflux.entryState client
  toggleStarred := GoMiniflux.toggleStarred client

/-- `Service`, with what its surroundings answer it: the server, the clock, random ids, and
the order rows are visited in. -/
structure Service (σ τ : Type) where
  remote : Remote σ τ
  accountID : String
  newestFirst : Bool
  moments : Moments τ
  scan : Scan
  /-- The readings of the wall clock in each call of the store. -/
  clock : Nat → Nat → String
  /-- The id `randomID` returns in each call of the store. -/
  randomID : Nat → String

/-- What the service works on: the store and the server, and how often each was asked for
what a clock or a timer has to tell. -/
structure World (σ : Type) where
  store : Store
  remote : σ
  /-- The calls of the store so far. -/
  transactions : Nat
  /-- The delays the flush timer was set to. -/
  requested : List Nat

abbrev ServiceM (σ : Type) := ExceptT Failure (StateM (World σ))

section Calls
variable {σ α : Type}

/-- One call of the store; a transaction that fails is rolled back. -/
def transact (change : Nat → Store → Except StoreError (Store × α)) : ServiceM σ α := do
  let world ← get
  match change world.transactions world.store with
  | .ok (store, value) =>
    set { world with store, transactions := world.transactions + 1 }
    return value
  | .error failure =>
    set { world with transactions := world.transactions + 1 }
    throw (.store failure)

/-- A read of the store. -/
def consult (query : Store → Except StoreError α) : ServiceM σ α :=
  transact fun _ store => (query store).map fun value => (store, value)

/-- A call of the remote side. -/
def request (call : ExceptT GoMiniflux.Failure (StateM σ) α) : ServiceM σ α := fun world =>
  match call world.remote with
  | (outcome, remote) => (outcome.mapError .remote, { world with remote })

/-- `ScheduleFlush`, as the delay the timer is set to, in seconds. -/
def scheduleFlush (delay : Nat) : ServiceM σ Unit :=
  modify fun world => { world with requested := delay :: world.requested }

end Calls

namespace Service
variable {σ τ : Type} (service : Service σ τ)

/-- `Service.LocalSnapshot`. -/
def localSnapshot (selection : Selection) (retainIDs : List Int) : ServiceM σ (Listing τ) :=
  consult fun store => Inbox.localSnapshot service.moments store service.scan service.accountID
    selection service.newestFirst retainIDs

/-- The remote calls of one turn of the loop of `flushPending`: a read state is set, a star
asked for first and then toggled. -/
def deliver (mutation : PendingMutation) : ExceptT GoMiniflux.Failure (StateM σ) Unit :=
  match mutation.field with
  | .read => service.remote.setReadBatch [mutation.entryId] mutation.desired
  | .starred => do
    let starred ← service.remote.entryState mutation.entryId
    if starred ≠ mutation.desired then service.remote.toggleStarred mutation.entryId

/-- One turn of the loop of `flushPending`: delivered, and then acknowledged. -/
def flushMutation (mutation : PendingMutation) : ServiceM σ Unit := do
  request (service.deliver mutation)
  transact fun _ store =>
    (acknowledge store service.accountID mutation).map fun store => (store, ())

/-- `Service.flushPending`. -/
def flushPending : ServiceM σ Unit := do
  let pending ← consult fun store => .ok (pending store service.scan service.accountID)
  pending.forM service.flushMutation

/-- `Service.Sync`: the snapshot, and the error returned beside it. -/
def sync (selection : Selection) (retainIDs : List Int) :
    ServiceM σ (Listing τ × Option GoMiniflux.Failure) := do
  tryCatch service.flushPending fun failure =>
    if failure = .remote .panicked then throw failure else return
  let browsed ← observing (request (service.remote.browse selection))
  match browsed with
  | .error (.remote (.error message)) =>
    let snapshot ← service.localSnapshot selection retainIDs
    return (snapshot, some (.error message))
  | .error failure => throw failure
  | .ok remoteSnapshot =>
    transact fun turn store =>
      (applySnapshot service.moments store (service.clock turn 0) service.accountID
        remoteSnapshot).map fun store => (store, ())
    let snapshot ← service.localSnapshot selection retainIDs
    return (snapshot, none)

/-- `Service.MarkRead`. -/
def markRead (selection : Selection) (ids retainIDs : List Int) (read automatic : Bool) :
    ServiceM σ (Listing τ × Option MutationReceipt) := do
  let receipt ← transact fun turn store => setRead store (service.clock turn) (service.randomID turn)
    service.accountID ids read automatic
  let snapshot ← service.localSnapshot selection (retainIDs ++ ids)
  scheduleFlush (if automatic then 10 else 0)
  return (snapshot, receipt)

/-- `Service.SetStarred`. -/
def setStarred (selection : Selection) (id : Int) (starred : Bool) (retainIDs : List Int) :
    ServiceM σ (Listing τ) := do
  transact fun turn store =>
    .ok (Inbox.setStarred store (service.clock turn 0) service.accountID id starred, ())
  let snapshot ← service.localSnapshot selection (retainIDs ++ [id])
  scheduleFlush 0
  return snapshot

/-- `Service.Undo`. -/
def undo (selection : Selection) (receiptID : String) (retainIDs : List Int) :
    ServiceM σ (Listing τ) := do
  let ids ← transact fun turn store =>
    .ok (Inbox.undo store service.scan (service.clock turn) service.accountID receiptID)
  let snapshot ← service.localSnapshot selection (retainIDs ++ ids)
  scheduleFlush 0
  return snapshot

/-- `Service.DiscardUndo`. -/
def discardUndo (receiptID : String) : ServiceM σ Unit :=
  transact fun _ store => .ok (Inbox.discardUndo store service.accountID receiptID, ())

/-- `Service.Flush`. -/
def flush : ServiceM σ Unit := service.flushPending

end Service

end FluxBar.Inbox
