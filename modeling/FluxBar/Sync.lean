import FluxBar.Miniflux
import FluxBar.Snapshot

/-! The sync service: local changes and their snapshots, the flush of pending
mutations, and the refresh of a selection. Every operation works under a
deadline, which may pass at any of its checks; what was done by then stays
done. -/
namespace FluxBar

/-- `SyncResult`: what the store shows after a refresh that was applied, or, with the error,
after one that was not. -/
inductive SyncResult where
  | success (snapshot : SnapshotData)
  | partialResult (snapshot : SnapshotData) (error : String)
  deriving DecidableEq, Repr

/-- `AUTOMATIC_FLUSH_DELAY`, in seconds. -/
def automaticFlushDelay : Nat := 10

/-- `SyncService`: the account and the remote side it is bound to, and what its
surroundings answer it. -/
structure SyncService (σ : Type) where
  accountId : String
  newestFirst : Bool
  remote : RemoteInbox σ
  host : Host
  scan : Scan
  /-- The readings of the wall clock in each transaction. -/
  clock : Nat → Nat → String
  /-- The id `random_id` draws in each transaction. -/
  randomId : Nat → String
  /-- Whether the deadline is still ahead at each check of one. -/
  timely : Nat → Bool

/-- What the service works on: the store, the server's state, and how often transactions
were made and the deadline looked at, which is what clock readings and the deadline are told
by. -/
structure World (σ : Type) where
  store : Store
  remote : σ
  transactions : Nat
  checks : Nat
  /-- The delays of the flushes requested. -/
  requested : List Nat

/-- An operation of the service: it changes the world also where it fails. -/
abbrev SyncM (σ : Type) := ExceptT String (StateM (World σ))

/-! ## `browse` -/

/-- `map_err` of a request, under a label: a failure is told in the words of the step that
met it. -/
def describe {σ α : Type} (label : String) (request : Remote σ α) : ExceptT String (StateM σ) α :=
  request.adapt fun failure => s!"{label}: {failure.display}"

/-- `str::parse::<i64>`, with an optional sign and at least one digit; the bounds are those
of the identifiers. -/
def parseI64 (text : String) : Option Int :=
  let digits (characters : List Char) : Option Nat :=
    if characters ≠ [] ∧ characters.all Char.isDigit then some (Nat.ofDigitChars 10 characters 0)
    else none
  match text.toList with
  | '+' :: characters => (digits characters).map Int.ofNat
  | '-' :: characters => (digits characters).map fun value => -(value : Int)
  | characters => (digits characters).map Int.ofNat

/-- The counters collected under parsed ids; the later of two for one id stays. -/
def FeedCountersDto.counter (counters : FeedCountersDto) (feedId : Int) : Option Int :=
  counters.unreads.foldl (fun found (key, count) =>
    if parseI64 key = some feedId then some count else found) none

/-- `browse_filter`: the query of a selection, by pages of 200 in the order of ids. A
filtered selection asks for unread articles only. -/
def browseFilter (selection : Selection) : EntriesFilter :=
  let filter : EntriesFilter := {
    limit := browsePageSize
    offset := 0
    order := some "id"
    direction := some "asc"
    statuses := ["read", "unread"] }
  let filter := if selection.isUnreadOnly then
      { filter with statuses := [], status := some "unread" }
    else filter
  match selection with
  | .starred _ => { filter with starred := some "1" }
  | .category id _ => { filter with categoryId := id }
  | .feed id _ => { filter with feedId := id }
  | .all .. | .unread _ => filter

/-- `browse`: counters, starred articles, the entries page by page, categories and feeds,
each a request that may fail, and the snapshot they are mapped to. -/
def browse {σ : Type} (host : Host) (remote : RemoteInbox σ) (selection : Selection) :
    ExceptT String (StateM σ) SnapshotData := do
  let counters ← describe "Miniflux-Zähler laden" remote.unreadCounters
  let counted ← if selection.isStarred then pure 0
    else describe "markierte Miniflux-Einträge zählen" remote.starredTotal
  let (entries, total) ← describe "Miniflux-Einträge laden"
    (remote.fetchCompleteSelection (browseFilter selection))
  let starredTotal := if selection.isStarred then toI32 total else toI32 counted
  let categories ← describe "Miniflux-Kategorien laden" remote.categories
  let feeds ← describe "Miniflux-Feeds laden" remote.feeds
  let (categoryInputs, feedInputs) := dtoMappingInputs categories feeds
  let (navigation, unreadTotal) :=
    buildNavigation host.toLowercase categoryInputs feedInputs counters.counter
  return {
    version := 1
    selection
    entries := entries.map (entryToDomain host)
    categories := navigation
    total := toI32 total
    unreadTotal
    starredTotal }

/-! ## The service -/

namespace SyncService
variable {σ α : Type} (service : SyncService σ)

/-- `ensure_before`, which every wait for a lock ends in as well: each look at the clock is
counted, and the service is in time or not at that count. -/
def ensureBefore : SyncM σ Unit := do
  let world ← get
  set { world with checks := world.checks + 1 }
  if service.timely world.checks then return
  else throw "context deadline exceeded"

/-- `lock_until`. -/
def lockUntil : SyncM σ Unit := service.ensureBefore

/-- One transaction on the store, rolled back when it fails; the error is told by its
message. -/
def transact (change : Nat → Store → Except StoreError (Store × α)) : SyncM σ α := do
  let world ← get
  match change world.transactions world.store with
  | .ok (store, value) =>
    set { world with store, transactions := world.transactions + 1 }
    return value
  | .error failure =>
    set { world with transactions := world.transactions + 1 }
    throw failure.message

/-- A read of the store. -/
def consult (query : Store → Except StoreError α) : SyncM σ α :=
  transact fun _ store => (query store).map fun value => (store, value)

/-- A request to the remote side, which may change it also where the answer is lost. -/
def request (call : ExceptT String (StateM σ) α) : SyncM σ α := fun world =>
  match call world.remote with
  | (outcome, remote) => (outcome, { world with remote })

/-- `schedule_flush`, as the request for a delay. -/
def scheduleFlush (delay : Nat) : SyncM σ Unit :=
  modify fun world => { world with requested := delay :: world.requested }

/-- `local_snapshot`: the store is read for the account, in the order the service is set to.
-/
def localSnapshot (selection : Selection) (retainIds : List Int) : SyncM σ SnapshotData :=
  consult fun store =>
    store.localSnapshot service.scan service.accountId selection service.newestFirst retainIds

/-- `local_snapshot_until`: a read under the lock, with the deadline looked at before and
after it. -/
def localSnapshotUntil (selection : Selection) (retainIds : List Int) : SyncM σ SnapshotData := do
  service.lockUntil
  let snapshot ← service.localSnapshot selection retainIds
  service.ensureBefore
  return snapshot

/-- `mark_read`: the change is committed, its delivery asked for (after the undo time where
it is automatic, else at once), and the list is read again with the articles just marked
retained. -/
def markRead (selection : Selection) (ids retainIds : List Int) (read automatic : Bool) :
    SyncM σ (SnapshotData × Option MutationReceipt) := do
  service.lockUntil
  let receipt ← transact fun turn store => store.setRead (service.clock turn)
    (service.randomId turn) service.accountId ids read automatic
  scheduleFlush (if automatic then automaticFlushDelay else 0)
  service.ensureBefore
  let snapshot ← service.localSnapshot selection (retainIds ++ ids)
  service.ensureBefore
  return (snapshot, receipt)

/-- `set_starred`: the star is committed, its delivery asked for at once, and the list read
again with the article retained. -/
def setStarred (selection : Selection) (entryId : Int) (starred : Bool) (retainIds : List Int) :
    SyncM σ SnapshotData := do
  service.lockUntil
  transact fun turn store =>
    .ok (store.setStarred (service.clock turn 0) service.accountId entryId starred, ())
  scheduleFlush 0
  let snapshot ← service.localSnapshot selection (retainIds ++ [entryId])
  service.ensureBefore
  return snapshot

/-- `undo`: the batch is turned back, the delivery asked for at once, and the list read
again with the articles turned back retained. -/
def undo (selection : Selection) (receiptId : String) (retainIds : List Int) :
    SyncM σ SnapshotData := do
  service.lockUntil
  let ids ← transact fun turn store =>
    .ok (store.undo service.scan (service.clock turn) service.accountId receiptId)
  scheduleFlush 0
  let snapshot ← service.localSnapshot selection (retainIds ++ ids)
  service.ensureBefore
  return snapshot

/-- `discard_undo`. -/
def discardUndo (receiptId : String) : SyncM σ Unit := do
  service.lockUntil
  transact fun _ store => .ok (store.discardUndo service.accountId receiptId, ())
  service.ensureBefore

/-- The request that delivers one mutation. A read state is set; a star is only toggled by
the server, so that its state is asked for first. -/
def deliver (mutation : PendingMutation) : ExceptT String (StateM σ) Unit :=
  match mutation.field with
  | .read => describe "Miniflux-Lesestatus aktualisieren"
      (service.remote.setReadBatch [mutation.entryId] mutation.desired)
  | .starred => do
    let current ← describe "Miniflux-Eintrag laden" (service.remote.entryStarred mutation.entryId)
    if current ≠ mutation.desired then
      describe "Miniflux-Markierung aktualisieren" (service.remote.toggleStarred mutation.entryId)

/-- One turn of the loop of `flush_pending`: the change is delivered, and then acknowledged
in a transaction of its own. -/
def flushMutation (mutation : PendingMutation) : SyncM σ Unit := do
  request (service.deliver mutation)
  service.lockUntil
  transact fun _ store =>
    (store.acknowledge service.accountId mutation).map fun store => (store, ())
  service.ensureBefore

/-- `flush_pending`: the pending changes are listed once, and delivered one after the other
until one fails. -/
def flushPending : SyncM σ Unit := do
  service.lockUntil
  let pending ← consult fun store => .ok (store.pending service.scan service.accountId)
  service.ensureBefore
  pending.forM service.flushMutation

/-- `sync_serialized`: what is pending is delivered first, whatever comes of it; then the
selection is browsed and applied. A browse that fails leaves the store as it is, and the
list is shown with the error. -/
def syncSerialized (selection : Selection) (retainIds : List Int) : SyncM σ SyncResult := do
  tryCatch service.flushPending fun _ => return
  let browsed ← observing (request (browse service.host service.remote selection))
  match browsed with
  | .error failure =>
    let snapshot ← service.localSnapshotUntil selection retainIds
    return .partialResult snapshot failure
  | .ok snapshot =>
    service.lockUntil
    transact fun turn store =>
      (store.applySnapshot (service.clock turn 0) service.accountId snapshot).map fun store =>
        (store, ())
    service.ensureBefore
    let snapshot ← service.localSnapshotUntil selection retainIds
    return .success snapshot

/-- `sync`. -/
def sync (selection : Selection) (retainIds : List Int) : SyncM σ SyncResult := do
  service.lockUntil
  service.syncSerialized selection retainIds

/-- `flush`. -/
def flush : SyncM σ Unit := do
  service.lockUntil
  service.flushPending

/-- `flush_and_snapshot`. -/
def flushAndSnapshot (selection : Selection) (retainIds : List Int) : SyncM σ SnapshotData := do
  service.lockUntil
  service.flushPending
  service.localSnapshotUntil selection retainIds

end SyncService
end FluxBar
