import FluxBar.Runtime
import FluxBar.BrowserStore
import FluxBar.ServiceProofs
import FluxBar.TransportProofs
import FluxBar.SnapshotProofs
import FluxBar.StoreFrames

/-! What the client is answered: every response with a snapshot lists the effective
values of the store that the operation leaves behind. -/
namespace FluxBar
open JsonFormat Transport Procedure Relational

/-! ## Snapshots of a store -/

/-- The effective read and starred values of an entry, as its row shows them. -/
def Store.effectiveValues (store : Store) (accountId : String) (entryId : Int) :
    Option (Bool × Bool) :=
  (store.entries.find? (accountId, entryId)).map fun row => (row.status = "read", row.starred)

namespace Store
variable {store : Store} {scan : Scan} {accountId : String} {selection : Selection}
  {newestFirst : Bool} {retainIds : List Int}

/-- The entries of a snapshot are stored rows of the account. -/
theorem stored_of_snapshotEntries {entry : Entry}
    (listed : entry ∈ store.snapshotEntries scan accountId selection newestFirst retainIds) :
    ∃ row, store.entries.find? (accountId, entry.id) = some row ∧ entry = row.toEntry := by
  unfold snapshotEntries at listed
  obtain ⟨row, taken, rfl⟩ := List.mem_map.mp (mem_of_distinctEntries listed)
  have visited := (List.mergeSort_perm _ _).mem_iff.mp (List.mem_of_mem_take taken)
  obtain ⟨held, clause⟩ := List.mem_filter.mp ((scan.perm _).mem_iff.mp visited)
  have own : row.accountId = accountId := by
    simp only [selectionClause, Bool.or_eq_true, Bool.and_eq_true, decide_eq_true_eq] at clause
    rcases clause with chosen | retained
    · exact chosen.1.1.1
    · exact retained.1
  refine ⟨row, ?_, rfl⟩
  have found := Table.find?_of_mem held
  rwa [show EntryRow.key row = (accountId, row.toEntry.id) from Prod.ext own rfl] at found

theorem entries_localSnapshot {data : SnapshotData}
    (shown : store.localSnapshot scan accountId selection newestFirst retainIds = .ok data) :
    data.entries =
      store.snapshotEntries scan accountId (normalizeSelection selection) newestFirst retainIds := by
  unfold localSnapshot at shown
  simp only [bind_eq_ok] at shown
  obtain ⟨navigation, _, starredTotal, _, count, _, remoteTotal, _, built⟩ := shown
  cases remoteTotal with
  | none =>
    cases built
    rfl
  | some remoteTotal =>
    obtain ⟨delta, _, same⟩ := bind_eq_ok.mp built
    cases same
    rfl

/-- A snapshot lists every entry with its effective values, those that are retained
included. -/
theorem effectiveValues_localSnapshot {data : SnapshotData} {entry : Entry}
    (shown : store.localSnapshot scan accountId selection newestFirst retainIds = .ok data)
    (listed : entry ∈ data.entries) :
    store.effectiveValues accountId entry.id =
      some ((receivedArticle entry).isRead, (receivedArticle entry).starred) := by
  rw [entries_localSnapshot shown] at listed
  obtain ⟨row, found, rfl⟩ := stored_of_snapshotEntries listed
  unfold effectiveValues
  rw [found]
  simp [Client.Article.isRead, receivedArticle, EntryRow.toEntry]

end Store

/-! ## Flushes -/

theorem Store.effectiveValues_acknowledge (store : Store) (accountId otherAccount : String)
    (mutation : PendingMutation) :
    (store.commit (store.acknowledge accountId mutation)).effectiveValues otherAccount =
      store.effectiveValues otherAccount := by
  funext entryId
  cases done : store.acknowledge accountId mutation with
  | error failure => rfl
  | ok after =>
    change after.effectiveValues otherAccount entryId = _
    unfold effectiveValues
    rw [find?_acknowledge done, Option.map_map]
    congr 1
    funext row
    have read : (acknowledgeRow mutation row).status = row.status :=
      effective_acknowledgeRow .read row
    have starred : (acknowledgeRow mutation row).starred = row.starred :=
      effective_acknowledgeRow .starred row
    simp only [Function.comp_apply]
    split
    · rw [read, starred]
    · rfl

namespace SyncService
variable {σ : Type} {service : SyncService σ} {world : World σ}

/-- What every acknowledgement keeps of a store, a flush keeps, wherever it stops. The frame
facts of a flush are instances of it. -/
theorem flushPending_keeps (holds : Store → Prop)
    (kept : ∀ store mutation, holds store →
      holds (store.commit (store.acknowledge service.accountId mutation)))
    (initially : holds world.store) : holds (service.flushPending world).2.store := by
  have delivered : ∀ (mutations : List PendingMutation) (world : World σ), holds world.store →
      holds (mutations.forM service.flushMutation world).2.store := by
    intro mutations
    induction mutations with
    | nil => exact fun _ initially => initially
    | cons mutation rest ih =>
      intro world initially
      have first : holds (service.flushMutation mutation world).2.store := by
        rcases store_flushMutation service world mutation with same | same
        · exact same ▸ initially
        · exact same ▸ kept world.store mutation initially
      refine holds_bind (fun after : World σ => holds after.store) (fun _ _ => first) ?_
      intro _ middle ran
      have ended : (service.flushMutation mutation world).2 = middle := congrArg Prod.snd ran
      exact ih middle (ended ▸ first)
  unfold flushPending
  refine holds_bind (fun after : World σ => holds after.store)
    (fun _ _ => (store_ensureBefore service _).symm ▸ initially) ?_
  intro _ locked lock
  obtain ⟨_, rfl⟩ := returns_lockUntil.mp lock
  refine holds_bind (fun after : World σ => holds after.store) (fun _ _ => initially) ?_
  intro pending consulted asked
  obtain ⟨_, rfl⟩ := returns_consult.mp asked
  refine holds_bind (fun after : World σ => holds after.store)
    (fun _ _ => (store_ensureBefore service _).symm ▸ initially) ?_
  intro _ timed ensured
  obtain ⟨_, rfl⟩ := returns_ensureBefore.mp ensured
  exact delivered pending _ initially

/-- A flush changes no effective value: it tells the server what is shown here, and takes
nothing from it. -/
theorem effectiveValues_flush (accountId : String) :
    (service.flush world).2.store.effectiveValues accountId =
      world.store.effectiveValues accountId := by
  unfold flush
  refine holds_bind
    (fun after : World σ => after.store.effectiveValues accountId = world.store.effectiveValues accountId)
    (fun _ _ => by rw [show (service.lockUntil world).2.store = world.store from
      store_ensureBefore service world]) ?_
  intro _ locked lock
  obtain ⟨_, rfl⟩ := returns_lockUntil.mp lock
  refine flushPending_keeps
    (fun store => store.effectiveValues accountId = world.store.effectiveValues accountId) ?_ rfl
  intro store mutation same
  rw [store.effectiveValues_acknowledge, same]

/-- Nor does it drop an entry. -/
theorem keepsEntries_flushPending {store : Store} (kept : store.KeepsEntries world.store) :
    store.KeepsEntries (service.flushPending world).2.store :=
  flushPending_keeps store.KeepsEntries
    (fun _ mutation kept => kept.trans (Store.keepsEntries_acknowledge mutation)) kept

theorem keepsEntries_flush : world.store.KeepsEntries (service.flush world).2.store := by
  unfold flush
  refine holds_bind (fun after : World σ => world.store.KeepsEntries after.store) (fun _ _ => ?_) ?_
  · rw [show (service.lockUntil world).2.store = world.store from store_ensureBefore service world]
    exact .refl
  · intro _ locked lock
    obtain ⟨_, rfl⟩ := returns_lockUntil.mp lock
    exact keepsEntries_flushPending .refl

end SyncService

/-! ## Snapshots of the service -/

/-- The snapshot a sync ends with, whether or not the refresh went through. -/
def SyncResult.snapshot : SyncResult → SnapshotData
  | .success snapshot | .partialResult snapshot _ => snapshot

namespace SyncService
variable {σ : Type} {service : SyncService σ} {world start after : World σ} {selection : Selection}
  {retainIds : List Int} {snapshot : SnapshotData}

/-- The snapshot is one of the store that is left. -/
def Shows (service : SyncService σ) (after : World σ) (snapshot : SnapshotData) : Prop :=
  ∃ selection retainIds, after.store.localSnapshot service.scan service.accountId selection
    service.newestFirst retainIds = .ok snapshot

/-- The snapshot is that of a selection in the store that is left, which has kept
every entry. -/
structure Presents (service : SyncService σ) (world after : World σ) (selection : Selection)
    (retainIds : List Int) (snapshot : SnapshotData) : Prop where
  shown : after.store.localSnapshot service.scan service.accountId selection service.newestFirst
    retainIds = .ok snapshot
  kept : world.store.KeepsEntries after.store

theorem Presents.shows (presents : service.Presents world after selection retainIds snapshot) :
    service.Shows after snapshot :=
  ⟨selection, retainIds, presents.shown⟩

theorem presents_localSnapshot
    (ran : Returns (service.localSnapshot selection retainIds) world snapshot after) :
    service.Presents world after selection retainIds snapshot := by
  obtain ⟨shown, rfl⟩ := returns_consult.mp ran
  exact ⟨shown, .refl⟩

/-- A last check of the deadline leaves the store as it is. -/
theorem presents_checked {program : SyncM σ SnapshotData}
    (presents : ∀ {snapshot : SnapshotData} {middle : World σ},
      Returns program world snapshot middle →
      service.Presents start middle selection retainIds snapshot)
    (ran : Returns (do
      let snapshot ← program
      service.ensureBefore
      return snapshot) world snapshot after) :
    service.Presents start after selection retainIds snapshot := by
  obtain ⟨found, middle, taken, rest⟩ := returns_bind.mp ran
  obtain ⟨_, _, checked, returned⟩ := returns_bind.mp rest
  obtain ⟨_, rfl⟩ := returns_ensureBefore.mp checked
  obtain ⟨rfl, rfl⟩ := returns_pure.mp returned
  obtain ⟨shown, kept⟩ := presents taken
  exact ⟨shown, kept⟩

theorem presents_localSnapshotUntil
    (ran : Returns (service.localSnapshotUntil selection retainIds) world snapshot after) :
    service.Presents world after selection retainIds snapshot := by
  obtain ⟨_, _, locked, rest⟩ := returns_bind.mp ran
  obtain ⟨_, rfl⟩ := returns_lockUntil.mp locked
  refine presents_checked (fun taken => ?_) rest
  obtain ⟨shown, kept⟩ := presents_localSnapshot taken
  exact ⟨shown, kept⟩

/-- `mark_read` shows what its transaction left, the named entries retained, and asks for a
flush. -/
theorem committed_markRead {ids : List Int} {read automatic : Bool}
    {receipt : Option MutationReceipt}
    (ran : Returns (service.markRead selection ids retainIds read automatic) world
      (snapshot, receipt) after) :
    world.store.setRead (service.clock world.transactions) (service.randomId world.transactions)
        service.accountId ids read automatic = .ok (after.store, receipt) ∧
      after.store.localSnapshot service.scan service.accountId selection service.newestFirst
        (retainIds ++ ids) = .ok snapshot ∧
      after.requested = (if automatic then automaticFlushDelay else 0) :: world.requested := by
  unfold markRead at ran
  obtain ⟨_, _, lock, ran⟩ := returns_bind.mp ran
  obtain ⟨_, rfl⟩ := returns_lockUntil.mp lock
  obtain ⟨found, _, transacted, ran⟩ := returns_bind.mp ran
  obtain ⟨marked, changed, rfl⟩ := returns_transact.mp transacted
  obtain ⟨_, _, scheduled, ran⟩ := returns_bind.mp ran
  cases returns_modify.mp scheduled
  obtain ⟨_, _, checked, ran⟩ := returns_bind.mp ran
  obtain ⟨_, rfl⟩ := returns_ensureBefore.mp checked
  obtain ⟨shown, _, taken, ran⟩ := returns_bind.mp ran
  obtain ⟨shows, rfl⟩ := returns_consult.mp taken
  obtain ⟨_, _, checked, returned⟩ := returns_bind.mp ran
  obtain ⟨_, rfl⟩ := returns_ensureBefore.mp checked
  obtain ⟨same, rfl⟩ := returns_pure.mp returned
  cases same
  exact ⟨changed, shows, rfl⟩

theorem presents_markRead {ids : List Int} {read automatic : Bool} {receipt : Option MutationReceipt}
    (ran : Returns (service.markRead selection ids retainIds read automatic) world
      (snapshot, receipt) after) :
    service.Presents world after selection (retainIds ++ ids) snapshot := by
  obtain ⟨marked, shown, _⟩ := committed_markRead ran
  exact ⟨shown, (Store.sameContent_setRead marked).keepsEntries⟩

theorem committed_setStarred {entryId : Int} {starred : Bool}
    (ran : Returns (service.setStarred selection entryId starred retainIds) world snapshot after) :
    after.store = world.store.setStarred (service.clock world.transactions 0) service.accountId
        entryId starred ∧
      after.store.localSnapshot service.scan service.accountId selection service.newestFirst
        (retainIds ++ [entryId]) = .ok snapshot := by
  unfold setStarred at ran
  obtain ⟨_, _, lock, ran⟩ := returns_bind.mp ran
  obtain ⟨_, rfl⟩ := returns_lockUntil.mp lock
  obtain ⟨_, _, transacted, ran⟩ := returns_bind.mp ran
  obtain ⟨starredStore, changed, rfl⟩ := returns_transact.mp transacted
  cases changed
  obtain ⟨_, _, scheduled, ran⟩ := returns_bind.mp ran
  cases returns_modify.mp scheduled
  obtain ⟨shown, _, taken, ran⟩ := returns_bind.mp ran
  obtain ⟨shows, rfl⟩ := returns_consult.mp taken
  obtain ⟨_, _, checked, returned⟩ := returns_bind.mp ran
  obtain ⟨_, rfl⟩ := returns_ensureBefore.mp checked
  obtain ⟨rfl, rfl⟩ := returns_pure.mp returned
  exact ⟨rfl, shows⟩

theorem presents_setStarred {entryId : Int} {starred : Bool}
    (ran : Returns (service.setStarred selection entryId starred retainIds) world snapshot after) :
    service.Presents world after selection (retainIds ++ [entryId]) snapshot := by
  obtain ⟨starred, shown⟩ := committed_setStarred ran
  refine ⟨shown, ?_⟩
  rw [starred]
  exact Store.sameContent_setStarred.keepsEntries

/-- What an undo reverts, its snapshot retains, so that an article turned back is listed
again. -/
theorem presents_undo {receiptId : String}
    (ran : Returns (service.undo selection receiptId retainIds) world snapshot after) :
    service.Presents world after selection (retainIds ++
      (world.store.batchItems service.scan service.accountId receiptId).map (·.entryId)) snapshot := by
  unfold undo at ran
  obtain ⟨_, _, lock, ran⟩ := returns_bind.mp ran
  obtain ⟨_, rfl⟩ := returns_lockUntil.mp lock
  obtain ⟨ids, _, transacted, ran⟩ := returns_bind.mp ran
  obtain ⟨reverted, changed, rfl⟩ := returns_transact.mp transacted
  cases changed
  obtain ⟨_, _, scheduled, ran⟩ := returns_bind.mp ran
  cases returns_modify.mp scheduled
  refine presents_checked (fun taken => ?_) ran
  obtain ⟨shown, kept⟩ := presents_localSnapshot taken
  exact ⟨shown, Store.sameContent_undo.keepsEntries.trans kept⟩

theorem keepsEntries_discardUndo {receiptId : String} {done : Unit}
    (ran : Returns (service.discardUndo receiptId) world done after) :
    world.store.KeepsEntries after.store := by
  unfold discardUndo at ran
  obtain ⟨_, _, lock, ran⟩ := returns_bind.mp ran
  obtain ⟨_, rfl⟩ := returns_lockUntil.mp lock
  obtain ⟨_, _, transacted, checked⟩ := returns_bind.mp ran
  obtain ⟨discarded, changed, rfl⟩ := returns_transact.mp transacted
  cases changed
  obtain ⟨_, rfl⟩ := returns_ensureBefore.mp checked
  exact .refl

theorem presents_flushAndSnapshot
    (ran : Returns (service.flushAndSnapshot selection retainIds) world snapshot after) :
    service.Presents world after selection retainIds snapshot := by
  unfold flushAndSnapshot at ran
  obtain ⟨_, locked, lock, ran⟩ := returns_bind.mp ran
  obtain ⟨_, rfl⟩ := returns_lockUntil.mp lock
  obtain ⟨_, flushed, delivered, ran⟩ := returns_bind.mp ran
  have ended : (service.flushPending _).2 = flushed := congrArg Prod.snd delivered
  obtain ⟨shown, kept⟩ := presents_localSnapshotUntil ran
  refine ⟨shown, Store.KeepsEntries.trans ?_ kept⟩
  rw [← ended]
  exact keepsEntries_flushPending .refl

theorem presents_sync {result : SyncResult}
    (ran : Returns (service.sync selection retainIds) world result after) :
    service.Presents world after selection retainIds result.snapshot := by
  unfold sync syncSerialized at ran
  obtain ⟨_, _, lock, ran⟩ := returns_bind.mp ran
  obtain ⟨_, rfl⟩ := returns_lockUntil.mp lock
  obtain ⟨_, flushed, attempted, ran⟩ := returns_bind.mp ran
  cases returns_attempt.mp attempted
  have delivered : world.store.KeepsEntries
      (service.flushPending { world with checks := world.checks + 1 }).2.store :=
    keepsEntries_flushPending .refl
  obtain ⟨browsed, middle, requested, ran⟩ := returns_bind.mp ran
  have fetched : world.store.KeepsEntries middle.store := by
    have ended := congrArg (fun ended => ended.2.store) (returns_observing.mp requested)
    exact ended ▸ delivered
  cases browsed with
  | error failure =>
    obtain ⟨found, _, taken, returned⟩ := returns_bind.mp ran
    obtain ⟨rfl, rfl⟩ := returns_pure.mp returned
    obtain ⟨shown, kept⟩ := presents_localSnapshotUntil taken
    exact ⟨shown, fetched.trans kept⟩
  | ok browsed =>
    obtain ⟨_, _, lock, ran⟩ := returns_bind.mp ran
    obtain ⟨_, rfl⟩ := returns_lockUntil.mp lock
    obtain ⟨_, _, transacted, ran⟩ := returns_bind.mp ran
    obtain ⟨applied, changed, rfl⟩ := returns_transact.mp transacted
    obtain ⟨_, _, checked, ran⟩ := returns_bind.mp ran
    obtain ⟨_, rfl⟩ := returns_ensureBefore.mp checked
    obtain ⟨found, _, taken, returned⟩ := returns_bind.mp ran
    obtain ⟨rfl, rfl⟩ := returns_pure.mp returned
    obtain ⟨shown, kept⟩ := presents_localSnapshotUntil taken
    have written : middle.store.KeepsEntries applied :=
      @Store.keepsEntries_operation middle.store applied
        (.applySnapshot (service.clock middle.transactions 0) service.accountId browsed)
        (map_unit_ok.mp changed)
    exact ⟨shown, fetched.trans (written.trans kept)⟩

end SyncService

/-! ## Requests -/

section Written
variable {α : Type} {name key : String} {encode : α → Json} {held : Option α}
  {rest : List (Option (String × Json))}

theorem named_memberIfSome : named key ((memberIfSome key encode held :: rest).filterMap id) =
    (held.map encode).toList ++ named key (rest.filterMap id) := by
  have itself : eqIgnoreAsciiCase key key = true := eqIgnoreAsciiCase_iff.mpr rfl
  cases held <;> simp [memberIfSome, named, itself]

theorem named_memberIfSome_other (apart : eqIgnoreAsciiCase name key = false) :
    named name ((memberIfSome key encode held :: rest).filterMap id) =
      named name (rest.filterMap id) := by
  cases held <;> simp [memberIfSome, named, apart]

theorem named_member {value : Json} : named key ((member key value :: rest).filterMap id) =
    value :: named key (rest.filterMap id) := by
  have itself : eqIgnoreAsciiCase key key = true := eqIgnoreAsciiCase_iff.mpr rfl
  simp [member, named, itself]

theorem named_member_other {value : Json} (apart : eqIgnoreAsciiCase name key = false) :
    named name ((member key value :: rest).filterMap id) = named name (rest.filterMap id) := by
  simp [member, named, apart]

end Written

/-- What the client writes under each of two names, and that it writes neither twice. -/
theorem named_encode {request : Client.CoreRequest} {members : List (String × Json)}
    (written : request.encode = .object members) :
    named "operation" members = [.string request.operation] ∧
      named "retainEntryIDs" members =
        (request.retainEntryIDs.map fun ids => .array (ids.map .int)).toList := by
  cases written
  have none : ∀ name, named name (([] : List (Option (String × Json))).filterMap id) = [] :=
    fun _ => rfl
  constructor
  · simp (disch := decide) only [named_member, named_memberIfSome_other, none]
  · simp (disch := decide) only [named_member_other, named_memberIfSome, named_memberIfSome_other,
      none, List.append_nil]

theorem operation_of_decode {json : Json} {parsed : Request}
    (decoded : Request.decode json = some parsed) :
    decodeDefault asString "" json "operation" = some parsed.operation := by
  obtain ⟨operation, taken, decoded⟩ := Option.bind_eq_some_iff.mp decoded
  -- the other fields
  iterate 21 obtain ⟨_, _, decoded⟩ := Option.bind_eq_some_iff.mp decoded
  cases decoded
  exact taken

/-- The core reads the operation the client asked for. -/
theorem operation_of_parseRequest {request : Client.CoreRequest} {parsed : Request}
    (read : parseRequest request.encode = some parsed) : parsed.operation = request.operation := by
  obtain ⟨object, inserted, decoded⟩ := Option.bind_eq_some_iff.mp read
  have found := @find?_insertMembers _ _ "operation" inserted (by decide)
  rw [(named_encode rfl).1] at found
  have taken := operation_of_decode decoded
  unfold decodeDefault decodeIfPresent at taken
  rw [found] at taken
  exact (Option.some.inj taken).symm

theorem retainEntryIds_of_decode {json : Json} {parsed : Request}
    (decoded : Request.decode json = some parsed) :
    decodeDefaultVec asI64 0 json "retainEntryIDs" = some parsed.retainEntryIds := by
  iterate 14 obtain ⟨_, _, decoded⟩ := Option.bind_eq_some_iff.mp decoded
  obtain ⟨retainEntryIds, taken, decoded⟩ := Option.bind_eq_some_iff.mp decoded
  iterate 7 obtain ⟨_, _, decoded⟩ := Option.bind_eq_some_iff.mp decoded
  cases decoded
  exact taken

/-- The core reads the ids the client asked to retain. -/
theorem retainEntryIds_of_parseRequest {request : Client.CoreRequest} {parsed : Request}
    (read : parseRequest request.encode = some parsed) :
    parsed.retainEntryIds = request.retainEntryIDs.getD [] := by
  obtain ⟨object, inserted, decoded⟩ := Option.bind_eq_some_iff.mp read
  have taken := retainEntryIds_of_decode decoded
  have found := @find?_insertMembers _ _ "retainEntryIDs" inserted (by decide)
  rw [(named_encode rfl).2] at found
  unfold decodeDefaultVec decodeDefault decodeIfPresent at taken
  rw [found] at taken
  cases retained : request.retainEntryIDs with
  | none =>
    rw [retained] at taken
    exact (Option.some.inj taken).symm
  | some ids =>
    rw [retained] at taken
    replace taken : (((asArray (nullable asI64) (.array (ids.map .int))).map some).map
        (·.getD [])).map (·.map (·.getD 0)) = some parsed.retainEntryIds := taken
    simp only [Option.map_map, Option.map_eq_some_iff] at taken
    obtain ⟨items, decoded, same⟩ := taken
    have each : ∀ (id : Int) (value : Option Int), nullable asI64 (.int id) = some value →
        value = some id := by
      intro id value decoded
      obtain ⟨_, taken, rfl⟩ := Option.map_eq_some_iff.mp decoded
      rw [Json.int.inj (asI64_eq_some.mp taken).1]
    rw [map_of_asArray each decoded] at same
    simpa using same.symm

theorem discardUndo_of_intoOperation {parsed : Request} {mutationId : String}
    (into : parsed.intoOperation = .ok (.discardUndo mutationId)) :
    parsed.operation = "discard_undo" := by
  unfold Request.intoOperation at into
  split at into <;> first | assumption | cases into

/-! ## Responses -/

/-- A response with a snapshot of the store that is left, as every operation but one
answers. -/
def SyncService.Answers {σ : Type} (engine : SyncService σ) (after : World σ) (response : Response) :
    Prop :=
  ∃ data error receipt, engine.Shows after data ∧ response = { snapshotResponse data with error, receipt }

/-- The selection an operation shows, and the ids it retains in the list. -/
def Transport.Operation.listing {σ : Type} (engine : SyncService σ) (store : Store) :
    Transport.Operation → Option (WireSelection × List Int)
  | .localSnapshot selection retainEntryIds | .refresh selection retainEntryIds
  | .flushPending selection retainEntryIds => some (selection, retainEntryIds)
  | .setRead selection entryId entryIds retainEntryIds _ _ =>
    some (selection, retainEntryIds ++
      if entryIds.isEmpty && 0 < entryId then [entryId] else entryIds)
  | .setStarred selection entryId retainEntryIds _ => some (selection, retainEntryIds ++ [entryId])
  | .undoRead selection mutationId retainEntryIds => some (selection, retainEntryIds ++
      (store.batchItems engine.scan engine.accountId mutationId).map (·.entryId))
  | .discardUndo _ => none

section Answers
variable {σ : Type} {engine : SyncService σ} {errors : JsonErrors} {world after : World σ}

theorem respond_ok {α : Type} {operation : SyncM σ α} {answer : α → Response} {response : Response}
    (ran : AppRuntime.respond operation answer world = (response, after)) (ok : response.ok = true) :
    ∃ value, Returns operation world value after ∧ response = answer value := by
  unfold AppRuntime.respond at ran
  unfold Returns
  rcases done : operation world with ⟨outcome, left⟩
  rw [done] at ran
  cases outcome with
  | error failure =>
    cases ran
    cases ok
  | ok value =>
    cases ran
    exact ⟨value, rfl, rfl⟩

/-- Every operation but `discard_undo` answers with its snapshot of what it leaves, and that
one with none. -/
theorem presents_dispatch {operation : Transport.Operation} {response : Response}
    (ran : AppRuntime.dispatch engine operation world = (response, after)) (ok : response.ok = true) :
    (∃ selection retained data error receipt,
      operation.listing engine world.store = some (selection, retained) ∧
      engine.Presents world after selection.toDomain retained data ∧
      response = { snapshotResponse data with error, receipt }) ∨
    response = { ok := true } ∧ (∃ mutationId, operation = .discardUndo mutationId) ∧
      world.store.KeepsEntries after.store := by
  cases operation with
  | localSnapshot selection retainEntryIds =>
    obtain ⟨data, returned, rfl⟩ := respond_ok ran ok
    exact .inl ⟨_, _, data, "", none, rfl, SyncService.presents_localSnapshotUntil returned, rfl⟩
  | refresh selection retainEntryIds =>
    obtain ⟨result, returned, rfl⟩ := respond_ok ran ok
    have presents := SyncService.presents_sync returned
    cases result with
    | success data => exact .inl ⟨_, _, data, "", none, rfl, presents, rfl⟩
    | partialResult data error => exact .inl ⟨_, _, data, error, none, rfl, presents, rfl⟩
  | setRead selection entryId entryIds retainEntryIds read mutationSource =>
    unfold AppRuntime.dispatch AppRuntime.setRead at ran
    unfold Transport.Operation.listing
    dsimp only at ran ⊢
    generalize (if entryIds.isEmpty && decide (0 < entryId) then [entryId] else entryIds) = ids
      at ran ⊢
    split at ran
    · cases ran
      cases ok
    · obtain ⟨⟨data, receipt⟩, returned, rfl⟩ := respond_ok ran ok
      exact .inl ⟨_, _, data, "", _, rfl, SyncService.presents_markRead returned, rfl⟩
  | setStarred selection entryId retainEntryIds desiredStarred =>
    obtain ⟨data, returned, rfl⟩ := respond_ok ran ok
    exact .inl ⟨_, _, data, "", none, rfl, SyncService.presents_setStarred returned, rfl⟩
  | undoRead selection mutationId retainEntryIds =>
    obtain ⟨data, returned, rfl⟩ := respond_ok ran ok
    exact .inl ⟨_, _, data, "", none, rfl, SyncService.presents_undo returned, rfl⟩
  | discardUndo mutationId =>
    obtain ⟨_, returned, rfl⟩ := respond_ok ran ok
    exact .inr ⟨rfl, ⟨mutationId, rfl⟩, SyncService.keepsEntries_discardUndo returned⟩
  | flushPending selection retainEntryIds =>
    obtain ⟨data, returned, rfl⟩ := respond_ok ran ok
    exact .inl ⟨_, _, data, "", none, rfl, SyncService.presents_flushAndSnapshot returned, rfl⟩

/-- A request that is answered well was parsed and dispatched, since every other end of it
is an error. -/
theorem dispatched_of_handleJson {request : Client.CoreRequest} {response : Response}
    (ran : handleJson engine errors request.encode world = (response, after))
    (ok : response.ok = true) :
    ∃ parsed operation, parseRequest request.encode = some parsed ∧
      parsed.intoOperation = .ok operation ∧
      AppRuntime.dispatch engine operation world = (response, after) := by
  have object : ∃ members, request.encode = .object members := ⟨_, rfl⟩
  unfold handleJson at ran
  cases read : parseRequest request.encode with
  | none =>
    obtain ⟨members, written⟩ := object
    rw [written] at ran read
    simp only [read] at ran
    cases ran
    cases ok
  | some parsed =>
    obtain ⟨members, written⟩ := object
    rw [written] at ran read
    simp only [read] at ran
    cases into : parsed.intoOperation with
    | error failure =>
      rw [into] at ran
      cases ran
      cases ok
    | ok operation =>
      rw [into] at ran
      exact ⟨parsed, operation, rfl, into, ran⟩

theorem answers_handleJson {request : Client.CoreRequest} {response : Response}
    (ran : handleJson engine errors request.encode world = (response, after))
    (ok : response.ok = true) :
    engine.Answers after response ∨
      response = { ok := true } ∧ request.operation = "discard_undo" := by
  obtain ⟨parsed, operation, read, into, ran⟩ := dispatched_of_handleJson ran ok
  rcases presents_dispatch ran ok with
    ⟨_, _, data, error, receipt, _, presents, rfl⟩ | ⟨same, ⟨mutationId, rfl⟩, _⟩
  · exact .inl ⟨data, error, receipt, presents.shows, rfl⟩
  · exact .inr ⟨same, operation_of_parseRequest read ▸ discardUndo_of_intoOperation into⟩

/-- The client takes a response for one exactly when the core does. -/
theorem ok_of_decode {response : Response} {received : Client.CoreResponse}
    (decoded : Client.CoreResponse.decode response.encode = some received) :
    received.ok = response.ok := by
  -- `ok` decodes to what it is; the other properties may fail to
  iterate 4 obtain ⟨_, _, decoded⟩ := Option.bind_eq_some_iff.mp decoded
  cases decoded
  rfl

/-- What the client receives of a request. -/
theorem received_request {request : Client.CoreRequest} {received : Client.CoreResponse}
    (ran : GoCore.request engine errors request world = (.ok received, after)) :
    ∃ response, handleJson engine errors request.encode world = (response, after) ∧
      response.ok = true ∧ Client.CoreResponse.decode response.encode = some received := by
  unfold GoCore.request Client.GoCore.received at ran
  rcases handled : handleJson engine errors request.encode world with ⟨response, left⟩
  rw [handled] at ran
  dsimp only at ran
  cases decoded : Client.CoreResponse.decode response.encode with
  | none =>
    rw [decoded] at ran
    cases ran
  | some found =>
    rw [decoded] at ran
    have same := ok_of_decode decoded
    cases ok : found.ok with
    | false => simp [ok] at ran
    | true =>
      simp only [ok, if_true] at ran
      cases ran
      exact ⟨response, rfl, same.symm.trans ok, decoded⟩

/-- A received snapshot lists the effective values of the store that is left, and
only a discarded undo is answered without one. -/
theorem snapshot_of_request {request : Client.CoreRequest} {received : Client.CoreResponse}
    (ran : GoCore.request engine errors request world = (.ok received, after)) :
    (∃ snapshot, received.snapshot = some snapshot ∧ ∀ article ∈ snapshot.entries,
      after.store.effectiveValues engine.accountId article.id =
        some (article.isRead, article.starred)) ∨
    received.snapshot = none ∧ request.operation = "discard_undo" := by
  obtain ⟨response, handled, ok, decoded⟩ := received_request ran
  rcases answers_handleJson handled ok with ⟨data, error, receipt, shown, rfl⟩ | ⟨rfl, discards⟩
  · rw [decode_snapshotResponse] at decoded
    split at decoded
    · cases decoded
    · cases decoded
      refine .inl ⟨receivedSnapshot data, rfl, ?_⟩
      intro article listed
      obtain ⟨entry, held, rfl⟩ := List.mem_map.mp listed
      obtain ⟨selection, retainIds, shown⟩ := shown
      exact Store.effectiveValues_localSnapshot shown held
  · refine .inr ⟨?_, discards⟩
    cases decoded
    rfl

/-! ### Requests that succeed -/

theorem respond_of_returns {α : Type} {operation : SyncM σ α} {answer : α → Response} {value : α}
    (ran : Returns operation world value after) :
    AppRuntime.respond operation answer world = (answer value, after) := by
  unfold Returns at ran
  unfold AppRuntime.respond
  rw [ran]

/-- A snapshot with a category reaches the client. -/
theorem request_of_dispatch {request : Client.CoreRequest} {parsed : Request}
    {operation : Transport.Operation} {data : SnapshotData} {error : String} {receipt : Option Receipt}
    (read : parseRequest request.encode = some parsed)
    (into : parsed.intoOperation = .ok operation)
    (ran : AppRuntime.dispatch engine operation world =
      ({ snapshotResponse data with error, receipt }, after)) (filed : data.categories ≠ []) :
    GoCore.request engine errors request world = (.ok {
      ok := true
      error := if error.isEmpty then none else some error
      text := none
      snapshot := some (receivedSnapshot data)
      receipt := receipt.map fun receipt => ⟨receipt.id, receipt.count⟩ }, after) := by
  have object : ∃ members, request.encode = .object members := ⟨_, rfl⟩
  have handled : handleJson engine errors request.encode world =
      ({ snapshotResponse data with error, receipt }, after) := by
    obtain ⟨members, written⟩ := object
    rw [written] at read ⊢
    unfold handleJson
    simp only [read, into]
    exact ran
  unfold GoCore.request Client.GoCore.received
  rw [handled]
  dsimp only
  rw [decode_snapshotResponse, if_neg (by simpa using filed)]
  rfl

end Answers
end FluxBar
