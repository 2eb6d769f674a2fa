import FluxBar.PopoverProofs
import FluxBar.MarkedRows
import FluxBar.ReceiptIds
import FluxBar.Library.Places

/-! The undo batches of the core and the receipts of the popover. A batch is opened by an
automatic read change and stays until it is undone or discarded, so it must not be lost between
the two: from its response on, its receipt is with the banner or with a request under way. -/
namespace FluxBar
open Client Transport Transition Procedure JsonFormat

/-! ## What the core does to its batches -/

namespace Store
variable {store after : Store} {accountId receiptId batch : String} {clock : Nat → String}
  {read undoable : Bool} {entryIds : List Int} {receipt : Option MutationReceipt}

/-- Whether a batch is open. -/
def HasBatch (store : Store) (accountId batchId : String) : Prop :=
  (store.undoBatches.find? (accountId, batchId)).isSome

/-- A turn counts up, under the one receipt. -/
theorem counts_turn {progress advanced : ReadProgress} {entryId : Int}
    (counted : progress.receipt.id = receiptId ∧ 0 ≤ progress.receipt.count)
    (turned : setReadEntry clock accountId read true progress entryId = .ok advanced) :
    advanced.receipt.id = receiptId ∧ 0 ≤ advanced.receipt.count := by
  obtain ⟨_, same, ⟨_, count⟩ | ⟨_, count, _⟩⟩ := undo_setReadEntry turned
  · exact ⟨same.trans counted.1, (count rfl).symm ▸ counted.2⟩
  · exact ⟨same.trans counted.1, by omega⟩

/-- A batch is open after `set_read` if it was before, or if its receipt is handed out. -/
theorem hasBatch_setRead (undone : after.HasBatch accountId batch)
    (ran : store.setRead clock receiptId accountId entryIds read undoable = .ok (after, receipt)) :
    store.HasBatch accountId batch ∨
      undoable = true ∧ receiptId = batch ∧ ∃ handed, receipt = some handed ∧ handed.id = receiptId := by
  by_cases held : store.HasBatch accountId batch
  · exact .inl held
  · have absent : store.undoBatches.find? (accountId, batch) = none :=
      Option.not_isSome_iff_eq_none.mp held
    have own : batch = receiptId := by
      by_contra other
      have gone := find?_undoBatches_setRead (fun same => other (Prod.mk.inj same).2) absent ran
      unfold HasBatch at undone
      rw [gone] at undone
      cases undone
    obtain ⟨opened, progress, start, finished, rfl, same⟩ := setRead_ok ran
    unfold HasBatch at undone
    cases undoable with
    | false =>
      rw [find?_undoBatches_closeBatch, undoBatches_turns finished] at undone
      rcases openBatch_cases start with ⟨_, rfl⟩ | ⟨absurd, _⟩
      · rw [absent] at undone
        cases undone
      · cases absurd
    | true =>
      rw [find?_undoBatches_closeBatch_undoable] at undone
      refine .inr ⟨rfl, own.symm, ?_⟩
      cases receipt with
      | some handed => exact ⟨handed, rfl, id_receipt ran⟩
      | none =>
        have kept : progress.receipt.id = receiptId ∧ 0 ≤ progress.receipt.count :=
          foldlM_invariant
            (fun reached : ReadProgress => reached.receipt.id = receiptId ∧ 0 ≤ reached.receipt.count)
            (fun _ _ _ counted turned => counts_turn counted turned) ⟨rfl, le_refl 0⟩ finished
        have none : progress.receipt.count = 0 := by
          by_contra some
          rw [if_pos (by simp; omega)] at same
          cases same
        rw [if_pos ⟨none, by rw [kept.1, own]⟩] at undone
        cases undone

end Store

/-! ## What an operation of the service does to them -/

namespace SyncService
variable {σ α β : Type} {service : SyncService σ} {world middle after : World σ}

/-- The batches are as before, and no transaction is taken back, so that later receipt ids
are new. -/
structure Untouched (world after : World σ) : Prop where
  grows : world.transactions ≤ after.transactions
  batches : after.store.undoBatches = world.store.undoBatches

theorem Untouched.trans (first : Untouched world middle) (second : Untouched middle after) :
    Untouched world after :=
  ⟨first.grows.trans second.grows, second.batches.trans first.batches⟩

/-- A program that leaves the batches alone, however it ends. -/
def LeavesBatches (program : SyncM σ α) : Prop := ∀ world, Untouched world (program world).2

theorem LeavesBatches.returns {program : SyncM σ α} {value : α} (leaves : LeavesBatches program)
    (ran : Returns program world value after) : Untouched world after := by
  have left := leaves world
  rwa [show program world = (.ok value, after) from ran] at left

theorem leaves_pure {value : α} : LeavesBatches (pure value : SyncM σ α) :=
  fun _ => ⟨le_rfl, rfl⟩

theorem leaves_bind {program : SyncM σ α} {next : α → SyncM σ β} (first : LeavesBatches program)
    (rest : ∀ value, LeavesBatches (next value)) : LeavesBatches (program >>= next) := by
  intro world
  refine holds_bind (Untouched world) (fun _ _ => first world) fun value middle ran => ?_
  exact (first.returns ran).trans (rest value middle)

theorem leaves_ensureBefore : LeavesBatches service.ensureBefore := by
  intro world
  rw [ends_ensureBefore]
  exact ⟨le_rfl, rfl⟩

theorem leaves_lockUntil : LeavesBatches service.lockUntil := leaves_ensureBefore

theorem leaves_scheduleFlush {delay : Nat} : LeavesBatches (scheduleFlush delay : SyncM σ Unit) :=
  fun _ => ⟨le_rfl, rfl⟩

theorem leaves_request {call : ExceptT String (StateM σ) α} :
    LeavesBatches (request call : SyncM σ α) :=
  fun _ => ⟨le_rfl, rfl⟩

theorem leaves_transact {change : Nat → Store → Except StoreError (Store × α)}
    (kept : ∀ turn store after value, change turn store = .ok (after, value) →
      after.undoBatches = store.undoBatches) : LeavesBatches (transact change : SyncM σ α) := by
  intro world
  unfold transact
  refine holds_bind (Untouched world) (fun _ absurd => by cases absurd) fun found middle got => ?_
  obtain ⟨rfl, rfl⟩ := returns_get.mp got
  cases changed : change found.transactions found.store with
  | error failure => exact ⟨Nat.le_succ _, rfl⟩
  | ok result => exact ⟨Nat.le_succ _, kept _ _ _ _ changed⟩

theorem leaves_consult {query : Store → Except StoreError α} :
    LeavesBatches (consult query : SyncM σ α) := by
  refine leaves_transact fun turn store after value asked => ?_
  obtain ⟨_, _, same⟩ := map_eq_ok.mp asked
  cases same
  rfl

theorem leaves_attempt {program : SyncM σ PUnit} (leaves : LeavesBatches program) :
    LeavesBatches (tryCatch program fun _ => pure PUnit.unit) := by
  intro world
  have ended : Returns (tryCatch program fun _ => pure PUnit.unit) world PUnit.unit
      (program world).2 := returns_attempt.mpr rfl
  unfold Returns at ended
  rw [ended]
  exact leaves world

theorem leaves_observing {program : SyncM σ α} (leaves : LeavesBatches program) :
    LeavesBatches (observing program : SyncM σ (Except String α)) := by
  intro world
  have ended : Returns (observing program) world (program world).1 (program world).2 :=
    returns_observing.mpr rfl
  unfold Returns at ended
  rw [ended]
  exact leaves world

section Operations
variable {selection : Selection} {retainIds : List Int}

theorem leaves_localSnapshot : LeavesBatches (service.localSnapshot selection retainIds) :=
  leaves_consult

theorem leaves_localSnapshotUntil : LeavesBatches (service.localSnapshotUntil selection retainIds) :=
  leaves_bind leaves_lockUntil fun _ => leaves_bind leaves_localSnapshot fun _ =>
    leaves_bind leaves_ensureBefore fun _ => leaves_pure

theorem leaves_setStarred {entryId : Int} {starred : Bool} :
    LeavesBatches (service.setStarred selection entryId starred retainIds) := by
  refine leaves_bind leaves_lockUntil fun _ => leaves_bind (leaves_transact ?_) fun _ => ?_
  · intro turn store after value changed
    cases changed
    rfl
  · exact leaves_bind leaves_scheduleFlush fun _ => leaves_bind leaves_localSnapshot fun _ =>
      leaves_bind leaves_ensureBefore fun _ => leaves_pure

theorem leaves_flushMutation {mutation : PendingMutation} :
    LeavesBatches (service.flushMutation mutation) := by
  refine leaves_bind leaves_request fun _ => leaves_bind leaves_lockUntil fun _ =>
    leaves_bind (leaves_transact ?_) fun _ => leaves_ensureBefore
  intro turn store after value changed
  obtain ⟨stored, acknowledged, same⟩ := map_eq_ok.mp changed
  cases same
  exact (Store.acknowledge_parts acknowledged).2.2

theorem leaves_flushPending : LeavesBatches service.flushPending := by
  have delivered : ∀ mutations : List PendingMutation,
      LeavesBatches (mutations.forM service.flushMutation) := by
    intro mutations
    induction mutations with
    | nil => exact leaves_pure
    | cons mutation rest ih => exact leaves_bind leaves_flushMutation fun _ => ih
  exact leaves_bind leaves_lockUntil fun _ => leaves_bind leaves_consult fun pending =>
    leaves_bind leaves_ensureBefore fun _ => delivered pending

theorem leaves_flush : LeavesBatches service.flush :=
  leaves_bind leaves_lockUntil fun _ => leaves_flushPending

theorem leaves_flushAndSnapshot : LeavesBatches (service.flushAndSnapshot selection retainIds) :=
  leaves_bind leaves_lockUntil fun _ => leaves_bind leaves_flushPending fun _ =>
    leaves_localSnapshotUntil

theorem leaves_sync : LeavesBatches (service.sync selection retainIds) := by
  refine leaves_bind leaves_lockUntil fun _ =>
    leaves_bind (leaves_attempt leaves_flushPending) fun _ =>
    leaves_bind (leaves_observing leaves_request) fun browsed => ?_
  cases browsed with
  | error failure => exact leaves_bind leaves_localSnapshotUntil fun _ => leaves_pure
  | ok snapshot =>
    refine leaves_bind leaves_lockUntil fun _ => leaves_bind (leaves_transact ?_) fun _ =>
      leaves_bind leaves_ensureBefore fun _ => leaves_bind leaves_localSnapshotUntil fun _ =>
      leaves_pure
    intro turn store after value changed
    obtain ⟨stored, applied, same⟩ := map_eq_ok.mp changed
    cases same
    obtain ⟨_, _, refreshed⟩ := Store.applySnapshot_parts applied
    exact refreshed.undoBatches

/-- What becomes of the batches of the account in an operation that closes one at most, and hands
the receipt of another out. -/
structure Files (service : SyncService σ) (closed handed : Option String) (world after : World σ) :
    Prop where
  grows : world.transactions ≤ after.transactions
  batches : ∀ batch, after.store.HasBatch service.accountId batch →
    world.store.HasBatch service.accountId batch ∧ closed ≠ some batch ∨ handed = some batch
  drawn : ∀ batch, handed = some batch → ∃ turn, world.transactions ≤ turn ∧
    turn < after.transactions ∧ service.randomId turn = batch

theorem files_of_untouched (untouched : Untouched world after) :
    service.Files none none world after where
  grows := untouched.grows
  batches batch opened := by
    unfold Store.HasBatch at opened
    rw [untouched.batches] at opened
    exact .inl ⟨opened, by simp⟩
  drawn _ absurd := by cases absurd

/-- An operation whose transaction closes a batch. -/
theorem files_of_discard {store : Store} {checks : Nat} {batchId : String}
    (batches : store.undoBatches = (world.store.discardUndo service.accountId batchId).undoBatches)
    (rest : Untouched { world with store, checks, transactions := world.transactions + 1 } after) :
    service.Files (some batchId) none world after where
  grows := (Nat.le_succ _).trans rest.grows
  batches batch opened := by
    unfold Store.HasBatch at opened ⊢
    rw [rest.batches, batches, Store.find?_undoBatches_discardUndo] at opened
    split at opened
    · cases opened
    · rename_i other
      exact .inl ⟨opened, fun same => other (by rw [Option.some.inj same])⟩
  drawn _ absurd := by cases absurd

theorem files_markRead {ids : List Int} {read automatic : Bool} {snapshot : SnapshotData}
    {receipt : Option MutationReceipt}
    (ran : Returns (service.markRead selection ids retainIds read automatic) world
      (snapshot, receipt) after) :
    service.Files none (receipt.map MutationReceipt.id) world after ∧
      (receipt.isSome → automatic = true) := by
  unfold markRead at ran
  obtain ⟨_, _, lock, ran⟩ := returns_bind.mp ran
  obtain ⟨_, rfl⟩ := returns_lockUntil.mp lock
  obtain ⟨found, _, transacted, ran⟩ := returns_bind.mp ran
  obtain ⟨marked, changed, rfl⟩ := returns_transact.mp transacted
  have rest : LeavesBatches (do
      scheduleFlush (if automatic then automaticFlushDelay else 0)
      service.ensureBefore
      let snapshot ← service.localSnapshot selection (retainIds ++ ids)
      service.ensureBefore
      return (snapshot, found)) :=
    leaves_bind leaves_scheduleFlush fun _ => leaves_bind leaves_ensureBefore fun _ =>
      leaves_bind leaves_localSnapshot fun _ => leaves_bind leaves_ensureBefore fun _ => leaves_pure
  have untouched := rest.returns ran
  obtain ⟨_, _, _, ran⟩ := returns_bind.mp ran
  obtain ⟨_, _, _, ran⟩ := returns_bind.mp ran
  obtain ⟨_, _, _, ran⟩ := returns_bind.mp ran
  obtain ⟨_, _, _, returned⟩ := returns_bind.mp ran
  obtain ⟨same, _⟩ := returns_pure.mp returned
  obtain rfl : found = receipt := congrArg Prod.snd same
  refine ⟨⟨(Nat.le_succ _).trans untouched.grows, ?_, ?_⟩, ?_⟩
  · intro batch opened
    unfold Store.HasBatch at opened
    rw [untouched.batches] at opened
    rcases Store.hasBatch_setRead opened changed with held | ⟨_, rfl, handed, rfl, named⟩
    · exact .inl ⟨held, by simp⟩
    · exact .inr (congrArg some named)
  · intro batch handed
    obtain ⟨receipt, rfl, rfl⟩ := Option.map_eq_some_iff.mp handed
    exact ⟨world.transactions, le_rfl, untouched.grows, (Store.id_receipt changed).symm⟩
  · intro handed
    obtain ⟨_, _, _, _, _, same⟩ := Store.setRead_ok changed
    rw [same] at handed
    split at handed
    · rename_i counted
      exact (Bool.and_eq_true_iff.mp counted).1
    · cases handed

theorem files_undo {receiptId : String} {snapshot : SnapshotData}
    (ran : Returns (service.undo selection receiptId retainIds) world snapshot after) :
    service.Files (some receiptId) none world after := by
  unfold undo at ran
  obtain ⟨_, _, lock, ran⟩ := returns_bind.mp ran
  obtain ⟨_, rfl⟩ := returns_lockUntil.mp lock
  obtain ⟨ids, _, transacted, ran⟩ := returns_bind.mp ran
  obtain ⟨reverted, changed, rfl⟩ := returns_transact.mp transacted
  have rest : LeavesBatches (do
      scheduleFlush 0
      let snapshot ← service.localSnapshot selection (retainIds ++ ids)
      service.ensureBefore
      return snapshot) :=
    leaves_bind leaves_scheduleFlush fun _ => leaves_bind leaves_localSnapshot fun _ =>
      leaves_bind leaves_ensureBefore fun _ => leaves_pure
  refine files_of_discard ?_ (rest.returns ran)
  rw [← Store.undoBatches_undo, Except.ok.inj changed]

theorem files_discardUndo {receiptId : String} {done : Unit}
    (ran : Returns (service.discardUndo receiptId) world done after) :
    service.Files (some receiptId) none world after := by
  unfold discardUndo at ran
  obtain ⟨_, _, lock, ran⟩ := returns_bind.mp ran
  obtain ⟨_, rfl⟩ := returns_lockUntil.mp lock
  obtain ⟨_, _, transacted, ran⟩ := returns_bind.mp ran
  obtain ⟨discarded, changed, rfl⟩ := returns_transact.mp transacted
  cases changed
  exact files_of_discard rfl (leaves_ensureBefore.returns ran)

end Operations
end SyncService

/-! ## Requests -/

/-- The texts of a mutation, as the client writes them. -/
theorem named_mutation {request : Client.CoreRequest} {members : List (String × Json)}
    (written : request.encode = .object members) :
    named "mutationSource" members = (request.mutationSource.map .string).toList ∧
      named "mutationID" members = (request.mutationID.map .string).toList := by
  cases written
  have none : ∀ name, named name (([] : List (Option (String × Json))).filterMap id) = [] :=
    fun _ => rfl
  constructor <;>
    simp (disch := decide) only [named_member_other, named_memberIfSome, named_memberIfSome_other,
      none, List.append_nil]

theorem mutation_of_decode {json : Json} {parsed : Request}
    (decoded : Request.decode json = some parsed) :
    decodeDefault asString "" json "mutationSource" = some parsed.mutationSource ∧
      decodeDefault asString "" json "mutationID" = some parsed.mutationId := by
  iterate 16 obtain ⟨_, _, decoded⟩ := Option.bind_eq_some_iff.mp decoded
  obtain ⟨mutationSource, source, decoded⟩ := Option.bind_eq_some_iff.mp decoded
  obtain ⟨mutationId, id, decoded⟩ := Option.bind_eq_some_iff.mp decoded
  iterate 4 obtain ⟨_, _, decoded⟩ := Option.bind_eq_some_iff.mp decoded
  cases decoded
  exact ⟨source, id⟩

/-- A text that is left out is read as the empty one, and any other as it was written. -/
theorem text_of_found {object : List (String × Json)} {key value : String} {text : Option String}
    (plain : key ≠ "selection")
    (found : (Json.object object).find? key =
      (text.map Json.string).toList.getLast?.bind (canonicalValue key))
    (taken : decodeDefault asString "" (.object object) key = some value) :
    value = text.getD "" := by
  unfold decodeDefault decodeIfPresent at taken
  rw [found] at taken
  cases text with
  | none => exact (Option.some.inj taken).symm
  | some text =>
    rw [show (some text).map Json.string = some (.string text) from rfl, Option.toList_some,
      List.getLast?_singleton, Option.bind_some, canonicalValue, if_neg plain] at taken
    exact (Option.some.inj taken).symm

/-- The core reads the texts of a mutation as the client wrote them. -/
theorem mutation_of_parseRequest {request : Client.CoreRequest} {parsed : Request}
    (read : parseRequest request.encode = some parsed) :
    parsed.mutationSource = request.mutationSource.getD "" ∧
      parsed.mutationId = request.mutationID.getD "" := by
  obtain ⟨object, inserted, decoded⟩ := Option.bind_eq_some_iff.mp read
  obtain ⟨source, id⟩ := mutation_of_decode decoded
  have foundSource := @find?_insertMembers _ _ "mutationSource" inserted (by decide)
  have foundId := @find?_insertMembers _ _ "mutationID" inserted (by decide)
  rw [(named_mutation rfl).1] at foundSource
  rw [(named_mutation rfl).2] at foundId
  exact ⟨text_of_found (by decide) foundSource source, text_of_found (by decide) foundId id⟩

namespace Transport

/-- The batch an operation closes. -/
def Operation.closes : Operation → Option String
  | .undoRead _ mutationId _ | .discardUndo mutationId => some mutationId
  | _ => none

/-- Whether an operation reads automatically, and so opens a batch. -/
def Operation.isAutomatic : Operation → Bool
  | .setRead _ _ _ _ _ mutationSource => mutationSource = "automatic"
  | _ => false

end Transport

/-- The batch a request closes, if the core answers it. -/
def Client.CoreRequest.closes (request : CoreRequest) : Option String :=
  if request.operation = "undo_read" ∨ request.operation = "discard_undo" then
    some (request.mutationID.getD "")
  else none

theorem closes_of_intoOperation {request : CoreRequest} {parsed : Request}
    {operation : Transport.Operation} (read : parseRequest request.encode = some parsed)
    (into : parsed.intoOperation = .ok operation) :
    operation.closes = request.closes ∧
      (operation.isAutomatic = true → request.mutationSource = some "automatic") := by
  obtain ⟨source, id⟩ := mutation_of_parseRequest read
  have named := operation_of_parseRequest read
  unfold Client.CoreRequest.closes
  rw [← named, ← id]
  unfold Request.intoOperation at into
  split at into <;> cases into <;> rename_i same <;>
    simp only [same, Transport.Operation.closes, Transport.Operation.isAutomatic] <;> simp
  -- the one left is `set_read`
  rw [source]
  cases request.mutationSource with
  | none => simp
  | some text => exact fun automatic => congrArg some automatic

section Answers
variable {σ : Type} {engine : SyncService σ} {errors : JsonErrors} {world after : World σ}

theorem files_dispatch {operation : Transport.Operation} {response : Response}
    (ran : AppRuntime.dispatch engine operation world = (response, after)) (ok : response.ok = true) :
    engine.Files operation.closes (response.receipt.map Receipt.id) world after ∧
      (response.receipt.isSome → operation.isAutomatic = true) := by
  have quiet : SyncService.Untouched world after → engine.Files none none world after :=
    SyncService.files_of_untouched
  cases operation with
  | localSnapshot selection retainEntryIds =>
    obtain ⟨data, returned, rfl⟩ := respond_ok ran ok
    exact ⟨quiet (SyncService.leaves_localSnapshotUntil.returns returned), fun absurd => by cases absurd⟩
  | refresh selection retainEntryIds =>
    obtain ⟨result, returned, rfl⟩ := respond_ok ran ok
    have files := quiet (SyncService.leaves_sync.returns returned)
    cases result <;> exact ⟨files, fun absurd => by cases absurd⟩
  | setRead selection entryId entryIds retainEntryIds read mutationSource =>
    unfold AppRuntime.dispatch AppRuntime.setRead at ran
    dsimp only at ran
    generalize (if entryIds.isEmpty && decide (0 < entryId) then [entryId] else entryIds) = ids
      at ran
    split at ran
    · cases ran
      cases ok
    · obtain ⟨⟨data, receipt⟩, returned, rfl⟩ := respond_ok ran ok
      obtain ⟨files, automatic⟩ := SyncService.files_markRead returned
      refine ⟨?_, fun handed => ?_⟩
      · dsimp only
        rw [Option.map_map]
        exact files
      · exact automatic (by simpa using handed)
  | setStarred selection entryId retainEntryIds desiredStarred =>
    obtain ⟨data, returned, rfl⟩ := respond_ok ran ok
    exact ⟨quiet (SyncService.leaves_setStarred.returns returned), fun absurd => by cases absurd⟩
  | undoRead selection mutationId retainEntryIds =>
    obtain ⟨data, returned, rfl⟩ := respond_ok ran ok
    exact ⟨SyncService.files_undo returned, fun absurd => by cases absurd⟩
  | discardUndo mutationId =>
    obtain ⟨_, returned, rfl⟩ := respond_ok ran ok
    exact ⟨SyncService.files_discardUndo returned, fun absurd => by cases absurd⟩
  | flushPending selection retainEntryIds =>
    obtain ⟨data, returned, rfl⟩ := respond_ok ran ok
    exact ⟨quiet (SyncService.leaves_flushAndSnapshot.returns returned),
      fun absurd => by cases absurd⟩

/-- What becomes of the batches in a request that is answered well: it opens the one of its
receipt, and closes the one it names. -/
theorem files_request {request : CoreRequest} {received : CoreResponse}
    (ran : GoCore.request engine errors request world = (.ok received, after)) :
    engine.Files request.closes (received.receipt.map Client.MutationReceipt.id) world after ∧
      (received.receipt.isSome → request.mutationSource = some "automatic") := by
  obtain ⟨response, handled, ok, decoded⟩ := received_request ran
  obtain ⟨parsed, operation, read, into, dispatched⟩ := dispatched_of_handleJson handled ok
  obtain ⟨closes, automatic⟩ := closes_of_intoOperation read into
  obtain ⟨files, source⟩ := files_dispatch dispatched ok
  have same : received.receipt = response.receipt.map fun receipt => ⟨receipt.id, receipt.count⟩ := by
    rcases presents_dispatch dispatched ok with
      ⟨_, _, data, error, receipt, _, _, rfl⟩ | ⟨rfl, _, _⟩
    · rw [decode_snapshotResponse] at decoded
      split at decoded
      · cases decoded
      · cases decoded
        rfl
    · cases decoded
      rfl
  rw [same, Option.map_map, ← closes]
  refine ⟨files, fun handed => automatic (source ?_)⟩
  rwa [Option.isSome_map] at handed

end Answers

/-! ## Who holds a batch -/

namespace Client

/-- The batch a task is to close. -/
def CoreTask.closes : CoreTask → Option String
  | .discardUndo id | .undoAutomaticRead _ _ id => some id
  | _ => none

/-- A request carried from the start closes no batch and opens none; those that do are put
together by their tasks. -/
def CoreTask.Modest (task : CoreTask) : Prop :=
  ∀ request, task.carried = some request →
    request.closes = none ∧ request.mutationSource ≠ some "automatic"

/-- A request of a task closes its batch, and opens one only where its receipt is awaited. -/
structure CoreTask.Asks (task : CoreTask) (request : CoreRequest) : Prop where
  closes : request.closes = task.closes
  automatic : request.mutationSource = some "automatic" →
    ∃ route mutation ids, task = .markReadAutomatically route mutation ids

theorem asks_request {store : BrowserStore} {task : CoreTask} (modest : task.Modest) :
    task.Asks (store.request task) := by
  cases task with
  | refresh route generation request origin | mutate route mutation request =>
    obtain ⟨closes, manual⟩ := modest request rfl
    exact ⟨closes, fun automatic => absurd automatic manual⟩
  | markReadAutomatically route mutation ids =>
    exact ⟨by simp [BrowserStore.request, CoreRequest.closes, CoreTask.closes],
      fun _ => ⟨route, mutation, ids, rfl⟩⟩
  | loadLocalThenRefresh | reloadLocal | undoAutomaticRead | discardUndo =>
    exact ⟨by simp [BrowserStore.request, CoreRequest.closes, CoreTask.closes],
      fun automatic => by cases automatic⟩

/-- The batch of the banner. -/
def BrowserStore.banner (store : BrowserStore) : List String :=
  (store.automaticReadUndo.map AutomaticReadUndo.id).toList

end Client

/-- The batch a task holds: one it is to close, until it has, or one its response hands out. -/
def heldBatch : CoreTask × Phase → Option String
  | (task, .created) | (task, .sent _) => task.closes
  | (.markReadAutomatically _ _ _, .answered (.ok response) _ _) =>
    response.receipt.map Client.MutationReceipt.id
  | _ => none

/-- The batches of the banner and the tasks: whoever holds one will close it, or hand it on.
-/
def Popover.heldBatches {σ : Type} (state : Popover σ) : List String :=
  state.browser.banner ++ state.tasks.filterMap heldBatch

namespace Client.BrowserStore
variable {store after : BrowserStore}

/-- A call passes the batch of the banner on to the tasks it creates, if it does not keep it. -/
structure Passes (store : BrowserStore) (result : BrowserStore × List CoreTask) : Prop where
  held : (result.1.banner ++ result.2.filterMap CoreTask.closes).Perm store.banner
  modest : ∀ task ∈ result.2, task.Modest

theorem passes_of_same {tasks : List CoreTask}
    (same : after.automaticReadUndo = store.automaticReadUndo)
    (plain : ∀ task ∈ tasks, task.closes = none ∧ task.Modest) : store.Passes (after, tasks) := by
  refine ⟨?_, fun task listed => (plain task listed).2⟩
  have none : tasks.filterMap CoreTask.closes = [] :=
    List.filterMap_eq_nil_iff.mpr fun task listed => (plain task listed).1
  rw [none, List.append_nil]
  refine .of_eq ?_
  unfold banner
  rw [same]

theorem passes_refl : store.Passes (store, []) := passes_of_same rfl (by simp)

theorem Passes.of_same {result : BrowserStore × List CoreTask} (passes : after.Passes result)
    (same : after.automaticReadUndo = store.automaticReadUndo) : store.Passes result := by
  refine ⟨passes.held.trans (.of_eq ?_), passes.modest⟩
  unfold banner
  rw [same]

theorem Passes.followedBy {result : BrowserStore × List CoreTask}
    {next : BrowserStore → BrowserStore × List CoreTask} (first : store.Passes result)
    (second : result.1.Passes (next result.1)) : store.Passes (followedBy result next) := by
  constructor
  · change ((next result.1).1.banner ++ (result.2 ++ (next result.1).2).filterMap _).Perm _
    rw [List.filterMap_append]
    refine .trans ?_ first.held
    refine .trans ?_ (second.held.append_right _)
    rw [List.append_assoc]
    exact List.perm_append_comm.append_left _
  · exact List.forall_mem_append.mpr ⟨first.modest, second.modest⟩

/-! ### Triggers -/

theorem modest_refresh {route generation : Nat} {selection : ArticleSelection}
    {retained : List Int} {origin : RefreshOrigin} : CoreTask.Modest (.refresh route generation
      { operation := "refresh", selection, retainEntryIDs := retained } origin) := by
  rintro _ ⟨⟩
  simp [CoreRequest.closes]

theorem passes_refreshSelection {selection : ArticleSelection} {route : Nat} {retained : List Int}
    {origin : RefreshOrigin} :
    store.Passes (store.refreshSelection selection route retained origin) :=
  passes_of_same rfl (by simp [CoreTask.closes, modest_refresh])

theorem passes_loadLocalThenRefresh : store.Passes store.loadLocalThenRefresh :=
  passes_of_same rfl (by simp [CoreTask.closes, CoreTask.Modest, CoreTask.carried])

theorem passes_navigate {selection : ArticleSelection} {resetPresentation : Bool} :
    store.Passes (store.navigate selection resetPresentation) := by
  unfold navigate
  cases resetPresentation <;> exact passes_loadLocalThenRefresh.of_same rfl

theorem passes_mutate {request : CoreRequest} (closes : request.closes = none)
    (manual : request.mutationSource ≠ some "automatic") : store.Passes (store.mutate request) := by
  refine passes_of_same rfl ?_
  rintro task listed
  cases List.mem_singleton.mp listed
  refine ⟨rfl, ?_⟩
  rintro _ ⟨⟩
  exact ⟨closes, manual⟩

theorem passes_setRead {article : Article} {read : Bool} :
    store.Passes (store.setRead article read) :=
  (passes_mutate (by simp [CoreRequest.closes]) (by simp)).of_same rfl

theorem passes_openArticle {article : Article} : store.Passes (store.openArticle article) := by
  unfold openArticle
  split
  · exact passes_refl
  · exact passes_setRead

theorem passes_markReadAutomatically {entryIDs : List Int} :
    store.Passes (store.markReadAutomatically entryIDs) := by
  unfold markReadAutomatically
  dsimp only
  split_ifs
  · exact passes_refl
  · exact passes_of_same rfl (by simp [CoreTask.closes, CoreTask.Modest, CoreTask.carried])
  · exact passes_refl

/-- The banner goes, and its batch with a task. -/
theorem passes_undo {undo : AutomaticReadUndo} {task : CoreTask}
    (shown : store.automaticReadUndo = some undo) (gone : after.automaticReadUndo = none)
    (closes : task.closes = some undo.id) (modest : task.Modest) : store.Passes (after, [task]) := by
  constructor
  · refine .of_eq ?_
    unfold banner
    rw [gone, shown]
    simp [closes]
  · simpa using modest

theorem passes_undoAutomaticRead : store.Passes store.undoAutomaticRead := by
  unfold undoAutomaticRead
  split
  · exact passes_refl
  · rename_i undo shown
    exact passes_undo shown rfl rfl (by simp [CoreTask.Modest, CoreTask.carried])

theorem passes_expireUndo : store.Passes store.expireUndo := by
  unfold expireUndo
  split
  · rename_i undo shown
    exact passes_undo shown rfl rfl (by simp [CoreTask.Modest, CoreTask.carried])
  · exact passes_refl

theorem passes_setMarkReadOnScrolloverEnabled {enabled : Bool} :
    store.Passes (store.setMarkReadOnScrolloverEnabled enabled) := by
  unfold setMarkReadOnScrolloverEnabled
  dsimp only
  split_ifs
  · exact passes_refl
  · exact passes_of_same rfl (by simp)
  · exact passes_expireUndo.of_same rfl

theorem passes_refresh : store.Passes store.refresh := by
  unfold refresh
  split
  · exact passes_refreshSelection.of_same rfl
  · exact passes_of_same rfl (by simp)

theorem passes_refreshInBackground : store.Passes store.refreshInBackground := by
  unfold refreshInBackground
  split
  · exact passes_refl
  · exact passes_refreshSelection

theorem passes_refreshIfStale {stale : Bool} : store.Passes (store.refreshIfStale stale) := by
  cases stale
  · exact passes_of_same rfl (by simp)
  · exact passes_refreshInBackground.of_same rfl

theorem passes_route {route : NavigationRoute} : store.Passes (store.route route) := by
  unfold BrowserStore.route
  split
  · split
    · exact passes_openArticle
    · exact passes_refl
  · split
    · exact passes_refl
    · dsimp only
      split
      · exact passes_navigate.of_same rfl
      · exact passes_of_same rfl (by simp)

theorem passes_setUnreadOnly {unreadOnly : Bool} : store.Passes (store.setUnreadOnly unreadOnly) := by
  unfold setUnreadOnly
  split
  · exact passes_navigate.of_same rfl
  · exact passes_refl

theorem passes_resumeAfterConfiguration : store.Passes store.resumeAfterConfiguration := by
  have asked : ∀ store : BrowserStore, store.Passes (if store.refreshWhenConfigured then
      refresh { store with refreshWhenConfigured := false } else (store, [])) := by
    intro store
    split
    · exact passes_refresh.of_same rfl
    · exact passes_refl
  unfold resumeAfterConfiguration
  refine Passes.followedBy ?_ (asked _)
  dsimp only
  split
  · exact passes_navigate.of_same rfl
  · exact passes_loadLocalThenRefresh.of_same rfl

theorem passes_perform (trigger : Trigger) : store.Passes (store.perform trigger) := by
  cases trigger with
  | resumeAfterConfiguration => exact passes_resumeAfterConfiguration
  | refresh => exact passes_refresh
  | refreshInBackground => exact passes_refreshInBackground
  | refreshIfStale stale => exact passes_refreshIfStale
  | setPopoverVisible visible => exact passes_of_same rfl (by simp)
  | setMarkReadOnScrolloverEnabled enabled => exact passes_setMarkReadOnScrolloverEnabled
  | route route => exact passes_route
  | setUnreadOnly unreadOnly => exact passes_setUnreadOnly
  | openArticle article => exact passes_openArticle
  | setRead article read => exact passes_setRead
  | setStarred article starred => exact passes_mutate (by simp [CoreRequest.closes]) (by simp)
  | markReadAutomatically entryIDs => exact passes_markReadAutomatically
  | undoAutomaticRead => exact passes_undoAutomaticRead
  | expireUndo => exact passes_expireUndo

/-! ### Responses -/

/-- A response that hands a receipt out leaves its batch with the banner or a task. -/
structure Receives (store : BrowserStore) (handed : Option String)
    (result : BrowserStore × List CoreTask) : Prop where
  held : (result.1.banner ++ result.2.filterMap CoreTask.closes).Perm (store.banner ++ handed.toList)
  modest : ∀ task ∈ result.2, task.Modest

theorem Passes.receives {result : BrowserStore × List CoreTask} (passes : store.Passes result) :
    store.Receives none result :=
  ⟨by simpa using passes.held, passes.modest⟩

@[simp] theorem automaticReadUndo_apply {response : CoreResponse} {structural : Bool} :
    (store.apply response structural).automaticReadUndo = store.automaticReadUndo := by
  unfold BrowserStore.apply
  cases response.snapshot with
  | none => rfl
  | some snapshot => cases structural <;> rfl

/-- The banner before goes to a task of its own, which gives its batch up. -/
theorem receives_showUndo {receipt : Client.MutationReceipt} (fresh : receipt.id ∉ store.banner) :
    store.Receives (some receipt.id) (store.showUndo receipt) := by
  unfold showUndo
  cases shown : store.automaticReadUndo with
  | none => exact ⟨.of_eq (by simp [banner, shown]), by simp⟩
  | some previous =>
    have other : previous.id ≠ receipt.id := by
      intro same
      exact fresh (by simp [banner, shown, same])
    dsimp only
    rw [if_pos other]
    refine ⟨?_, by simp [CoreTask.Modest, CoreTask.carried]⟩
    simpa [banner, shown, CoreTask.closes] using List.Perm.swap previous.id receipt.id []

/-- A receipt too small for the banner, or too late, goes to a task that discards it. -/
theorem receives_discard {tasks : List CoreTask} {handed : Option String}
    (same : after.automaticReadUndo = store.automaticReadUndo)
    (closes : tasks.filterMap CoreTask.closes = handed.toList)
    (modest : ∀ task ∈ tasks, task.Modest) : store.Receives handed (after, tasks) := by
  refine ⟨.of_eq ?_, modest⟩
  unfold banner
  rw [closes, same]

theorem passes_finish {task : CoreTask} {outcome : Except GoCoreError CoreResponse}
    (other : ∀ route mutation ids, task ≠ .markReadAutomatically route mutation ids) :
    store.Passes (store.finish task outcome) := by
  cases task with
  | markReadAutomatically route mutation ids => exact absurd rfl (other route mutation ids)
  | loadLocalThenRefresh route selected =>
    unfold finish
    dsimp only
    split
    · have next : ∀ answered : BrowserStore, answered.automaticReadUndo = store.automaticReadUndo →
          store.Passes (if answered.isPopoverVisible then (answered, [])
            else answered.refreshSelection selected route answered.retainedEntryIDs .startup) := by
        intro answered same
        split
        · exact passes_of_same same (by simp)
        · exact passes_refreshSelection.of_same same
      cases outcome with
      | error failure => exact next _ rfl
      | ok response => exact next _ automaticReadUndo_apply
    · exact passes_refl
  | refresh route generation request origin =>
    unfold finish
    dsimp only
    split
    · cases outcome with
      | error failure => exact passes_of_same rfl (by simp)
      | ok response =>
        dsimp only
        split <;> exact passes_of_same automaticReadUndo_apply (by simp)
    · exact passes_refl
  | mutate route mutation request =>
    unfold finish
    dsimp only
    split
    · cases outcome with
      | error failure => exact passes_of_same rfl (by simp)
      | ok response => exact passes_of_same automaticReadUndo_apply (by simp)
    · cases outcome with
      | error failure => exact passes_refl
      | ok response =>
        refine passes_of_same rfl ?_
        split <;> simp [CoreTask.closes, CoreTask.Modest, CoreTask.carried]
  | undoAutomaticRead route mutation undo =>
    unfold finish
    dsimp only
    split
    · cases outcome with
      | error failure => exact passes_of_same rfl (by simp)
      | ok response => exact passes_of_same automaticReadUndo_apply (by simp)
    · exact passes_refl
  | reloadLocal route selected =>
    unfold finish
    cases outcome with
    | error failure => exact passes_refl
    | ok response =>
      dsimp only
      split
      · exact passes_of_same automaticReadUndo_apply (by simp)
      · exact passes_refl
  | discardUndo id => exact passes_refl

/-- The answer of an automatic read change: its receipt is shown, or discarded. -/
theorem receives_markReadAutomatically {route mutation : Nat} {ids : List Int}
    {response : CoreResponse}
    (fresh : ∀ receipt, response.receipt = some receipt → receipt.id ∉ store.banner) :
    store.Receives (response.receipt.map Client.MutationReceipt.id)
      (store.finish (.markReadAutomatically route mutation ids) (.ok response)) := by
  have discarded : ∀ receipt : Client.MutationReceipt,
      ∀ task ∈ [CoreTask.discardUndo receipt.id], task.Modest := by
    simp [CoreTask.Modest, CoreTask.carried]
  unfold finish
  dsimp only
  split
  · cases handed : response.receipt with
    | none => exact receives_discard automaticReadUndo_apply rfl (by simp)
    | some receipt =>
      dsimp only
      split
      · have shows := @receives_showUndo (store.apply response false) receipt
          (by simpa [banner] using fresh receipt handed)
        refine ⟨shows.held.trans (.of_eq ?_), shows.modest⟩
        simp [banner]
      · exact receives_discard automaticReadUndo_apply rfl (discarded receipt)
  · refine receives_discard rfl ?_ ?_
    · cases response.receipt <;> split <;> rfl
    · cases response.receipt <;> split <;> simp [CoreTask.Modest, CoreTask.carried]

theorem receives_finish {task : CoreTask} {outcome : Except GoCoreError CoreResponse}
    {earlier later : Store}
    (fresh : ∀ id ∈ heldBatch (task, .answered outcome earlier later), id ∉ store.banner) :
    store.Receives (heldBatch (task, .answered outcome earlier later))
      (store.finish task outcome) := by
  cases task with
  | markReadAutomatically route mutation ids =>
    cases outcome with
    | error failure =>
      unfold finish
      dsimp only
      split
      · refine Passes.receives (passes_of_same rfl ?_)
        simp
      · exact passes_refl.receives
    | ok response =>
      refine receives_markReadAutomatically fun receipt handed => fresh receipt.id ?_
      simp [heldBatch, handed]
  | loadLocalThenRefresh | refresh | mutate | undoAutomaticRead | reloadLocal | discardUndo =>
    cases outcome <;>
      exact Passes.receives (passes_finish fun _ _ _ absurd => (by cases absurd))

end Client.BrowserStore

/-! ## The batches are accounted for -/

section Popovers
variable {σ : Type} {engine : SyncService σ} {errors : JsonErrors} {first : Store}
  {admitted : Popover σ → Handling → Prop} {state after : Popover σ}

/-- Each batch is held once at most, under an id drawn before, and each open batch is held, if it
was not there at first. -/
structure Popover.Filed (engine : SyncService σ) (first : Store) (state : Popover σ) : Prop where
  modest : ∀ entry ∈ state.tasks, entry.1.Modest
  asks : ∀ entry ∈ state.tasks, ∀ request, entry.2 = .sent request → entry.1.Asks request
  drawn : ∀ batch ∈ state.heldBatches, ∃ turn < state.world.transactions,
    engine.randomId turn = batch
  distinct : state.heldBatches.Nodup
  filed : ∀ batch, state.world.store.HasBatch engine.accountId batch →
    first.HasBatch engine.accountId batch ∨ batch ∈ state.heldBatches

theorem filterMap_created {tasks : List CoreTask} :
    (created tasks).filterMap heldBatch = tasks.filterMap CoreTask.closes := by
  unfold created
  rw [List.filterMap_map]
  rfl

theorem asks_created {tasks : List CoreTask} {request : CoreRequest} :
    ∀ entry ∈ created tasks, entry.2 ≠ .sent request := by
  intro entry listed
  obtain ⟨task, _, rfl⟩ := List.mem_map.mp listed
  simp

theorem modest_created {tasks : List CoreTask} (modest : ∀ task ∈ tasks, task.Modest) :
    ∀ entry ∈ created tasks, entry.1.Modest := by
  intro entry listed
  obtain ⟨task, member, rfl⟩ := List.mem_map.mp listed
  exact modest task member

/-- A step that draws no id and opens no batch keeps the account, if it passes on what is held. -/
theorem Popover.Filed.passed (filed : state.Filed engine first)
    (modest : ∀ entry ∈ after.tasks, entry.1.Modest)
    (asks : ∀ entry ∈ after.tasks, ∀ request, entry.2 = .sent request → entry.1.Asks request)
    (held : after.heldBatches.Perm state.heldBatches)
    (untouched : SyncService.Untouched state.world after.world) : after.Filed engine first where
  modest := modest
  asks := asks
  drawn batch listed := by
    obtain ⟨turn, earlier, drawn⟩ := filed.drawn batch (held.mem_iff.mp listed)
    exact ⟨turn, earlier.trans_le untouched.grows, drawn⟩
  distinct := held.nodup_iff.mpr filed.distinct
  filed batch opened := by
    unfold Store.HasBatch at opened
    rw [untouched.batches] at opened
    exact (filed.filed batch opened).imp_right held.mem_iff.mpr

/-- What a sent request holds once it is answered well. -/
theorem heldBatch_answered {task : CoreTask} {request : CoreRequest} {response : CoreResponse}
    {earlier later : Store} (asks : task.Asks request)
    (automatic : response.receipt.isSome → request.mutationSource = some "automatic") :
    heldBatch (task, .answered (.ok response) earlier later) =
      response.receipt.map Client.MutationReceipt.id := by
  cases handed : response.receipt with
  | none => cases task <;> simp [heldBatch, handed]
  | some receipt =>
    obtain ⟨_, _, _, rfl⟩ := asks.automatic (automatic (by simp [handed]))
    simp [heldBatch, handed]

theorem filed_execute {left right : List (CoreTask × Phase)} {task : CoreTask}
    {request : CoreRequest} {response : CoreResponse} {world : World σ}
    (distinct : Function.Injective engine.randomId) (filed : state.Filed engine first)
    (pending : state.tasks = left ++ (task, .sent request) :: right)
    (ran : GoCore.request engine errors request state.world = (.ok response, world)) :
    Popover.Filed engine first { state with
      world
      tasks := left ++ (task, .answered (.ok response) state.world.store world.store) :: right } := by
  have asks := filed.asks (task, .sent request) (by simp [pending]) request rfl
  obtain ⟨files, automatic⟩ := files_request ran
  have handed := @heldBatch_answered task request response state.world.store world.store asks automatic
  have before : ∀ batch, state.heldBatches.count batch =
      state.browser.banner.count batch + ((left ++ right).filterMap heldBatch).count batch +
        task.closes.toList.count batch := by
    intro batch
    unfold Popover.heldBatches
    rw [pending, List.count_append, Places.count_filterMap_place, Nat.add_assoc]
    rfl
  have afterwards : ∀ batch, (Popover.heldBatches { state with
      world
      tasks := left ++ (task, .answered (.ok response) state.world.store world.store) :: right }).count
        batch = state.browser.banner.count batch +
          ((left ++ right).filterMap heldBatch).count batch +
          (response.receipt.map Client.MutationReceipt.id).toList.count batch := by
    intro batch
    unfold Popover.heldBatches
    rw [List.count_append, Places.count_filterMap_place, Nat.add_assoc, handed]
  -- an id drawn now is one that nothing holds
  have fresh : ∀ batch, response.receipt.map Client.MutationReceipt.id = some batch →
      state.heldBatches.count batch = 0 := by
    intro batch drawn
    refine List.count_eq_zero.mpr fun listed => ?_
    obtain ⟨turn, earlier, same⟩ := filed.drawn batch listed
    obtain ⟨later, bound, _, also⟩ := files.drawn batch drawn
    have equal := distinct (same.trans also.symm)
    omega
  have once : ∀ batch, state.heldBatches.count batch ≤ 1 :=
    List.nodup_iff_count_le_one.mp filed.distinct
  constructor
  · have modest := filed.modest
    rw [pending, Places.forall_mem_place] at modest
    exact Places.forall_mem_place.mpr modest
  · have others := filed.asks
    rw [pending, Places.forall_mem_place] at others
    exact Places.forall_mem_place.mpr ⟨fun _ absurd => (by cases absurd), others.2⟩
  · intro batch listed
    have counted := List.count_pos_iff.mpr listed
    rw [afterwards] at counted
    by_cases drawn : response.receipt.map Client.MutationReceipt.id = some batch
    · obtain ⟨turn, _, earlier, same⟩ := files.drawn batch drawn
      exact ⟨turn, earlier, same⟩
    · have none : (response.receipt.map Client.MutationReceipt.id).toList.count batch = 0 :=
        List.count_eq_zero.mpr fun held => drawn (Option.mem_toList.mp held)
      have held : batch ∈ state.heldBatches := List.count_pos_iff.mp (by rw [before]; omega)
      obtain ⟨turn, earlier, same⟩ := filed.drawn batch held
      exact ⟨turn, earlier.trans_le files.grows, same⟩
  · refine List.nodup_iff_count_le_one.mpr fun batch => ?_
    rw [afterwards]
    have bound := once batch
    rw [before] at bound
    by_cases drawn : response.receipt.map Client.MutationReceipt.id = some batch
    · have unheld := fresh batch drawn
      rw [before] at unheld
      rw [drawn, Option.toList_some, List.count_singleton_self]
      omega
    · have none : (response.receipt.map Client.MutationReceipt.id).toList.count batch = 0 :=
        List.count_eq_zero.mpr fun held => drawn (Option.mem_toList.mp held)
      omega
  · intro batch opened
    rcases files.batches batch opened with ⟨held, other⟩ | drawn
    · refine (filed.filed batch held).imp_right fun listed => ?_
      have counted := List.count_pos_iff.mpr listed
      have elsewhere : task.closes.toList.count batch = 0 := by
        refine List.count_eq_zero.mpr fun closed => other ?_
        rw [asks.closes]
        exact Option.mem_toList.mp closed
      rw [before] at counted
      exact List.count_pos_iff.mp (by rw [afterwards]; omega)
    · refine .inr (List.count_pos_iff.mp ?_)
      rw [afterwards, drawn, Option.toList_some, List.count_singleton_self]
      omega

theorem filed_handle {left right : List (CoreTask × Phase)} {task : CoreTask}
    {outcome : Except GoCoreError CoreResponse} {earlier later : Store}
    (filed : state.Filed engine first)
    (pending : state.tasks = left ++ (task, .answered outcome earlier later) :: right) :
    Popover.Filed engine first { state with
      browser := (state.browser.finish task outcome).1
      tasks := left ++ right ++ created (state.browser.finish task outcome).2 } := by
  have once := List.nodup_iff_count_le_one.mp filed.distinct
  have before : ∀ batch, state.heldBatches.count batch =
      state.browser.banner.count batch + (((left ++ right).filterMap heldBatch).count batch +
        (heldBatch (task, .answered outcome earlier later)).toList.count batch) := by
    intro batch
    unfold Popover.heldBatches
    rw [pending, List.count_append, Places.count_filterMap_place]
  have receives := @BrowserStore.receives_finish state.browser task outcome earlier later (by
    intro batch handed listed
    have bound := once batch
    have shown := List.count_pos_iff.mpr listed
    rw [before, Option.mem_def.mp handed, Option.toList_some, List.count_singleton_self] at bound
    omega)
  have modest := filed.modest
  have asks := filed.asks
  rw [pending, Places.forall_mem_place] at modest asks
  refine filed.passed ?_ ?_ ?_ ⟨le_rfl, rfl⟩
  · exact List.forall_mem_append.mpr ⟨modest.2, modest_created receives.modest⟩
  · refine List.forall_mem_append.mpr ⟨asks.2, fun entry listed request sent => ?_⟩
    exact absurd sent (asks_created entry listed)
  · refine List.perm_iff_count.mpr fun batch => ?_
    have passed := receives.held.count_eq batch
    rw [List.count_append, List.count_append] at passed
    rw [before]
    unfold Popover.heldBatches
    dsimp only
    rw [List.filterMap_append, filterMap_created, List.count_append, List.count_append]
    omega

theorem filed_step (distinct : Function.Injective engine.randomId)
    (filed : state.Filed engine first) (step : Popover.Step engine errors admitted state after) :
    after.Filed engine first := by
  cases step with
  | trigger trigger =>
    have passes := @BrowserStore.passes_perform state.browser trigger
    refine filed.passed ?_ ?_ ?_ ⟨le_rfl, rfl⟩
    · exact List.forall_mem_append.mpr ⟨filed.modest, modest_created passes.modest⟩
    · refine List.forall_mem_append.mpr ⟨filed.asks, fun entry listed request sent => ?_⟩
      exact absurd sent (asks_created entry listed)
    · refine List.perm_iff_count.mpr fun batch => ?_
      have passed := passes.held.count_eq batch
      rw [List.count_append] at passed
      unfold Popover.heldBatches
      dsimp only
      rw [List.filterMap_append, filterMap_created, List.count_append, List.count_append,
        List.count_append]
      omega
  | @start left right task pending =>
    have modest := filed.modest
    have asks := filed.asks
    rw [pending, Places.forall_mem_place] at modest asks
    refine filed.passed (Places.forall_mem_place.mpr modest) ?_ (.of_eq ?_) ⟨le_rfl, rfl⟩
    · refine Places.forall_mem_place.mpr ⟨?_, asks.2⟩
      rintro _ ⟨⟩
      exact asks_request modest.1
    · unfold Popover.heldBatches
      rw [pending, List.filterMap_append, List.filterMap_cons, List.filterMap_append,
        List.filterMap_cons]
      rfl
  | execute pending ran _ => exact filed_execute distinct filed pending ran
  | handle pending _ => exact filed_handle filed pending
  | flush =>
    exact filed.passed filed.modest filed.asks (.refl _) (SyncService.leaves_flush state.world)
  | remote remote => exact filed.passed filed.modest filed.asks (.refl _) ⟨le_rfl, rfl⟩

/-- However triggers, tasks, the core, flushes and responses interleave, while the core makes no
error: each batch is held once at most, by the banner, a receipt on its way, or a request that will
close it; each batch opened since the start and still open is held; and once every response is
handled and the banner is gone, none of them is open. -/
theorem undo_batches_accounted (distinct : Function.Injective engine.randomId)
    {start : Popover σ} (initial : (popovers engine errors admitted).initial start)
    (ran : Relation.ReflTransGen (Popover.Step engine errors admitted) start state) :
    state.heldBatches.Nodup ∧
    (∀ batch, state.world.store.HasBatch engine.accountId batch →
      start.world.store.HasBatch engine.accountId batch ∨ batch ∈ state.heldBatches) ∧
    (state.tasks = [] → state.browser.automaticReadUndo = none →
      ∀ batch, state.world.store.HasBatch engine.accountId batch →
        start.world.store.HasBatch engine.accountId batch) := by
  have filed : state.Filed engine start.world.store := by
    induction ran with
    | refl =>
      obtain ⟨⟨enabled, preferences, started⟩, idle, _⟩ := initial
      have none : start.heldBatches = [] := by
        unfold Popover.heldBatches
        rw [started, idle]
        rfl
      constructor <;> simp_all
    | tail _ step ih => exact filed_step distinct ih step
  refine ⟨filed.distinct, filed.filed, fun idle gone batch opened => ?_⟩
  refine (filed.filed batch opened).resolve_right fun held => ?_
  unfold Popover.heldBatches BrowserStore.banner at held
  rw [idle, gone] at held
  cases held

end Popovers

/-! ### A batch on its way to the popover -/

/-- A service whose receipt ids differ. -/
def countingService : SyncService RemoteAccount :=
  { timelyService with randomId := fun turn => String.ofList (List.replicate turn '0') }

/-- The article read automatically. -/
def announcedStore : Store :=
  filedStore.commit ((filedStore.setRead (fun _ => "t") "0" "account" [1] true true).map Prod.fst)

theorem setRead_announced : filedStore.setRead (fun _ => "t") "0" "account" [1] true true =
    .ok (announcedStore, some ⟨"0", 1⟩) := by
  have receipt : (filedStore.setRead (fun _ => "t") "0" "account" [1] true true).map Prod.snd =
      .ok (some ⟨"0", 1⟩) := by decide
  obtain ⟨⟨store, _⟩, ran, rfl⟩ := map_eq_ok.mp receipt
  have same : announcedStore = store := by
    unfold announcedStore
    rw [ran]
    rfl
  rw [ran, same]

/-- No snapshot looks at the undo tables. -/
theorem localSnapshot_withUndo (store : Store) (batches : Relational.Table UndoBatchRow.key)
    (items : Relational.Table UndoItemRow.key) (scan : Scan) (accountId : String)
    (selection : Selection) (newestFirst : Bool) (retainIds : List Int) :
    Store.localSnapshot { store with undoBatches := batches, undoItems := items } scan accountId
      selection newestFirst retainIds =
    store.localSnapshot scan accountId selection newestFirst retainIds := rfl

theorem snapshot_announced :
    announcedStore.localSnapshot .storage "account" (.all 0 true) true [1, 1] =
      .ok retainedSnapshot := by
  have entries : announcedStore.entries = retainedStore.entries := by
    ext1
    decide
  have pending : announcedStore.pendingMutations = retainedStore.pendingMutations := by
    ext1
    decide
  have same : announcedStore = { retainedStore with
      undoBatches := announcedStore.undoBatches, undoItems := announcedStore.undoItems } := by
    ext1
    · rfl
    · rfl
    · rfl
    · rfl
    · exact entries
    · exact pending
    · rfl
    · rfl
    · rfl
  rw [same, localSnapshot_withUndo]
  exact snapshot_retained

section Announced
variable {errors : JsonErrors} {world : World RemoteAccount}

theorem counting_load (stored : world.store = filedStore) :
    GoCore.request countingService errors loadRequest world = (.ok (listing filedSnapshot),
      world.loaded) := by
  have read : parseRequest loadRequest.encode =
      some { operation := "local_snapshot", selection := ⟨"all", 0, true⟩ } := by decide
  have ran : Returns (countingService.localSnapshotUntil (.all 0 true) []) world filedSnapshot
      world.loaded := by
    refine returns_bind.mpr ⟨(), _, SyncService.returns_lockUntil.mpr ⟨rfl, rfl⟩, ?_⟩
    refine returns_bind.mpr ⟨filedSnapshot, _, SyncService.returns_consult.mpr ⟨?_, rfl⟩, ?_⟩
    · rw [stored]
      exact snapshot_filed []
    · refine returns_bind.mpr ⟨(), _, SyncService.returns_ensureBefore.mpr ⟨rfl, rfl⟩, ?_⟩
      exact returns_pure.mpr ⟨rfl, rfl⟩
  exact request_of_dispatch read rfl (respond_of_returns ran) (by decide)

/-- What reading the article automatically asks for. -/
def automaticRequest : CoreRequest := { readRequest with mutationSource := some "automatic" }

/-- Its response. -/
def announcement : CoreResponse := { listing retainedSnapshot with receipt := some ⟨"0", 1⟩ }

/-- The core after it. -/
def World.announced (world : World RemoteAccount) : World RemoteAccount :=
  { world with
    store := announcedStore, transactions := world.transactions + 2
    checks := world.checks + 3, requested := 10 :: world.requested }

theorem counting_read (stored : world.store = filedStore) (second : world.transactions = 1) :
    GoCore.request countingService errors automaticRequest world =
      (.ok announcement, world.announced) := by
  have read : parseRequest automaticRequest.encode = some {
      operation := "set_read", selection := ⟨"all", 0, true⟩, entryIds := [1]
      retainEntryIds := [1], read := true, mutationSource := "automatic" } := by decide
  have ran : Returns (countingService.markRead (.all 0 true) [1] [1] true true) world
      (retainedSnapshot, some ⟨"0", 1⟩) world.announced := by
    refine returns_bind.mpr ⟨(), _, SyncService.returns_lockUntil.mpr ⟨rfl, rfl⟩, ?_⟩
    refine returns_bind.mpr ⟨some ⟨"0", 1⟩, _,
      SyncService.returns_transact.mpr ⟨announcedStore, ?_, rfl⟩, ?_⟩
    · rw [stored, second]
      exact setRead_announced
    refine returns_bind.mpr ⟨(), _, SyncService.returns_scheduleFlush.mpr rfl, ?_⟩
    refine returns_bind.mpr ⟨(), _, SyncService.returns_ensureBefore.mpr ⟨rfl, rfl⟩, ?_⟩
    refine returns_bind.mpr ⟨retainedSnapshot, _, SyncService.returns_consult.mpr ⟨?_, rfl⟩, ?_⟩
    · dsimp only
      exact snapshot_announced
    · refine returns_bind.mpr ⟨(), _, SyncService.returns_ensureBefore.mpr ⟨rfl, rfl⟩, ?_⟩
      exact returns_pure.mpr ⟨rfl, by simp [World.announced, automaticFlushDelay]⟩
  exact request_of_dispatch read rfl (respond_of_returns ran) (by decide)

end Announced

/-- The popover with scrollover, opened before the core is configured. -/
def scrollable : BrowserStore :=
  ((BrowserStore.start true fun _ => none).perform (.setPopoverVisible true)).1

/-- It once it has loaded. -/
def listed : BrowserStore :=
  (scrollable.resumeAfterConfiguration.1.finish (.loadLocalThenRefresh 1 (.all true))
    (.ok (listing filedSnapshot))).1

/-- The article read automatically, its receipt on the way. -/
def announcedPopover : Popover RemoteAccount where
  browser := (listed.markReadAutomatically [1]).1
  world := filedWorld.loaded.announced
  tasks := [(.markReadAutomatically 1 1 [1],
    .answered (.ok announcement) filedWorld.loaded.store filedWorld.loaded.announced.store)]

/-- An article read automatically, its receipt on the way to the client: the batch is open,
and held by that receipt. -/
theorem undo_batches_accounted_on_the_way :
    announcedPopover.heldBatches.Nodup ∧ "0" ∈ announcedPopover.heldBatches := by
  have distinct : Function.Injective countingService.randomId := by
    intro turn later same
    have lengths := congrArg String.length same
    simpa [countingService] using lengths
  have filed : sessions.Reachable ⟨filedStore, fun _ => []⟩ :=
    reachable_write reachable_freshStore (.applySnapshot "t" "account" filedSnapshot) trivial
  have initial : (popovers countingService ⟨"", ""⟩ fun _ _ => True).initial
      ⟨.start true fun _ => none, filedWorld, []⟩ :=
    ⟨⟨true, fun _ => none, rfl⟩, rfl, fun _ => [], store_filedWorld ▸ filed⟩
  have stored : filedWorld.loaded.store = filedStore := by
    unfold World.loaded
    dsimp only
    exact store_filedWorld
  have shown := Relation.ReflTransGen.single (@Popover.Step.trigger _ countingService ⟨"", ""⟩
    (fun _ _ => True) ⟨.start true fun _ => none, filedWorld, []⟩ (.setPopoverVisible true))
  have asked := (shown.tail (.trigger .resumeAfterConfiguration)).tail
    (@Popover.Step.start _ _ _ _ _ [] [] (.loadLocalThenRefresh 1 (.all true)) rfl)
  have loaded := asked.tail (@Popover.Step.execute _ _ _ _ _ [] []
    (.loadLocalThenRefresh 1 (.all true)) loadRequest _ _ rfl (counting_load store_filedWorld) rfl)
  have handled := loaded.tail (@Popover.Step.handle _ _ _ _ _ [] [] _ _ _ _ rfl trivial)
  have scrolled := (handled.tail (.trigger (.markReadAutomatically [1]))).tail
    (@Popover.Step.start _ _ _ _ _ [] [] (.markReadAutomatically 1 1 [1]) rfl)
  have answered := scrolled.tail (@Popover.Step.execute _ _ _ _ _ [] []
    (.markReadAutomatically 1 1 [1]) automaticRequest _ _ rfl
    (@counting_read ⟨"", ""⟩ filedWorld.loaded stored rfl) rfl)
  have account := @undo_batches_accounted _ _ _ _ announcedPopover distinct _ initial answered
  refine ⟨account.1, (account.2.1 "0" ?_).resolve_left ?_⟩
  · unfold Store.HasBatch
    decide
  · unfold Store.HasBatch
    decide

end FluxBar
