import FluxBar.ListStability

/-! Local changes that fail. Each is one transaction, made once the store is
locked; what follows it, the snapshot and the checks of the deadline, may still
fail, and the change stands all the same: it is pending, and its flush has been
asked for. -/
namespace FluxBar
open Procedure

/-- The local changes of the service, as the core's operations ask for them. -/
inductive LocalChange where
  | markRead (selection : Selection) (ids retainIds : List Int) (read automatic : Bool)
  | setStarred (selection : Selection) (entryId : Int) (starred : Bool) (retainIds : List Int)
  | undo (selection : Selection) (receiptId : String) (retainIds : List Int)
  | discardUndo (receiptId : String)

namespace LocalChange
variable {σ : Type} (service : SyncService σ)

/-- The change as the service makes it, its answer aside. -/
def perform : LocalChange → SyncM σ Unit
  | .markRead selection ids retainIds read automatic => do
    let _ ← service.markRead selection ids retainIds read automatic
  | .setStarred selection entryId starred retainIds => do
    let _ ← service.setStarred selection entryId starred retainIds
  | .undo selection receiptId retainIds => do
    let _ ← service.undo selection receiptId retainIds
  | .discardUndo receiptId => service.discardUndo receiptId

/-- The operation on the store a change comes to, in a given transaction. -/
def operation (turn : Nat) : LocalChange → Operation
  | .markRead _ ids _ read automatic =>
    .setRead (service.clock turn) (service.randomId turn) service.accountId ids read automatic
  | .setStarred _ entryId starred _ =>
    .setStarred (service.clock turn 0) service.accountId entryId starred
  | .undo _ receiptId _ => .undo service.scan (service.clock turn) service.accountId receiptId
  | .discardUndo receiptId => .discardUndo service.accountId receiptId

/-- The delay after which a change wants its pending rows flushed. -/
def flushDelay : LocalChange → Option Nat
  | .markRead _ _ _ _ automatic => some (if automatic then automaticFlushDelay else 0)
  | .setStarred .. | .undo .. => some 0
  | .discardUndo _ => none

end LocalChange

namespace SyncService
variable {σ α β : Type} {service : SyncService σ} {world after : World σ} {failure : String}

/-- A locked transaction and the rest of an operation fail before anything is
written, or in the rest. -/
theorem fails_locked {change : Nat → Store → Except StoreError (Store × α)} {rest : α → SyncM σ β}
    (failed : Fails (do service.lockUntil; let value ← transact change; rest value) world failure
      after) :
    (after.store = world.store ∧ after.requested = world.requested ∧
      (service.timely world.checks = false ∨
        ∃ reason, change world.transactions world.store = .error reason)) ∨
    service.timely world.checks = true ∧ ∃ committed value,
      change world.transactions world.store = .ok (committed, value) ∧
      Fails (rest value) { world with
        store := committed, transactions := world.transactions + 1, checks := world.checks + 1 }
        failure after := by
  rcases fails_bind.mp failed with lock | ⟨_, _, lock, failed⟩
  · obtain ⟨late, rfl, rfl⟩ := fails_lockUntil.mp lock
    exact .inl ⟨rfl, rfl, .inl late⟩
  · obtain ⟨timely, rfl⟩ := returns_lockUntil.mp lock
    rcases fails_bind.mp failed with changed | ⟨value, _, changed, failed⟩
    · obtain ⟨reason, refused, rfl, rfl⟩ := fails_transact.mp changed
      exact .inl ⟨rfl, rfl, .inr ⟨reason, refused⟩⟩
    · obtain ⟨committed, wrote, rfl⟩ := returns_transact.mp changed
      exact .inr ⟨timely, committed, value, wrote, failed⟩

variable (service) in
/-- What can fail once a change is committed: the deadline may have passed by one of the
checks, or a number of the snapshot does not fit. -/
def FailsLater (world after : World σ) : Prop :=
  service.timely (world.checks + 1) = false ∨ service.timely (world.checks + 2) = false ∨
    ∃ selection retainIds reason, after.store.localSnapshot service.scan service.accountId selection
      service.newestFirst retainIds = .error reason

/-- The snapshot after a commit leaves the store and the requests for flushes. -/
theorem fails_snapshot {selection : Selection} {retainIds : List Int} {answer : SnapshotData → β}
    (failed : Fails (do
      let snapshot ← service.localSnapshot selection retainIds
      service.ensureBefore
      return answer snapshot) world failure after) :
    after.store = world.store ∧ after.requested = world.requested ∧
      (service.timely world.checks = false ∨ ∃ reason, world.store.localSnapshot service.scan
        service.accountId selection service.newestFirst retainIds = .error reason) := by
  unfold localSnapshot at failed
  rcases fails_bind.mp failed with shown | ⟨snapshot, _, shown, failed⟩
  · obtain ⟨reason, unread, rfl, rfl⟩ := fails_consult.mp shown
    exact ⟨rfl, rfl, .inr ⟨reason, unread⟩⟩
  · obtain ⟨_, rfl⟩ := returns_consult.mp shown
    rcases fails_bind.mp failed with late | ⟨_, _, _, absurd⟩
    · obtain ⟨passed, rfl, rfl⟩ := fails_ensureBefore.mp late
      exact ⟨rfl, rfl, .inl passed⟩
    · exact (not_fails_pure absurd).elim

end SyncService

namespace LocalChange
open SyncService
variable {σ : Type} {service : SyncService σ} {world after : World σ} {failure : String}

/-- Dropping the answer of an operation does not change how it fails. -/
theorem fails_answered {α : Type} {program : SyncM σ α} :
    Fails (do let _ ← program) world failure after ↔ Fails program world failure after := by
  rw [fails_bind]
  constructor
  · rintro (failed | ⟨_, _, _, absurd⟩)
    · exact failed
    · exact (not_fails_pure absurd).elim
  · exact .inl

/-- A change that was not made: the lock came too late, or the transaction failed. -/
def Refused (change : LocalChange) (service : SyncService σ) (world after : World σ) : Prop :=
  after.store = world.store ∧ after.requested = world.requested ∧
    (service.timely world.checks = false ∨
      ∃ reason, (change.operation service world.transactions).run world.store = .error reason)

/-- A change that was made, though a later part of the operation failed: its transaction is
kept, its delivery asked for, and the caller is told of an error. -/
def Committed (change : LocalChange) (service : SyncService σ) (world after : World σ) : Prop :=
  service.timely world.checks = true ∧
    (change.operation service world.transactions).run world.store = .ok after.store ∧
    after.requested = change.flushDelay.toList ++ world.requested ∧
    service.FailsLater world after

theorem fails_markRead {selection : Selection} {ids retainIds : List Int} {read automatic : Bool}
    (failed : Fails (service.markRead selection ids retainIds read automatic) world failure after) :
    Refused (.markRead selection ids retainIds read automatic) service world after ∨
      Committed (.markRead selection ids retainIds read automatic) service world after := by
  unfold SyncService.markRead at failed
  rcases fails_locked failed with ⟨store, requested, cause⟩ | ⟨timely, committed, receipt, wrote, failed⟩
  · refine .inl ⟨store, requested, cause.imp_right ?_⟩
    rintro ⟨reason, refused⟩
    exact ⟨reason, by rw [operation, Operation.run, refused]; rfl⟩
  · have ran : ((markRead selection ids retainIds read automatic).operation service
        world.transactions).run world.store = .ok committed := by
      rw [operation, Operation.run, wrote]
      rfl
    rcases fails_bind.mp failed with absurd | ⟨_, _, scheduled, failed⟩
    · exact (not_fails_scheduleFlush absurd).elim
    obtain rfl := returns_scheduleFlush.mp scheduled
    rcases fails_bind.mp failed with late | ⟨_, _, checked, failed⟩
    · obtain ⟨passed, rfl, rfl⟩ := fails_ensureBefore.mp late
      exact .inr ⟨timely, ran, rfl, .inl passed⟩
    · obtain ⟨_, rfl⟩ := returns_ensureBefore.mp checked
      obtain ⟨store, requested, cause⟩ := fails_snapshot failed
      rw [← store] at cause
      refine .inr ⟨timely, ran.trans (congrArg _ store.symm), requested, .inr (cause.imp_right ?_)⟩
      rintro ⟨reason, unread⟩
      exact ⟨selection, _, reason, unread⟩

/-- A star and an undo both end in the request for a flush and the snapshot. -/
theorem committed_of_tail {change : LocalChange} {committed : Store} {selection : Selection}
    {retainIds : List Int} (timely : service.timely world.checks = true)
    (ran : (change.operation service world.transactions).run world.store = .ok committed)
    (delay : change.flushDelay = some 0)
    (failed : Fails (do
      scheduleFlush 0
      let snapshot ← service.localSnapshot selection retainIds
      service.ensureBefore
      return snapshot) { world with
        store := committed, transactions := world.transactions + 1, checks := world.checks + 1 }
      failure after) :
    change.Committed service world after := by
  rcases fails_bind.mp failed with absurd | ⟨_, _, scheduled, failed⟩
  · exact (not_fails_scheduleFlush absurd).elim
  obtain rfl := returns_scheduleFlush.mp scheduled
  obtain ⟨store, requested, cause⟩ := fails_snapshot failed
  rw [← store] at cause
  refine ⟨timely, ran.trans (congrArg _ store.symm), ?_, ?_⟩
  · rw [requested, delay]
    rfl
  · rcases cause with passed | ⟨reason, unread⟩
    · exact .inl passed
    · exact .inr (.inr ⟨selection, retainIds, reason, unread⟩)

theorem fails_setStarred {selection : Selection} {entryId : Int} {starred : Bool}
    {retainIds : List Int}
    (failed : Fails (service.setStarred selection entryId starred retainIds) world failure after) :
    Refused (.setStarred selection entryId starred retainIds) service world after ∨
      Committed (.setStarred selection entryId starred retainIds) service world after := by
  unfold SyncService.setStarred at failed
  rcases fails_locked failed with ⟨store, requested, cause⟩ | ⟨timely, committed, _, wrote, failed⟩
  · refine .inl ⟨store, requested, cause.imp_right ?_⟩
    rintro ⟨_, absurd⟩
    cases absurd
  · cases wrote
    exact .inr (committed_of_tail timely rfl rfl failed)

theorem fails_undo {selection : Selection} {receiptId : String} {retainIds : List Int}
    (failed : Fails (service.undo selection receiptId retainIds) world failure after) :
    Refused (.undo selection receiptId retainIds) service world after ∨
      Committed (.undo selection receiptId retainIds) service world after := by
  unfold SyncService.undo at failed
  rcases fails_locked failed with ⟨store, requested, cause⟩ | ⟨timely, committed, ids, wrote, failed⟩
  · refine .inl ⟨store, requested, cause.imp_right ?_⟩
    rintro ⟨_, absurd⟩
    cases absurd
  · have ran : ((undo selection receiptId retainIds).operation service
        world.transactions).run world.store = .ok committed :=
      congrArg (Except.map Prod.fst) wrote
    exact .inr (committed_of_tail timely ran rfl failed)

theorem fails_discardUndo {receiptId : String}
    (failed : Fails (service.discardUndo receiptId) world failure after) :
    Refused (.discardUndo receiptId) service world after ∨
      Committed (.discardUndo receiptId) service world after := by
  unfold SyncService.discardUndo at failed
  rcases fails_locked failed with ⟨store, requested, cause⟩ | ⟨timely, committed, _, wrote, failed⟩
  · refine .inl ⟨store, requested, cause.imp_right ?_⟩
    rintro ⟨_, absurd⟩
    cases absurd
  · cases wrote
    obtain ⟨passed, rfl, rfl⟩ := fails_ensureBefore.mp failed
    exact .inr ⟨timely, rfl, rfl, .inl passed⟩

end LocalChange

/-- A local change that fails was not made, and asked for no flush; or it was committed by
its transaction before a later part of the operation failed, and is delivered like any
other. -/
theorem failed_change {σ : Type} {service : SyncService σ} {world after : World σ} {failure : String}
    {change : LocalChange} (failed : Fails (change.perform service) world failure after) :
    change.Refused service world after ∨ change.Committed service world after := by
  cases change with
  | markRead selection ids retainIds read automatic =>
    exact LocalChange.fails_markRead (LocalChange.fails_answered.mp failed)
  | setStarred selection entryId starred retainIds =>
    exact LocalChange.fails_setStarred (LocalChange.fails_answered.mp failed)
  | undo selection receiptId retainIds =>
    exact LocalChange.fails_undo (LocalChange.fails_answered.mp failed)
  | discardUndo receiptId => exact LocalChange.fails_discardUndo failed

/-! ## A change that comes too late -/

/-- A service whose deadline passes once the store is locked. -/
def lateService : SyncService RemoteAccount :=
  { timelyService with timely := fun check => check = 0 }

/-- The article scrolled past. -/
def scrolledPast : LocalChange := .markRead (.all 0 true) [1] [1] true true

/-- The store that keeps the change whose receipt was never handed out. -/
def scrolledStore : Store :=
  filedStore.commit ((filedStore.setRead (fun _ => "t") "" "account" [1] true true).map Prod.fst)

theorem setRead_scrolled : filedStore.setRead (fun _ => "t") "" "account" [1] true true =
    .ok (scrolledStore, some ⟨"", 1⟩) := by
  have receipt : (filedStore.setRead (fun _ => "t") "" "account" [1] true true).map Prod.snd =
      .ok (some ⟨"", 1⟩) := by decide
  obtain ⟨⟨store, _⟩, ran, rfl⟩ := map_eq_ok.mp receipt
  have same : scrolledStore = store := by
    unfold scrolledStore
    rw [ran]
    rfl
  rw [ran, same]

theorem fails_scrolledPast {world : World RemoteAccount} (stored : world.store = filedStore)
    (first : world.checks = 0) :
    Fails (scrolledPast.perform lateService) world "context deadline exceeded" { world with
      store := scrolledStore, transactions := world.transactions + 1, checks := 2
      requested := 10 :: world.requested } := by
  refine LocalChange.fails_answered.mpr (fails_bind.mpr (.inr ⟨(), _,
    SyncService.returns_lockUntil.mpr ⟨?_, rfl⟩, ?_⟩))
  · rw [first]
    rfl
  refine fails_bind.mpr (.inr ⟨some ⟨"", 1⟩, _,
    SyncService.returns_transact.mpr ⟨scrolledStore, ?_, rfl⟩, ?_⟩)
  · rw [stored]
    exact setRead_scrolled
  refine fails_bind.mpr (.inr ⟨(), _, SyncService.returns_scheduleFlush.mpr rfl, ?_⟩)
  refine fails_bind.mpr (.inl (SyncService.fails_ensureBefore.mpr ⟨?_, rfl, ?_⟩))
  · rw [first]
    rfl
  · simp [first, automaticFlushDelay]

theorem entries_scrolledStore : scrolledStore.entries ≠ filedStore.entries := by
  intro same
  have rows := congrArg Relational.Table.rows same
  revert rows
  decide

/-- A local change that fails and has changed the store all the same. -/
theorem late_change_stands : ∃ failure after,
    Fails (scrolledPast.perform lateService) filedWorld failure after ∧
      after.store.entries ≠ filedWorld.store.entries ∧
      after.store.pendingMutations ≠ filedWorld.store.pendingMutations ∧
      after.store.undoBatches ≠ filedWorld.store.undoBatches ∧
      after.store.undoItems ≠ filedWorld.store.undoItems := by
  have first : filedWorld.checks = 0 := rfl
  refine ⟨_, _, fails_scrolledPast store_filedWorld first, ?_⟩
  rw [store_filedWorld]
  refine ⟨entries_scrolledStore, fun same => ?_, fun same => ?_, fun same => ?_⟩
  · have rows := congrArg Relational.Table.rows same
    revert rows
    decide
  · have rows := congrArg Relational.Table.rows same
    revert rows
    decide
  · have rows := congrArg Relational.Table.rows same
    revert rows
    decide

/-- An article scrolled past as the deadline passes: the change is committed, and its
receipt never handed out. -/
theorem failed_scrolledPast :
    (scrolledPast.operation lateService filedWorld.transactions).run filedWorld.store =
      .ok scrolledStore := by
  have first : filedWorld.checks = 0 := rfl
  rcases failed_change (fails_scrolledPast store_filedWorld first) with ⟨same, _⟩ | ⟨_, ran, _⟩
  · rw [store_filedWorld] at same
    dsimp only at same
    exact (entries_scrolledStore (congrArg Store.entries same)).elim
  · dsimp only at ran
    exact ran

end FluxBar
