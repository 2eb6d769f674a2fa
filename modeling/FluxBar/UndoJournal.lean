import FluxBar.StoreWrites

/-! The undo journal: the batches an undoable `set_read` opens and the items it
files in them. Manual changes take items out of every batch, and what is left of
a batch goes with its undo. -/
namespace FluxBar
open Relational Transition Procedure

/-! ## Writes -/

namespace Write

/-- A manual `set_read` of an entry, after which no undo is to revert it. -/
def Names (accountId : String) (entryId : Int) : Write → Prop
  | .operation (.setRead _ _ account entryIds _ undoable) =>
    undoable = false ∧ account = accountId ∧ entryId ∈ entryIds
  | _ => False

instance (accountId : String) (entryId : Int) : DecidablePred (Names accountId entryId) :=
  fun write => by
    unfold Names
    split
    · exact inferInstance
    · exact inferInstance

/-- Neither draws the id of a batch again nor undoes or discards the batch; any other write
may come between a change and its undo. -/
def Spares (accountId batchId : String) : Write → Prop
  | .operation (.setRead _ receiptId account _ _ undoable) =>
    undoable = true → (account, receiptId) ≠ (accountId, batchId)
  | .operation (.undo _ _ account batch) | .operation (.discardUndo account batch) =>
    (account, batch) ≠ (accountId, batchId)
  | _ => True

end Write

namespace Store
variable {store after : Store} {accountId account batchId batch : String} {entryId : Int}
  {clock : Nat → String} {read undoable : Bool} {entryIds : List Int}

/-! ## What a turn of `set_read` files -/

@[simp] theorem find?_forgetUndo {entry : Int} :
    (store.forgetUndo accountId entryId).undoItems.find? (account, batch, entry) =
      if account = accountId ∧ entry = entryId then none
      else store.undoItems.find? (account, batch, entry) := by
  simp only [forgetUndo, Table.find?_delete]
  cases found : store.undoItems.find? (account, batch, entry) with
  | none => simp
  | some item =>
    have key := Table.key_of_find? found
    simp only [Prod.mk.injEq] at key
    simp only [Option.filter_some, key]
    split_ifs <;> simp_all

/-- A turn leaves the batches, and files one item under the receipt at most, with the state
the entry was in. -/
theorem undo_setReadEntry {progress advanced : ReadProgress}
    (ran : setReadEntry clock accountId read undoable progress entryId = .ok advanced) :
    advanced.store.undoBatches = progress.store.undoBatches ∧
      advanced.receipt.id = progress.receipt.id ∧
      (advanced.store.undoItems = (progress.store.readStart accountId entryId undoable).undoItems ∧
          (undoable = true → advanced.receipt.count = progress.receipt.count) ∨
        undoable = true ∧ advanced.receipt.count = progress.receipt.count + 1 ∧ ∃ row,
          progress.store.entries.find? (accountId, entryId) = some row ∧
          progress.store.undoItems.insert?
            ⟨accountId, progress.receipt.id, entryId, row.status = "read"⟩ =
              some advanced.store.undoItems) := by
  rcases setReadEntry_cases ran with ⟨rfl, _⟩ | ⟨row, noted, found, _, noting, rfl⟩
  · refine ⟨?_, rfl, .inl ⟨rfl, fun _ => rfl⟩⟩
    unfold readStart
    split <;> rfl
  · rcases noting with ⟨rfl, rfl⟩ | ⟨rfl, recorded⟩
    · exact ⟨rfl, rfl, .inl ⟨rfl, fun absurd => by cases absurd⟩⟩
    · obtain ⟨undoItems, inserted, rfl⟩ := recordUndo_ok recorded
      exact ⟨rfl, rfl, .inr ⟨rfl, rfl, row, found, inserted⟩⟩

/-- The items of a batch the call does not open lose those it names, when it is
manual. -/
theorem find?_undoItems_turn {progress advanced : ReadProgress} {entry : Int}
    (spared : undoable = true → (account, batch) ≠ (accountId, progress.receipt.id))
    (ran : setReadEntry clock accountId read undoable progress entryId = .ok advanced) :
    advanced.store.undoItems.find? (account, batch, entry) =
      if undoable = false ∧ account = accountId ∧ entry = entryId then none
      else progress.store.undoItems.find? (account, batch, entry) := by
  obtain ⟨_, _, ⟨same, _⟩ | ⟨rfl, _, row, _, inserted⟩⟩ := undo_setReadEntry ran
  · rw [same]
    unfold readStart
    cases undoable with
    | true => simp
    | false => simp
  · rw [(Table.find?_insert _ _ inserted).2]
    have elsewhere : (account, batch, entry) ≠ (accountId, progress.receipt.id, entryId) := by
      intro here
      simp only [Prod.mk.injEq] at here
      exact spared rfl (by rw [here.1, here.2.1])
    simp [UndoItemRow.key, elsewhere]

theorem find?_undoItems_turns {progress finished : ReadProgress} {entry : Int}
    (spared : undoable = true → (account, batch) ≠ (accountId, progress.receipt.id))
    (ran : entryIds.foldlM (setReadEntry clock accountId read undoable) progress = .ok finished) :
    finished.store.undoItems.find? (account, batch, entry) =
      if undoable = false ∧ account = accountId ∧ entry ∈ entryIds then none
      else progress.store.undoItems.find? (account, batch, entry) := by
  induction entryIds generalizing progress with
  | nil =>
    cases ran
    simp
  | cons entryId rest ih =>
    rw [List.foldlM_cons] at ran
    obtain ⟨advanced, turned, ran⟩ := bind_eq_ok.mp ran
    have receipt := (undo_setReadEntry turned).2.1
    rw [ih (receipt ▸ spared) ran, find?_undoItems_turn spared turned]
    simp only [List.mem_cons]
    grind

theorem undoBatches_turns {progress finished : ReadProgress}
    (ran : entryIds.foldlM (setReadEntry clock accountId read undoable) progress = .ok finished) :
    finished.store.undoBatches = progress.store.undoBatches := by
  refine foldlM_invariant (fun reached : ReadProgress => reached.store.undoBatches =
    progress.store.undoBatches) ?_ rfl ran
  exact fun reached entryId advanced same turned => (undo_setReadEntry turned).1.trans same

theorem undoItems_openBatch {now : String}
    (opened : store.openBatch now accountId batchId undoable = .ok after) :
    after.undoItems = store.undoItems := by
  rcases openBatch_cases opened with ⟨_, rfl⟩ | ⟨_, undoBatches, _, rfl⟩
  · rfl
  · rfl

theorem undoItems_closeBatch {receipt : MutationReceipt} :
    (store.closeBatch accountId undoable receipt).undoItems = store.undoItems := by
  unfold closeBatch
  split_ifs <;> rfl

/-- A `set_read` keeps the items of the batches it does not open, but for the
entries a manual one names. -/
theorem find?_undoItems_setRead {receiptId : String} {receipt : Option MutationReceipt} {entry : Int}
    (spared : undoable = true → (account, batch) ≠ (accountId, receiptId))
    (ran : store.setRead clock receiptId accountId entryIds read undoable = .ok (after, receipt)) :
    after.undoItems.find? (account, batch, entry) =
      if undoable = false ∧ account = accountId ∧ entry ∈ entryIds then none
      else store.undoItems.find? (account, batch, entry) := by
  obtain ⟨opened, progress, start, finished, rfl, _⟩ := setRead_ok ran
  rw [undoItems_closeBatch, find?_undoItems_turns spared finished, undoItems_openBatch start]

/-- A turn goes through where no item stands in the way of its own. -/
theorem setReadEntry_ok {progress : ReadProgress} (free : undoable = true → ∀ row,
      progress.store.entries.find? (accountId, entryId) = some row →
      row.status ≠ statusText read →
      progress.store.undoItems.find? (accountId, progress.receipt.id, entryId) = none) :
    ∃ advanced, setReadEntry clock accountId read undoable progress entryId = .ok advanced := by
  unfold setReadEntry
  cases undoable with
  | false =>
    dsimp only
    split
    · exact ⟨_, rfl⟩
    · split
      · exact ⟨_, rfl⟩
      · exact ⟨_, rfl⟩
  | true =>
    dsimp only
    rw [if_pos rfl]
    split
    · exact ⟨_, rfl⟩
    · rename_i row found
      split
      · exact ⟨_, rfl⟩
      · rename_i unlike
        have absent := free rfl row found unlike
        cases inserted : progress.store.undoItems.insert?
            ⟨accountId, progress.receipt.id, entryId, decide (row.status = "read")⟩ with
        | none =>
          rw [Table.insert?_eq_none] at inserted
          simp [UndoItemRow.key, absent] at inserted
        | some undoItems =>
          unfold recordUndo insertRow
          simp only [if_true, inserted]
          exact ⟨_, rfl⟩

/-- A manual `set_read` goes through. -/
theorem setRead_manual_ok (store : Store) (receiptId : String) :
    ∃ after, store.setRead clock receiptId accountId entryIds read false = .ok (after, none) := by
  have turns : ∀ (ids : List Int) (progress : ReadProgress),
      ∃ finished, ids.foldlM (setReadEntry clock accountId read false) progress = .ok finished := by
    intro ids
    induction ids with
    | nil => exact fun progress => ⟨progress, rfl⟩
    | cons entryId rest ih =>
      intro progress
      obtain ⟨advanced, turned⟩ : ∃ advanced,
          setReadEntry clock accountId read false progress entryId = .ok advanced :=
        setReadEntry_ok fun absurd => (by cases absurd)
      obtain ⟨finished, ran⟩ := ih advanced
      exact ⟨finished, by rw [List.foldlM_cons, turned]; exact ran⟩
  obtain ⟨finished, ran⟩ := turns entryIds
    { store, receipt := { id := receiptId, count := 0 }, readings := 1 }
  refine ⟨finished.store.closeBatch accountId false finished.receipt, ?_⟩
  unfold setRead openBatch
  simp only [Bool.false_eq_true, if_false]
  change (entryIds.foldlM (setReadEntry clock accountId read false)
    { store, receipt := { id := receiptId, count := 0 }, readings := 1 } >>= _) = _
  rw [ran]
  rfl

/-! ## What an undo takes away -/

@[simp] theorem find?_undoItems_discardUndo {entry : Int} :
    (store.discardUndo accountId batchId).undoItems.find? (account, batch, entry) =
      if (account, batch) = (accountId, batchId) then none
      else store.undoItems.find? (account, batch, entry) := by
  simp only [discardUndo, Table.find?_delete, Prod.mk.injEq]
  cases found : store.undoItems.find? (account, batch, entry) with
  | none => simp
  | some item =>
    have key := Table.key_of_find? found
    simp only [Prod.mk.injEq] at key
    simp only [Option.filter_some, key]
    split_ifs <;> simp_all

@[simp] theorem find?_undoBatches_discardUndo :
    (store.discardUndo accountId batchId).undoBatches.find? (account, batch) =
      if (account, batch) = (accountId, batchId) then none
      else store.undoBatches.find? (account, batch) := by
  simp only [discardUndo, Table.find?_delete, Prod.mk.injEq]
  cases found : store.undoBatches.find? (account, batch) with
  | none => simp
  | some held =>
    have key := Table.key_of_find? found
    simp only [Prod.mk.injEq] at key
    simp only [Option.filter_some, key]
    split_ifs <;> simp_all

theorem undo_foldl_undoEntry (items : List UndoItemRow) (progress : Store × Nat) :
    (items.foldl (undoEntry clock accountId) progress).1.undoItems = progress.1.undoItems ∧
      (items.foldl (undoEntry clock accountId) progress).1.undoBatches = progress.1.undoBatches := by
  induction items generalizing progress with
  | nil => exact ⟨rfl, rfl⟩
  | cons item rest ih =>
    rw [List.foldl_cons]
    exact ih _

theorem undoItems_undo {scan : Scan} :
    (store.undo scan clock accountId batchId).1.undoItems =
      (store.discardUndo accountId batchId).undoItems := by
  unfold undo discardUndo
  dsimp only
  rw [(undo_foldl_undoEntry _ _).1]

theorem undoBatches_undo {scan : Scan} :
    (store.undo scan clock accountId batchId).1.undoBatches =
      (store.discardUndo accountId batchId).undoBatches := by
  unfold undo discardUndo
  dsimp only
  rw [(undo_foldl_undoEntry _ _).2]

/-! ## A batch through other writes -/

/-- A write that spares a batch takes the entries it names out of it, and leaves
its other items. -/
theorem find?_undoItems_apply {write : Write} (spares : write.Spares accountId batchId)
    (entry : Int) :
    (write.apply store).undoItems.find? (accountId, batchId, entry) =
      if write.Names accountId entry then none
      else store.undoItems.find? (accountId, batchId, entry) := by
  cases write with
  | acknowledge account mutation =>
    rw [if_neg (by exact id)]
    change (store.commit (store.acknowledge account mutation)).undoItems.find? _ = _
    cases done : store.acknowledge account mutation with
    | error failure => rfl
    | ok after => exact congrArg (Table.find? · _) (acknowledge_parts done).2.1
  | operation performed =>
    cases performed with
    | ensureAccount account server => rfl
    | setStarred now account entryId starred => rfl
    | applySnapshot now account snapshot =>
      rw [if_neg (by exact id)]
      change (store.commit (store.applySnapshot now account snapshot)).undoItems.find? _ = _
      cases applied : store.applySnapshot now account snapshot with
      | error failure => rfl
      | ok after =>
        obtain ⟨_, _, refreshed⟩ := applySnapshot_parts applied
        exact congrArg (Table.find? · _) refreshed.undoItems
    | setRead clock receiptId account entryIds read undoable =>
      have spared : undoable = true → (accountId, batchId) ≠ (account, receiptId) :=
        fun automatic same => spares automatic same.symm
      have named : (Write.operation (.setRead clock receiptId account entryIds read undoable)).Names
          accountId entry ↔ undoable = false ∧ accountId = account ∧ entry ∈ entryIds :=
        and_congr_right fun _ => and_congr_left fun _ => eq_comm
      change (store.commit ((store.setRead clock receiptId account entryIds read undoable).map
        Prod.fst)).undoItems.find? _ = _
      simp only [named]
      cases ran : store.setRead clock receiptId account entryIds read undoable with
      | ok result => exact find?_undoItems_setRead spared ran
      | error failure =>
        -- only an undoable call can fail, and it names nothing
        cases undoable with
        | true => rw [if_neg (fun manual => by cases manual.1)]; rfl
        | false =>
          obtain ⟨after, went⟩ := @setRead_manual_ok account clock read entryIds store receiptId
          cases ran.symm.trans went
    | undo scan clock account batch =>
      have elsewhere : (accountId, batchId) ≠ (account, batch) := fun same => spares same.symm
      rw [if_neg (by exact id)]
      change (store.undo scan clock account batch).1.undoItems.find? _ = _
      rw [undoItems_undo, find?_undoItems_discardUndo, if_neg elsewhere]
    | discardUndo account batch =>
      have elsewhere : (accountId, batchId) ≠ (account, batch) := fun same => spares same.symm
      rw [if_neg (by exact id)]
      change (store.discardUndo account batch).undoItems.find? _ = _
      rw [find?_undoItems_discardUndo, if_neg elsewhere]

/-- Through any writes that spare it, a batch keeps the items of the entries no
manual change has named. -/
theorem find?_undoItems_writes {writes : List Write}
    (spares : ∀ write ∈ writes, write.Spares accountId batchId) (entry : Int) :
    (writes.foldl Write.apply store).undoItems.find? (accountId, batchId, entry) =
      if ∃ write ∈ writes, write.Names accountId entry then none
      else store.undoItems.find? (accountId, batchId, entry) := by
  induction writes generalizing store with
  | nil => simp
  | cons write rest ih =>
    rw [List.foldl_cons, ih fun later listed => spares later (List.mem_cons_of_mem write listed),
      find?_undoItems_apply (spares write List.mem_cons_self)]
    by_cases later : ∃ other ∈ rest, other.Names accountId entry
    · have named : ∃ other ∈ write :: rest, other.Names accountId entry :=
        later.imp fun other held => ⟨List.mem_cons_of_mem write held.1, held.2⟩
      rw [if_pos later, if_pos named]
    · rw [if_neg later]
      refine if_congr ?_ rfl rfl
      constructor
      · exact fun named => ⟨write, List.mem_cons_self, named⟩
      · rintro ⟨other, listed, named⟩
        rcases List.mem_cons.mp listed with rfl | held
        · exact named
        · exact (later ⟨other, held, named⟩).elim

/-! ## Batches and their items -/

/-- An account has an item in a batch. -/
def HasItem (store : Store) (accountId batchId : String) : Prop :=
  ∃ entryId, (store.undoItems.find? (accountId, batchId, entryId)).isSome

/-- Every item is filed in a batch, and no batch is empty: this is what is meant by a
journal in order, and every write keeps it. -/
def UndoFiled (store : Store) : Prop :=
  ∀ accountId batchId,
    (store.undoBatches.find? (accountId, batchId)).isSome ↔ store.HasItem accountId batchId

theorem any_undoItems : (store.undoItems.rows.any fun item =>
    item.accountId = account && item.batchId = batch) = true ↔ store.HasItem account batch := by
  simp only [List.any_eq_true, Bool.and_eq_true, decide_eq_true_eq, HasItem, Option.isSome_iff_exists]
  constructor
  · rintro ⟨item, held, rfl, rfl⟩
    exact ⟨item.entryId, item, Table.find?_of_mem held⟩
  · rintro ⟨entryId, item, found⟩
    have key := Table.key_of_find? found
    simp only [Prod.mk.injEq] at key
    exact ⟨item, Table.mem_of_find? found, key.1, key.2.1⟩

/-- A manual call ends by dropping the batches that were left without items. -/
theorem find?_undoBatches_closeBatch {receipt : MutationReceipt} :
    (store.closeBatch accountId false receipt).undoBatches.find? (account, batch) =
      (store.undoBatches.find? (account, batch)).filter fun _ =>
        !(account = accountId && !(store.undoItems.rows.any fun item =>
          item.accountId = account && item.batchId = batch)) := by
  simp only [closeBatch, Bool.false_eq_true, if_false, Table.find?_delete]
  cases found : store.undoBatches.find? (account, batch) with
  | none => rfl
  | some held =>
    have key := Table.key_of_find? found
    simp only [Prod.mk.injEq] at key
    simp only [Option.filter_some, key]

/-- An undoable call ends by dropping its own batch if it changed nothing. -/
theorem find?_undoBatches_closeBatch_undoable {receipt : MutationReceipt} :
    (store.closeBatch accountId true receipt).undoBatches.find? (account, batch) =
      if receipt.count = 0 ∧ (account, batch) = (accountId, receipt.id) then none
      else store.undoBatches.find? (account, batch) := by
  unfold closeBatch
  by_cases unchanged : receipt.count = 0
  · simp only [unchanged, if_true, true_and]
    exact find?_undoBatches_discardUndo
  · simp only [unchanged, if_true, if_false, false_and]

/-- The items under the receipt are as many as its count says, as far as there
being any goes. -/
theorem counted_turns {progress finished : ReadProgress}
    (start : 0 ≤ progress.receipt.count ∧
      (0 < progress.receipt.count ↔ progress.store.HasItem accountId progress.receipt.id))
    (ran : entryIds.foldlM (setReadEntry clock accountId read true) progress = .ok finished) :
    finished.receipt.id = progress.receipt.id ∧
      finished.store.undoBatches = progress.store.undoBatches ∧
      0 ≤ finished.receipt.count ∧
      (0 < finished.receipt.count ↔ finished.store.HasItem accountId finished.receipt.id) := by
  refine foldlM_invariant (fun reached : ReadProgress => reached.receipt.id = progress.receipt.id ∧
    reached.store.undoBatches = progress.store.undoBatches ∧ 0 ≤ reached.receipt.count ∧
    (0 < reached.receipt.count ↔ reached.store.HasItem accountId reached.receipt.id))
    ?_ ⟨rfl, rfl, start⟩ ran
  rintro reached entryId advanced ⟨receipt, batches, counted, items⟩ turned
  obtain ⟨sameBatches, sameReceipt, ⟨same, count⟩ | ⟨_, count, row, _, inserted⟩⟩ :=
    undo_setReadEntry turned
  · refine ⟨sameReceipt.trans receipt, sameBatches.trans batches, ?_, ?_⟩
    · rw [count rfl]
      exact counted
    · rw [count rfl, sameReceipt, items]
      exact iff_of_eq (congrArg (fun table : Table UndoItemRow.key =>
        ∃ entryId, (table.find? (accountId, reached.receipt.id, entryId)).isSome) same.symm)
  · refine ⟨sameReceipt.trans receipt, sameBatches.trans batches, by omega, ?_⟩
    refine iff_of_true (by omega) ⟨entryId, ?_⟩
    rw [(Table.find?_insert _ _ inserted).2, sameReceipt, if_pos rfl]
    rfl

theorem hasItem_congr {other : Store}
    (same : ∀ entryId, after.undoItems.find? (account, batch, entryId) =
      other.undoItems.find? (account, batch, entryId)) :
    after.HasItem account batch ↔ other.HasItem account batch :=
  exists_congr fun entryId => by rw [same]

/-- A manual call takes items away, and the batches that are left with none. -/
theorem filed_setRead_manual {receiptId : String} {receipt : Option MutationReceipt}
    (filed : store.UndoFiled)
    (ran : store.setRead clock receiptId accountId entryIds read false = .ok (after, receipt)) :
    after.UndoFiled := by
  intro account batch
  have items := fun entry => @find?_undoItems_setRead store after accountId account batch clock read
    false entryIds receiptId receipt entry (fun absurd => by cases absurd) ran
  obtain ⟨opened, progress, start, finished, rfl, _⟩ := setRead_ok ran
  cases start
  have batches : progress.store.undoBatches = store.undoBatches := undoBatches_turns finished
  have kept : (progress.store.closeBatch accountId false progress.receipt).HasItem account batch ↔
      progress.store.HasItem account batch :=
    hasItem_congr fun entryId => by rw [undoItems_closeBatch]
  rw [find?_undoBatches_closeBatch, batches, kept]
  by_cases here : account = accountId
  · have held : progress.store.HasItem account batch → store.HasItem account batch := by
      rintro ⟨entryId, found⟩
      refine ⟨entryId, ?_⟩
      rw [undoItems_closeBatch] at items
      rw [items] at found
      split_ifs at found
      · cases found
      · exact found
    have batched := filed account batch
    have any := @any_undoItems progress.store account batch
    cases found : store.undoBatches.find? (account, batch) with
    | none =>
      rw [found] at batched
      simp only [Option.filter_none, Option.isSome_none, Bool.false_eq_true, false_iff]
      exact fun item => by simpa using batched.mpr (held item)
    | some row =>
      subst here
      rw [← any]
      simp
  · have same : progress.store.HasItem account batch ↔ store.HasItem account batch := by
      refine hasItem_congr fun entryId => ?_
      rw [undoItems_closeBatch] at items
      rw [items, if_neg fun manual => here manual.2.1]
    rw [same, ← filed account batch]
    cases store.undoBatches.find? (account, batch) <;> simp [here]

/-- An undoable call that changed nothing leaves no batch, and one that did a
batch with an item. -/
theorem filed_setRead_undoable {receiptId : String} {receipt : Option MutationReceipt}
    (filed : store.UndoFiled)
    (ran : store.setRead clock receiptId accountId entryIds read true = .ok (after, receipt)) :
    after.UndoFiled := by
  intro account batch
  have items := fun entry spared => @find?_undoItems_setRead store after accountId account batch clock
    read true entryIds receiptId receipt entry spared ran
  obtain ⟨opened, progress, start, finished, rfl, _⟩ := setRead_ok ran
  obtain ⟨absurd, _⟩ | ⟨_, undoBatches, inserted, rfl⟩ := openBatch_cases start
  · cases absurd
  obtain ⟨absent, found⟩ := Table.find?_insert _ (account, batch) inserted
  have unfiled : ¬ store.HasItem accountId receiptId := by
    rw [← filed accountId receiptId, absent]
    simp
  obtain ⟨receipt, batches, counted, filled⟩ := counted_turns
    ⟨le_refl 0, iff_of_false (lt_irrefl 0) unfiled⟩ finished
  have kept : (progress.store.closeBatch accountId true progress.receipt).HasItem account batch ↔
      progress.store.HasItem account batch :=
    hasItem_congr fun entryId => by rw [undoItems_closeBatch]
  rw [find?_undoBatches_closeBatch_undoable, receipt, batches, found, kept]
  rw [receipt] at filled
  simp only [UndoBatchRow.key]
  by_cases here : (account, batch) = (accountId, receiptId)
  · obtain ⟨rfl, rfl⟩ := Prod.mk.inj here
    rw [← filled, if_pos rfl]
    split_ifs with unchanged
    · exact iff_of_false (by simp) (by omega)
    · exact iff_of_true rfl (by grind)
  · rw [if_neg fun dropped => here dropped.2, if_neg here, filed account batch]
    refine (hasItem_congr fun entryId => ?_).symm
    have same := items entryId fun _ => here
    rw [undoItems_closeBatch] at same
    rw [same, if_neg fun absurd => by cases absurd.1]

theorem UndoFiled.of_tables (filed : store.UndoFiled) (items : after.undoItems = store.undoItems)
    (batches : after.undoBatches = store.undoBatches) : after.UndoFiled := by
  intro account batch
  rw [batches, filed account batch]
  exact hasItem_congr fun entryId => by rw [items]

theorem UndoFiled.discardUndo (filed : store.UndoFiled) :
    (store.discardUndo accountId batchId).UndoFiled := by
  intro account batch
  rw [find?_undoBatches_discardUndo]
  by_cases here : (account, batch) = (accountId, batchId)
  · rw [if_pos here]
    refine iff_of_false (by simp) ?_
    rintro ⟨entryId, found⟩
    rw [find?_undoItems_discardUndo, if_pos here] at found
    cases found
  · rw [if_neg here, filed account batch]
    exact hasItem_congr fun entryId => by rw [find?_undoItems_discardUndo, if_neg here]

/-- Every write keeps the journal in order, by cases on what is written. -/
theorem UndoFiled.apply (filed : store.UndoFiled) (write : Write) : (write.apply store).UndoFiled := by
  unfold Write.apply
  cases ran : write.run store with
  | error failure => exact filed
  | ok after =>
    cases write with
    | acknowledge accountId mutation =>
      change store.acknowledge accountId mutation = .ok after at ran
      exact filed.of_tables (acknowledge_parts ran).2.1 (acknowledge_parts ran).2.2
    | operation performed =>
      cases performed with
      | ensureAccount accountId server | setStarred now accountId entryId starred =>
        cases ran
        exact filed.of_tables rfl rfl
      | applySnapshot now accountId snapshot =>
        change store.applySnapshot now accountId snapshot = .ok after at ran
        obtain ⟨_, _, refreshed⟩ := applySnapshot_parts ran
        exact filed.of_tables refreshed.undoItems refreshed.undoBatches
      | setRead clock receiptId accountId entryIds read undoable =>
        obtain ⟨⟨stored, receipt⟩, marked, rfl⟩ := map_eq_ok.mp ran
        cases undoable with
        | false => exact filed_setRead_manual filed marked
        | true => exact filed_setRead_undoable filed marked
      | undo scan clock accountId batchId =>
        cases ran
        exact filed.discardUndo.of_tables undoItems_undo undoBatches_undo
      | discardUndo accountId batchId =>
        cases ran
        exact filed.discardUndo

/-! ## What an undoable `set_read` files -/

/-- Whether a write changed the status of an entry, told by its rows before and after. -/
def StatusChanged (store after : Store) (accountId : String) (entryId : Int) : Prop :=
  ∃ row marked, store.entries.find? (accountId, entryId) = some row ∧
    after.entries.find? (accountId, entryId) = some marked ∧ marked.status ≠ row.status

/-- An entry in an undoable call: untouched and not filed, or marked and filed
under what it was. -/
def Marked (before : Store) (accountId : String) (read : Bool) (entryId : Int)
    (progress : ReadProgress) : Prop :=
  (progress.store.entries.find? (accountId, entryId) = before.entries.find? (accountId, entryId) ∧
    progress.store.undoItems.find? (accountId, progress.receipt.id, entryId) = none) ∨
  ∃ row, before.entries.find? (accountId, entryId) = some row ∧ row.status ≠ statusText read ∧
    progress.store.entries.find? (accountId, entryId) = some { row with status := statusText read } ∧
    progress.store.undoItems.find? (accountId, progress.receipt.id, entryId) =
      some ⟨accountId, progress.receipt.id, entryId, row.status = "read"⟩

theorem find?_setStatus_self {status : String} {row : EntryRow}
    (found : store.entries.find? (accountId, entryId) = some row) :
    (store.setStatus accountId entryId status).entries.find? (accountId, entryId) =
      some { row with status } := by
  have key := Table.key_of_find? found
  simp only [Prod.mk.injEq] at key
  simp [setStatus, found, key]

/-- A turn passes the entry over, or marks it and files what it was. -/
theorem marked_turn {before : Store} {progress advanced : ReadProgress} {entry : Int}
    (filed : Marked before accountId read entry progress)
    (ran : setReadEntry clock accountId read true progress entryId = .ok advanced) :
    Marked before accountId read entry advanced := by
  rcases setReadEntry_cases ran with ⟨rfl, _⟩ | ⟨row, noted, found, differs, noting, rfl⟩
  · exact filed
  · obtain ⟨absurd, _⟩ | ⟨_, recorded⟩ := noting
    · cases absurd
    obtain ⟨undoItems, inserted, rfl⟩ := recordUndo_ok recorded
    have items : ∀ k, undoItems.find? k = _ := fun k => (Table.find?_insert _ k inserted).2
    unfold Marked
    dsimp only [markEntry, upsertPending]
    by_cases here : entry = entryId
    · subst here
      rcases filed with ⟨untouched, unfiled⟩ | ⟨_, _, _, marked, _⟩
      · refine .inr ⟨row, untouched ▸ found, differs, find?_setStatus_self found, ?_⟩
        exact (items _).trans (if_pos rfl)
      · rw [marked] at found
        cases found
        exact (differs rfl).elim
    · have elsewhere : (accountId, entry) ≠ (accountId, entryId) :=
        fun same => here (Prod.mk.inj same).2
      have kept : undoItems.find? (accountId, progress.receipt.id, entry) =
          progress.store.undoItems.find? (accountId, progress.receipt.id, entry) := by
        refine (items _).trans (if_neg ?_)
        simp only [Prod.mk.injEq]
        exact fun same => here same.2.2
      rw [find?_setStatus_other elsewhere]
      unfold Marked at filed
      rw [← kept] at filed
      exact filed

theorem id_receipt {receiptId : String} {receipt : MutationReceipt}
    (ran : store.setRead clock receiptId accountId entryIds read undoable =
      .ok (after, some receipt)) : receipt.id = receiptId := by
  obtain ⟨opened, progress, start, finished, rfl, same⟩ := setRead_ok ran
  have kept : progress.receipt.id = receiptId :=
    foldlM_invariant (fun reached : ReadProgress => reached.receipt.id = receiptId)
      (fun _ _ _ same turned => (undo_setReadEntry turned).2.1.trans same) rfl finished
  split_ifs at same
  cases same
  exact kept

/-- An undoable `set_read` files exactly the entries whose status it changed, each
under the status it had. -/
theorem items_setRead {receiptId : String} {receipt : Option MutationReceipt}
    (filed : store.UndoFiled)
    (ran : store.setRead clock receiptId accountId entryIds read true = .ok (after, receipt))
    (entry : Int) :
    (¬ StatusChanged store after accountId entry ∧
      after.undoItems.find? (accountId, receiptId, entry) = none) ∨
    StatusChanged store after accountId entry ∧ ∃ row,
      store.entries.find? (accountId, entry) = some row ∧
      after.undoItems.find? (accountId, receiptId, entry) =
        some ⟨accountId, receiptId, entry, row.status = "read"⟩ := by
  obtain ⟨opened, progress, start, finished, rfl, _⟩ := setRead_ok ran
  obtain ⟨absurd, _⟩ | ⟨_, undoBatches, inserted, rfl⟩ := openBatch_cases start
  · cases absurd
  have unfiled : ¬ store.HasItem accountId receiptId := by
    rw [← filed accountId receiptId, (Table.find?_insert _ (accountId, receiptId) inserted).1]
    simp
  have absent : store.undoItems.find? (accountId, receiptId, entry) = none := by
    cases found : store.undoItems.find? (accountId, receiptId, entry) with
    | none => rfl
    | some item => exact (unfiled ⟨entry, by rw [found]; rfl⟩).elim
  have receiptKept : progress.receipt.id = receiptId :=
    foldlM_invariant (fun reached : ReadProgress => reached.receipt.id = receiptId)
      (fun _ _ _ same turned => (undo_setReadEntry turned).2.1.trans same) rfl finished
  have turned : Marked store accountId read entry progress :=
    foldlM_invariant (Marked store accountId read entry)
      (fun _ _ _ filed turned => marked_turn filed turned) (.inl ⟨rfl, absent⟩) finished
  unfold Marked at turned
  rw [receiptKept] at turned
  unfold StatusChanged
  rw [entries_closeBatch, undoItems_closeBatch]
  rcases turned with ⟨untouched, none⟩ | ⟨row, found, differs, marked, item⟩
  · refine .inl ⟨?_, none⟩
    rintro ⟨row, marked, found, after, changed⟩
    rw [untouched, found] at after
    cases after
    exact changed rfl
  · exact .inr ⟨⟨row, _, found, marked, differs.symm⟩, row, found, item⟩

/-! ## What an undo reverts -/

section Undo
variable {items : List UndoItemRow} {progress : Store × Nat}

theorem find?_foldl_undoEntry_other {key : String × Int}
    (unnamed : ∀ item ∈ items, key ≠ (accountId, item.entryId)) :
    (items.foldl (undoEntry clock accountId) progress).1.entries.find? key =
      progress.1.entries.find? key := by
  induction items generalizing progress with
  | nil => rfl
  | cons item rest ih =>
    rw [List.foldl_cons, ih fun later listed => unnamed later (List.mem_cons_of_mem item listed)]
    exact find?_setStatus_other (unnamed item List.mem_cons_self)

theorem pending_foldl_undoEntry_other {key : String × Int × MutationField}
    (unnamed : ∀ item ∈ items, key ≠ (accountId, item.entryId, .read)) :
    (items.foldl (undoEntry clock accountId) progress).1.pendingMutations.find? key =
      progress.1.pendingMutations.find? key := by
  induction items generalizing progress with
  | nil => rfl
  | cons item rest ih =>
    rw [List.foldl_cons, ih fun later listed => unnamed later (List.mem_cons_of_mem item listed)]
    simp only [undoEntry, upsertPending, setStatus, Table.find?_upsert]
    exact if_neg (unnamed item List.mem_cons_self)

/-- Items of distinct entries are each reverted to what they were, with a pending
row that wants it. -/
theorem reverts_foldl_undoEntry (distinct : (items.map UndoItemRow.entryId).Nodup)
    {item : UndoItemRow} (listed : item ∈ items) {row : EntryRow}
    (stored : progress.1.entries.find? (accountId, item.entryId) = some row) :
    (items.foldl (undoEntry clock accountId) progress).1.entries.find? (accountId, item.entryId) =
      some { row with status := statusText item.priorRead } ∧
    ∃ pending, (items.foldl (undoEntry clock accountId) progress).1.pendingMutations.find?
      (accountId, item.entryId, .read) = some pending ∧ pending.desired = item.priorRead := by
  induction items generalizing progress with
  | nil => cases listed
  | cons first rest ih =>
    rw [List.map_cons, List.nodup_cons] at distinct
    obtain ⟨fresh, distinct⟩ := distinct
    rw [List.foldl_cons]
    rcases List.mem_cons.mp listed with rfl | later
    · have unnamed : ∀ other ∈ rest, other.entryId ≠ item.entryId :=
        fun other held same => fresh (List.mem_map.mpr ⟨other, held, same⟩)
      rw [find?_foldl_undoEntry_other fun other held same =>
          unnamed other held (Prod.mk.inj same).2.symm,
        pending_foldl_undoEntry_other fun other held same =>
          unnamed other held (by simpa using (Prod.mk.inj same).2.symm)]
      refine ⟨find?_setStatus_self stored, ?_⟩
      simp only [undoEntry, upsertPending, setStatus, Table.find?_upsert, PendingRow.key]
      cases progress.1.pendingMutations.find? (accountId, item.entryId, .read) <;> simp
    · have apart : first.entryId ≠ item.entryId :=
        fun same => fresh (List.mem_map.mpr ⟨item, later, same.symm⟩)
      refine ih distinct later ?_
      rw [← stored]
      exact find?_setStatus_other fun same => apart (Prod.mk.inj same).2.symm

end Undo

/-- The items of a batch, whatever order they are read in. -/
theorem mem_batchItems {scan : Scan} {item : UndoItemRow} :
    item ∈ store.batchItems scan accountId batchId ↔
      item.accountId = accountId ∧ item.batchId = batchId ∧
        store.undoItems.find? (accountId, batchId, item.entryId) = some item := by
  simp only [batchItems, (scan.perm _).mem_iff, Table.select, List.mem_filter, Bool.and_eq_true,
    decide_eq_true_eq, Table.find?_eq_some, UndoItemRow.key, Prod.mk.injEq]
  constructor
  · rintro ⟨held, account, batch⟩
    exact ⟨account, batch, held, account, batch, trivial⟩
  · rintro ⟨account, batch, held, _⟩
    exact ⟨held, account, batch⟩

theorem nodup_batchItems (scan : Scan) :
    ((store.batchItems scan accountId batchId).map UndoItemRow.entryId).Nodup := by
  have keys : ((store.undoItems.select fun item =>
      item.accountId = accountId && item.batchId = batchId).map UndoItemRow.key).Nodup :=
    (List.Sublist.map _ List.filter_sublist).nodup store.undoItems.unique
  refine ((scan.perm _).map _).nodup_iff.mpr ((List.nodup_map_iff_inj_on (List.Nodup.of_map _ keys)).mpr ?_)
  intro left leftHeld right rightHeld same
  have leftBatch := (List.mem_filter.mp leftHeld).2
  have rightBatch := (List.mem_filter.mp rightHeld).2
  simp only [Bool.and_eq_true, decide_eq_true_eq] at leftBatch rightBatch
  refine List.inj_on_of_nodup_map keys leftHeld rightHeld ?_
  simp only [UndoItemRow.key, leftBatch, rightBatch, same]

/-- What an undo returns are the entries of its batch, whatever order they are read in. -/
theorem mem_undo {scan : Scan} : entryId ∈ (store.undo scan clock accountId batchId).2 ↔
    ∃ item, store.undoItems.find? (accountId, batchId, entryId) = some item := by
  unfold undo
  simp only [List.mem_map, mem_batchItems]
  constructor
  · rintro ⟨item, ⟨_, _, found⟩, rfl⟩
    exact ⟨item, found⟩
  · rintro ⟨item, found⟩
    have key := Table.key_of_find? found
    simp only [UndoItemRow.key, Prod.mk.injEq] at key
    exact ⟨item, ⟨key.1, key.2.1, key.2.2 ▸ found⟩, key.2.2⟩

theorem reverts_undo {scan : Scan} {item : UndoItemRow} {row : EntryRow}
    (found : store.undoItems.find? (accountId, batchId, entryId) = some item)
    (stored : store.entries.find? (accountId, entryId) = some row) :
    (store.undo scan clock accountId batchId).1.entries.find? (accountId, entryId) =
      some { row with status := statusText item.priorRead } ∧
    ∃ pending, (store.undo scan clock accountId batchId).1.pendingMutations.find?
      (accountId, entryId, .read) = some pending ∧ pending.desired = item.priorRead := by
  have key := Table.key_of_find? found
  simp only [UndoItemRow.key, Prod.mk.injEq] at key
  obtain ⟨account, batch, rfl⟩ := key
  exact reverts_foldl_undoEntry (nodup_batchItems scan) (mem_batchItems.mpr ⟨account, batch, found⟩)
    stored

theorem find?_undo_other {scan : Scan}
    (unnamed : ¬ (account = accountId ∧ entryId ∈ (store.undo scan clock accountId batchId).2)) :
    (store.undo scan clock accountId batchId).1.entries.find? (account, entryId) =
      store.entries.find? (account, entryId) := by
  refine find?_foldl_undoEntry_other fun item listed same => unnamed ?_
  obtain ⟨rfl, rfl⟩ := Prod.mk.inj same
  exact ⟨rfl, List.mem_map_of_mem listed⟩

theorem pending_undo_other {scan : Scan} {field : MutationField}
    (unnamed : ¬ (account = accountId ∧ entryId ∈ (store.undo scan clock accountId batchId).2 ∧
      field = .read)) :
    (store.undo scan clock accountId batchId).1.pendingMutations.find? (account, entryId, field) =
      store.pendingMutations.find? (account, entryId, field) := by
  refine pending_foldl_undoEntry_other fun item listed same => unnamed ?_
  simp only [Prod.mk.injEq] at same
  obtain ⟨rfl, rfl, rfl⟩ := same
  exact ⟨rfl, List.mem_map_of_mem listed, rfl⟩

/-- Undoing a batch that is gone changes nothing, so that a second undo does no harm. -/
theorem undo_absent {scan : Scan} (items : ∀ entry,
      store.undoItems.find? (accountId, batchId, entry) = none)
    (batches : store.undoBatches.find? (accountId, batchId) = none) :
    store.undo scan clock accountId batchId = (store, []) := by
  have none : store.batchItems scan accountId batchId = [] := by
    refine List.eq_nil_iff_forall_not_mem.mpr fun item listed => ?_
    rw [mem_batchItems, items] at listed
    cases listed.2.2
  have kept : store.discardUndo accountId batchId = store := by
    unfold discardUndo
    rw [Table.delete_eq_self, Table.delete_eq_self]
    · intro item held
      have absent := Table.find?_eq_none.mp (items item.entryId) item held
      simpa [UndoItemRow.key] using absent
    · intro batch held
      have absent := Table.find?_eq_none.mp batches batch held
      simpa [UndoBatchRow.key] using absent
  unfold undo
  rw [none]
  exact congrArg (fun store => (store, [])) kept

end Store

/-! ## Runs -/

/-- Where the server knows two statuses, in every state a run reaches the store
knows no other and its journal is in order. -/
theorem filed_of_reachable {store : Store}
    (reached : (storeRuns fun _ operation => operation.TwoStatuses).Reachable store) :
    store.TwoStatuses ∧ store.UndoFiled := by
  refine reached.invariant (fun store => store.TwoStatuses ∧ store.UndoFiled) ?_ ?_
  · rintro store rfl
    refine ⟨fun key row absurd => (by cases absurd), fun accountId batchId => ?_⟩
    refine iff_of_false (by simp [Store.empty]) ?_
    rintro ⟨entryId, absurd⟩
    cases absurd
  · rintro store after _ ⟨two, filed⟩ (⟨operation, known, rfl⟩ | ⟨accountId, mutation, rfl⟩)
    · refine ⟨?_, filed.apply (.operation operation)⟩
      cases ran : operation.run store with
      | error failure => exact two
      | ok after => exact two.operation known ran
    · refine ⟨?_, filed.apply (.acknowledge accountId mutation)⟩
      cases done : store.acknowledge accountId mutation with
      | error failure => exact two
      | ok after => exact two.acknowledge done

/-- In every state reached, the journal is in order; and after any writes that spare its
batch, undoing an undoable `set_read` reverts exactly the entries it changed that no manual
one has named since. Refreshes, deliveries and other batches may come between. -/
theorem undo_reverts_its_batch {store : Store}
    (reached : (storeRuns fun _ operation => operation.TwoStatuses).Reachable store) :
    store.UndoFiled ∧
    ∀ (marked : Store) (clock : Nat → String) (receiptId accountId : String) (entryIds : List Int)
      (read : Bool) (receipt : MutationReceipt) (writes : List Write) (scan : Scan)
      (later : Nat → String) (reverted : Store) (returned : List Int),
      store.setRead clock receiptId accountId entryIds read true = .ok (marked, some receipt) →
      (∀ write ∈ writes, write.Spares accountId receipt.id) →
      (writes.foldl Write.apply marked).undo scan later accountId receipt.id = (reverted, returned) →
      returned.Nodup ∧
      (∀ entryId, entryId ∈ returned ↔ Store.StatusChanged store marked accountId entryId ∧
        ¬ ∃ write ∈ writes, write.Names accountId entryId) ∧
      (∀ entryId ∈ returned, ∃ row shown pending,
        store.entries.find? (accountId, entryId) = some row ∧
        reverted.entries.find? (accountId, entryId) = some shown ∧ shown.status = row.status ∧
        reverted.pendingMutations.find? (accountId, entryId, .read) = some pending ∧
        statusText pending.desired = row.status) ∧
      (∀ account entryId, ¬ (account = accountId ∧ entryId ∈ returned) →
        reverted.entries.find? (account, entryId) =
          (writes.foldl Write.apply marked).entries.find? (account, entryId)) ∧
      (∀ account entryId field, ¬ (account = accountId ∧ entryId ∈ returned ∧ field = .read) →
        reverted.pendingMutations.find? (account, entryId, field) =
          (writes.foldl Write.apply marked).pendingMutations.find? (account, entryId, field)) ∧
      (∀ entryId, reverted.undoItems.find? (accountId, receipt.id, entryId) = none) ∧
      reverted.undoBatches.find? (accountId, receipt.id) = none ∧
      ∀ scan clock, reverted.undo scan clock accountId receipt.id = (reverted, []) := by
  obtain ⟨two, filed⟩ := filed_of_reachable reached
  refine ⟨filed, ?_⟩
  intro marked clock receiptId accountId entryIds read receipt writes scan later reverted returned
    ran spares undone
  obtain rfl := Store.id_receipt ran
  generalize happened : writes.foldl Write.apply marked = reached at undone ⊢
  have items : ∀ entryId, reached.undoItems.find? (accountId, receipt.id, entryId) =
      if ∃ write ∈ writes, write.Names accountId entryId then none
      else marked.undoItems.find? (accountId, receipt.id, entryId) :=
    fun entryId => happened ▸ Store.find?_undoItems_writes spares entryId
  obtain rfl : (reached.undo scan later accountId receipt.id).1 = reverted := congrArg Prod.fst undone
  obtain rfl : (reached.undo scan later accountId receipt.id).2 = returned := congrArg Prod.snd undone
  refine ⟨Store.nodup_batchItems scan, ?_, ?_, ?_, ?_, ?_, ?_, ?_⟩
  · intro entryId
    rw [Store.mem_undo, items]
    rcases Store.items_setRead filed ran entryId with ⟨same, none⟩ | ⟨changed, row, _, item⟩
    · rw [none]
      simp [same]
    · rw [item]
      split_ifs with named
      · simp [named]
      · simp [named, changed]
  · intro entryId listed
    obtain ⟨item, found⟩ := Store.mem_undo.mp listed
    rw [items] at found
    split_ifs at found with named
    rcases Store.items_setRead filed ran entryId with ⟨_, none⟩ | ⟨_, row, held, filedUnder⟩
    · rw [none] at found
      cases found
    · have filedAt : reached.undoItems.find? (accountId, receipt.id, entryId) =
          some ⟨accountId, receipt.id, entryId, row.status = "read"⟩ := by
        rw [items, if_neg named, filedUnder]
      have known : (store.entries.find? (accountId, entryId)).isSome := by
        rw [held]
        rfl
      have stored := Store.stored_writes writes ((Store.sameContent_setRead ran).stored known)
      rw [happened] at stored
      obtain ⟨current, stored⟩ := Option.isSome_iff_exists.mp stored
      obtain ⟨shown, pending, wanted, desired⟩ := Store.reverts_undo filedAt stored
      have before := (two _ row held).1.statusText_eq
      refine ⟨row, _, pending, held, shown, before, wanted, ?_⟩
      rw [desired]
      exact before
  · exact fun account entryId unnamed => Store.find?_undo_other unnamed
  · exact fun account entryId field unnamed => Store.pending_undo_other unnamed
  · intro entryId
    rw [Store.undoItems_undo, Store.find?_undoItems_discardUndo, if_pos rfl]
  · rw [Store.undoBatches_undo, Store.find?_undoBatches_discardUndo, if_pos rfl]
  · intro scan clock
    refine Store.undo_absent (fun entry => ?_) ?_
    · rw [Store.undoItems_undo, Store.find?_undoItems_discardUndo, if_pos rfl]
    · rw [Store.undoBatches_undo, Store.find?_undoBatches_discardUndo, if_pos rfl]

/-- The article scrolled past. -/
def passedStore : Store :=
  storedStore.commit
    ((storedStore.setRead (fun _ => "t") "id" "account" [1] true true).map Prod.fst)

theorem setRead_passed : storedStore.setRead (fun _ => "t") "id" "account" [1] true true =
    .ok (passedStore, some ⟨"id", 1⟩) := by
  have receipt : (storedStore.setRead (fun _ => "t") "id" "account" [1] true true).map Prod.snd =
      .ok (some ⟨"id", 1⟩) := by decide
  obtain ⟨⟨store, _⟩, ran, rfl⟩ := map_eq_ok.mp receipt
  have same : passedStore = store := by
    unfold passedStore
    rw [ran]
    rfl
  rw [ran, same]

/-- Its change is delivered. -/
def delivery : List Write := [.acknowledge "account" firstMark]

/-- Scrolled past, delivered, and undone, the article is unread again; the delivery has left
its item where it was. -/
theorem passed_article_returns : ∃ shown,
    ((delivery.foldl Write.apply passedStore).undo .storage (fun _ => "u") "account"
      "id").1.entries.find? ("account", 1) = some shown ∧ shown.status = "unread" := by
  have known : Operation.TwoStatuses (.applySnapshot "t" "account" oneUnread) := by
    intro entry listed
    rw [List.mem_singleton.mp listed]
    exact .inr rfl
  have reached : (storeRuns fun _ operation => operation.TwoStatuses).Reachable storedStore :=
    .next (.start rfl) (Or.inl ⟨.applySnapshot "t" "account" oneUnread, known, rfl⟩)
  have spares : ∀ write ∈ delivery, write.Spares "account" "id" := by
    intro write listed
    rw [List.mem_singleton.mp listed]
    trivial
  obtain ⟨_, returned, reverted, _⟩ := (undo_reverts_its_batch reached).2 passedStore
    (fun _ => "t") "id" "account" [1] true ⟨"id", 1⟩ delivery .storage (fun _ => "u") _ _
    setRead_passed spares rfl
  have changed : storedStore.StatusChanged passedStore "account" 1 := by
    refine ⟨(storedStore.entries.find? ("account", 1)).get (by decide),
      (passedStore.entries.find? ("account", 1)).get (by decide), ?_, ?_, by decide⟩
    · exact (Option.some_get _).symm
    · exact (Option.some_get _).symm
  have listed := (returned 1).mpr ⟨changed, by
    rintro ⟨write, listed, named⟩
    rw [List.mem_singleton.mp listed] at named
    exact named⟩
  obtain ⟨row, shown, _, held, found, same, _⟩ := reverted 1 listed
  refine ⟨shown, found, same.trans ?_⟩
  have unread : (storedStore.entries.find? ("account", 1)).map EntryRow.status = some "unread" := by
    decide
  rw [held] at unread
  exact Option.some.inj unread

end FluxBar
