import FluxBar.UndoJournal
import Mathlib.Data.Finset.Card
import Mathlib.Logic.Equiv.Basic

/-! What `set_read` makes of a store, told by the set of the ids it was given. A turn for
an id that is not stored, that has the status already, or that had its turn before leaves
the entries, the pending rows and the receipt alone; so the order of the list and its
repetitions cannot be seen afterwards. -/
namespace FluxBar
open Relational Transition Procedure

/-- A row but for the time it was written last. -/
def PendingRow.untimed (row : PendingRow) : PendingRow := { row with updatedAt := "" }

namespace Store
variable {store : Store} {accountId receiptId : String} {read undoable : Bool} {ids : Finset Int}
  {clock : Nat → String} {entryId : Int} {progress advanced : ReadProgress}

/-! ## The meaning of a set of ids -/

/-- An entry is stored under this id, and its status is not the one asked for. -/
def unlike (store : Store) (accountId : String) (read : Bool) (entryId : Int) : Bool :=
  (store.entries.find? (accountId, entryId)).any fun row => row.status ≠ statusText read

/-- The entries once those with these ids have one status, which is what a call leaves
whatever the order of its list. -/
def markAll (store : Store) (accountId : String) (read : Bool) (ids : Finset Int) :
    Table EntryRow.key :=
  store.entries.update (fun row => row.accountId = accountId && row.id ∈ ids)
    (fun row => { row with status := statusText read }) fun _ => rfl

/-- What a change makes of the pending row it finds: the desired state, and the next
revision. -/
def markPending (accountId : String) (entryId : Int) (read : Bool) (old : Option PendingRow) :
    PendingRow where
  accountId := accountId
  entryId := entryId
  field := .read
  desired := read
  revision := old.elim 1 fun row => row.revision + 1
  updatedAt := ""

/-- The undo item found under a key once these ids have had their turns: an undoable call
files what it changes in its own batch, and a manual one takes the entries out of every
batch. -/
def itemAfter (store : Store) (accountId receiptId : String) (read undoable : Bool)
    (ids : Finset Int) (account batch : String) (entryId : Int) : Option UndoItemRow :=
  if account = accountId ∧ entryId ∈ ids then
    if undoable then
      if batch = receiptId ∧ store.unlike accountId read entryId then
        some { accountId, batchId := receiptId, entryId,
               priorRead := (store.entries.find? (accountId, entryId)).any fun row =>
                 row.status = "read" }
      else store.undoItems.find? (account, batch, entryId)
    else none
  else store.undoItems.find? (account, batch, entryId)

/-- How many distinct stored entries have another status, which is what a receipt counts. -/
def unlikeCount (store : Store) (accountId : String) (read : Bool) (ids : Finset Int) : Nat :=
  (ids.filter fun entryId => store.unlike accountId read entryId).card

/-- Where `set_read` stands once these ids have had their turns. It speaks of the set of ids
only, and so a list and any other list of the same set come to the same. -/
structure Taken (store : Store) (accountId receiptId : String) (read undoable : Bool)
    (ids : Finset Int) (progress : ReadProgress) : Prop where
  entries : progress.store.entries = store.markAll accountId read ids
  pending : ∀ account entryId field,
    (progress.store.pendingMutations.find? (account, entryId, field)).map PendingRow.untimed =
      if account = accountId ∧ field = .read ∧ entryId ∈ ids ∧
          store.unlike accountId read entryId = true then
        some (markPending accountId entryId read
          (store.pendingMutations.find? (account, entryId, field)))
      else (store.pendingMutations.find? (account, entryId, field)).map PendingRow.untimed
  items : ∀ account batch entryId, progress.store.undoItems.find? (account, batch, entryId) =
    store.itemAfter accountId receiptId read undoable ids account batch entryId
  batches : progress.store.undoBatches = store.undoBatches
  receipt : progress.receipt = { id := receiptId, count := store.unlikeCount accountId read ids }

/-! ## One turn -/

theorem unlike_iff : store.unlike accountId read entryId = true ↔
    ∃ row, store.entries.find? (accountId, entryId) = some row ∧ row.status ≠ statusText read := by
  simp [unlike, Option.any_eq_true]

theorem markAll_empty : store.markAll accountId read ∅ = store.entries :=
  Table.update_eq_self fun row _ => by simp

/-- Marking one entry more. -/
theorem update_markAll :
    (store.markAll accountId read ids).update
        (fun row => row.accountId = accountId && row.id = entryId)
        (fun row => { row with status := statusText read }) (fun _ => rfl) =
      store.markAll accountId read (insert entryId ids) := by
  unfold markAll
  refine Eq.trans (Table.update_update ?again ?unmoved) (Table.update_congr fun row _ => ?_)
  case again => exact fun _ => rfl
  case unmoved => exact fun _ => rfl
  rw [Bool.eq_iff_iff]
  simp only [Bool.or_eq_true, Bool.and_eq_true, decide_eq_true_eq, Finset.mem_insert]
  tauto

theorem find?_markAll : (store.markAll accountId read ids).find? (accountId, entryId) =
    (store.entries.find? (accountId, entryId)).map fun row =>
      if entryId ∈ ids then { row with status := statusText read } else row := by
  unfold markAll
  rw [Table.find?_update]
  cases found : store.entries.find? (accountId, entryId) with
  | none => rfl
  | some row =>
    have key := Table.key_of_find? found
    simp only [Prod.mk.injEq] at key
    simp [key.1, key.2]

/-- An entry that a turn finds unlike is unlike from the start, and has had no turn. -/
theorem Taken.fresh (taken : Taken store accountId receiptId read undoable ids progress)
    {row : EntryRow} (found : progress.store.entries.find? (accountId, entryId) = some row)
    (unlike : row.status ≠ statusText read) :
    entryId ∉ ids ∧ store.entries.find? (accountId, entryId) = some row := by
  rw [taken.entries, find?_markAll] at found
  obtain ⟨old, held, rfl⟩ := Option.map_eq_some_iff.mp found
  by_cases before : entryId ∈ ids
  · simp [before] at unlike
  · exact ⟨before, by rw [held, if_neg before]⟩

/-- An entry that a turn passes over was like from the start, or has had its turn. -/
theorem Taken.passed (taken : Taken store accountId receiptId read undoable ids progress)
    (like : ∀ row, progress.store.entries.find? (accountId, entryId) = some row →
      row.status = statusText read) :
    store.unlike accountId read entryId = true → entryId ∈ ids := by
  intro unlike
  obtain ⟨row, held, other⟩ := unlike_iff.mp unlike
  by_contra before
  refine other (like row ?_)
  rw [taken.entries, find?_markAll, held, Option.map_some, if_neg before]

/-- The item a turn files, and those it takes away. -/
theorem find?_itemAfter_insert {account batch : String} {entry : Int} :
    store.itemAfter accountId receiptId read undoable (insert entryId ids) account batch entry =
      if account = accountId ∧ entry = entryId then
        store.itemAfter accountId receiptId read undoable {entryId} account batch entry
      else store.itemAfter accountId receiptId read undoable ids account batch entry := by
  unfold itemAfter
  by_cases own : account = accountId
  · by_cases here : entry = entryId
    · simp [own, here]
    · simp [own, here]
  · simp [own]

/-- A manual turn takes the entry out of every batch. -/
theorem itemAfter_manual {batch : String} :
    store.itemAfter accountId receiptId read false {entryId} accountId batch entryId = none := by
  unfold itemAfter
  simp

/-- An undoable turn that passes an entry over files nothing. -/
theorem itemAfter_passed {batch : String}
    (passed : store.unlike accountId read entryId = true → entryId ∈ ids) :
    store.itemAfter accountId receiptId read true {entryId} accountId batch entryId =
      store.itemAfter accountId receiptId read true ids accountId batch entryId := by
  unfold itemAfter
  by_cases before : entryId ∈ ids
  · simp [before]
  · have like : ¬ store.unlike accountId read entryId = true := fun unlike => before (passed unlike)
    simp [before, like]

theorem unlikeCount_insert (fresh : entryId ∉ ids)
    (unlike : store.unlike accountId read entryId = true) :
    store.unlikeCount accountId read (insert entryId ids) =
      store.unlikeCount accountId read ids + 1 := by
  unfold unlikeCount
  rw [Finset.filter_insert, if_pos unlike, Finset.card_insert_of_notMem]
  exact fun listed => fresh (Finset.mem_of_mem_filter entryId listed)

theorem unlikeCount_insert_of_passed (passed : store.unlike accountId read entryId = true → entryId ∈ ids) :
    store.unlikeCount accountId read (insert entryId ids) = store.unlikeCount accountId read ids := by
  unfold unlikeCount
  rw [Finset.filter_insert]
  split
  · rename_i unlike
    rw [Finset.insert_eq_self.mpr (Finset.mem_filter.mpr ⟨passed unlike, unlike⟩)]
  · rfl

theorem find?_upsertPending {now account : String} {entry : Int} {field : MutationField} :
    ((store.upsertPending now accountId entryId .read read).pendingMutations.find?
        (account, entry, field)).map PendingRow.untimed =
      if account = accountId ∧ field = .read ∧ entry = entryId then
        some (markPending accountId entryId read
          (store.pendingMutations.find? (account, entry, field)))
      else (store.pendingMutations.find? (account, entry, field)).map PendingRow.untimed := by
  unfold upsertPending
  dsimp only
  rw [Table.find?_upsert]
  by_cases here : account = accountId ∧ field = .read ∧ entry = entryId
  · obtain ⟨rfl, rfl, rfl⟩ := here
    cases found : store.pendingMutations.find? (account, entry, .read) with
    | none => simp [PendingRow.untimed, markPending]
    | some row =>
      have key := Table.key_of_find? found
      simp only [Prod.mk.injEq] at key
      simp [PendingRow.untimed, markPending, key]
  · rw [if_neg here, if_neg]
    intro same
    simp only [Prod.mk.injEq] at same
    exact here ⟨same.1, same.2.2, same.2.1⟩

theorem markPending_congr {old new : Option PendingRow}
    (same : old.map PendingRow.untimed = new.map PendingRow.untimed) :
    markPending accountId entryId read old = markPending accountId entryId read new := by
  have revisions := congrArg (Option.map PendingRow.revision) same
  rw [Option.map_map, Option.map_map] at revisions
  unfold markPending
  congr 1
  cases old <;> cases new <;> simp_all [PendingRow.untimed]

/-- A turn that passes its entry over. -/
theorem Taken.pass (taken : Taken store accountId receiptId read undoable ids progress)
    (like : ∀ row, progress.store.entries.find? (accountId, entryId) = some row →
      row.status = statusText read) :
    Taken store accountId receiptId read undoable (insert entryId ids)
      { progress with store := progress.store.readStart accountId entryId undoable } := by
  have passed := taken.passed like
  refine ⟨?entries, ?pending, ?items, ?batches, ?receipt⟩
  case entries =>
    have same : (progress.store.readStart accountId entryId undoable).entries =
        progress.store.entries := by
      unfold readStart
      split <;> rfl
    dsimp only
    rw [same, ← update_markAll, ← taken.entries, Table.update_eq_self_of_fixed]
    intro row held chosen
    simp only [Bool.and_eq_true, decide_eq_true_eq] at chosen
    obtain ⟨rfl, rfl⟩ := chosen
    rw [← like row (Table.find?_of_mem held)]
  case pending =>
    intro account entry field
    have same : (progress.store.readStart accountId entryId undoable).pendingMutations =
        progress.store.pendingMutations := by
      unfold readStart
      split <;> rfl
    dsimp only
    rw [same, taken.pending]
    refine if_congr ?_ rfl rfl
    simp only [Finset.mem_insert]
    constructor
    · exact fun ⟨own, reads, before, unlike⟩ => ⟨own, reads, .inr before, unlike⟩
    · rintro ⟨own, reads, rfl | before, unlike⟩
      · exact ⟨own, reads, passed unlike, unlike⟩
      · exact ⟨own, reads, before, unlike⟩
  case items =>
    intro account batch entry
    rw [find?_itemAfter_insert]
    unfold readStart
    cases undoable with
    | true =>
      dsimp only
      rw [if_pos rfl, taken.items]
      split
      · rename_i here
        obtain ⟨rfl, rfl⟩ := here
        exact (itemAfter_passed passed).symm
      · rfl
    | false =>
      dsimp only
      rw [if_neg Bool.false_ne_true, find?_forgetUndo, taken.items]
      refine if_ctx_congr Iff.rfl (fun here => ?_) fun _ => rfl
      rw [here.1, here.2, itemAfter_manual]
  case batches =>
    refine Eq.trans ?_ taken.batches
    unfold readStart
    split <;> rfl
  case receipt =>
    dsimp only
    rw [taken.receipt, unlikeCount_insert_of_passed passed]

/-- A turn that marks its entry. -/
theorem Taken.mark (taken : Taken store accountId receiptId read undoable ids progress)
    {row : EntryRow} {noted : Store}
    (found : progress.store.entries.find? (accountId, entryId) = some row)
    (unlike : row.status ≠ statusText read)
    (noting : undoable = false ∧ noted = progress.store.forgetUndo accountId entryId ∨
      undoable = true ∧ progress.store.recordUndo accountId progress.receipt.id entryId
        (row.status = "read") = .ok noted) :
    Taken store accountId receiptId read undoable (insert entryId ids) {
      store := noted.markEntry (clock progress.readings) accountId entryId read
      receipt := { progress.receipt with count := progress.receipt.count + 1 }
      readings := progress.readings + 1 } := by
  obtain ⟨fresh, held⟩ := taken.fresh found unlike
  have other : store.unlike accountId read entryId = true := unlike_iff.mpr ⟨row, held, unlike⟩
  have kept : noted.entries = progress.store.entries ∧
      noted.pendingMutations = progress.store.pendingMutations ∧
      noted.undoBatches = progress.store.undoBatches := by
    rcases noting with ⟨_, rfl⟩ | ⟨_, recorded⟩
    · exact ⟨rfl, rfl, rfl⟩
    · obtain ⟨undoItems, _, rfl⟩ := recordUndo_ok recorded
      exact ⟨rfl, rfl, rfl⟩
  refine ⟨?entries, ?pending, ?items, ?batches, ?receipt⟩
  case entries =>
    rw [← update_markAll, ← taken.entries, ← kept.1]
    rfl
  case pending =>
    intro account entry field
    have same : (noted.setStatus accountId entryId (statusText read)).pendingMutations =
        progress.store.pendingMutations := kept.2.1
    have before := taken.pending account entry field
    unfold markEntry
    dsimp only
    rw [find?_upsertPending, same, before]
    by_cases here : account = accountId ∧ field = .read ∧ entry = entryId
    · obtain ⟨rfl, rfl, rfl⟩ := here
      rw [if_pos ⟨rfl, rfl, rfl⟩, if_pos ⟨rfl, rfl, Finset.mem_insert_self entry ids, other⟩]
      rw [if_neg fun absurd => fresh absurd.2.2.1] at before
      exact congrArg some (markPending_congr before)
    · rw [if_neg here]
      refine if_congr (and_congr_right fun own => and_congr_right fun reads => ?_) rfl rfl
      rw [Finset.mem_insert, or_iff_right fun same => here ⟨own, reads, same⟩]
  case items =>
    intro account batch entry
    change noted.undoItems.find? (account, batch, entry) = _
    rw [find?_itemAfter_insert]
    rcases noting with ⟨rfl, rfl⟩ | ⟨rfl, recorded⟩
    · rw [find?_forgetUndo, taken.items]
      refine if_ctx_congr Iff.rfl (fun here => ?_) fun _ => rfl
      rw [here.1, here.2, itemAfter_manual]
    · obtain ⟨undoItems, inserted, rfl⟩ := recordUndo_ok recorded
      dsimp only
      rw [(Table.find?_insert _ _ inserted).2, taken.items, taken.receipt]
      by_cases here : account = accountId ∧ entry = entryId
      · obtain ⟨rfl, rfl⟩ := here
        by_cases own : batch = receiptId
        · simp [itemAfter, UndoItemRow.key, own, other, held]
        · simp [itemAfter, UndoItemRow.key, own, fresh]
      · rw [if_neg here, if_neg]
        intro same
        simp only [UndoItemRow.key, Prod.mk.injEq] at same
        exact here ⟨same.1, same.2.2⟩
  case batches => exact kept.2.2.trans taken.batches
  case receipt =>
    dsimp only
    rw [taken.receipt, unlikeCount_insert fresh other]
    push_cast
    rfl

/-- One turn, whatever it finds: it goes through, and the id is one more of those that had
their turn. A repeated id finds its entry as wanted, and is passed over. -/
theorem Taken.turn (taken : Taken store accountId receiptId read undoable ids progress)
    (unfiled : undoable = true → ∀ entryId,
      store.undoItems.find? (accountId, receiptId, entryId) = none) (entryId : Int) :
    ∃ advanced, setReadEntry clock accountId read undoable progress entryId = .ok advanced ∧
      Taken store accountId receiptId read undoable (insert entryId ids) advanced := by
  obtain ⟨advanced, turned⟩ : ∃ advanced,
      setReadEntry clock accountId read undoable progress entryId = .ok advanced := by
    refine setReadEntry_ok ?_
    rintro rfl row found unlike
    rw [taken.receipt, taken.items]
    unfold itemAfter
    rw [if_neg fun before => (taken.fresh found unlike).1 before.2]
    exact unfiled rfl entryId
  refine ⟨advanced, turned, ?_⟩
  rcases setReadEntry_cases turned with ⟨rfl, like⟩ | ⟨row, noted, found, unlike, noting, rfl⟩
  · exact taken.pass like
  · exact taken.mark found unlike noting

/-! ## The loop -/

theorem taken_start {readings : Nat} : Taken store accountId receiptId read undoable ∅
    { store, receipt := { id := receiptId, count := 0 }, readings } where
  entries := markAll_empty.symm
  pending _ _ _ := (if_neg fun absurd => Finset.notMem_empty _ absurd.2.2.1).symm
  items _ _ _ := (if_neg fun absurd => Finset.notMem_empty _ absurd.2).symm
  batches := rfl
  receipt := rfl

/-- The loop adds its list to the ids that had their turns; by induction on the list, one
turn at a time. -/
theorem Taken.turns (taken : Taken store accountId receiptId read undoable ids progress)
    (unfiled : undoable = true → ∀ entryId,
      store.undoItems.find? (accountId, receiptId, entryId) = none) (entryIds : List Int) :
    ∃ finished, entryIds.foldlM (setReadEntry clock accountId read undoable) progress =
        .ok finished ∧
      Taken store accountId receiptId read undoable (ids ∪ entryIds.toFinset) finished := by
  induction entryIds generalizing ids progress with
  | nil =>
    refine ⟨progress, rfl, ?_⟩
    rw [List.toFinset_nil, Finset.union_empty]
    exact taken
  | cons entryId rest ih =>
    obtain ⟨advanced, turned, taken⟩ := @Taken.turn _ _ _ _ _ _ clock _ taken unfiled entryId
    obtain ⟨finished, ran, taken⟩ := ih taken
    refine ⟨finished, ?_, ?_⟩
    · rw [List.foldlM_cons, turned]
      exact ran
    · rw [List.toFinset_cons, Finset.union_insert, ← Finset.insert_union]
      exact taken

/-! ## The call -/

/-- No batch and no item of the account carries this id, as the id of a new receipt is meant
to be. -/
def Unused (store : Store) (accountId batchId : String) : Prop :=
  store.undoBatches.find? (accountId, batchId) = none ∧
    ∀ entryId, store.undoItems.find? (accountId, batchId, entryId) = none

/-- The batch an undoable call opens. -/
theorem openBatch_ok {now : String} (unused : undoable = true → store.Unused accountId receiptId) :
    ∃ opened, store.openBatch now accountId receiptId undoable = .ok opened := by
  unfold openBatch
  cases undoable with
  | false => exact ⟨store, rfl⟩
  | true =>
    have absent := (unused rfl).1
    cases inserted : store.undoBatches.insert? ⟨accountId, receiptId, now⟩ with
    | none =>
      rw [Table.insert?_eq_none] at inserted
      simp [UndoBatchRow.key, absent] at inserted
    | some undoBatches =>
      unfold insertRow
      simp only [if_true, inserted]
      exact ⟨_, rfl⟩

/-- A call succeeds, and what it leaves is told by the set of its ids. -/
theorem setRead_taken (unused : undoable = true → store.Unused accountId receiptId)
    (entryIds : List Int) :
    ∃ opened progress, store.openBatch (clock 0) accountId receiptId undoable = .ok opened ∧
      Taken opened accountId receiptId read undoable entryIds.toFinset progress ∧
      store.setRead clock receiptId accountId entryIds read undoable =
        .ok (progress.store.closeBatch accountId undoable progress.receipt,
          if undoable && 0 < progress.receipt.count then some progress.receipt else none) := by
  obtain ⟨opened, start⟩ := @openBatch_ok store accountId receiptId undoable (clock 0) unused
  have unfiled : undoable = true → ∀ entryId,
      opened.undoItems.find? (accountId, receiptId, entryId) = none := by
    intro undo entryId
    rw [undoItems_openBatch start]
    exact (unused undo).2 entryId
  obtain ⟨finished, ran, taken⟩ := @Taken.turns opened accountId receiptId read undoable ∅ clock
    { store := opened, receipt := { id := receiptId, count := 0 }, readings := 1 } taken_start
    unfiled entryIds
  rw [Finset.empty_union] at taken
  refine ⟨opened, finished, start, taken, ?_⟩
  unfold setRead
  rw [start]
  change (entryIds.foldlM (setReadEntry clock accountId read undoable)
    { store := opened, receipt := { id := receiptId, count := 0 }, readings := 1 } >>= _) = _
  rw [ran]
  rfl

/-- Whether a batch is there after a call. -/
def BatchAfter (store : Store) (accountId receiptId : String) (read undoable : Bool)
    (ids : Finset Int) (account batch : String) : Prop :=
  if undoable = true then
    if (account, batch) = (accountId, receiptId) then 0 < store.unlikeCount accountId read ids
    else (store.undoBatches.find? (account, batch)).isSome
  else (store.undoBatches.find? (account, batch)).isSome ∧ (account = accountId →
    ∃ entryId, (store.itemAfter accountId receiptId read undoable ids account batch entryId).isSome)

/-- What a call for a set of ids makes of a store, in every table that it writes; times
aside, which differ from reading to reading. -/
structure ReadOutcome (store : Store) (accountId receiptId : String) (read undoable : Bool)
    (ids : Finset Int) (after : Store) : Prop where
  entries : after.entries = store.markAll accountId read ids
  pending : ∀ account entryId field,
    (after.pendingMutations.find? (account, entryId, field)).map PendingRow.untimed =
      if account = accountId ∧ field = .read ∧ entryId ∈ ids ∧
          store.unlike accountId read entryId = true then
        some (markPending accountId entryId read
          (store.pendingMutations.find? (account, entryId, field)))
      else (store.pendingMutations.find? (account, entryId, field)).map PendingRow.untimed
  items : ∀ account batch entryId, after.undoItems.find? (account, batch, entryId) =
    store.itemAfter accountId receiptId read undoable ids account batch entryId
  batches : ∀ account batch, (after.undoBatches.find? (account, batch)).isSome ↔
    store.BatchAfter accountId receiptId read undoable ids account batch

/-- The receipt of a call. -/
def readReceipt (store : Store) (accountId receiptId : String) (read undoable : Bool)
    (ids : Finset Int) : Option MutationReceipt :=
  let count := store.unlikeCount accountId read ids
  if undoable && 0 < count then some { id := receiptId, count } else none

theorem pendingMutations_closeBatch {receipt : MutationReceipt} :
    (store.closeBatch accountId undoable receipt).pendingMutations = store.pendingMutations := by
  unfold closeBatch
  split_ifs <;> rfl

theorem batches_closeBatch_manual {opened : Store}
    (taken : Taken opened accountId receiptId read false ids progress) {account batch : String} :
    ((progress.store.closeBatch accountId false progress.receipt).undoBatches.find?
        (account, batch)).isSome ↔
      opened.BatchAfter accountId receiptId read false ids account batch := by
  have items : progress.store.HasItem account batch ↔ ∃ entryId,
      (opened.itemAfter accountId receiptId read false ids account batch entryId).isSome :=
    exists_congr fun entryId => by rw [taken.items]
  unfold BatchAfter
  rw [find?_undoBatches_closeBatch, taken.batches, if_neg Bool.false_ne_true, ← items,
    ← any_undoItems]
  cases opened.undoBatches.find? (account, batch) with
  | none => simp
  | some row => by_cases own : account = accountId <;> simp [own]

theorem batches_closeBatch_undoable {undoBatches : Table UndoBatchRow.key}
    (inserted : store.undoBatches.insert? ⟨accountId, receiptId, clock 0⟩ = some undoBatches)
    (taken : Taken { store with undoBatches } accountId receiptId read true ids progress)
    {account batch : String} :
    ((progress.store.closeBatch accountId true progress.receipt).undoBatches.find?
        (account, batch)).isSome ↔
      store.BatchAfter accountId receiptId read true ids account batch := by
  have count : unlikeCount { store with undoBatches } accountId read ids =
    store.unlikeCount accountId read ids := rfl
  unfold BatchAfter
  rw [find?_undoBatches_closeBatch_undoable, taken.batches, taken.receipt, if_pos rfl, count]
  dsimp only
  rw [(Table.find?_insert _ _ inserted).2]
  by_cases own : (account, batch) = (accountId, receiptId)
  · by_cases none : store.unlikeCount accountId read ids = 0
    · simp [own, none]
    · simp [own, none, UndoBatchRow.key, Nat.pos_of_ne_zero none]
  · simp [own, UndoBatchRow.key]

theorem Taken.readReceipt (taken : Taken store accountId receiptId read undoable ids progress) :
    (if undoable && 0 < progress.receipt.count then some progress.receipt else none) =
      store.readReceipt accountId receiptId read undoable ids := by
  unfold Store.readReceipt
  rw [taken.receipt]
  simp only [Int.natCast_pos]

/-- A call succeeds, and what it leaves is told by the set of its ids. -/
theorem setRead_outcome (unused : undoable = true → store.Unused accountId receiptId)
    (entryIds : List Int) :
    ∃ after, store.setRead clock receiptId accountId entryIds read undoable =
        .ok (after, store.readReceipt accountId receiptId read undoable entryIds.toFinset) ∧
      ReadOutcome store accountId receiptId read undoable entryIds.toFinset after := by
  obtain ⟨opened, progress, start, taken, ran⟩ :=
    @setRead_taken store accountId receiptId read undoable clock unused entryIds
  rw [taken.readReceipt] at ran
  have closed := @entries_closeBatch progress.store accountId undoable progress.receipt
  have pending := @pendingMutations_closeBatch progress.store accountId undoable progress.receipt
  have items := @undoItems_closeBatch progress.store accountId undoable progress.receipt
  rcases openBatch_cases start with ⟨rfl, rfl⟩ | ⟨rfl, undoBatches, inserted, rfl⟩
  · exact ⟨_, ran, {
      entries := closed.trans taken.entries
      pending := fun account entryId field => pending ▸ taken.pending account entryId field
      items := fun account batch entryId => items ▸ taken.items account batch entryId
      batches := fun _ _ => batches_closeBatch_manual taken }⟩
  · exact ⟨_, ran, {
      entries := closed.trans taken.entries
      pending := fun account entryId field => pending ▸ taken.pending account entryId field
      items := fun account batch entryId => items ▸ taken.items account batch entryId
      batches := fun _ _ => batches_closeBatch_undoable inserted taken }⟩

/-! ## Two calls for one set -/

/-- The id under which a second call has the batch of a first, which differs only for
undoable calls. -/
def renamed (accountId firstId secondId : String) (undoable : Bool) (account batch : String) :
    String :=
  if undoable = true ∧ account = accountId then Equiv.swap firstId secondId batch else batch

/-- What two calls of `set_read` have in common: all but the times they wrote down and the
id of the batch they opened. -/
structure SameMarks (accountId firstId secondId : String) (undoable : Bool) (first second : Store) :
    Prop where
  entries : first.entries = second.entries
  pending : ∀ key, (first.pendingMutations.find? key).map PendingRow.untimed =
    (second.pendingMutations.find? key).map PendingRow.untimed
  items : ∀ account batch entryId,
    (first.undoItems.find? (account, batch, entryId)).map UndoItemRow.priorRead =
      (second.undoItems.find? (account, renamed accountId firstId secondId undoable account batch,
        entryId)).map UndoItemRow.priorRead
  batches : ∀ account batch, (first.undoBatches.find? (account, batch)).isSome =
    (second.undoBatches.find?
      (account, renamed accountId firstId secondId undoable account batch)).isSome

section Renaming
variable {firstId secondId account batch : String}

theorem renamed_manual : renamed accountId firstId secondId false account batch = batch := by
  simp [renamed]

theorem renamed_elsewhere (other : account ≠ accountId) :
    renamed accountId firstId secondId undoable account batch = batch := by
  simp [renamed, other]

theorem renamed_undoable :
    renamed accountId firstId secondId true accountId batch = Equiv.swap firstId secondId batch := by
  simp [renamed]

/-- A batch of the account is the one opened, the one the other call opened, or neither. -/
theorem renamed_cases (firstId secondId batch : String) :
    batch = firstId ∧ Equiv.swap firstId secondId batch = secondId ∨
      batch ≠ firstId ∧ batch = secondId ∧ Equiv.swap firstId secondId batch = firstId ∨
      batch ≠ firstId ∧ batch ≠ secondId ∧ Equiv.swap firstId secondId batch = batch := by
  by_cases first : batch = firstId
  · exact .inl ⟨first, by rw [first, Equiv.swap_apply_left]⟩
  · by_cases second : batch = secondId
    · exact .inr (.inl ⟨first, second, by rw [second, Equiv.swap_apply_right]⟩)
    · exact .inr (.inr ⟨first, second, Equiv.swap_apply_of_ne_of_ne first second⟩)

/-- What an undoable call makes of a batch that is not its own. -/
theorem itemAfter_other (other : batch ≠ receiptId) :
    store.itemAfter accountId receiptId read true ids account batch entryId =
      store.undoItems.find? (account, batch, entryId) := by
  unfold itemAfter
  simp [other]

/-- What an undoable call files in its own batch. -/
theorem itemAfter_own (unused : store.Unused accountId receiptId) :
    (store.itemAfter accountId receiptId read true ids accountId receiptId entryId).map
        UndoItemRow.priorRead =
      if entryId ∈ ids ∧ store.unlike accountId read entryId = true then
        some ((store.entries.find? (accountId, entryId)).any fun row => row.status = "read")
      else none := by
  unfold itemAfter
  rw [unused.2]
  by_cases listed : entryId ∈ ids
  · by_cases unlike : store.unlike accountId read entryId = true
    · simp [listed, unlike]
    · simp [listed, unlike]
  · simp [listed]

theorem items_renamed (first : undoable = true → store.Unused accountId firstId)
    (second : undoable = true → store.Unused accountId secondId) :
    (store.itemAfter accountId firstId read undoable ids account batch entryId).map
        UndoItemRow.priorRead =
      (store.itemAfter accountId secondId read undoable ids account
        (renamed accountId firstId secondId undoable account batch) entryId).map
        UndoItemRow.priorRead := by
  by_cases own : account = accountId
  · subst own
    cases undoable with
    | false =>
      rw [renamed_manual]
      simp [itemAfter]
    | true =>
      have opened := first rfl
      have other := second rfl
      rw [renamed_undoable]
      rcases renamed_cases firstId secondId batch with
        ⟨rfl, swapped⟩ | ⟨unlike, rfl, swapped⟩ | ⟨unlike, elsewhere, swapped⟩
      · rw [swapped, itemAfter_own opened, itemAfter_own other]
      · rw [swapped, itemAfter_other unlike, itemAfter_other unlike.symm, other.2, opened.2]
      · rw [swapped, itemAfter_other unlike, itemAfter_other elsewhere]
  · rw [renamed_elsewhere own]
    simp [itemAfter, own]

theorem batches_renamed (first : undoable = true → store.Unused accountId firstId)
    (second : undoable = true → store.Unused accountId secondId) :
    store.BatchAfter accountId firstId read undoable ids account batch ↔
      store.BatchAfter accountId secondId read undoable ids account
        (renamed accountId firstId secondId undoable account batch) := by
  unfold BatchAfter
  cases undoable with
  | false =>
    rw [renamed_manual]
    simp [itemAfter]
  | true =>
    rw [if_pos rfl, if_pos rfl]
    by_cases own : account = accountId
    · subst own
      have opened := (first rfl).1
      have other := (second rfl).1
      rw [renamed_undoable]
      rcases renamed_cases firstId secondId batch with
        ⟨rfl, swapped⟩ | ⟨unlike, rfl, swapped⟩ | ⟨unlike, elsewhere, swapped⟩
      · simp [swapped]
      · simp [swapped, unlike, unlike.symm, opened, other]
      · simp [swapped, unlike, elsewhere]
    · rw [renamed_elsewhere own]
      simp [own]

end Renaming

/-- Two calls for one set of ids leave the same marks, their own batches under the ids they
drew. -/
theorem sameMarks_of_outcomes {firstId secondId : String} {first second : Store}
    (firstUnused : undoable = true → store.Unused accountId firstId)
    (secondUnused : undoable = true → store.Unused accountId secondId)
    (one : ReadOutcome store accountId firstId read undoable ids first)
    (other : ReadOutcome store accountId secondId read undoable ids second) :
    SameMarks accountId firstId secondId undoable first second where
  entries := one.entries.trans other.entries.symm
  pending := fun (account, entryId, field) =>
    (one.pending account entryId field).trans (other.pending account entryId field).symm
  items account batch entryId := by
    rw [one.items, other.items]
    exact items_renamed firstUnused secondUnused
  batches account batch := by
    rw [Bool.eq_iff_iff, one.batches, other.batches]
    exact batches_renamed firstUnused secondUnused

/-- Of the list it is given `set_read` uses the set of ids only: in any order and with any
repetitions it succeeds, leaves the same marks, and counts the distinct entries it changed.
For an undoable call the ids it draws are to be unused. -/
theorem setRead_same_set {firstClock secondClock : Nat → String} {firstId secondId : String}
    {firstIds secondIds : List Int} (same : ∀ entryId, entryId ∈ firstIds ↔ entryId ∈ secondIds)
    (firstUnused : undoable = true → store.Unused accountId firstId)
    (secondUnused : undoable = true → store.Unused accountId secondId) :
    ∃ first second,
      store.setRead firstClock firstId accountId firstIds read undoable =
        .ok (first, store.readReceipt accountId firstId read undoable firstIds.toFinset) ∧
      store.setRead secondClock secondId accountId secondIds read undoable =
        .ok (second, store.readReceipt accountId secondId read undoable firstIds.toFinset) ∧
      SameMarks accountId firstId secondId undoable first second := by
  have ids : secondIds.toFinset = firstIds.toFinset := by
    ext entryId
    rw [List.mem_toFinset, List.mem_toFinset, same]
  obtain ⟨first, firstRan, one⟩ :=
    @setRead_outcome store accountId firstId read undoable firstClock firstUnused firstIds
  obtain ⟨second, secondRan, other⟩ :=
    @setRead_outcome store accountId secondId read undoable secondClock secondUnused secondIds
  rw [ids] at secondRan other
  exact ⟨first, second, firstRan, secondRan, sameMarks_of_outcomes firstUnused secondUnused one other⟩

end Store

/-- An unread article. -/
def unreadRow (id : Int) : EntryRow where
  accountId := "account"
  id := id
  title := ""
  url := ""
  commentsUrl := ""
  feedId := 1
  feedName := ""
  categoryId := 1
  publishedAt := ""
  preview := ""
  imageUrl := ""
  remoteStatus := "unread"
  remoteStarred := false
  status := "unread"
  starred := false

def twoUnread : Store := { Store.empty with entries := ⟨[unreadRow 1, unreadRow 2], by decide⟩ }

namespace Store

/-- Two unread articles named twice and in another order, with one that is not stored. -/
theorem setRead_repeated :
    ∃ first second,
      twoUnread.setRead (fun _ => "00") "first" "account" [1, 2, 7] true true =
        .ok (first, twoUnread.readReceipt "account" "first" true true [1, 2, 7].toFinset) ∧
      twoUnread.setRead (fun _ => "09") "second" "account" [2, 7, 1, 2] true true =
        .ok (second, twoUnread.readReceipt "account" "second" true true [1, 2, 7].toFinset) ∧
      SameMarks "account" "first" "second" true first second :=
  setRead_same_set (by simp; tauto) (fun _ => ⟨rfl, fun _ => rfl⟩) fun _ => ⟨rfl, fun _ => rfl⟩

end Store
end FluxBar
