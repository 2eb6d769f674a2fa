import FluxBar.AccountIsolation
import FluxBar.GoStore
import FluxBar.SnapshotFigures

/-! Both cores run one store. Whatever calls the two receive, they answer them alike and
hold the same rows, but for the selection totals: this core keeps one total where the
other keeps one for each spelling of a selection. -/
namespace FluxBar
open Relational Procedure

/-! ## Selection totals -/

/-- The key a total is stored under here, given the other core's: no id but that of a scope,
and the unread kind always as filtered. -/
def sharedKey (key : String × String × Int × Bool) : String × String × Int × Bool :=
  (key.1, key.2.1, if key.2.1 = "category" ∨ key.2.1 = "feed" then key.2.2.1 else 0,
    key.2.2.2 || key.2.1 = "unread")

/-- The spellings of selections that totals are stored under. -/
abbrev Spellings := String × String × Int × Bool → Prop

/-- The totals of the two cores: each one held here is that of a spelling held there, and
every spelling, none but those allowed, has its total here. -/
structure TotalsInStep (allowed : Spellings) (rust go : Table SelectionTotalRow.key) : Prop where
  newest : ∀ key row, rust.find? key = some row →
    ∃ spelling other, go.find? spelling = some other ∧ sharedKey spelling = key ∧
      other.total = row.total
  covered : ∀ spelling, (go.find? spelling).isSome → (rust.find? (sharedKey spelling)).isSome
  spelled : ∀ spelling, (go.find? spelling).isSome → allowed spelling

namespace TotalsInStep
variable {allowed : Spellings} {rust go : Table SelectionTotalRow.key}
  (held : TotalsInStep allowed rust go)
include held

/-- A total browsed under a spelling is the total of its key, whatever other spellings have
stored before. -/
theorem upsert {row other : SelectionTotalRow} (named : sharedKey other.key = row.key)
    (same : other.total = row.total) (fine : allowed other.key) :
    TotalsInStep allowed (rust.upsert row fun old => { old with total := row.total })
      (go.upsert other fun old => { old with total := other.total }) where
  newest key found there := by
    rw [Table.find?_upsert] at there
    by_cases own : key = row.key
    · subst own
      rw [if_pos rfl] at there
      have total : found.total = row.total := by
        cases there
        cases rust.find? row.key <;> rfl
      refine ⟨other.key, (go.find? other.key).elim other fun old =>
        { old with total := other.total }, by rw [Table.find?_upsert, if_pos rfl], named, ?_⟩
      rw [total, ← same]
      cases go.find? other.key <;> rfl
    · rw [if_neg own] at there
      obtain ⟨spelling, held, spelled, shared, total⟩ := held.newest key found there
      refine ⟨spelling, held, ?_, shared, total⟩
      rw [Table.find?_upsert, if_neg, spelled]
      rintro rfl
      exact own (shared.symm.trans named)
  covered spelling present := by
    rw [Table.find?_upsert] at present ⊢
    by_cases own : sharedKey spelling = row.key
    · rw [if_pos own]
      rfl
    · rw [if_neg own]
      rw [if_neg fun again => own (by rw [again, named])] at present
      exact held.covered spelling present
  spelled spelling present := by
    rw [Table.find?_upsert] at present
    by_cases own : spelling = other.key
    · rw [own]
      exact fine
    · rw [if_neg own] at present
      exact held.spelled spelling present

/-- A change that tells the spellings of a key not apart. -/
theorem update {condition : SelectionTotalRow → Bool} {amount : Int → Int}
    (blind : ∀ row other : SelectionTotalRow, sharedKey other.key = row.key →
      condition other = condition row) :
    TotalsInStep allowed (rust.update condition fun row => { row with total := amount row.total })
      (go.update condition fun row => { row with total := amount row.total }) where
  newest key found there := by
    rw [Table.find?_update, Option.map_eq_some_iff] at there
    obtain ⟨row, here, rfl⟩ := there
    obtain ⟨spelling, other, spelled, shared, total⟩ := held.newest key row here
    have alike := blind row other
      (by rw [Table.key_of_find? spelled, Table.key_of_find? here, shared])
    refine ⟨spelling, _, by rw [Table.find?_update, spelled, Option.map_some], shared, ?_⟩
    rw [alike]
    split
    · exact congrArg amount total
    · exact total
  covered spelling present := by
    rw [Table.find?_update, Option.isSome_map] at present ⊢
    exact held.covered spelling present
  spelled spelling present := by
    rw [Table.find?_update, Option.isSome_map] at present
    exact held.spelled spelling present

end TotalsInStep

/-- An acknowledged read change moves all spellings of a key, or none, so that they stay in
step. -/
theorem countsUnread_sharedKey {accountId : String} {feedId categoryId : Int}
    {row other : SelectionTotalRow} (shared : sharedKey other.key = row.key) :
    Store.countsUnread accountId feedId categoryId other =
      Store.countsUnread accountId feedId categoryId row := by
  simp only [sharedKey, SelectionTotalRow.key, Prod.mk.injEq] at shared
  obtain ⟨account, kind, scope, flag⟩ := shared
  unfold Store.countsUnread
  rw [← account, ← kind, ← scope, ← flag]
  by_cases unread : other.kind = "unread"
  · simp [unread]
  by_cases category : other.kind = "category"
  · simp [category]
  by_cases feed : other.kind = "feed"
  · simp [feed]
  simp [unread, category, feed]

/-- The key of a browsed selection. -/
theorem sharedKey_normalized (accountId kind : String) (id : Int) (unreadOnly : Bool) :
    sharedKey (accountId, (Inbox.Selection.mk kind id unreadOnly).normalized.kind,
        (Inbox.Selection.mk kind id unreadOnly).normalized.id,
        (Inbox.Selection.mk kind id unreadOnly).normalized.unreadOnly) =
      (accountId, selectionKind (.normalize kind id unreadOnly),
        (Selection.normalize kind id unreadOnly).scopeId,
        (Selection.normalize kind id unreadOnly).isUnreadOnly) := by
  rcases normalize_normalized kind id unreadOnly with
    ⟨_, rust, go⟩ | ⟨_, rust, go⟩ | ⟨_, rust, go⟩ | ⟨_, rust, go⟩ | ⟨_, rust, go⟩ |
      ⟨_, _, _, rust, go⟩ <;>
    rw [rust, go] <;> simp [sharedKey, selectionKind, Selection.scopeId, Selection.isUnreadOnly]

/-! ## Stores in step -/

/-- A store with other selection totals. -/
def Store.withTotals (store : Store) (totals : Table SelectionTotalRow.key) : Store :=
  { store with selectionTotals := totals }

/-- The stores of the two cores: the same but for the selection totals, which are in step. -/
inductive InStep (allowed : Spellings) : Store → Store → Prop where
  | other {rust : Store} {totals : Table SelectionTotalRow.key} :
    TotalsInStep allowed rust.selectionTotals totals → InStep allowed rust (rust.withTotals totals)

namespace Inbox
variable {τ : Type} (moments : Moments τ)

/-- An entry of the other core, as this one holds it when it is given the text the other one
writes. -/
def Entry.rust (entry : Entry τ) : FluxBar.Entry where
  id := entry.id
  title := entry.title
  url := entry.url
  commentsUrl := entry.commentsURL
  feedId := entry.feedID
  feedName := entry.feedName
  categoryId := entry.categoryID
  publishedAtRfc3339 := moments.format entry.publishedAt
  preview := entry.preview
  imageUrl := entry.imageURL
  status := .parse entry.status
  starred := entry.starred

/-- A browsed snapshot of the other core, as this one browses it. -/
def Listing.rust (listing : Listing τ) : SnapshotData where
  version := listing.version
  selection := .normalize listing.selection.kind listing.selection.id listing.selection.unreadOnly
  entries := listing.entries.map (Entry.rust moments)
  categories := listing.categories
  total := listing.total
  unreadTotal := listing.unreadTotal
  starredTotal := listing.starredTotal

end Inbox

theorem InStep.of_eq {allowed : Spellings} {rust go : Store} {totals : Table SelectionTotalRow.key}
    (held : TotalsInStep allowed rust.selectionTotals totals) (same : go = rust.withTotals totals) :
    InStep allowed rust go := same ▸ .other held

section Transactions
variable {τ : Type} {moments : Inbox.Moments τ} {allowed : Spellings} {rust go : Store}
  {accountId : String}

theorem isEmpty_pendingRows (store : Store) (accountId : String) (entryId : Int)
    (field : MutationField) :
    (Inbox.pendingRows store accountId entryId field).isEmpty =
      !store.hasPending accountId entryId field := by
  apply Bool.eq_iff_iff.mpr
  unfold Inbox.pendingRows Table.select
  rw [List.isEmpty_iff, List.filter_eq_nil_iff, Bool.not_eq_true', ← Bool.not_eq_true,
    Store.hasPending, Table.has_iff]
  constructor
  · rintro none ⟨row, found⟩
    have named := Table.key_of_find? found
    simp only [PendingRow.key, Prod.mk.injEq] at named
    exact none row (Table.mem_of_find? found) (by simp [named])
  · intro none row listed named
    simp only [Bool.and_eq_true, decide_eq_true_eq] at named
    exact none ⟨row, Table.find?_eq_some.mpr ⟨listed, by simp [PendingRow.key, named]⟩⟩

theorem pos_pendingRows (store : Store) (accountId : String) (entryId : Int)
    (field : MutationField) :
    decide (0 < (Inbox.pendingRows store accountId entryId field).length) =
      store.hasPending accountId entryId field := by
  have empty := isEmpty_pendingRows store accountId entryId field
  rw [← Bool.not_eq_not, ← empty]
  cases Inbox.pendingRows store accountId entryId field <;> simp

/-- A value that a pending row protects. -/
theorem ite_pendingRows {α : Type} (store : Store) (accountId : String) (entryId : Int)
    (field : MutationField) (fresh kept : α) :
    (if (Inbox.pendingRows store accountId entryId field).isEmpty then fresh else kept) =
      if store.hasPending accountId entryId field then kept else fresh := by
  rw [isEmpty_pendingRows]
  cases store.hasPending accountId entryId field <;> rfl

theorem insertIDs_eq (entries : List (Inbox.Entry τ)) :
    Inbox.insertIDs entries = Store.remoteIds (entries.map (Inbox.Entry.rust moments)) := by
  unfold Inbox.insertIDs Store.remoteIds
  rw [List.foldlM_map]
  rfl

theorem any_ids (ids : Table (id : Int → Int)) (entryId : Int) :
    (ids.rows.any fun id => id = entryId) = ids.has entryId := by
  apply Bool.eq_iff_iff.mpr
  rw [Table.has_iff, List.any_eq_true]
  constructor
  · rintro ⟨id, listed, same⟩
    exact ⟨id, Table.find?_eq_some.mpr ⟨listed, of_decide_eq_true same⟩⟩
  · rintro ⟨id, found⟩
    obtain ⟨listed, same⟩ := Table.find?_eq_some.mp found
    exact ⟨id, listed, decide_eq_true same⟩

theorem InStep.reconcile (held : InStep allowed rust go) (kind : String) (id : Int) (unreadOnly : Bool)
    (entries : List (Inbox.Entry τ)) :
    Lockstep (InStep allowed)
      (rust.reconcileCompleteSelection accountId (.normalize kind id unreadOnly)
        (entries.map (Inbox.Entry.rust moments)))
      (Inbox.reconcileCompleteSelection go accountId
        (Inbox.Selection.mk kind id unreadOnly).normalized entries) := by
  have restricts : ((Inbox.Selection.mk kind id unreadOnly).normalized.unreadOnly ||
      decide ((Inbox.Selection.mk kind id unreadOnly).normalized.kind = "unread")) =
        (Selection.normalize kind id unreadOnly).isUnreadOnly :=
    restrictsToUnread_normalized kind id unreadOnly
  have starred : ((Inbox.Selection.mk kind id unreadOnly).normalized.kind = "starred") =
      ((Selection.normalize kind id unreadOnly).isStarred = true) := by
    rw [isStarred_iff, kind_normalized, beq_iff_eq]
  cases held with
  | other totals =>
  unfold Store.reconcileCompleteSelection Inbox.reconcileCompleteSelection
  rw [← insertIDs_eq, restricts]
  cases Inbox.insertIDs entries with
  | error failure => exact .error failure
  | ok ids =>
    have missing : ∀ row, (decide (row.accountId = accountId) &&
        Inbox.inScope (Inbox.Selection.mk kind id unreadOnly).normalized row &&
          !ids.rows.any fun id => decide (id = row.id)) =
        Store.isMissing accountId (.normalize kind id unreadOnly) ids row := fun row => by
      rw [any_ids, inScope_normalized]
      rfl
    dsimp only [bind, Except.bind]
    simp only [starred]
    split
    · refine .ok (.of_eq totals (Store.ext rfl rfl rfl rfl ?_ rfl rfl rfl rfl))
      refine Table.update_alike (fun row => by rw [missing]) fun row => ?_
      exact congrArg (fun status => { row with remoteStatus := "read", status })
        (ite_pendingRows rust row.accountId row.id .read "read" row.status)
    · split
      · refine .ok (.of_eq totals (Store.ext rfl rfl rfl rfl ?_ rfl rfl rfl rfl))
        refine Table.update_alike (fun row => by rw [missing]) fun row => ?_
        exact congrArg (fun starred => { row with remoteStarred := false, starred })
          (ite_pendingRows rust row.accountId row.id .starred false row.starred)
      · exact .ok (.other totals)

theorem InStep.insertFeed (held : InStep allowed rust go) (categoryId : Int) (feed : Feed) :
    Lockstep (InStep allowed) (Store.insertFeed accountId categoryId rust feed)
      (Inbox.insertFeed accountId categoryId go feed) := by
  cases held with
  | other totals =>
  unfold Store.insertFeed Inbox.insertFeed
  dsimp only [Store.withTotals]
  cases Store.insertRow "feeds.account_id, feeds.id" rust.feeds
      ⟨accountId, feed.id, categoryId, feed.title, feed.unreadCount⟩ with
  | error failure => exact .error failure
  | ok feeds => exact .ok (.of_eq totals rfl)

theorem InStep.insertCategory (held : InStep allowed rust go) (category : Category) :
    Lockstep (InStep allowed) (Store.insertCategory accountId rust category)
      (Inbox.insertCategory accountId go category) := by
  cases held with
  | other totals =>
  unfold Store.insertCategory Inbox.insertCategory
  dsimp only [Store.withTotals]
  cases Store.insertRow "categories.account_id, categories.id" rust.categories
      ⟨accountId, category.id, category.title⟩ with
  | error failure => exact .error failure
  | ok categories =>
    refine Lockstep.foldlM (fun _ _ feed held => held.insertFeed category.id feed) category.feeds ?_
    exact .of_eq totals rfl

theorem InStep.storeEntry (held : InStep allowed rust go) (entry : Inbox.Entry τ) :
    InStep allowed (Store.storeEntry accountId rust (entry.rust moments))
      (Inbox.storeEntry moments accountId go entry) := by
  cases held with
  | other totals =>
  refine .of_eq totals (Store.ext rfl rfl rfl rfl ?_ rfl rfl rfl rfl)
  have inserted : Inbox.insertedRow moments accountId entry =
      Store.entryRow accountId (entry.rust moments) := by
    unfold Inbox.insertedRow Store.entryRow Inbox.Entry.rust
    simp only [EntryStatus.asStr_parse]
  unfold Inbox.storeEntry
  dsimp only [Store.withTotals]
  rw [inserted]
  refine Table.upsert_alike fun old => ?_
  rw [pos_pendingRows, pos_pendingRows]
  unfold Inbox.updatedRow Store.mergeEntry Store.entryRow Inbox.Entry.rust
  simp only [EntryStatus.asStr_parse]
  rfl

theorem InStep.storeEntries (held : InStep allowed rust go) (entries : List (Inbox.Entry τ)) :
    InStep allowed ((entries.map (Inbox.Entry.rust moments)).foldl (Store.storeEntry accountId) rust)
      (entries.foldl (Inbox.storeEntry moments accountId) go) := by
  induction entries generalizing rust go with
  | nil => exact held
  | cons entry rest ih => exact ih (held.storeEntry entry)

/-- A browsed snapshot of no more entries than a 32-bit counter holds; beyond that the cores
tell complete results from others differently. -/
def Inbox.Listing.Fits (listing : Inbox.Listing τ) : Prop :=
  listing.entries.length ≤ 2147483647

/-- Both cores take a complete result of such a snapshot for evidence, or neither. -/
theorem reconciles_rust {listing : Inbox.Listing τ} (fits : listing.Fits) :
    Store.reconciles (listing.rust moments).selection (listing.rust moments) =
      (decide (listing.total ≤ listing.entries.length) &&
        (listing.selection.normalized.unreadOnly ||
          decide (listing.selection.normalized.kind = "unread") ||
            decide (listing.selection.normalized.kind = "starred"))) := by
  have restricts := restrictsToUnread_normalized listing.selection.kind listing.selection.id
    listing.selection.unreadOnly
  have kind := kind_normalized listing.selection.kind listing.selection.id
    listing.selection.unreadOnly
  have length : toI32 (listing.entries.length : Int) = listing.entries.length :=
    toI32_of_in (by unfold InI32; unfold Inbox.Listing.Fits at fits; omega)
  unfold Store.reconciles Inbox.Listing.rust
  dsimp only
  rw [List.length_map, length, isStarred_iff, ← restricts, ← kind]
  rfl

/-- The key the other core stores the total of a snapshot under. -/
def Inbox.Listing.spelling (accountId : String) (listing : Inbox.Listing τ) :
    String × String × Int × Bool :=
  (accountId, listing.selection.normalized.kind, listing.selection.normalized.id,
    listing.selection.normalized.unreadOnly)

/-- What a snapshot brings is recorded in step. -/
theorem InStep.recordTotals (held : InStep allowed rust go) (now : String)
    (listing : Inbox.Listing τ) (fine : allowed (listing.spelling accountId)) :
    InStep allowed (rust.recordTotals now accountId (listing.rust moments).selection (listing.rust moments))
      { go with
        accounts := go.accounts.update (fun row => row.id = accountId) fun row =>
          { row with remoteStarredTotal := listing.starredTotal, lastSyncAt := some now }
        selectionTotals := go.selectionTotals.upsert
          { accountId, kind := listing.selection.normalized.kind,
            selectionId := listing.selection.normalized.id,
            unreadOnly := listing.selection.normalized.unreadOnly, total := listing.total }
          fun old => { old with total := listing.total } } := by
  cases held with
  | other totals =>
  have named := sharedKey_normalized accountId listing.selection.kind listing.selection.id
    listing.selection.unreadOnly
  exact .of_eq (@TotalsInStep.upsert _ _ _ totals ⟨accountId, _, _, _, listing.total⟩
    ⟨accountId, _, _, _, listing.total⟩ named rfl fine) rfl

theorem InStep.applySnapshot {now : String} {listing : Inbox.Listing τ} (fits : listing.Fits)
    (fine : allowed (listing.spelling accountId)) (held : InStep allowed rust go) :
    Lockstep (InStep allowed) (rust.applySnapshot now accountId (listing.rust moments))
      (Inbox.applySnapshot moments go now accountId listing) := by
  have recorded := @InStep.recordTotals τ moments allowed rust go accountId held now listing fine
  unfold Store.applySnapshot Inbox.applySnapshot
  rw [show normalizeSelection (listing.rust moments).selection = (listing.rust moments).selection
    from normalizeSelection_of_normal (Selection.normalize_normal ..)]
  dsimp only
  rw [reconciles_rust fits]
  have rest : ∀ rust go, InStep allowed rust go → Lockstep (InStep allowed)
      (do
        let store ← listing.categories.foldlM (Store.insertCategory accountId)
          (rust.clearNavigation accountId)
        return (listing.entries.map (Inbox.Entry.rust moments)).foldl (Store.storeEntry accountId) store)
      (do
        let store ← listing.categories.foldlM (Inbox.insertCategory accountId) { go with
          feeds := go.feeds.delete fun row => row.accountId = accountId
          categories := go.categories.delete fun row => row.accountId = accountId }
        return listing.entries.foldl (Inbox.storeEntry moments accountId) store) := by
    intro rust go held
    refine Lockstep.bind (Lockstep.foldlM (fun _ _ category held =>
      InStep.insertCategory held category) listing.categories ?_) fun _ _ held =>
        .ok (InStep.storeEntries held listing.entries)
    cases held with
    | other totals => exact .of_eq totals rfl
  split
  · exact Lockstep.bind (recorded.reconcile ..) rest
  · exact rest _ _ recorded

/-- The two loops over the entries of a read change: stores in step, with one count and one
number of clock readings. -/
structure ReadsInStep (allowed : Spellings) (receiptId : String) (rust : Store.ReadProgress)
    (go : Store × Int × Nat) : Prop where
  stores : InStep allowed rust.store go.1
  count : rust.receipt.count = go.2.1
  readings : rust.readings = go.2.2
  receipt : rust.receipt.id = receiptId
  counted : 0 ≤ rust.receipt.count

theorem ReadsInStep.setReadEntry {clock : Nat → String} {receiptId : String} {read undoable : Bool}
    {rust : Store.ReadProgress} {go : Store × Int × Nat} (held : ReadsInStep allowed receiptId rust go)
    (entryId : Int) :
    Lockstep (ReadsInStep allowed receiptId)
      (Store.setReadEntry clock accountId read undoable rust entryId)
      (Inbox.setReadEntry clock accountId receiptId read undoable go entryId) := by
  obtain ⟨store, ⟨id, count⟩, readings⟩ := rust
  obtain ⟨go, goCount, goReadings⟩ := go
  obtain ⟨stores, rfl, rfl, rfl, counted⟩ := held
  have begun : InStep allowed (if undoable then store else store.forgetUndo accountId entryId)
      (if undoable then go else { go with undoItems := go.undoItems.delete fun item =>
        item.accountId = accountId && item.entryId = entryId }) := by
    cases stores with
    | other totals =>
      cases undoable with
      | false => exact .of_eq totals rfl
      | true => exact .other totals
  unfold Store.setReadEntry Inbox.setReadEntry
  dsimp only at counted ⊢
  generalize (if undoable = true then store else store.forgetUndo accountId entryId) = rust at begun ⊢
  generalize (if undoable = true then go else _) = go at begun ⊢
  clear stores store
  cases begun with
  | other totals =>
  dsimp only [Store.withTotals]
  cases rust.entries.find? (accountId, entryId) with
  | none => exact .ok ⟨.other totals, rfl, rfl, rfl, counted⟩
  | some row =>
    dsimp only
    by_cases same : row.status = statusText read
    · rw [if_pos same, if_pos (show row.status = if read then "read" else "unread" from same)]
      exact .ok ⟨.other totals, rfl, rfl, rfl, counted⟩
    · rw [if_neg same, if_neg (show ¬ row.status = if read then "read" else "unread" from same)]
      cases undoable with
      | false =>
        refine .ok ⟨.of_eq totals rfl, rfl, rfl, rfl, ?_⟩
        dsimp only
        omega
      | true =>
        simp only [if_true]
        unfold Store.recordUndo
        cases Store.insertRow "undo_items.account_id, undo_items.batch_id, undo_items.entry_id"
            rust.undoItems ⟨accountId, id, entryId, decide (row.status = "read")⟩ with
        | error failure => exact .error failure
        | ok undoItems =>
          refine .ok ⟨.of_eq totals rfl, rfl, rfl, rfl, ?_⟩
          dsimp only
          omega

theorem InStep.openBatch (held : InStep allowed rust go) {now receiptId : String} {undoable : Bool} :
    Lockstep (InStep allowed) (rust.openBatch now accountId receiptId undoable)
      (Inbox.openBatch go now accountId receiptId undoable) := by
  cases held with
  | other totals =>
  unfold Store.openBatch Inbox.openBatch
  cases undoable with
  | false => exact .ok (.other totals)
  | true =>
    simp only [if_true, Store.withTotals]
    cases Store.insertRow "undo_batches.account_id, undo_batches.id" rust.undoBatches
        ⟨accountId, receiptId, now⟩ with
    | error failure => exact .error failure
    | ok undoBatches => exact .ok (.of_eq totals rfl)

theorem isEmpty_filter {α : Type} (items : List α) (condition : α → Bool) :
    (items.filter condition).isEmpty = !items.any condition := by
  apply Bool.eq_iff_iff.mpr
  simp

theorem InStep.closeBatches (held : InStep allowed rust go) {undoable : Bool} {receipt : MutationReceipt} :
    InStep allowed (rust.closeBatch accountId undoable receipt)
      (Inbox.closeBatches go accountId receipt.id undoable receipt.count) := by
  cases held with
  | other totals =>
  unfold Store.closeBatch Inbox.closeBatches
  cases undoable with
  | false =>
    refine .of_eq totals (Store.ext rfl rfl rfl rfl rfl rfl ?_ rfl rfl)
    simp only [Bool.false_and, Bool.false_eq_true, if_false, Store.withTotals, Table.select]
    congr 1
    funext batch
    rw [isEmpty_filter]
  | true =>
    by_cases none : receipt.count = 0
    · simp only [none, decide_true, Bool.and_true, if_true]
      exact .of_eq totals rfl
    · simp only [none, decide_false, Bool.and_false, Bool.false_eq_true, if_false, if_true]
      exact .other totals

theorem InStep.setRead (held : InStep allowed rust go) {clock : Nat → String} {receiptId : String}
    {entryIds : List Int} {read undoable : Bool} :
    Lockstep (fun result result' : Store × Option MutationReceipt =>
        InStep allowed result.1 result'.1 ∧ result.2 = result'.2)
      (rust.setRead clock receiptId accountId entryIds read undoable)
      (Inbox.setRead go clock receiptId accountId entryIds read undoable) := by
  unfold Store.setRead Inbox.setRead
  refine held.openBatch.bind fun rust go held => ?_
  refine Lockstep.bind (Lockstep.foldlM (fun _ _ entryId (held : ReadsInStep allowed receiptId _ _) =>
    held.setReadEntry entryId) entryIds ⟨held, rfl, rfl, rfl, le_refl 0⟩) ?_
  rintro progress ⟨go, count, readings⟩ ⟨stores, rfl, rfl, rfl, counted⟩
  have closed := @InStep.closeBatches allowed progress.store go accountId stores undoable progress.receipt
  dsimp only
  cases undoable with
  | false => exact .ok ⟨closed, rfl⟩
  | true =>
    by_cases none : progress.receipt.count = 0
    · rw [if_neg (by simp [none]), if_pos (by simp [none])]
      exact .ok ⟨closed, rfl⟩
    · rw [if_pos (by simp; omega), if_neg (by simp [none])]
      exact .ok ⟨closed, rfl⟩

theorem InStep.setStarred (held : InStep allowed rust go) {now : String} {entryId : Int} {starred : Bool} :
    InStep allowed (rust.setStarred now accountId entryId starred)
      (Inbox.setStarred go now accountId entryId starred) := by
  cases held with
  | other totals => exact .of_eq totals rfl

theorem InStep.discardUndo (held : InStep allowed rust go) {batchId : String} :
    InStep allowed (rust.discardUndo accountId batchId) (Inbox.discardUndo go accountId batchId) := by
  cases held with
  | other totals => exact .of_eq totals rfl

theorem InStep.undo (held : InStep allowed rust go) {scan : Scan} {clock : Nat → String}
    {batchId : String} :
    InStep allowed (rust.undo scan clock accountId batchId).1
        (Inbox.undo go scan clock accountId batchId).1 ∧
      (rust.undo scan clock accountId batchId).2 = (Inbox.undo go scan clock accountId batchId).2 := by
  have items : Inbox.undo go scan clock accountId batchId =
      (Inbox.discardUndo ((rust.batchItems scan accountId batchId).foldl
        (Inbox.undoItem clock accountId) (go, 0)).1 accountId batchId,
        (rust.batchItems scan accountId batchId).map (·.entryId)) := by
    cases held with
    | other totals => rfl
  have turns : ∀ (items : List UndoItemRow) (readings : Nat) {rust go : Store}, InStep allowed rust go →
      InStep allowed (items.foldl (Store.undoEntry clock accountId) (rust, readings)).1
        (items.foldl (Inbox.undoItem clock accountId) (go, readings)).1 := by
    intro items
    induction items with
    | nil => exact fun _ _ _ held => held
    | cons item rest ih =>
      intro readings rust go held
      refine ih (readings + 1) ?_
      cases held with
      | other totals => exact .of_eq totals rfl
  rw [items]
  exact ⟨(turns _ 0 held).discardUndo, rfl⟩

theorem InStep.pending (held : InStep allowed rust go) (scan : Scan) :
    rust.pending scan accountId = Inbox.pending go scan accountId := by
  cases held with
  | other totals => rfl

theorem InStep.deletePending (held : InStep allowed rust go) (condition : PendingRow → Bool) :
    InStep allowed { rust with pendingMutations := rust.pendingMutations.delete condition }
      { go with pendingMutations := go.pendingMutations.delete condition } := by
  cases held with
  | other totals => exact .of_eq totals rfl

theorem InStep.acknowledge (held : InStep allowed rust go) {mutation : PendingMutation} :
    Lockstep (InStep allowed) (rust.acknowledge accountId mutation)
      (Inbox.acknowledge go accountId mutation) := by
  cases held with
  | other totals =>
  unfold Store.acknowledge Inbox.acknowledge
  dsimp only [Store.withTotals]
  cases found : rust.entries.find? (accountId, mutation.entryId) with
  | none => exact .error _
  | some row =>
    have named := Table.key_of_find? found
    simp only [EntryRow.key, Prod.mk.injEq] at named
    obtain ⟨entryId, field, desired, revision⟩ := mutation
    dsimp only at named ⊢
    rw [← named.2]
    refine .ok (InStep.deletePending ?_ _)
    cases field with
    | read =>
      unfold Store.acknowledgeRead
      dsimp only
      generalize (if (decide (row.remoteStatus = "unread") && desired) = true then (-1 : Int)
        else if (decide (row.remoteStatus = "read") && !desired) = true then 1 else 0) = delta
      by_cases none : delta = 0
      · simp only [if_pos none]
        exact .of_eq totals rfl
      · simp only [if_neg none]
        exact .of_eq (@TotalsInStep.update _ _ _ totals
          (Store.countsUnread accountId row.feedId row.categoryId)
          (fun total => max 0 (total + delta)) fun _ _ => countsUnread_sharedKey) rfl
    | starred =>
      unfold Store.acknowledgeStarred
      dsimp only
      generalize (if (!row.remoteStarred && desired) = true then (1 : Int)
        else if (row.remoteStarred && !desired) = true then -1 else 0) = delta
      by_cases none : delta = 0
      · simp only [if_pos none]
        exact .of_eq totals rfl
      · simp only [if_neg none]
        refine .of_eq (@TotalsInStep.update _ _ _ totals
          (fun total => total.accountId = accountId && total.kind = "starred")
          (fun total => max 0 (total + delta)) fun _ _ shared => ?_) rfl
        simp only [sharedKey, SelectionTotalRow.key, Prod.mk.injEq] at shared
        rw [shared.1, shared.2.1]

/-! ## Lists -/

/-- An entry this core shows, as the other one shows it. -/
def Inbox.Entry.shown (moments : Inbox.Moments τ) (entry : FluxBar.Entry) : Inbox.Entry τ where
  id := entry.id
  title := entry.title
  url := entry.url
  commentsURL := entry.commentsUrl
  feedID := entry.feedId
  feedName := entry.feedName
  categoryID := entry.categoryId
  publishedAt := moments.parse entry.publishedAtRfc3339
  preview := entry.preview
  imageURL := entry.imageUrl
  status := entry.status.asStr
  starred := entry.starred

theorem scannedEntry_eq (row : EntryRow) :
    Inbox.scannedEntry moments row = Inbox.Entry.shown moments row.toEntry := by
  unfold Inbox.scannedEntry Inbox.Entry.shown EntryRow.toEntry
  simp only [EntryStatus.asStr_parse]

/-- Both loops keep an entry whose id they have not seen; by induction on the rows, with
what was seen and kept so far. -/
theorem listEntry_fold (rows : List EntryRow) (seen : List Int) (kept : List Entry) :
    (rows.foldl (Inbox.listEntry moments) (seen, kept.map (Inbox.Entry.shown moments))).2 =
      ((rows.map EntryRow.toEntry).foldl (fun (seen, kept) entry =>
        if entry.id ∈ seen then (seen, kept) else (entry.id :: seen, kept ++ [entry]))
          (seen, kept)).2.map (Inbox.Entry.shown moments) := by
  induction rows generalizing seen kept with
  | nil => rfl
  | cons row rest ih =>
    rw [List.map_cons, List.foldl_cons, List.foldl_cons, Inbox.listEntry]
    dsimp only
    rw [scannedEntry_eq]
    by_cases known : row.id ∈ seen
    · rw [if_pos (show (Inbox.Entry.shown moments row.toEntry).id ∈ seen from known),
        if_pos (show row.toEntry.id ∈ seen from known)]
      exact ih seen kept
    · rw [if_neg (show ¬ (Inbox.Entry.shown moments row.toEntry).id ∈ seen from known),
        if_neg (show ¬ row.toEntry.id ∈ seen from known)]
      have grown := ih (row.id :: seen) (kept ++ [row.toEntry])
      rw [List.map_append] at grown
      exact grown

theorem InStep.snapshotEntries (held : InStep allowed rust go) {scan : Scan} {kind : String} {id : Int}
    {unreadOnly newestFirst : Bool} {retainIds : List Int} :
    Inbox.snapshotEntries moments go scan accountId
        (Inbox.Selection.mk kind id unreadOnly).normalized newestFirst retainIds =
      (rust.snapshotEntries scan accountId (.normalize kind id unreadOnly) newestFirst
        retainIds).map (Inbox.Entry.shown moments) := by
  cases held with
  | other totals =>
  have condition : (fun row : EntryRow => if retainIds.length = 0 then
        Inbox.selectionClause (Inbox.Selection.mk kind id unreadOnly).normalized accountId row
      else Inbox.selectionClause (Inbox.Selection.mk kind id unreadOnly).normalized accountId row ||
        (decide (row.accountId = accountId) && decide (row.id ∈ retainIds))) =
      fun row => Store.selectionClause accountId (.normalize kind id unreadOnly) row ||
        (decide (row.accountId = accountId) && decide (row.id ∈ retainIds)) := by
    funext row
    rw [selectionClause_normalized]
    cases retainIds with
    | nil => simp
    | cons first rest => simp
  unfold Inbox.snapshotEntries Store.snapshotEntries Store.distinctEntries
  dsimp only [Store.withTotals]
  rw [condition]
  exact listEntry_fold _ [] []

end Transactions

end FluxBar
