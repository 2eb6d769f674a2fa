import FluxBar.BrowseAgreement
import FluxBar.RuntimeProofs

/-! What both cores show of a store that a service keeps. The other core always has a
snapshot of it; this one has the same list, or fails over a number that does not fit. -/
namespace FluxBar
open Relational Procedure

/-! ## Stores of a service -/

/-- What every call of a service keeps of its store: the row of its account, and moments as
the other core writes them. -/
structure Store.Kept {τ : Type} (moments : Inbox.Moments τ) (accountId : String) (store : Store) :
    Prop where
  registered : (store.accounts.find? accountId).isSome
  written : ∀ key row, store.entries.find? key = some row →
    moments.format (moments.parse row.publishedAt) = row.publishedAt

namespace Store
variable {τ : Type} {moments : Inbox.Moments τ} {store after : Store} {accountId now : String}

/-! ## Accounts -/

theorem accounts_setRead {clock : Nat → String} {receiptId : String} {entryIds : List Int}
    {read undoable : Bool} {receipt : Option MutationReceipt}
    (ran : store.setRead clock receiptId accountId entryIds read undoable = .ok (after, receipt)) :
    after.accounts = store.accounts := by
  obtain ⟨opened, progress, start, turned, rfl, -⟩ := setRead_ok ran
  have begun : opened.accounts = store.accounts := by
    rcases openBatch_cases start with ⟨-, rfl⟩ | ⟨-, _, -, rfl⟩
    · rfl
    · rfl
  have marked : progress.store.accounts = store.accounts := by
    refine Transition.foldlM_invariant (fun progress => progress.store.accounts = store.accounts)
      (fun _ _ _ same turn => ?_) begun turned
    rcases setReadEntry_cases turn with ⟨rfl, -⟩ | ⟨row, noted, -, -, noting, rfl⟩
    · unfold readStart
      split
      · exact same
      · exact same
    · rcases noting with ⟨-, rfl⟩ | ⟨-, recorded⟩
      · exact same
      · obtain ⟨_, -, rfl⟩ := recordUndo_ok recorded
        exact same
  refine Eq.trans ?_ marked
  unfold closeBatch
  split_ifs <;> rfl

theorem accounts_undo {scan : Scan} {clock : Nat → String} {batchId : String} :
    (store.undo scan clock accountId batchId).1.accounts = store.accounts := by
  have turned : ∀ (items : List UndoItemRow) (progress : Store × Nat),
      (items.foldl (undoEntry clock accountId) progress).1.accounts = progress.1.accounts := by
    intro items
    induction items with
    | nil => exact fun _ => rfl
    | cons item rest ih => exact fun progress => ih _
  exact turned _ (store, 0)

/-- A change of the accounts leaves the rows there. -/
theorem isSome_update {accounts : Table AccountRow.id} {condition : AccountRow → Bool}
    {change : AccountRow → AccountRow} (keeps : ∀ row, (change row).id = row.id)
    (held : (accounts.find? accountId).isSome) :
    ((accounts.update condition change keeps).find? accountId).isSome := by
  rw [Table.find?_update, Option.isSome_map]
  exact held

namespace Kept

/-- The store of an account that is new. -/
theorem ensureAccount {server : String} :
    (Store.empty.ensureAccount accountId server).Kept moments accountId where
  registered := by
    unfold Store.ensureAccount
    rw [Table.find?_upsert]
    simp
  written _ _ found := by cases found

variable (held : store.Kept moments accountId)
include held

theorem of_content (accounts : (after.accounts.find? accountId).isSome)
    (content : SameContent store after) : after.Kept moments accountId where
  registered := accounts
  written key row found := by
    have same := content key
    rw [found, Option.map_some] at same
    obtain ⟨old, there, alike⟩ := Option.map_eq_some_iff.mp same.symm
    have moment : old.content.publishedAt = row.content.publishedAt := by rw [alike]
    change old.publishedAt = row.publishedAt at moment
    rw [← moment]
    exact held.written key old there

theorem setRead {clock : Nat → String} {receiptId : String} {entryIds : List Int}
    {read undoable : Bool} {receipt : Option MutationReceipt}
    (ran : store.setRead clock receiptId accountId entryIds read undoable = .ok (after, receipt)) :
    after.Kept moments accountId := by
  refine held.of_content ?_ (sameContent_setRead ran)
  rw [accounts_setRead ran]
  exact held.registered

theorem setStarred {entryId : Int} {starred : Bool} :
    (store.setStarred now accountId entryId starred).Kept moments accountId :=
  held.of_content held.registered sameContent_setStarred

theorem undo {scan : Scan} {clock : Nat → String} {batchId : String} :
    (store.undo scan clock accountId batchId).1.Kept moments accountId := by
  refine held.of_content ?_ sameContent_undo
  rw [accounts_undo]
  exact held.registered

theorem discardUndo {batchId : String} :
    (store.discardUndo accountId batchId).Kept moments accountId :=
  held.of_content held.registered (.of_entries rfl)

theorem acknowledge {mutation : PendingMutation}
    (ran : store.acknowledge accountId mutation = .ok after) : after.Kept moments accountId := by
  refine held.of_content ?_ (sameContent_acknowledge ran)
  unfold Store.acknowledge at ran
  split at ran
  · cases ran
  · cases ran
    cases mutation.field with
    | read =>
      unfold acknowledgeRead
      dsimp only
      split_ifs <;> exact held.registered
    | starred =>
      unfold acknowledgeStarred
      dsimp only
      split_ifs <;> first | exact held.registered | exact isSome_update (by exact fun _ => rfl) held.registered

/-- A refresh stores the moments that it is given, where they are texts that parse and are
written back alike. -/
theorem applySnapshot {snapshot : SnapshotData}
    (written : ∀ entry ∈ snapshot.entries,
      moments.format (moments.parse entry.publishedAtRfc3339) = entry.publishedAtRfc3339)
    (ran : store.applySnapshot now accountId snapshot = .ok after) :
    after.Kept moments accountId := by
  obtain ⟨reconciled, navigated, refreshed⟩ := applySnapshot_parts ran
  refine ⟨?_, ?_⟩
  · rw [refreshed.accounts]
    exact isSome_update (by exact fun _ => rfl) held.registered
  have begun : ∀ key row, navigated.entries.find? key = some row →
      moments.format (moments.parse row.publishedAt) = row.publishedAt := by
    intro key row found
    rw [(navigationOnly_insertCategories refreshed.inserted).entries] at found
    change reconciled.entries.find? key = some row at found
    rw [refreshed.rows] at found
    obtain ⟨old, there, rfl⟩ := Option.map_eq_some_iff.mp found
    have same : ∀ row, (dismissRow store (normalizeSelection snapshot.selection) row).publishedAt =
        row.publishedAt := by
      intro row
      unfold dismissRow
      split_ifs <;> rfl
    split
    · rw [same]
      exact held.written key old there
    · exact held.written key old there
  have stored : ∀ (entries : List Entry) (store : Store),
      (∀ entry ∈ entries,
        moments.format (moments.parse entry.publishedAtRfc3339) = entry.publishedAtRfc3339) →
      (∀ key row, store.entries.find? key = some row →
        moments.format (moments.parse row.publishedAt) = row.publishedAt) →
      ∀ key row, (entries.foldl (storeEntry accountId) store).entries.find? key = some row →
        moments.format (moments.parse row.publishedAt) = row.publishedAt := by
    intro entries
    induction entries with
    | nil => exact fun _ _ kept => kept
    | cons entry rest ih =>
      intro store written kept
      refine ih _ (fun other listed => written other (List.mem_cons_of_mem entry listed)) ?_
      intro key row found
      rw [find?_storeEntry] at found
      split at found
      · cases found
        have moment : (storedRow store accountId entry).publishedAt = entry.publishedAtRfc3339 := by
          unfold storedRow
          cases store.entries.find? (accountId, entry.id) with
          | none => rfl
          | some row => rfl
        rw [moment]
        exact written entry List.mem_cons_self
      · exact kept key row found
  rw [refreshed.stored]
  exact stored _ _ written begun

end Kept

/-- A snapshot is stored without the counts that are cut, if its totals fit. -/
theorem applySnapshot_cut {snapshot : SnapshotData} (total : InI32 snapshot.total)
    (starredTotal : InI32 snapshot.starredTotal) :
    store.applySnapshot now accountId snapshot.cut = store.applySnapshot now accountId snapshot := by
  have inserted : ∀ store, (snapshot.categories.map Category.cut).foldlM (insertCategory accountId) store =
      snapshot.categories.foldlM (insertCategory accountId) store := fun store => by
    rw [List.foldlM_map]
    rfl
  unfold applySnapshot SnapshotData.cut reconciles recordTotals
  dsimp only
  rw [toI32_of_in total, toI32_of_in starredTotal]
  simp only [inserted]

/-! ## Local snapshots -/

/-- A number read as `i32` that is none. -/
inductive OutOfRange : StoreError → Prop where
  | read (column : Nat) {value : Int} :
    ¬ InI32 value → OutOfRange (.integralValueOutOfRange column value)

theorem failsOnly_readI32 (column : Nat) (value : Int) :
    FailsOnly OutOfRange (readI32 column value) := by
  unfold readI32
  split
  · exact .ok value
  · rename_i large
    exact .error (.read column large)

theorem failsOnly_navigation (scan : Scan) :
    FailsOnly OutOfRange (store.navigation scan accountId) := by
  refine .foldlM (fun progress row => ?_) _ _
  refine FailsOnly.bind (.mapM (fun feed => ?_) _) fun _ => .ok _
  exact (failsOnly_readI32 2 feed.remoteUnreadCount).bind fun _ => .ok _

/-- With its account there, a snapshot fails only over a number that does not fit. -/
theorem failsOnly_localSnapshot (registered : (store.accounts.find? accountId).isSome) (scan : Scan)
    (selection : Selection) (newestFirst : Bool) (retainIds : List Int) :
    FailsOnly OutOfRange
      (store.localSnapshot scan accountId selection newestFirst retainIds) := by
  obtain ⟨account, found⟩ := Option.isSome_iff_exists.mp registered
  have starred : FailsOnly OutOfRange (store.starredTotal accountId) := by
    unfold starredTotal
    rw [found]
    exact .ok _
  have stored : FailsOnly OutOfRange (store.selectionTotal accountId (normalizeSelection selection)) := by
    unfold selectionTotal
    split
    · exact .ok none
    · exact (failsOnly_readI32 0 _).bind fun _ => .ok _
  have delta : FailsOnly OutOfRange
      (store.selectionPendingDelta accountId (normalizeSelection selection)) := by
    unfold selectionPendingDelta
    dsimp only
    split
    · exact .ok 0
    · exact failsOnly_readI32 0 _
  refine (failsOnly_navigation scan).bind fun navigation => starred.bind fun _ => ?_
  refine (failsOnly_readI32 0 _).bind fun _ => stored.bind fun total => ?_
  cases total with
  | none => exact .ok _
  | some total => exact delta.bind fun _ => .ok _

theorem head_localSnapshot {scan : Scan} {selection : Selection} {newestFirst : Bool}
    {retainIds : List Int} {snapshot : SnapshotData}
    (shown : store.localSnapshot scan accountId selection newestFirst retainIds = .ok snapshot) :
    snapshot.version = 1 ∧ snapshot.selection = normalizeSelection selection ∧
      ∃ navigation, store.navigation scan accountId = .ok navigation ∧
        snapshot.categories = navigation.1 := by
  unfold localSnapshot at shown
  simp only [bind_eq_ok] at shown
  obtain ⟨navigation, navigated, starredTotal, _, count, _, remoteTotal, _, built⟩ := shown
  cases remoteTotal with
  | none =>
    cases built
    exact ⟨rfl, rfl, navigation, navigated, rfl⟩
  | some remoteTotal =>
    obtain ⟨delta, _, same⟩ := bind_eq_ok.mp built
    cases same
    exact ⟨rfl, rfl, navigation, navigated, rfl⟩

end Store

/-- With its account there, the other core always has a snapshot: it reads no number in 32
bits. -/
theorem Inbox.localSnapshot_ok {τ : Type} {moments : Moments τ} {store : Store} {accountId : String}
    (registered : (store.accounts.find? accountId).isSome) (scan : Scan) (selection : Selection)
    (newestFirst : Bool) (retainIds : List Int) :
    ∃ listing, localSnapshot moments store scan accountId selection newestFirst retainIds =
        .ok listing ∧
      listing.version = 1 ∧ listing.selection = selection.normalized ∧
        listing.categories = (navigation store accountId scan).1 ∧
        listing.entries = snapshotEntries moments store scan accountId selection.normalized
          newestFirst retainIds := by
  obtain ⟨account, found⟩ := Option.isSome_iff_exists.mp registered
  unfold localSnapshot snapshot starredTotal
  rw [found]
  exact ⟨_, rfl, rfl, rfl, rfl, rfl⟩

/-! ## Navigation -/

/-- A feed without its count. -/
def Feed.uncounted (feed : Feed) : Feed := { feed with unreadCount := 0 }

/-- A category without its counts. -/
def Category.uncounted (category : Category) : Category :=
  { category with unreadCount := 0, feeds := category.feeds.map Feed.uncounted }

section Navigation
variable {store : Store} {scan : Scan} {accountId : String}

/-- The category shown of a row, without its counts. -/
def Store.categoryShown (store : Store) (scan : Scan) (accountId : String) (row : CategoryRow) :
    Category where
  id := row.id
  title := row.title
  unreadCount := 0
  feeds := (orderByTitle FeedRow.title (scan.order (store.categoryFeeds accountId row))).map
    fun feed => ⟨feed.id, feed.title, feed.categoryId, 0⟩

theorem mapM_navigationFeed {rows : List FeedRow} {feeds : List Feed}
    (ran : rows.mapM (store.navigationFeed accountId) = .ok feeds) :
    feeds.map Feed.uncounted = rows.map fun feed => ⟨feed.id, feed.title, feed.categoryId, 0⟩ := by
  induction rows generalizing feeds with
  | nil =>
    cases ran
    rfl
  | cons row rest ih =>
    rw [List.mapM_cons] at ran
    obtain ⟨feed, first, ran⟩ := bind_eq_ok.mp ran
    obtain ⟨others, later, ran⟩ := bind_eq_ok.mp ran
    obtain ⟨remote, _, built⟩ := bind_eq_ok.mp first
    cases ran
    cases built
    rw [List.map_cons, List.map_cons, ih later]
    rfl

/-- Both cores show the same categories and feeds in one order, whatever becomes of the
counts. -/
theorem uncounted_navigation {navigation : List Category × Int}
    (ran : store.navigation scan accountId = .ok navigation) :
    navigation.1.map Category.uncounted =
      (Inbox.navigation store accountId scan).1.map Category.uncounted := by
  have appended := Transition.foldlM_appends
    (fun progress : List Category × Int => progress.1.map Category.uncounted)
    (fun row => [store.categoryShown scan accountId row])
    (fun progress row after turn => by
      obtain ⟨feeds, read, built⟩ := bind_eq_ok.mp turn
      cases built
      have shown := mapM_navigationFeed read
      rw [List.map_append, List.map_singleton]
      exact congrArg (fun feeds => progress.1.map Category.uncounted ++
        [(⟨row.id, row.title, 0, feeds⟩ : Category)]) shown) ran
  have folded : ∀ (rows : List CategoryRow) (progress : List Category × Int),
      (rows.foldl (Inbox.navigationCategory store accountId scan) progress).1.map Category.uncounted =
        progress.1.map Category.uncounted ++ rows.flatMap fun row =>
          [store.categoryShown scan accountId row] := by
    intro rows
    induction rows with
    | nil => exact fun _ => (List.append_nil _).symm
    | cons row rest ih =>
      intro progress
      rw [List.foldl_cons, ih, List.flatMap_cons, ← List.append_assoc]
      refine congrArg (· ++ _) ?_
      unfold Inbox.navigationCategory
      rw [List.map_append, List.map_singleton]
      refine congrArg (fun feeds => progress.1.map Category.uncounted ++
        [(⟨row.id, row.title, 0, feeds⟩ : Category)]) ?_
      rw [List.map_map]
      rfl
  rw [appended]
  unfold Inbox.navigation
  rw [folded]

end Navigation

end FluxBar
