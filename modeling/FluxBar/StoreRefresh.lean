import FluxBar.StoreCells

/-! What `apply_snapshot` leaves of a row: a listed entry takes the browsed
columns, a held one that a complete result does not list may be taken for gone,
and no other row changes. -/
namespace FluxBar.Store
open Relational WriteBehind Relation

variable {store after : Store} {accountId otherAccount now : String} {entryId : Int}
  {field : MutationField} {selection : Selection} {snapshot : SnapshotData} {entries : List Entry}

/-! ## The navigation half -/

/-- Only `feeds`, `categories` and the temporary table differ, which is what inserting a
navigation may change. -/
structure NavigationOnly (store after : Store) : Prop where
  accounts : after.accounts = store.accounts
  selectionTotals : after.selectionTotals = store.selectionTotals
  entries : after.entries = store.entries
  pendingMutations : after.pendingMutations = store.pendingMutations
  undoBatches : after.undoBatches = store.undoBatches
  undoItems : after.undoItems = store.undoItems

namespace NavigationOnly

theorem refl : NavigationOnly store store := ⟨rfl, rfl, rfl, rfl, rfl, rfl⟩

theorem trans {middle : Store} (first : NavigationOnly store middle)
    (second : NavigationOnly middle after) : NavigationOnly store after :=
  ⟨second.accounts.trans first.accounts, second.selectionTotals.trans first.selectionTotals,
    second.entries.trans first.entries, second.pendingMutations.trans first.pendingMutations,
    second.undoBatches.trans first.undoBatches, second.undoItems.trans first.undoItems⟩

end NavigationOnly

/-- The row of a feed in the navigation. -/
def feedRow (accountId : String) (categoryId : Int) (feed : Feed) : FeedRow where
  accountId
  id := feed.id
  categoryId
  title := feed.title
  remoteUnreadCount := feed.unreadCount

/-- The row of a category. -/
def categoryRow (accountId : String) (category : Category) : CategoryRow where
  accountId
  id := category.id
  title := category.title

theorem rows_insertFeed {categoryId : Int} {feed : Feed}
    (inserted : insertFeed accountId categoryId store feed = .ok after) :
    after.feeds.rows = store.feeds.rows ++ [feedRow accountId categoryId feed] ∧
      after.categories = store.categories := by
  unfold insertFeed at inserted
  simp only [bind, Except.bind] at inserted
  split at inserted
  · cases inserted
  · rename_i feeds ran
    cases inserted
    exact ⟨Table.rows_insert? _ (insertRow_ok ran), rfl⟩

theorem rows_insertCategory {category : Category}
    (inserted : insertCategory accountId store category = .ok after) :
    after.feeds.rows =
        store.feeds.rows ++ category.feeds.map (feedRow accountId category.id) ∧
      after.categories.rows = store.categories.rows ++ [categoryRow accountId category] := by
  unfold insertCategory at inserted
  simp only [bind, Except.bind] at inserted
  split at inserted
  · cases inserted
  · rename_i categories ran
    have feeds := Transition.foldlM_appends (fun store => store.feeds.rows)
      (fun feed => [feedRow accountId category.id feed])
      (fun _ _ _ step => (rows_insertFeed step).1) inserted
    have rest := Transition.foldlM_invariant (fun store => store.categories = categories)
      (fun _ _ _ same step => (rows_insertFeed step).2.trans same) rfl inserted
    constructor
    · rw [List.map_eq_flatMap]
      exact feeds
    · rw [rest]
      exact Table.rows_insert? _ (insertRow_ok ran)

/-- A refresh leaves the account its categories, in order, each with its feeds, and nothing
of the navigation before. -/
theorem rows_insertCategories {categories : List Category}
    (inserted : categories.foldlM (insertCategory accountId) (store.clearNavigation accountId) =
      .ok after) :
    after.categories.select (fun row => row.accountId = accountId) =
        categories.map (categoryRow accountId) ∧
      after.feeds.select (fun row => row.accountId = accountId) =
        categories.flatMap fun category => category.feeds.map (feedRow accountId category.id) := by
  have categoryRows := Transition.foldlM_appends (fun store => store.categories.rows)
    (fun category => [categoryRow accountId category])
    (fun _ _ _ step => (rows_insertCategory step).2) inserted
  have feedRows := Transition.foldlM_appends (fun store => store.feeds.rows)
    (fun category => category.feeds.map (feedRow accountId category.id))
    (fun _ _ _ step => (rows_insertCategory step).1) inserted
  rw [← List.map_eq_flatMap] at categoryRows
  constructor
  · simp [Table.select, categoryRows, clearNavigation, Table.delete, categoryRow, List.filter_filter,
      List.filter_map, Function.comp_def]
  · simp [Table.select, feedRows, clearNavigation, Table.delete, feedRow, List.filter_filter,
      List.filter_flatMap, List.filter_map, Function.comp_def]

theorem navigationOnly_insertFeed {categoryId : Int} {feed : Feed}
    (inserted : insertFeed accountId categoryId store feed = .ok after) :
    NavigationOnly store after := by
  unfold insertFeed at inserted
  simp only [bind, Except.bind] at inserted
  split at inserted
  · cases inserted
  · cases inserted
    exact ⟨rfl, rfl, rfl, rfl, rfl, rfl⟩

theorem navigationOnly_insertCategory {category : Category}
    (inserted : insertCategory accountId store category = .ok after) :
    NavigationOnly store after := by
  unfold insertCategory at inserted
  simp only [bind, Except.bind] at inserted
  split at inserted
  · cases inserted
  · refine Transition.foldlM_invariant (NavigationOnly store) ?_ ?_ inserted
    · exact fun _ _ _ before step => before.trans (navigationOnly_insertFeed step)
    · exact ⟨rfl, rfl, rfl, rfl, rfl, rfl⟩

theorem navigationOnly_insertCategories {categories : List Category}
    (inserted : categories.foldlM (insertCategory accountId) (store.clearNavigation accountId) =
      .ok after) : NavigationOnly store after := by
  refine Transition.foldlM_invariant (NavigationOnly store) ?_ ?_ inserted
  · exact fun _ _ _ before step => before.trans (navigationOnly_insertCategory step)
  · exact ⟨rfl, rfl, rfl, rfl, rfl, rfl⟩

/-! ## Reconciliation -/

/-- The temporary table holds the ids of the browsed entries. -/
theorem has_remoteIds {ids : Table (id : Int → Int)} (filled : remoteIds entries = .ok ids)
    (entryId : Int) : ids.has entryId ↔ ∃ entry ∈ entries, entry.id = entryId := by
  suffices general : ∀ start : Table (id : Int → Int),
      entries.foldlM (fun table entry => insertRow "fluxbar_remote_selection_ids.id" table entry.id)
        start = .ok ids →
      (ids.has entryId ↔ start.has entryId ∨ ∃ entry ∈ entries, entry.id = entryId) by
    simpa [Table.has] using general .empty filled
  clear filled
  induction entries with
  | nil =>
    intro start filled
    cases filled
    simp
  | cons entry rest ih =>
    intro start filled
    rw [List.foldlM_cons] at filled
    cases first : insertRow "fluxbar_remote_selection_ids.id" start entry.id with
    | error failure => simp [first, bind, Except.bind] at filled
    | ok middle =>
      rw [first] at filled
      obtain ⟨_, found⟩ := Table.find?_insert start entryId (insertRow_ok first)
      rw [ih middle filled, Table.has, found]
      by_cases same : entryId = entry.id
      · simp [same]
      · simp [same, Table.has, Ne.symm same]

/-- A row that a complete result does not list: the server's flag is cleared, and the shown
one with it where no change of it is pending. -/
def dismissRow (store : Store) (selection : Selection) (row : EntryRow) : EntryRow :=
  if selection.isUnreadOnly then
    if row.remoteStatus = "unread" then { row with
      remoteStatus := "read"
      status := if store.hasPending row.accountId row.id .read then row.status else "read" }
    else row
  else if row.remoteStarred then { row with
    remoteStarred := false
    starred := if store.hasPending row.accountId row.id .starred then row.starred else false }
  else row

/-- A row in the scope of the selection that is not among the entries, and so is told of by
its absence. -/
def unlisted (accountId : String) (selection : Selection) (entries : List Entry) (row : EntryRow) :
    Bool :=
  row.accountId = accountId && inScope selection row && !entries.any (·.id = row.id)

/-- Reconciliation touches the unlisted rows of its scope and no other table of the schema.
Each of them ends as dismissed. -/
theorem reconcileCompleteSelection_ok (special : selection.isUnreadOnly || selection.isStarred)
    (ran : store.reconcileCompleteSelection accountId selection entries = .ok after) :
    (∃ ids, after = { store with entries := after.entries, remoteSelectionIds := ids }) ∧
    ∀ key, after.entries.find? key = (store.entries.find? key).map fun row =>
      if unlisted accountId selection entries row then dismissRow store selection row else row := by
  unfold reconcileCompleteSelection at ran
  simp only [bind, Except.bind] at ran
  split at ran
  · cases ran
  · rename_i ids filled
    have missing : ∀ row, isMissing accountId selection ids row =
        unlisted accountId selection entries row := by
      intro row
      unfold isMissing unlisted
      congr 2
      rw [Bool.eq_iff_iff, has_remoteIds filled]
      simp
    cases unreadOnly : selection.isUnreadOnly with
    | true =>
      simp only [unreadOnly, if_true] at ran
      cases ran
      refine ⟨⟨ids, rfl⟩, fun key => ?_⟩
      simp only [Table.find?_update, missing, dismissRow, unreadOnly, if_true]
      congr 1
      funext row
      by_cases listed : unlisted accountId selection entries row <;>
        by_cases unread : row.remoteStatus = "unread" <;> simp [listed, unread]
      rfl
    | false =>
      have starred : selection.isStarred := by simpa [unreadOnly] using special
      simp only [unreadOnly, starred, if_true, Bool.false_eq_true, if_false] at ran
      cases ran
      refine ⟨⟨ids, rfl⟩, fun key => ?_⟩
      simp only [Table.find?_update, missing, dismissRow, unreadOnly, Bool.false_eq_true,
        if_false]
      congr 1
      funext row
      by_cases listed : unlisted accountId selection entries row <;>
        by_cases marked : row.remoteStarred <;> simp [listed, marked]
      rfl

/-! ## The entries of the snapshot -/

section StoredEntries
variable {key : String × Int}

/-- Storing entries writes no table but `entries`. -/
theorem foldl_storeEntry_tables (store : Store) :
    entries.foldl (storeEntry accountId) store =
      { store with entries := (entries.foldl (storeEntry accountId) store).entries } := by
  induction entries generalizing store with
  | nil => rfl
  | cons entry rest ih =>
    rw [List.foldl_cons, ih]
    rfl

/-- The row of a browsed entry after the upsert, over the row it had before, if there was
one. -/
def storedRow (store : Store) (accountId : String) (entry : Entry) : EntryRow :=
  (store.entries.find? (accountId, entry.id)).elim (entryRow accountId entry)
    (mergeEntry (store.hasPending accountId entry.id .read)
      (store.hasPending accountId entry.id .starred) entry)

theorem find?_storeEntry (entry : Entry) :
    (storeEntry accountId store entry).entries.find? key =
      if key = (accountId, entry.id) then some (storedRow store accountId entry)
      else store.entries.find? key := by
  simp only [storeEntry, Table.find?_upsert, storedRow]
  by_cases same : key = (accountId, entry.id)
  · subst same
    rfl
  · rw [if_neg same]
    exact if_neg same

theorem find?_foldl_storeEntry_unlisted
    (unlisted : ∀ entry ∈ entries, key ≠ (accountId, entry.id)) :
    (entries.foldl (storeEntry accountId) store).entries.find? key = store.entries.find? key := by
  induction entries generalizing store with
  | nil => rfl
  | cons entry rest ih =>
    rw [List.foldl_cons, ih fun other listed => unlisted other (List.mem_cons_of_mem entry listed),
      find?_storeEntry, if_neg (unlisted entry List.mem_cons_self)]

theorem find?_foldl_storeEntry (distinct : (entries.map (·.id)).Nodup) {entry : Entry}
    (listed : entry ∈ entries) :
    (entries.foldl (storeEntry accountId) store).entries.find? (accountId, entry.id) =
      some (storedRow store accountId entry) := by
  induction entries generalizing store with
  | nil => cases listed
  | cons first rest ih =>
    simp only [List.map_cons, List.nodup_cons, List.mem_map, not_exists, not_and] at distinct
    rw [List.foldl_cons]
    rcases List.mem_cons.mp listed with rfl | later
    · rw [find?_foldl_storeEntry_unlisted, find?_storeEntry, if_pos rfl]
      intro other held same
      simp only [Prod.mk.injEq, true_and] at same
      exact distinct.1 other held same.symm
    · have apart : entry.id ≠ first.id := distinct.1 entry later
      rw [ih distinct.2 later]
      unfold storedRow
      rw [find?_storeEntry, if_neg (by simpa using apart)]
      rfl

end StoredEntries

/-! ## `apply_snapshot` -/

/-- The parts of a successful `apply_snapshot`: the totals, the rows after reconciliation,
the navigation inserted, and the entries stored last. Proofs about a refresh go through
these and not through its statements. -/
structure Refreshed (store after : Store) (now accountId : String) (selection : Selection)
    (snapshot : SnapshotData) (reconciled navigated : Store) : Prop where
  totals : ∃ ids, reconciled = { store.recordTotals now accountId selection snapshot with
    entries := reconciled.entries, remoteSelectionIds := ids }
  rows : ∀ key, reconciled.entries.find? key = (store.entries.find? key).map fun row =>
    if reconciles selection snapshot && unlisted accountId selection snapshot.entries row
    then dismissRow store selection row else row
  inserted : snapshot.categories.foldlM (insertCategory accountId)
    (reconciled.clearNavigation accountId) = .ok navigated
  stored : after = snapshot.entries.foldl (storeEntry accountId) navigated

theorem applySnapshot_parts (applied : store.applySnapshot now accountId snapshot = .ok after) :
    ∃ reconciled navigated,
      Refreshed store after now accountId (normalizeSelection snapshot.selection) snapshot
        reconciled navigated := by
  unfold applySnapshot at applied
  generalize normalizeSelection snapshot.selection = selection at applied ⊢
  by_cases complete : reconciles selection snapshot
  · have special := complete
    simp only [reconciles, Bool.and_eq_true] at special
    simp only [complete, if_true, bind, Except.bind] at applied
    split at applied
    · cases applied
    · rename_i reconciled ran
      split at applied
      · cases applied
      · rename_i navigated inserted
        cases applied
        obtain ⟨tables, rows⟩ := reconcileCompleteSelection_ok special.2 ran
        refine ⟨reconciled, navigated, tables, fun key => ?_, inserted, rfl⟩
        rw [rows, complete]
        simp only [Bool.true_and]
        rfl
  · simp only [complete, Bool.false_eq_true, if_false, bind, Except.bind, pure, Except.pure] at applied
    split at applied
    · cases applied
    · rename_i navigated inserted
      cases applied
      refine ⟨_, navigated, ⟨store.remoteSelectionIds, rfl⟩, fun key => ?_, inserted, rfl⟩
      simp [complete, recordTotals]

namespace Refreshed
variable {reconciled navigated : Store}
  (refreshed : Refreshed store after now accountId selection snapshot reconciled navigated)
include refreshed

theorem undoItems : after.undoItems = store.undoItems := by
  obtain ⟨ids, totals⟩ := refreshed.totals
  rw [refreshed.stored, foldl_storeEntry_tables]
  exact (navigationOnly_insertCategories refreshed.inserted).undoItems.trans (by rw [totals]; rfl)

theorem undoBatches : after.undoBatches = store.undoBatches := by
  obtain ⟨ids, totals⟩ := refreshed.totals
  rw [refreshed.stored, foldl_storeEntry_tables]
  exact (navigationOnly_insertCategories refreshed.inserted).undoBatches.trans (by rw [totals]; rfl)

/-- The totals of the snapshot are recorded. -/
theorem accounts : after.accounts = (store.recordTotals now accountId selection snapshot).accounts := by
  obtain ⟨ids, totals⟩ := refreshed.totals
  rw [refreshed.stored, foldl_storeEntry_tables]
  exact (navigationOnly_insertCategories refreshed.inserted).accounts.trans (by rw [totals])

theorem selectionTotals : after.selectionTotals =
    (store.recordTotals now accountId selection snapshot).selectionTotals := by
  obtain ⟨ids, totals⟩ := refreshed.totals
  rw [refreshed.stored, foldl_storeEntry_tables]
  exact (navigationOnly_insertCategories refreshed.inserted).selectionTotals.trans (by rw [totals])

theorem find?_unlisted {key : String × Int}
    (absent : ∀ entry ∈ snapshot.entries, key ≠ (accountId, entry.id)) :
    after.entries.find? key = (store.entries.find? key).map fun row =>
      if reconciles selection snapshot && unlisted accountId selection snapshot.entries row
      then dismissRow store selection row else row := by
  rw [refreshed.stored, find?_foldl_storeEntry_unlisted absent,
    (navigationOnly_insertCategories refreshed.inserted).entries, refreshed.rows]

theorem navigated_pendingMutations : navigated.pendingMutations = store.pendingMutations := by
  obtain ⟨ids, totals⟩ := refreshed.totals
  exact (navigationOnly_insertCategories refreshed.inserted).pendingMutations.trans
    (by rw [totals]; rfl)

theorem pendingMutations : after.pendingMutations = store.pendingMutations := by
  rw [refreshed.stored, foldl_storeEntry_tables]
  exact refreshed.navigated_pendingMutations

/-- Reconciliation spares a listed entry. -/
theorem navigated_listed {entry : Entry} (listed : entry ∈ snapshot.entries) :
    navigated.entries.find? (accountId, entry.id) = store.entries.find? (accountId, entry.id) := by
  rw [(navigationOnly_insertCategories refreshed.inserted).entries, refreshed.rows]
  cases found : store.entries.find? (accountId, entry.id) with
  | none => rfl
  | some row =>
    have key := Table.key_of_find? found
    simp only [Prod.mk.injEq] at key
    have present : snapshot.entries.any (·.id = row.id) := by
      rw [key.2]
      exact List.any_eq_true.mpr ⟨entry, listed, by simp⟩
    simp only [unlisted, present, Bool.not_true, Bool.and_false, Bool.false_eq_true, if_false,
      Option.map_some]

/-- A listed entry ends as the upsert over its old row, which reconciliation has left alone.
-/
theorem find?_listed (distinct : (snapshot.entries.map (·.id)).Nodup) {entry : Entry}
    (listed : entry ∈ snapshot.entries) :
    after.entries.find? (accountId, entry.id) = some (storedRow store accountId entry) := by
  rw [refreshed.stored, find?_foldl_storeEntry distinct listed]
  simp only [storedRow, hasPending, refreshed.navigated_listed listed,
    refreshed.navigated_pendingMutations]

end Refreshed

/-! ## Cells -/

/-- Whether an unlisted row in scope loses the field: the read state in a selection of
unread articles, the star in an unfiltered one of starred articles. -/
def dismisses (selection : Selection) (snapshot : SnapshotData) (field : MutationField)
    (row : EntryRow) : Bool :=
  reconciles selection snapshot && inScope selection row && match field with
    | .read => selection.isUnreadOnly && row.remoteStatus = "unread"
    | .starred => !selection.isUnreadOnly && row.remoteStarred

theorem copy_entryRow (entry : Entry) :
    field.copy (entryRow accountId entry) = ⟨field.browsed entry, field.browsed entry⟩ := by
  cases field <;> rfl

theorem copy_mergeEntry (entry : Entry) (row : EntryRow) :
    field.copy (mergeEntry (store.hasPending accountId entry.id .read)
      (store.hasPending accountId entry.id .starred) entry row) =
      ⟨field.browsed entry, if store.hasPending accountId entry.id field then field.effective row
        else field.browsed entry⟩ := by
  cases field <;> rfl

theorem copy_dismissRow {row : EntryRow}
    (dismissed : dismisses selection snapshot field row) :
    field.copy (dismissRow store selection row) =
      ⟨field.absent, if store.hasPending row.accountId row.id field then field.effective row
        else field.absent⟩ := by
  unfold dismisses at dismissed
  unfold dismissRow MutationField.copy
  cases field <;> simp only [Bool.and_eq_true, Bool.not_eq_true', decide_eq_true_eq] at dismissed <;>
    simp only [dismissed, if_true, Bool.false_eq_true, if_false] <;> rfl

theorem copy_dismissRow_other {row : EntryRow} (inside : inScope selection row)
    (complete : reconciles selection snapshot)
    (kept : ¬ dismisses selection snapshot field row) :
    field.copy (dismissRow store selection row) = field.copy row := by
  unfold dismisses at kept
  unfold dismissRow MutationField.copy
  cases field <;> simp only [inside, complete, Bool.true_and, Bool.and_eq_true, Bool.not_eq_true',
    decide_eq_true_eq, not_and] at kept <;> split_ifs <;> simp_all <;> constructor <;> rfl

/-- Storing an entry observes its two fields, and keeps what is pending of them. -/
theorem cell_storeEntry (entry : Entry) :
    (storeEntry accountId store entry).cell accountId entry.id field =
      (store.cell accountId entry.id field).observe (field.browsed entry) := by
  ext1
  · rw [Cell.observe_copy, cell_pending]
    simp only [cell, find?_storeEntry, if_true, storedRow]
    cases store.entries.find? (accountId, entry.id) with
    | none =>
      simp only [Option.map_some, Option.elim_none, copy_entryRow, Option.map_none, ite_self]
    | some row =>
      simp only [Option.map_some, Option.elim_some, copy_mergeEntry]
      rfl
  · rfl

theorem cell_storeEntry_other (entry : Entry)
    (elsewhere : (otherAccount, entryId) ≠ (accountId, entry.id)) :
    (storeEntry accountId store entry).cell otherAccount entryId field =
      store.cell otherAccount entryId field := by
  simp only [cell, find?_storeEntry, if_neg elsewhere]
  rfl

theorem moved_foldl_storeEntry {seen : Evidence}
    (shown : ∀ entry ∈ entries, ∀ field, seen accountId entry.id field (field.browsed entry)) :
    Moved seen store (entries.foldl (storeEntry accountId) store) := by
  induction entries generalizing store with
  | nil => exact .refl
  | cons entry rest ih =>
    refine Moved.trans ?_ (ih fun other listed => shown other (List.mem_cons_of_mem entry listed))
    intro otherAccount entryId field
    by_cases here : (otherAccount, entryId) = (accountId, entry.id)
    · simp only [Prod.mk.injEq] at here
      obtain ⟨rfl, rfl⟩ := here
      rw [cell_storeEntry]
      exact .single (.observe (shown entry List.mem_cons_self field))
    · rw [cell_storeEntry_other entry here]

namespace Refreshed
variable {reconciled navigated : Store}
  (refreshed : Refreshed store after now accountId selection snapshot reconciled navigated)
include refreshed

/-- Every listed entry is observed with its browsed value, whether or not the refresh also
reconciles. -/
theorem cell_listed (distinct : (snapshot.entries.map (·.id)).Nodup) {entry : Entry}
    (listed : entry ∈ snapshot.entries) :
    after.cell accountId entry.id field =
      (store.cell accountId entry.id field).observe (field.browsed entry) := by
  rw [← cell_storeEntry]
  simp only [cell, refreshed.find?_listed distinct listed, refreshed.pendingMutations,
    find?_storeEntry, if_true]
  rfl

theorem cell_dismissed {row : EntryRow} (absent : ∀ entry ∈ snapshot.entries, entry.id ≠ entryId)
    (found : store.entries.find? (accountId, entryId) = some row)
    (dismissed : dismisses selection snapshot field row) :
    after.cell accountId entryId field =
      (store.cell accountId entryId field).observe field.absent := by
  have key := Table.key_of_find? found
  simp only [Prod.mk.injEq] at key
  have parts := dismissed
  simp only [dismisses, Bool.and_eq_true] at parts
  have gone : unlisted accountId selection snapshot.entries row := by
    simpa [unlisted, parts, key] using absent
  ext1
  · have elsewhere : ∀ entry ∈ snapshot.entries, (accountId, entryId) ≠ (accountId, entry.id) := by
      intro entry listed same
      exact absent entry listed (by simpa using same.symm)
    rw [Cell.observe_copy, cell_pending]
    simp only [cell, refreshed.find?_unlisted elsewhere, found, parts, gone, Bool.and_self, if_true,
      Option.map_some, copy_dismissRow dismissed, key, Option.elim_some]
    rfl
  · simp only [cell, refreshed.pendingMutations, Cell.observe]

theorem cell_kept (absent : ∀ entry ∈ snapshot.entries, entry.id ≠ entryId)
    (kept : ∀ row, store.entries.find? (accountId, entryId) = some row →
      ¬ dismisses selection snapshot field row) :
    after.cell accountId entryId field = store.cell accountId entryId field := by
  ext1
  · have elsewhere : ∀ entry ∈ snapshot.entries, (accountId, entryId) ≠ (accountId, entry.id) := by
      intro entry listed same
      exact absent entry listed (by simpa using same.symm)
    simp only [cell, refreshed.find?_unlisted elsewhere]
    cases found : store.entries.find? (accountId, entryId) with
    | none => rfl
    | some row =>
      simp only [Option.map_some]
      split
      · rename_i gone
        simp only [unlisted, Bool.and_eq_true] at gone
        rw [copy_dismissRow_other gone.2.1.2 gone.1 (kept row found)]
      · rfl
  · simp only [cell, refreshed.pendingMutations]

/-- No account but the refreshed one is touched. -/
theorem cell_elsewhere (elsewhere : otherAccount ≠ accountId) :
    after.cell otherAccount entryId field = store.cell otherAccount entryId field := by
  ext1
  · have absent : ∀ entry ∈ snapshot.entries, (otherAccount, entryId) ≠ (accountId, entry.id) := by
      intro entry _ same
      exact elsewhere (Prod.mk.inj same).1
    simp only [cell, refreshed.find?_unlisted absent]
    cases found : store.entries.find? (otherAccount, entryId) with
    | none => rfl
    | some row =>
      have key := Table.key_of_find? found
      simp only [Prod.mk.injEq] at key
      simp [unlisted, key, elsewhere]
  · simp only [cell, refreshed.pendingMutations]

end Refreshed

/-- What a refresh can show: the value an entry is listed with, or the absent one of a row
that it dismisses. -/
def RefreshEvidence (store : Store) (accountId : String) (snapshot : SnapshotData) : Evidence :=
  fun account entryId field value => account = accountId ∧
    ((∃ entry ∈ snapshot.entries, entry.id = entryId ∧ value = field.browsed entry) ∨
      ((∀ entry ∈ snapshot.entries, entry.id ≠ entryId) ∧ value = field.absent ∧
        ∃ row, store.entries.find? (accountId, entryId) = some row ∧
          dismisses (normalizeSelection snapshot.selection) snapshot field row))

/-- A refresh only observes: it makes no change pending and takes none away. -/
theorem changed_applySnapshot (applied : store.applySnapshot now accountId snapshot = .ok after) :
    Changed (RefreshEvidence store accountId snapshot) store after := by
  obtain ⟨reconciled, navigated, refreshed⟩ := applySnapshot_parts applied
  refine .of_fewer (fun account entryId field => ?_) fun item held => refreshed.undoItems ▸ held
  by_cases here : account = accountId
  · subst here
    by_cases listed : ∃ entry ∈ snapshot.entries, entry.id = entryId
    · obtain ⟨entry, listed, rfl⟩ := listed
      have spared : navigated.cell account entry.id field = store.cell account entry.id field := by
        simp only [cell, refreshed.navigated_listed listed, refreshed.navigated_pendingMutations]
      rw [← spared, refreshed.stored]
      refine moved_foldl_storeEntry (fun other held field => ?_) account entry.id field
      exact ⟨rfl, Or.inl ⟨other, held, rfl, rfl⟩⟩
    · have absent : ∀ entry ∈ snapshot.entries, entry.id ≠ entryId := by simpa using listed
      by_cases dismissed : ∃ row, store.entries.find? (account, entryId) = some row ∧
          dismisses (normalizeSelection snapshot.selection) snapshot field row
      · obtain ⟨row, found, dismissed⟩ := dismissed
        rw [refreshed.cell_dismissed absent found dismissed]
        exact .single (.observe ⟨rfl, Or.inr ⟨absent, rfl, row, found, dismissed⟩⟩)
      · rw [refreshed.cell_kept absent fun row found dismiss => dismissed ⟨row, found, dismiss⟩]
  · rw [refreshed.cell_elsewhere here]

end FluxBar.Store
