import FluxBar.Snapshot
import FluxBar.Library.StableSort

/-! What `local_snapshot` shows of an account none of whose changes is pending:
the stored counters as they are, and the rows of the selection. -/
namespace FluxBar
open Relational

/-! ## Counters -/

/-- Counting from a value that fits wraps the sum once, so that partial sums need not fit.
-/
theorem addCounts_eq {total : Int} (fits : InI32 total) (feeds : List Feed) :
    Store.addCounts total feeds = toI32 (total + (feeds.map Feed.unreadCount).sum) := by
  unfold Store.addCounts
  induction feeds generalizing total with
  | nil => simp [toI32_of_in fits]
  | cons feed rest ih =>
    rw [List.foldl_cons, ih (toI32_in _), toI32_add_left, List.map_cons, List.sum_cons, add_assoc]

/-- Mapping with a function that never fails. -/
theorem mapM_ok {ε α β : Type} {function : α → Except ε β} {value : α → β} {items : List α}
    (succeeds : ∀ item ∈ items, function item = .ok (value item)) :
    items.mapM function = .ok (items.map value) := by
  induction items with
  | nil => rfl
  | cons item rest ih =>
    rw [List.mapM_cons, succeeds item List.mem_cons_self,
      ih fun other listed => succeeds other (List.mem_cons_of_mem item listed)]
    rfl

namespace Store
variable {store : Store} {accountId : String} {scan : Scan}

/-- No change of the account waits to be delivered, so that no figure is corrected. -/
def Settled (store : Store) (accountId : String) : Prop :=
  ∀ entryId field, store.hasPending accountId entryId field = false

/-- The counters of the account's feeds are ones a server counts with. -/
def Counted (store : Store) (accountId : String) : Prop :=
  ∀ row ∈ store.feeds.rows, row.accountId = accountId →
    0 ≤ row.remoteUnreadCount ∧ InI32 row.remoteUnreadCount

section Settled
variable (settled : store.Settled accountId)
include settled

theorem pendingEntries_settled (field : MutationField) : store.pendingEntries accountId field = [] := by
  unfold pendingEntries Table.select
  refine List.filter_eq_nil_iff.mpr fun row _ => ?_
  rw [settled row.id field, Bool.and_false]
  exact Bool.false_ne_true

theorem selectionPendingDelta_settled (selection : Selection) :
    store.selectionPendingDelta accountId selection = .ok 0 := by
  unfold selectionPendingDelta
  simp only [store.pendingEntries_settled settled, List.filter_nil, List.map_nil, List.sum_nil]
  split <;> rfl

theorem starredTotal_settled {account : AccountRow}
    (found : store.accounts.find? accountId = some account) :
    store.starredTotal accountId = .ok (toI32 (max 0 account.remoteStarredTotal)) := by
  unfold starredTotal
  simp [found, store.pendingEntries_settled settled]

/-- A stored feed as it is shown. -/
def shownFeed (row : FeedRow) : Feed where
  id := row.id
  title := row.title
  categoryId := row.categoryId
  unreadCount := row.remoteUnreadCount

theorem navigationFeed_settled {row : FeedRow} (positive : 0 ≤ row.remoteUnreadCount)
    (fits : InI32 row.remoteUnreadCount) :
    store.navigationFeed accountId row = .ok (shownFeed row) := by
  have delta : store.pendingReadDeltaForFeed accountId row.id = .ok 0 := by
    unfold pendingReadDeltaForFeed
    rw [store.pendingEntries_settled settled]
    rfl
  unfold navigationFeed
  rw [delta]
  simp [readI32, fits, toI32_of_in fits, positive, shownFeed, bind, Except.bind, pure, Except.pure]

end Settled

/-- A stored category as it is shown: its feeds by title, and their counters added up in 32
bits. -/
def shownCategory (store : Store) (scan : Scan) (accountId : String) (row : CategoryRow) : Category :=
  let feeds := (orderByTitle FeedRow.title (scan.order (store.feeds.select fun feed =>
    feed.accountId = accountId && feed.categoryId = row.id))).map shownFeed
  { id := row.id
    title := row.title
    unreadCount := toI32 (feeds.map Feed.unreadCount).sum
    feeds }

/-- The categories of the account as they are shown. -/
def shownCategories (store : Store) (scan : Scan) (accountId : String) : List Category :=
  (orderByTitle CategoryRow.title (scan.order (store.categories.select fun row =>
    row.accountId = accountId))).map (store.shownCategory scan accountId)

section Settled
variable (settled : store.Settled accountId) (counted : store.Counted accountId)
include settled counted

theorem navigationCategory_settled (progress : List Category × Int) (fits : InI32 progress.2)
    (row : CategoryRow) :
    store.navigationCategory scan accountId progress row =
      .ok (progress.1 ++ [store.shownCategory scan accountId row], toI32 (progress.2 +
        ((store.shownCategory scan accountId row).feeds.map Feed.unreadCount).sum)) := by
  have feeds : (orderByTitle FeedRow.title (scan.order (store.feeds.select fun feed =>
      feed.accountId = accountId && feed.categoryId = row.id))).mapM
        (store.navigationFeed accountId) =
      .ok (store.shownCategory scan accountId row).feeds := by
    refine mapM_ok fun feed listed => ?_
    have member := (scan.perm _).mem_iff.mp ((List.mergeSort_perm _ _).mem_iff.mp listed)
    obtain ⟨held, own⟩ := List.mem_filter.mp member
    simp only [Bool.and_eq_true, decide_eq_true_eq] at own
    obtain ⟨positive, fits⟩ := counted feed held own.1
    exact navigationFeed_settled settled positive fits
  unfold navigationCategory
  rw [feeds]
  have zero : InI32 0 := by decide
  simp only [bind, Except.bind, pure, Except.pure, addCounts_eq fits, addCounts_eq zero, zero_add]
  rfl

/-- The navigation shows every stored counter, and adds them up in 32 bits. -/
theorem navigation_settled : store.navigation scan accountId =
    .ok (store.shownCategories scan accountId, toI32 ((store.shownCategories scan accountId).map
      fun category => (category.feeds.map Feed.unreadCount).sum).sum) := by
  unfold navigation shownCategories
  generalize orderByTitle CategoryRow.title (scan.order (store.categories.select fun row =>
    row.accountId = accountId)) = rows
  suffices general : ∀ progress : List Category × Int, InI32 progress.2 →
      rows.foldlM (store.navigationCategory scan accountId) progress =
        .ok (progress.1 ++ rows.map (store.shownCategory scan accountId), toI32 (progress.2 +
          ((rows.map (store.shownCategory scan accountId)).map
            fun category => (category.feeds.map Feed.unreadCount).sum).sum)) by
    have whole := general ([], 0) (by decide)
    rwa [List.nil_append, zero_add] at whole
  induction rows with
  | nil =>
    intro progress fits
    simp only [List.foldlM_nil, List.map_nil, List.append_nil, List.sum_nil, add_zero,
      toI32_of_in fits]
    rfl
  | cons row rest ih =>
    intro progress fits
    rw [List.foldlM_cons, navigationCategory_settled settled counted progress fits row]
    simp only [bind, Except.bind]
    rw [ih _ (toI32_in _), toI32_add_left, List.append_assoc, List.map_cons, List.map_cons,
      List.sum_cons, ← add_assoc]
    rfl

end Settled

/-! ## The snapshot -/

/-- The rows of a selection. -/
def selected (store : Store) (accountId : String) (selection : Selection) : List EntryRow :=
  store.entries.select (selectionClause accountId selection)

/-- The total shown: the stored one, if there is one, but no less than the rows. -/
def shownTotal (store : Store) (accountId : String) (selection : Selection) : Int :=
  let count : Int := (store.selected accountId selection).length
  match store.selectionTotals.find?
      (accountId, selectionKind selection, selection.scopeId, selection.isUnreadOnly) with
  | none => count
  | some row => max count (max 0 (toI32 row.total))

/-- The total of a selection has been stored, if at all, as one that can be read. -/
def TotalReadable (store : Store) (accountId : String) (selection : Selection) : Prop :=
  ∀ row, store.selectionTotals.find?
    (accountId, selectionKind selection, selection.scopeId, selection.isUnreadOnly) = some row →
    InI32 row.total

/-- A snapshot fails only for an unknown account or a number beyond 32 bits; otherwise it
shows the stored numbers as they are, where nothing is pending. -/
theorem localSnapshot_settled {selection : Selection} {newestFirst : Bool} {retainIds : List Int}
    {snapshot : SnapshotData} (normal : selection.Normal) (settled : store.Settled accountId)
    (counted : store.Counted accountId) :
    store.localSnapshot scan accountId selection newestFirst retainIds = .ok snapshot ↔
      InI32 (store.selected accountId selection).length ∧
      store.TotalReadable accountId selection ∧
      ∃ account, store.accounts.find? accountId = some account ∧ snapshot = {
        version := 1
        selection
        entries := store.snapshotEntries scan accountId selection newestFirst retainIds
        categories := store.shownCategories scan accountId
        total := store.shownTotal accountId selection
        unreadTotal := toI32 ((store.shownCategories scan accountId).map fun category =>
          (category.feeds.map Feed.unreadCount).sum).sum
        starredTotal := toI32 (max 0 account.remoteStarredTotal) } := by
  unfold localSnapshot
  rw [normalizeSelection_of_normal normal]
  simp only [navigation_settled settled counted, bind, Except.bind]
  cases found : store.accounts.find? accountId with
  | none => simp [starredTotal, found]
  | some account =>
    rw [starredTotal_settled settled found]
    simp only [Option.some.injEq, exists_eq_left']
    unfold readI32 TotalReadable shownTotal selectionTotal
    have rows : store.entries.select (selectionClause accountId selection) =
        store.selected accountId selection := rfl
    rw [selectionPendingDelta_settled settled, rows]
    by_cases fits : InI32 (store.selected accountId selection).length
    · simp only [if_pos fits]
      cases store.selectionTotals.find?
          (accountId, selectionKind selection, selection.scopeId, selection.isUnreadOnly) with
      | none => simp [pure, Except.pure, fits, eq_comm]
      | some row =>
        by_cases readable : InI32 row.total
        · simp [readI32, readable, bind, Except.bind, pure, Except.pure, fits, eq_comm]
        · simp [readI32, readable, bind, Except.bind]
    · simp [fits]

/-- The navigation of one category with one feed, where no order matters. -/
theorem navigation_one {category : CategoryRow} {row : FeedRow}
    (categories : store.categories.select (fun row => row.accountId = accountId) = [category])
    (feeds : store.feeds.select (fun feed => feed.accountId = accountId &&
      feed.categoryId = category.id) = [row]) :
    store.navigation .storage accountId = (store.navigationFeed accountId row).map fun feed =>
      ([⟨category.id, category.title, toI32 feed.unreadCount, [feed]⟩], toI32 feed.unreadCount) := by
  unfold navigation navigationCategory
  simp only [categories, orderByTitle, Scan.storage, List.mergeSort_singleton, List.foldlM_cons,
    List.foldlM_nil, feeds, List.mapM_cons, List.mapM_nil, bind, Except.bind]
  cases store.navigationFeed accountId row with
  | error failure => rfl
  | ok feed => simp [addCounts, pure, Except.pure, Except.map]

/-- A snapshot of a selection with a stored total, from its parts. Runs on fixed stores are
told by it, one part after the other. -/
theorem localSnapshot_parts {selection : Selection} {newestFirst : Bool} {retainIds : List Int}
    {entries : List Entry} {categories : List Category} {unread starred count total delta : Int}
    (normal : normalizeSelection selection = selection)
    (navigated : store.navigation scan accountId = .ok (categories, unread))
    (listed : store.snapshotEntries scan accountId selection newestFirst retainIds = entries)
    (starredRead : store.starredTotal accountId = .ok starred)
    (counted : readI32 0 (store.selected accountId selection).length = .ok count)
    (totalRead : store.selectionTotal accountId selection = .ok (some total))
    (deltaRead : store.selectionPendingDelta accountId selection = .ok delta) :
    store.localSnapshot scan accountId selection newestFirst retainIds = .ok {
      version := 1
      selection
      entries
      categories
      total := max count (max 0 (toI32 (total + delta)))
      unreadTotal := unread
      starredTotal := starred } := by
  unfold selected at counted
  unfold localSnapshot
  rw [normal]
  simp only [navigated, starredRead, counted, totalRead, deltaRead, listed, bind, Except.bind]
  rfl

/-! ## The rows listed -/

/-- One turn of the loop that keeps each id once. -/
def keepUnseen (progress : List Int × List Entry) (entry : Entry) : List Int × List Entry :=
  if entry.id ∈ progress.1 then progress else (entry.id :: progress.1, progress.2 ++ [entry])

/-- Entries under distinct ids are all kept. -/
theorem distinctEntries_of_distinct {entries : List Entry}
    (distinct : (entries.map Entry.id).Nodup) : distinctEntries entries = entries := by
  suffices general : ∀ (seen : List Int) (kept : List Entry),
      (∀ entry ∈ entries, entry.id ∉ seen) →
      (entries.foldl keepUnseen (seen, kept)).2 = kept ++ entries by
    exact (general [] [] fun _ _ => List.not_mem_nil).trans (List.nil_append entries)
  induction entries with
  | nil => simp
  | cons entry rest ih =>
    intro seen kept unseen
    rw [List.map_cons, List.nodup_cons] at distinct
    rw [List.foldl_cons, keepUnseen, if_neg (unseen entry List.mem_cons_self), ih distinct.2,
      List.append_assoc, List.singleton_append]
    intro other listed
    rw [List.mem_cons, not_or]
    refine ⟨fun same => distinct.1 ?_, unseen other (List.mem_cons_of_mem entry listed)⟩
    exact same ▸ List.mem_map_of_mem listed

theorem mem_of_distinctEntries {entries : List Entry} {entry : Entry}
    (kept : entry ∈ distinctEntries entries) : entry ∈ entries := by
  suffices general : ∀ (seen : List Int) (chosen : List Entry),
      entry ∈ (entries.foldl keepUnseen (seen, chosen)).2 → entry ∈ chosen ∨ entry ∈ entries by
    exact (general [] [] kept).resolve_left List.not_mem_nil
  clear kept
  induction entries with
  | nil => exact fun _ _ listed => .inl listed
  | cons first rest ih =>
    intro seen chosen listed
    rw [List.foldl_cons, keepUnseen] at listed
    split at listed
    · exact (ih _ _ listed).imp_right (List.mem_cons_of_mem first)
    · rcases ih _ _ listed with before | later
      · rcases List.mem_append.mp before with before | here
        · exact .inl before
        · rw [List.mem_singleton] at here
          exact .inr (here ▸ List.mem_cons_self)
      · exact .inr (List.mem_cons_of_mem first later)

/-- The rows a snapshot chooses from: those of the selection, and the retained ones of the
account. -/
def qualifies (accountId : String) (selection : Selection) (retainIds : List Int) (row : EntryRow) :
    Bool :=
  selectionClause accountId selection row || (row.accountId = accountId && row.id ∈ retainIds)

def qualifying (store : Store) (accountId : String) (selection : Selection) (retainIds : List Int) :
    List EntryRow :=
  store.entries.select (qualifies accountId selection retainIds)

theorem accountId_of_qualifies {selection : Selection} {retainIds : List Int} {row : EntryRow}
    (chosen : qualifies accountId selection retainIds row = true) : row.accountId = accountId := by
  simp only [qualifies, selectionClause, Bool.or_eq_true, Bool.and_eq_true, decide_eq_true_eq] at chosen
  rcases chosen with ⟨⟨⟨named, _⟩, _⟩, _⟩ | ⟨named, _⟩
  · exact named
  · exact named

/-- Without retained rows only the selection is left. -/
theorem qualifying_nil (store : Store) (accountId : String) (selection : Selection) :
    store.qualifying accountId selection [] = store.selected accountId selection := by
  have same : qualifies accountId selection [] = selectionClause accountId selection := by
    funext row
    simp [qualifies]
  unfold qualifying selected
  rw [same]

/-- Rows of one account are told apart by their ids. -/
theorem nodup_qualifying (store : Store) (accountId : String) (selection : Selection)
    (retainIds : List Int) :
    ((store.qualifying accountId selection retainIds).map EntryRow.id).Nodup := by
  have keys : ((store.qualifying accountId selection retainIds).map EntryRow.key).Nodup :=
    (List.filter_sublist.map _).nodup store.entries.unique
  refine (List.nodup_map_iff_inj_on (List.Nodup.of_map _ keys)).mpr ?_
  intro left leftHeld right rightHeld same
  have own : ∀ row ∈ store.qualifying accountId selection retainIds, row.accountId = accountId :=
    fun row held => accountId_of_qualifies (List.mem_filter.mp held).2
  refine List.inj_on_of_nodup_map keys leftHeld rightHeld ?_
  exact Prod.ext ((own left leftHeld).trans (own right rightHeld).symm) same

theorem nodup_selected (store : Store) (accountId : String) (selection : Selection) :
    (((store.selected accountId selection).map EntryRow.toEntry).map Entry.id).Nodup := by
  have distinct := store.nodup_qualifying accountId selection []
  rw [qualifying_nil] at distinct
  rw [List.map_map]
  exact distinct

/-- How a list is ordered by its dates, which are compared as texts. -/
def InDateOrder (newestFirst : Bool) (left right : Entry) : Prop :=
  if newestFirst then right.publishedAtRfc3339 ≤ left.publishedAtRfc3339
  else left.publishedAtRfc3339 ≤ right.publishedAtRfc3339

/-- A snapshot lists the first of its rows by date. The rows are told apart by their ids, so
that none is left out as a repetition. -/
theorem snapshotEntries_ordered (store : Store) (scan : Scan) (accountId : String)
    (selection : Selection) (newestFirst : Bool) (retainIds : List Int) :
    ∃ ordered : List EntryRow,
      ordered.Perm (store.qualifying accountId selection retainIds) ∧
      ordered.Pairwise (fun left right => InDateOrder newestFirst left.toEntry right.toEntry) ∧
      store.snapshotEntries scan accountId selection newestFirst retainIds =
        (ordered.take snapshotLimit).map EntryRow.toEntry := by
  let before : EntryRow → EntryRow → Bool := fun left right =>
    if newestFirst then decide (right.publishedAt ≤ left.publishedAt)
    else decide (left.publishedAt ≤ right.publishedAt)
  have sorts : ∀ rows : List EntryRow, (rows.mergeSort before).Perm rows ∧
      (rows.mergeSort before).Pairwise fun left right =>
        InDateOrder newestFirst left.toEntry right.toEntry := by
    intro rows
    cases newestFirst with
    | true =>
      have sort := StableSort.sortedBy_mergeSort (fun row => OrderDual.toDual row.publishedAt) rows
      exact ⟨sort.perm, sort.ordered⟩
    | false =>
      have sort := StableSort.sortedBy_mergeSort EntryRow.publishedAt rows
      exact ⟨sort.perm, sort.ordered⟩
  obtain ⟨perm, dates⟩ := sorts (scan.order (store.qualifying accountId selection retainIds))
  refine ⟨_, perm.trans (scan.perm _), dates, ?_⟩
  refine distinctEntries_of_distinct ?_
  have whole := ((perm.trans (scan.perm _)).map EntryRow.id).nodup_iff.mpr
    (store.nodup_qualifying accountId selection retainIds)
  rw [List.map_map]
  exact ((List.take_sublist _ _).map _).nodup whole

/-- A snapshot without retained rows lists the first rows of the selection by date. -/
theorem snapshotEntries_eq (store : Store) (scan : Scan) (accountId : String) (selection : Selection)
    (newestFirst : Bool) :
    ∃ ordered : List Entry,
      ordered.Perm ((store.selected accountId selection).map EntryRow.toEntry) ∧
      ordered.Pairwise (InDateOrder newestFirst) ∧
      store.snapshotEntries scan accountId selection newestFirst [] =
        ordered.take snapshotLimit := by
  obtain ⟨ordered, perm, dates, same⟩ :=
    store.snapshotEntries_ordered scan accountId selection newestFirst []
  rw [qualifying_nil] at perm
  exact ⟨ordered.map EntryRow.toEntry, perm.map _, List.pairwise_map.mpr dates,
    same.trans List.map_take⟩

end Store
end FluxBar
