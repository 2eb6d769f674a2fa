import FluxBar.NavigationProofs
import FluxBar.ReconciliationProofs
import FluxBar.ServiceProofs
import FluxBar.SnapshotProofs
import Mathlib.Algebra.Order.BigOperators.Group.List
import Mathlib.Algebra.Order.Group.Int

/-! What is left after a successful sync with nothing pending: the rows of the
selection are the articles of the server, and the snapshot shows them under the
server's counters, as far as 32 bits hold those. -/
namespace FluxBar
open Relational WriteBehind Procedure

/-- The lists of unread articles and the list of starred ones, which one state decides; only
these are reconciled by a complete result. -/
def Selection.OneState (selection : Selection) : Prop :=
  selection.isStarred = !selection.isUnreadOnly

/-- Where an article is filed is where the mapping puts it. -/
theorem entryToDomain_place (host : Host) (article : Article) :
    (entryToDomain host article.dto).feedId = article.feedId ∧
      (entryToDomain host article.dto).categoryId = article.categoryId := by
  have placed := article.placed
  unfold EntryDto.place at placed
  unfold entryToDomain
  cases rendered : article.dto.feed <;> rw [rendered] at placed <;> simpa using placed

/-- An article a selection covers is in its scope. -/
theorem covered_entryToDomain (host : Host) (selection : Selection) (article : Article)
    (covered : selection.covers article) :
    (entryToDomain host article.dto).matchesScope selection = true := by
  obtain ⟨feed, category⟩ := entryToDomain_place host article
  cases selection with
  | category id _ => exact decide_eq_true (category.trans covered)
  | feed id _ => exact decide_eq_true (feed.trans covered)
  | all _ _ | unread _ | starred _ => rfl

namespace Store
variable {store after : Store} {now accountId : String} {host : Host} {selection : Selection}
  {account : RemoteAccount} {entryId : Int} {field : MutationField}

/-! ## The rows of the selection -/

/-- An entry as it was mapped is the one its row shows. -/
theorem toEntry_storedRow (settled : store.Settled accountId) {entry : Entry}
    (mapped : EntryStatus.parse entry.status.asStr = entry.status) :
    (storedRow store accountId entry).toEntry = entry := by
  unfold storedRow
  rw [settled, settled]
  cases found : store.entries.find? (accountId, entry.id) with
  | none => simp [entryRow, EntryRow.toEntry, mapped]
  | some row =>
    have key := Table.key_of_find? found
    simp only [Prod.mk.injEq] at key
    simp [mergeEntry, entryRow, EntryRow.toEntry, mapped, key]

theorem accountId_storedRow (entry : Entry) :
    (storedRow store accountId entry).accountId = accountId := by
  unfold storedRow
  cases found : store.entries.find? (accountId, entry.id) with
  | none => rfl
  | some row =>
    have key := Table.key_of_find? found
    simp only [Prod.mk.injEq] at key
    exact key.1

/-- Whether a row belongs to a selection shows in its entry. -/
theorem selectionClause_eq (selection : Selection) (row : EntryRow) :
    selectionClause row.accountId selection row =
      ((!selection.isUnreadOnly || row.toEntry.status = .unread) &&
        (!selection.isStarred || row.toEntry.starred) && row.toEntry.matchesScope selection) := by
  have status : decide (row.status = "unread") = decide (row.toEntry.status = .unread) := by
    simp only [EntryRow.toEntry, EntryStatus.parse]
    split_ifs <;> simp_all
  have scope : inScope selection row = row.toEntry.matchesScope selection := by
    cases selection <;> rfl
  unfold selectionClause
  rw [status, scope]
  simp [EntryRow.toEntry]

/-- A dismissed row with nothing pending is neither unread nor starred, and so is out of
every list that dismisses it. -/
theorem not_selected_dismissRow (oneState : selection.OneState) (settled : store.Settled accountId)
    (coherent : ∀ field, (store.cell accountId entryId field).Coherent) {row : EntryRow}
    (found : store.entries.find? (accountId, entryId) = some row) :
    selectionClause accountId selection (dismissRow store selection row) = false := by
  have key := Table.key_of_find? found
  simp only [Prod.mk.injEq] at key
  have agrees : ∀ field : MutationField, field.effective row = field.baseline row := by
    intro field
    refine (coherent field).settled ?_ (field.copy row) (by simp [cell, found])
    have absent := settled entryId field
    rw [← cell_pending] at absent
    simpa using absent
  have pending : ∀ field, store.hasPending row.accountId row.id field = false := by
    rw [key.1]
    exact settled row.id
  unfold Selection.OneState at oneState
  cases unreadOnly : selection.isUnreadOnly with
  | true =>
    have same : row.status = row.remoteStatus := agrees .read
    by_cases unread : row.remoteStatus = "unread"
    · simp [selectionClause, dismissRow, unreadOnly, unread, pending]
    · simp [selectionClause, dismissRow, unreadOnly, unread, same]
  | false =>
    have same : row.starred = row.remoteStarred := agrees .starred
    rw [unreadOnly, Bool.not_false] at oneState
    by_cases starred : row.remoteStarred
    · simp [selectionClause, dismissRow, unreadOnly, oneState, starred, pending]
    · simp [selectionClause, dismissRow, unreadOnly, oneState, starred, same]

section Refresh
variable (normal : selection.Normal)
  (applied : store.applySnapshot now accountId (account.browsed host selection) = .ok after)
include normal applied

/-- An article of the selection is stored as it was mapped, with what the server says of its
flags. -/
theorem find?_refresh_listed {entry : Entry}
    (listed : entry ∈ (account.browsed host selection).entries) :
    after.entries.find? (accountId, entry.id) = some (storedRow store accountId entry) := by
  obtain ⟨reconciled, navigated, refreshed⟩ := refreshed_browsed normal applied
  exact refreshed.find?_listed (distinct_browsed host selection account) listed

section Settled
variable (oneState : selection.OneState) (settled : store.Settled accountId)
  (coherent : ∀ entryId field, (store.cell accountId entryId field).Coherent)
include oneState settled coherent

/-- A row that is not listed does not belong to the selection: it was dismissed, or never
did. -/
theorem not_selected_of_unlisted {row : EntryRow}
    (found : after.entries.find? (accountId, row.id) = some row)
    (absent : ∀ entry ∈ (account.browsed host selection).entries, entry.id ≠ row.id) :
    selectionClause accountId selection row = false := by
  obtain ⟨reconciled, navigated, refreshed⟩ := refreshed_browsed normal applied
  have elsewhere : ∀ entry ∈ (account.browsed host selection).entries,
      (accountId, row.id) ≠ (accountId, entry.id) := by
    intro entry listed same
    exact absent entry listed (Prod.mk.inj same).2.symm
  have complete : reconciles selection (account.browsed host selection) := by
    unfold Selection.OneState at oneState
    cases unreadOnly : selection.isUnreadOnly <;> rw [unreadOnly] at oneState <;>
      simp [reconciles, RemoteAccount.browsed, unreadOnly, oneState]
  simp only [refreshed.find?_unlisted elsewhere, complete, Bool.true_and] at found
  obtain ⟨old, held, became⟩ := Option.map_eq_some_iff.mp found
  have key := Table.key_of_find? held
  simp only [Prod.mk.injEq] at key
  split at became
  · rw [← became]
    exact not_selected_dismissRow oneState settled (coherent row.id) held
  · rename_i inside
    subst became
    simp only [unlisted, key.1, decide_true, Bool.true_and, Bool.and_eq_true, Bool.not_eq_true',
      List.any_eq_false, decide_eq_true_eq, not_and] at inside
    have outside : inScope selection old = false := by
      by_contra within
      exact inside (by simpa using within) fun entry listed => absent entry listed
    simp [selectionClause, outside]

/-- The rows of the selection show the articles of the server, each once and no others. -/
theorem selected_refresh :
    ((after.selected accountId selection).map EntryRow.toEntry).Perm
      (account.browsed host selection).entries := by
  have mapped : ∀ entry ∈ (account.browsed host selection).entries,
      ∃ article, (browseFilter selection).admits article ∧
        entryToDomain host article.dto = entry := by
    intro entry listed
    obtain ⟨article, held, rfl⟩ := List.mem_map.mp listed
    exact ⟨article, (List.mem_filter.mp held).2, rfl⟩
  have status : ∀ entry ∈ (account.browsed host selection).entries,
      EntryStatus.parse entry.status.asStr = entry.status := by
    intro entry listed
    obtain ⟨article, _, rfl⟩ := mapped entry listed
    exact congrArg EntryStatus.parse (EntryStatus.asStr_parse article.dto.status)
  refine (List.perm_ext_iff_of_nodup
    (List.Nodup.of_map Entry.id (after.nodup_selected accountId selection))
    (List.Nodup.of_map Entry.id (distinct_browsed host selection account))).mpr fun entry => ?_
  constructor
  · intro shown
    obtain ⟨row, held, rfl⟩ := List.mem_map.mp shown
    obtain ⟨stored, clause⟩ := List.mem_filter.mp held
    have own : row.accountId = accountId := by
      simp only [selectionClause, Bool.and_eq_true, decide_eq_true_eq] at clause
      exact clause.1.1.1
    have found : after.entries.find? (accountId, row.id) = some row :=
      own ▸ Table.find?_of_mem stored
    by_cases listed : ∃ entry ∈ (account.browsed host selection).entries, entry.id = row.id
    · obtain ⟨entry, listed, same⟩ := listed
      rw [← same, find?_refresh_listed normal applied listed] at found
      cases found
      rwa [toEntry_storedRow settled (status entry listed)]
    · push Not at listed
      rw [not_selected_of_unlisted normal applied oneState settled coherent found listed] at clause
      cases clause
  · intro listed
    have found := find?_refresh_listed normal applied listed
    refine List.mem_map.mpr ⟨_, List.mem_filter.mpr ⟨Table.mem_of_find? found, ?_⟩,
      toEntry_storedRow settled (status entry listed)⟩
    have clause := selectionClause_eq selection (storedRow store accountId entry)
    rw [accountId_storedRow, toEntry_storedRow settled (status entry listed)] at clause
    rw [clause]
    obtain ⟨article, admitted, rfl⟩ := mapped entry listed
    obtain ⟨unread, starred, covered⟩ := (admits_browseFilter normal article).mp admitted
    have inside := covered_entryToDomain host selection article covered
    have shownUnread : selection.isUnreadOnly = true →
        (entryToDomain host article.dto).status = .unread :=
      fun restricted => congrArg EntryStatus.parse (unread restricted)
    have shownStarred : selection.isStarred = true → (entryToDomain host article.dto).starred = true :=
      starred
    cases restricted : selection.isUnreadOnly <;> cases marked : selection.isStarred <;>
      simp [inside, shownUnread, shownStarred, restricted, marked]

end Settled

/-! ## The navigation -/

theorem categories_refresh : after.categories.select (fun row => row.accountId = accountId) =
    (account.navigation host).1.map (categoryRow accountId) := by
  obtain ⟨reconciled, navigated, refreshed⟩ := refreshed_browsed normal applied
  rw [refreshed.stored, foldl_storeEntry_tables]
  exact (rows_insertCategories refreshed.inserted).1

theorem feeds_refresh : after.feeds.select (fun row => row.accountId = accountId) =
    (account.navigation host).1.flatMap fun category =>
      category.feeds.map (feedRow accountId category.id) := by
  obtain ⟨reconciled, navigated, refreshed⟩ := refreshed_browsed normal applied
  rw [refreshed.stored, foldl_storeEntry_tables]
  exact (rows_insertCategories refreshed.inserted).2

end Refresh

/-- The feed rows of one of several categories. -/
theorem filter_feedRows (accountId : String) {categories : List Category}
    (distinct : (categories.map Category.id).Nodup)
    {category : Category} (listed : category ∈ categories) :
    (categories.flatMap fun category => category.feeds.map (feedRow accountId category.id)).filter
        (fun row => row.categoryId = category.id) =
      category.feeds.map (feedRow accountId category.id) := by
  have own : ∀ other : Category, (other.feeds.map (feedRow accountId other.id)).filter
      (fun row => row.categoryId = category.id) =
        if other.id = category.id then other.feeds.map (feedRow accountId other.id) else [] := by
    intro other
    by_cases same : other.id = category.id <;>
      simp [feedRow, same, List.filter_map, Function.comp_def]
  induction categories with
  | nil => cases listed
  | cons first rest ih =>
    rw [List.map_cons, List.nodup_cons] at distinct
    rw [List.flatMap_cons, List.filter_append, own]
    rcases List.mem_cons.mp listed with rfl | later
    · have none : (rest.flatMap fun category => category.feeds.map
          (feedRow accountId category.id)).filter (fun row => row.categoryId = category.id) = [] := by
        rw [List.filter_flatMap]
        refine List.flatMap_eq_nil_iff.mpr fun other held => ?_
        rw [own, if_neg]
        exact fun same => distinct.1 (same ▸ List.mem_map_of_mem held)
      rw [if_pos rfl, none, List.append_nil]
    · have apart : first.id ≠ category.id :=
        fun same => distinct.1 (same ▸ List.mem_map_of_mem later)
      rw [if_neg apart, List.nil_append, ih distinct.2 later]

end Store

/-! ## What the server shows -/

namespace RemoteAccount

/-- The counters of the account, as far as they are read: categories are told apart by their
ids, and no counter is negative. -/
structure Countable (account : RemoteAccount) : Prop where
  distinct : (account.categories.map CategoryDto.id).Nodup
  positive : ∀ counter ∈ account.counters.rows, 0 ≤ counter.unread

variable {account : RemoteAccount} (countable : account.Countable)
include countable

theorem Countable.feedUnread (feedId : Int) : 0 ≤ account.feedUnread feedId := by
  unfold RemoteAccount.feedUnread
  cases found : account.counters.find? feedId with
  | none => exact Int.le_refl 0
  | some counter => exact countable.positive counter (Table.mem_of_find? found)

theorem Countable.categoryUnread (categoryId : Int) : 0 ≤ account.categoryUnread categoryId := by
  refine List.sum_nonneg fun count listed => ?_
  obtain ⟨feed, _, rfl⟩ := List.mem_map.mp listed
  exact countable.feedUnread feed.id

/-- No category has more unread articles than all of them. -/
theorem Countable.categoryUnread_le {category : CategoryDto} (listed : category ∈ account.categories) :
    account.categoryUnread category.id ≤ account.unreadTotal := by
  refine List.single_le_sum (fun count held => ?_) _ (List.mem_map_of_mem listed)
  obtain ⟨other, _, rfl⟩ := List.mem_map.mp held
  exact countable.categoryUnread other.id

/-- Every feed of the navigation has the counter of the account. -/
theorem Countable.unreadCount {host : Host} {category : Category} {feed : Feed}
    (listed : category ∈ (account.navigation host).1) (held : feed ∈ category.feeds) :
    feed.unreadCount = account.feedUnread feed.id := by
  have same := (account.feeds_navigation host countable.distinct listed).mem_iff.mp
    (List.mem_map_of_mem held)
  obtain ⟨filed, _, pair⟩ := List.mem_map.mp same
  simp only [Prod.mk.injEq] at pair
  rw [← pair.1, pair.2]

end RemoteAccount

/-! ## The navigation shown -/

section Shown
variable {store after : Store} {now accountId : String} {host : Host} {selection : Selection}
  {account : RemoteAccount} (scan : Scan) (normal : selection.Normal)
  (applied : store.applySnapshot now accountId (account.browsed host selection) = .ok after)
  (countable : account.Countable)
include normal applied countable

theorem counted_refresh (fit : ∀ counter ∈ account.counters.rows, InI32 counter.unread) :
    after.Counted accountId := by
  intro row held own
  have listed : row ∈ after.feeds.select fun row => row.accountId = accountId :=
    List.mem_filter.mpr ⟨held, decide_eq_true own⟩
  rw [Store.feeds_refresh normal applied] at listed
  obtain ⟨category, member, inside⟩ := List.mem_flatMap.mp listed
  obtain ⟨feed, filed, rfl⟩ := List.mem_map.mp inside
  have counter := countable.unreadCount member filed
  change 0 ≤ feed.unreadCount ∧ InI32 feed.unreadCount
  rw [counter]
  refine ⟨countable.feedUnread feed.id, ?_⟩
  unfold RemoteAccount.feedUnread
  cases found : account.counters.find? feed.id with
  | none => decide
  | some counter => exact fit counter (Relational.Table.mem_of_find? found)

/-- The categories shown are those the server lists. -/
theorem ids_shown : ((after.shownCategories scan accountId).map Category.id).Perm
    (account.categories.map CategoryDto.id) := by
  have rows : ((after.shownCategories scan accountId).map Category.id).Perm
      ((after.categories.select fun row => row.accountId = accountId).map CategoryRow.id) := by
    unfold Store.shownCategories
    rw [List.map_map]
    exact ((List.mergeSort_perm _ _).trans (scan.perm _)).map _
  rw [Store.categories_refresh normal applied, List.map_map] at rows
  exact rows.trans (account.ids_navigation host countable.distinct)

/-- Each category is shown with the feeds filed in it, under their counters. -/
theorem feeds_shown {category : Category} (shown : category ∈ after.shownCategories scan accountId) :
    (category.feeds.map fun feed => (feed.id, feed.unreadCount)).Perm
      ((account.filedIn category.id).map fun feed => (feed.id, account.feedUnread feed.id)) := by
  obtain ⟨row, held, rfl⟩ := List.mem_map.mp shown
  have member : row ∈ after.categories.select fun row => row.accountId = accountId :=
    (scan.perm _).mem_iff.mp ((List.mergeSort_perm _ _).mem_iff.mp held)
  rw [Store.categories_refresh normal applied] at member
  obtain ⟨listed, inside, rfl⟩ := List.mem_map.mp member
  have distinct : (((account.navigation host).1).map Category.id).Nodup :=
    (account.ids_navigation host countable.distinct).nodup_iff.mpr countable.distinct
  have rows : after.feeds.select (fun feed =>
      feed.accountId = accountId && feed.categoryId = listed.id) =
      listed.feeds.map (Store.feedRow accountId listed.id) := by
    have whole := Store.filter_feedRows accountId distinct inside
    rw [← Store.feeds_refresh normal applied] at whole
    rw [← whole]
    unfold Relational.Table.select
    rw [List.filter_filter]
    exact List.filter_congr fun _ _ => Bool.and_comm _ _
  have feeds : (Store.shownCategory after scan accountId (Store.categoryRow accountId listed)).feeds.Perm
      ((listed.feeds.map (Store.feedRow accountId listed.id)).map Store.shownFeed) := by
    unfold Store.shownCategory
    refine List.Perm.map _ ((List.mergeSort_perm _ _).trans ((scan.perm _).trans ?_))
    exact List.Perm.of_eq rows
  refine (feeds.map _).trans ?_
  rw [List.map_map, List.map_map]
  exact account.feeds_navigation host countable.distinct inside

theorem sum_shown {category : Category} (shown : category ∈ after.shownCategories scan accountId) :
    (category.feeds.map Feed.unreadCount).sum = account.categoryUnread category.id := by
  have counts := ((feeds_shown scan normal applied countable shown).map Prod.snd).sum_eq
  rwa [List.map_map, List.map_map] at counts

theorem total_shown : ((after.shownCategories scan accountId).map fun category =>
    (category.feeds.map Feed.unreadCount).sum).sum = account.unreadTotal := by
  have counts : ((after.shownCategories scan accountId).map fun category =>
      (category.feeds.map Feed.unreadCount).sum) =
      ((after.shownCategories scan accountId).map Category.id).map account.categoryUnread := by
    rw [List.map_map]
    exact List.map_congr_left fun category shown => sum_shown scan normal applied countable shown
  rw [counts, ((ids_shown scan normal applied countable).map account.categoryUnread).sum_eq,
    List.map_map]
  rfl

end Shown

/-! ## Exactness -/

/-- What a client is to see of an account after a sync: the articles of the selection in the
store, the first of them by date, and the server's counters, for each feed and category and
in all. -/
structure Exact (service : SyncService RemoteAccount) (selection : Selection)
    (world : World RemoteAccount) (snapshot : SnapshotData) : Prop where
  rows : ((world.store.selected service.accountId selection).map EntryRow.toEntry).Perm
    ((world.remote.matching (browseFilter selection)).map fun article =>
      entryToDomain service.host article.dto)
  entries : ∃ ordered : List Entry,
    ordered.Perm ((world.remote.matching (browseFilter selection)).map fun article =>
      entryToDomain service.host article.dto) ∧
    ordered.Pairwise (Store.InDateOrder service.newestFirst) ∧ snapshot.entries = ordered.take 200
  total : snapshot.total = (world.remote.matching (browseFilter selection)).length
  categories : (snapshot.categories.map Category.id).Perm
    (world.remote.categories.map CategoryDto.id)
  feedCounts : ∀ category ∈ snapshot.categories,
    (category.feeds.map fun feed => (feed.id, feed.unreadCount)).Perm
      ((world.remote.filedIn category.id).map fun feed => (feed.id, world.remote.feedUnread feed.id))
  categoryCounts : ∀ category ∈ snapshot.categories,
    category.unreadCount = world.remote.categoryUnread category.id
  unreadTotal : snapshot.unreadTotal = world.remote.unreadTotal
  starredTotal : snapshot.starredTotal = world.remote.starred.length

/-- The starred total a refresh stores is the number of starred articles, cut to
32 bits. -/
theorem starredTotal_browsed {selection : Selection} (account : RemoteAccount) (host : Host)
    (oneState : selection.OneState) :
    (account.browsed host selection).starredTotal = toI32 account.starred.length := by
  unfold RemoteAccount.browsed
  dsimp only
  split
  · rename_i starred
    have listed : account.matching (browseFilter selection) = account.starred := by
      cases selection with
      | starred unreadOnly =>
        have whole : unreadOnly = false := by
          simpa [Selection.OneState, Selection.isStarred, Selection.isUnreadOnly] using oneState
        subst whole
        refine List.filter_congr fun article _ => Bool.eq_iff_iff.mpr ?_
        have normal : (Selection.starred false).Normal := trivial
        rw [admits_browseFilter normal]
        simp [Selection.isUnreadOnly, Selection.isStarred, Selection.covers]
      | all _ _ | unread _ | category _ _ | feed _ _ => cases starred
    rw [listed]
  · rfl

section Sync
variable {service : SyncService RemoteAccount} {world after : World RemoteAccount}
  {selection : Selection} {snapshot : SnapshotData} {listed : String → List PendingMutation}

section Refreshed
variable {store stored : Store} {now : String} {account : RemoteAccount}
  (normal : selection.Normal)
  (applied : store.applySnapshot now service.accountId (account.browsed service.host selection) =
    .ok stored)
include normal applied

theorem settled_refresh (settled : store.Settled service.accountId) :
    stored.Settled service.accountId := by
  obtain ⟨reconciled, navigated, refreshed⟩ := Store.refreshed_browsed normal applied
  intro entryId field
  unfold Store.hasPending
  rw [refreshed.pendingMutations]
  exact settled entryId field

/-- The stored total of the selection is its size, cut to 32 bits. -/
theorem find?_total_refresh : ∃ row, stored.selectionTotals.find?
    (service.accountId, selectionKind selection, selection.scopeId, selection.isUnreadOnly) =
      some row ∧ row.total = toI32 (account.matching (browseFilter selection)).length := by
  obtain ⟨reconciled, navigated, refreshed⟩ := Store.refreshed_browsed normal applied
  rw [refreshed.selectionTotals]
  unfold Store.recordTotals
  simp only [Table.find?_upsert, if_true]
  refine ⟨_, rfl, ?_⟩
  have recorded : (account.browsed service.host selection).total =
      toI32 (account.matching (browseFilter selection)).length := by
    simp only [RemoteAccount.browsed]
  generalize store.selectionTotals.find? _ = found
  cases found with
  | none => simpa only [Option.elim_none] using recorded
  | some old => simpa only [Option.elim_some] using recorded

/-- So is the starred total of the account. -/
theorem starred_refresh (oneState : selection.OneState) {row : AccountRow}
    (found : stored.accounts.find? service.accountId = some row) :
    row.remoteStarredTotal = toI32 account.starred.length := by
  obtain ⟨reconciled, navigated, refreshed⟩ := Store.refreshed_browsed normal applied
  rw [refreshed.accounts] at found
  unfold Store.recordTotals at found
  rw [Table.find?_update] at found
  obtain ⟨old, held, became⟩ := Option.map_eq_some_iff.mp found
  have key := Table.key_of_find? held
  rw [if_pos (decide_eq_true key)] at became
  rw [← became]
  exact starredTotal_browsed account service.host oneState

/-- A total is exact as soon as the rows can be counted. -/
theorem total_refresh
    (rows : (stored.selected service.accountId selection).length =
      (account.matching (browseFilter selection)).length)
    (fits : InI32 (stored.selected service.accountId selection).length) :
    stored.shownTotal service.accountId selection =
      (account.matching (browseFilter selection)).length := by
  obtain ⟨row, found, total⟩ := find?_total_refresh normal applied
  unfold Store.shownTotal
  rw [found]
  rw [rows] at fits ⊢
  dsimp only
  rw [total, toI32_of_in fits, toI32_of_in fits]
  omega

end Refreshed

/-- What a refresh of a settled store leaves to be shown: the server's articles and
counters, exactly when the two sums that are made in 32 bits fit. -/
theorem exact_refresh_iff {store : Store} {now : String} (normal : selection.Normal)
    (oneState : selection.OneState) (settled : store.Settled service.accountId)
    (coherent : ∀ entryId field, (store.cell service.accountId entryId field).Coherent)
    (countable : after.remote.Countable) (browsable : after.remote.Browsable selection)
    (applied : store.applySnapshot now service.accountId
      (after.remote.browsed service.host selection) = .ok after.store)
    (shown : after.store.localSnapshot service.scan service.accountId selection service.newestFirst
      [] = .ok snapshot) :
    Exact service selection after snapshot ↔
      InI32 after.remote.unreadTotal ∧ InI32 after.remote.starred.length := by
  have counted := counted_refresh normal applied countable browsable.counted
  obtain ⟨fits, _, row, found, rfl⟩ := (Store.localSnapshot_settled normal
    (settled_refresh normal applied settled) counted).mp shown
  have rows := Store.selected_refresh normal applied oneState settled coherent
  have length : (after.store.selected service.accountId selection).length =
      (after.remote.matching (browseFilter selection)).length := by
    have same := rows.length_eq
    rwa [List.length_map, RemoteAccount.browsed, List.length_map] at same
  have starred := starred_refresh normal applied oneState found
  have unread := total_shown service.scan normal applied countable
  have ids := ids_shown service.scan normal applied countable
  constructor
  · intro exact
    rw [← exact.unreadTotal, ← exact.starredTotal]
    exact ⟨toI32_in _, toI32_in _⟩
  · rintro ⟨unreadFits, starredFits⟩
    obtain ⟨ordered, perm, sorted, entries⟩ := after.store.snapshotEntries_eq service.scan
      service.accountId selection service.newestFirst
    refine ⟨rows, ⟨ordered, perm.trans rows, sorted, entries⟩,
      total_refresh normal applied length fits, ids,
      fun category shown => feeds_shown service.scan normal applied countable shown, ?_, ?_, ?_⟩
    · intro category shown
      have sum := sum_shown service.scan normal applied countable shown
      obtain ⟨dto, held, same⟩ := List.mem_map.mp (ids.mem_iff.mp (List.mem_map_of_mem shown))
      have below := countable.categoryUnread_le held
      have above := countable.categoryUnread dto.id
      rw [same] at below above
      obtain ⟨row, _, rfl⟩ := List.mem_map.mp shown
      refine (congrArg toI32 sum).trans (toI32_of_in ?_)
      unfold InI32 at unreadFits ⊢
      omega
    · exact (congrArg toI32 unread).trans (toI32_of_in unreadFits)
    · dsimp only
      rw [starred, toI32_of_in starredFits, max_eq_right (Int.natCast_nonneg _),
        toI32_of_in starredFits]

/-- A timely sync succeeds where the flush before it left nothing pending, if the rows of
the selection can be counted and the navigation has no id twice. -/
theorem sync_succeeds {left : World RemoteAccount} (flushed : service.flushed world = left)
    (normal : selection.Normal) (oneState : selection.OneState)
    (remote : service.remote = accountApi.inbox) (timely : ∀ check, service.timely check = true)
    (settled : left.store.Settled service.accountId)
    (coherent : ∀ entryId field, (left.store.cell service.accountId entryId field).Coherent)
    (registered : (left.store.accounts.find? service.accountId).isSome)
    (countable : left.remote.Countable) (browsable : left.remote.Browsable selection)
    (fits : InI32 (left.remote.matching (browseFilter selection)).length)
    (stores : ∀ turn, (left.store.applySnapshot (service.clock turn 0) service.accountId
      (left.remote.browsed service.host selection)).isOk) :
    ∃ snapshot after, Returns (service.sync selection []) world (.success snapshot) after ∧
      after.remote = left.remote ∧ ∃ now, left.store.applySnapshot now service.accountId
        (after.remote.browsed service.host selection) = .ok after.store ∧
      after.store.localSnapshot service.scan service.accountId selection service.newestFirst [] =
        .ok snapshot := by
  obtain ⟨stored, applied⟩ : ∃ stored, left.store.applySnapshot
      (service.clock left.transactions 0) service.accountId
      (left.remote.browsed service.host selection) = .ok stored := by
    have done := stores left.transactions
    cases result : left.store.applySnapshot (service.clock left.transactions 0)
        service.accountId (left.remote.browsed service.host selection) with
    | ok stored => exact ⟨stored, rfl⟩
    | error failure =>
      rw [result] at done
      cases done
  have rows := (Store.selected_refresh normal applied oneState settled coherent).length_eq
  rw [List.length_map, RemoteAccount.browsed, List.length_map] at rows
  obtain ⟨row, found⟩ : ∃ row, stored.accounts.find? service.accountId = some row := by
    obtain ⟨reconciled, navigated, refreshed⟩ := Store.refreshed_browsed normal applied
    obtain ⟨row, held⟩ := Option.isSome_iff_exists.mp registered
    rw [refreshed.accounts]
    unfold Store.recordTotals
    rw [Table.find?_update, held]
    exact ⟨_, rfl⟩
  have readable : stored.TotalReadable service.accountId selection := by
    obtain ⟨recorded, held, total⟩ := find?_total_refresh normal applied
    intro other same
    cases held.symm.trans same
    exact total ▸ toI32_in _
  obtain ⟨snapshot, shown⟩ : ∃ snapshot, stored.localSnapshot service.scan service.accountId
      selection service.newestFirst [] = .ok snapshot :=
    ⟨_, (Store.localSnapshot_settled normal (settled_refresh normal applied settled)
      (counted_refresh normal applied countable browsable.counted)).mpr
        ⟨rows ▸ fits, readable, row, found, rfl⟩⟩
  subst flushed
  have browsed : Returns (browse service.host service.remote selection)
      (service.flushed world).remote ((service.flushed world).remote.browsed service.host selection)
      (service.flushed world).remote := by
    rw [remote]
    exact returns_browse.mpr ⟨browsable, rfl, rfl⟩
  exact ⟨snapshot, _, SyncService.returns_sync.mpr ⟨timely _, _, _, stored, browsed, applied, shown,
    fun _ _ => timely _, rfl⟩, rfl, _, applied, shown⟩

/-- A successful sync with nothing left to deliver is exact precisely when the unread and
the starred articles of the account can be counted in 32 bits. Both are numbers of the
server, known before any sync. -/
theorem exact_sync_iff (reached : sessions.Reachable ⟨world.store, listed⟩)
    (remote : service.remote = accountApi.inbox) (normal : selection.Normal)
    (oneState : selection.OneState)
    (delivered : (service.flushed world).store.Settled service.accountId)
    (countable : after.remote.Countable)
    (synced : Returns (service.sync selection []) world (.success snapshot) after) :
    Exact service selection after snapshot ↔
      InI32 after.remote.unreadTotal ∧ InI32 after.remote.starred.length := by
  obtain ⟨_, browsed, account, stored, browse, applied, shown, _, rfl⟩ :=
    SyncService.returns_sync.mp synced
  rw [remote] at browse
  obtain ⟨browsable, rfl, rfl⟩ := returns_browse.mp browse
  obtain ⟨left, flushed⟩ := SyncService.reachable_flushed reached
  have coherent := (sound_of_reachable flushed).coherent service.accountId
  exact exact_refresh_iff normal oneState delivered coherent countable browsable applied shown

end Sync

/-- A service that is never late, on an account of this server. -/
def timelyService : SyncService RemoteAccount where
  accountId := "account"
  newestFirst := true
  remote := accountApi.inbox
  host := bareHost
  scan := .storage
  clock _ _ := "t"
  randomId _ := ""
  timely _ := true

/-- Before the first sync. -/
def freshWorld (remote : RemoteAccount) : World RemoteAccount where
  store := freshStore
  remote
  transactions := 0
  checks := 0
  requested := []

theorem reachable_freshStore : sessions.Reachable ⟨freshStore, fun _ => []⟩ :=
  reachable_write (.start ⟨rfl, fun _ => rfl⟩) (.ensureAccount "account" "server") trivial

theorem settled_freshStore : freshStore.Settled "account" := fun _ _ => rfl

/-- The first flush has nothing to deliver. -/
theorem flushed_freshWorld (remote : RemoteAccount) :
    (timelyService.flushed (freshWorld remote)).store = freshStore ∧
      (timelyService.flushed (freshWorld remote)).remote = remote := by
  refine SyncService.flushed_idle (List.eq_nil_iff_forall_not_mem.mpr fun mutation listed => ?_)
  obtain ⟨row, found, _⟩ := Store.mem_pending.mp listed
  cases found

theorem settled_freshWorld (remote : RemoteAccount) :
    (timelyService.flushed (freshWorld remote)).store.Settled "account" :=
  (flushed_freshWorld remote).1 ▸ settled_freshStore

/-- The first sync of an account. -/
theorem fresh_sync {remote : RemoteAccount} {selection : Selection} (normal : selection.Normal)
    (oneState : selection.OneState) (countable : remote.Countable)
    (browsable : remote.Browsable selection)
    (fits : InI32 (remote.matching (browseFilter selection)).length)
    (stores : (freshStore.applySnapshot "t" "account" (remote.browsed bareHost selection)).isOk) :
    ∃ snapshot after,
      Returns (timelyService.sync selection []) (freshWorld remote) (.success snapshot) after ∧
      after.remote = remote ∧
      ∃ now, freshStore.applySnapshot now "account" (after.remote.browsed bareHost selection) =
        .ok after.store ∧
      after.store.localSnapshot .storage "account" selection true [] = .ok snapshot := by
  obtain ⟨left, flushed⟩ : ∃ left, timelyService.flushed (freshWorld remote) = left := ⟨_, rfl⟩
  obtain ⟨stored, held⟩ := flushed_freshWorld remote
  rw [flushed] at stored held
  subst held
  have registered : (freshStore.accounts.find? "account").isSome := by decide
  have coherent := (sound_of_reachable reachable_freshStore).coherent "account"
  rw [← stored] at registered coherent stores ⊢
  exact sync_succeeds flushed normal oneState rfl (fun _ => rfl) (stored ▸ settled_freshStore)
    coherent registered countable browsable fits fun _ => stores

/-- The earlier of two articles marked read. -/
def earlierRead : Store :=
  twoStored.commit ((twoStored.setRead (fun _ => "t") "" "account" [1] true false).map Prod.fst)

/-- The change as a flush lists it. -/
def earlierMark : PendingMutation := ⟨1, .read, true, 1⟩

/-- The store once it is acknowledged. -/
def earlierDelivered : Store := earlierRead.commit (earlierRead.acknowledge "account" earlierMark)

/-- The server, which has a third article by now. -/
def threeArticles : RemoteAccount :=
  { twoArticles with
    articles := {
      rows := twoArticles.articles.rows ++ [filedArticle 3 "2024-01-03T00:00:00Z" false]
      unique := by decide }
    rising := by decide }

def latestEntry : Entry := { earlierEntry with id := 3, publishedAtRfc3339 := "2024-01-03T00:00:00Z" }

theorem pending_earlierRead : earlierRead.pending .storage "account" = [earlierMark] := by
  have rows : earlierRead.pendingMutations.select (fun row => row.accountId = "account") =
      [⟨"account", 1, .read, true, 1, "t"⟩] := by decide
  simp only [Store.pending, rows, Scan.storage, List.mergeSort_singleton]
  rfl

theorem reachable_earlierRead : sessions.Reachable ⟨earlierRead, fun _ => []⟩ :=
  reachable_write (reachable_write reachable_freshStore
    (.applySnapshot "t" "account" (unreadSnapshot [earlierEntry, laterEntry])) trivial)
    (.setRead (fun _ => "t") "" "account" [1] true false) trivial

/-- The client with the change to deliver, over that server. -/
def changedWorld : World RemoteAccount := { freshWorld threeArticles with store := earlierRead }

/-- The flush of a sync delivers the change. -/
theorem flush_changedWorld : Returns timelyService.flushPending { changedWorld with checks := 1 } ()
    { changedWorld with
      store := earlierDelivered, remote := threeArticles.setRead [1] true
      transactions := 2, checks := 5 } :=
  SyncService.returns_flushPending_one (fun _ => rfl) pending_earlierRead rfl
    (@Store.commit_of_isOk earlierRead (earlierRead.acknowledge "account" earlierMark) (by decide))

theorem browsed_threeArticles : (threeArticles.setRead [1] true).browsed bareHost (.all 0 true) =
    unreadSnapshot [laterEntry, latestEntry] :=
  browsed_oneFeed rfl rfl (by decide) (by decide) (by decide) (by decide)

/-- A change is delivered and a new article fetched, and then the sync is exact: the article
read here is gone from the list, and the third one is in it. -/
theorem changed_article_synced : ∃ snapshot after,
    Returns (timelyService.sync (.all 0 true) []) changedWorld (.success snapshot) after ∧
      Exact timelyService (.all 0 true) after snapshot := by
  have normal : (Selection.all 0 true).Normal := trivial
  have countable : (threeArticles.setRead [1] true).Countable := ⟨by decide, by decide⟩
  have flushed := SyncService.flushed_of_returns flush_changedWorld
  have delivered := SyncService.settled_of_flushPending flush_changedWorld
  have settled : earlierDelivered.Settled "account" := delivered
  have begun : sessions.Reachable ⟨changedWorld.store, fun _ => []⟩ := by
    dsimp only [changedWorld]
    exact reachable_earlierRead
  obtain ⟨_, reached⟩ := SyncService.reachable_flushed begun
  rw [flushed] at reached
  have stores : (earlierDelivered.applySnapshot "t" "account"
      ((threeArticles.setRead [1] true).browsed bareHost (.all 0 true))).isOk := by
    rw [browsed_threeArticles]
    decide
  obtain ⟨snapshot, after, synced, same, _⟩ := sync_succeeds flushed normal rfl rfl (fun _ => rfl)
    settled ((sound_of_reachable reached).coherent "account") (by decide) countable
    ⟨by decide, by decide⟩ (by decide) fun _ => stores
  refine ⟨snapshot, after, synced, (exact_sync_iff begun rfl normal rfl
    (flushed ▸ settled) (same ▸ countable) synced).mpr ?_⟩
  rw [same]
  decide

/-- Two feeds in one category, with more unread articles than 32 bits count. -/
def crowdedAccount : RemoteAccount where
  articles := .empty
  rising := List.Pairwise.nil
  categories := [⟨1, ""⟩]
  feeds := [⟨1, "", some ⟨1, ""⟩⟩, ⟨2, "", some ⟨1, ""⟩⟩]
  count _ := { rows := [⟨1, 2147483647⟩, ⟨2, 1⟩], unique := by decide }

theorem navigation_crowdedAccount : (crowdedAccount.navigation bareHost).1 =
    [⟨1, "", -2147483648, [⟨1, "", 1, 2147483647⟩, ⟨2, "", 1, 1⟩]⟩] := by
  have shown : crowdedAccount.shownCategories =
      [⟨1, "", -2147483648, [⟨1, "", 1, 2147483647⟩, ⟨2, "", 1, 1⟩]⟩] := by decide
  have sorted : sortByTitle bareHost.toLowercase Feed.title
      [⟨1, "", 1, 2147483647⟩, ⟨2, "", 1, 1⟩] = [⟨1, "", 1, 2147483647⟩, ⟨2, "", 1, 1⟩] :=
    List.mergeSort_of_pairwise (by decide)
  rw [crowdedAccount.navigation_categories bareHost (by decide), shown]
  unfold sortByTitle at sorted ⊢
  rw [List.mergeSort_singleton, List.map_singleton, sorted]

/-- The sum of two counters outgrows 32 bits, and the unread total shown for them is
negative. -/
theorem overflow_shown : ¬ ∀ (service : SyncService RemoteAccount) (world after : World RemoteAccount)
    (selection : Selection) (snapshot : SnapshotData) (listed : String → List PendingMutation),
    sessions.Reachable ⟨world.store, listed⟩ → service.remote = accountApi.inbox →
    selection.Normal → selection.OneState →
    (service.flushed world).store.Settled service.accountId → after.remote.Countable →
    Returns (service.sync selection []) world (.success snapshot) after →
    Exact service selection after snapshot := by
  intro exact
  have normal : (Selection.all 0 true).Normal := trivial
  have countable : crowdedAccount.Countable := ⟨by decide, by decide⟩
  have browsable : crowdedAccount.Browsable (.all 0 true) := ⟨by decide, by decide⟩
  have stores : (freshStore.applySnapshot "t" "account"
      (crowdedAccount.browsed bareHost (.all 0 true))).isOk := by
    unfold RemoteAccount.browsed
    rw [navigation_crowdedAccount]
    decide
  obtain ⟨snapshot, after, synced, same, now, applied, shown⟩ :=
    fresh_sync normal rfl countable browsable (by decide) stores
  have coherent := (sound_of_reachable reachable_freshStore).coherent "account"
  have countable : after.remote.Countable := same ▸ countable
  have browsable : after.remote.Browsable (.all 0 true) := same ▸ browsable
  have exact_iff : Exact timelyService (.all 0 true) after snapshot ↔
      InI32 after.remote.unreadTotal ∧ InI32 after.remote.starred.length :=
    exact_refresh_iff normal rfl settled_freshStore coherent countable browsable applied shown
  have total : after.remote.unreadTotal = 2147483648 := by
    rw [same]
    decide
  have fits := (exact_iff.mp (exact timelyService (freshWorld crowdedAccount) after (.all 0 true)
    snapshot _ reachable_freshStore rfl normal rfl (settled_freshWorld crowdedAccount) countable
    synced)).1
  rw [total] at fits
  unfold InI32 at fits
  omega

end FluxBar
