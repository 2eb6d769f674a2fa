import FluxBar.BrowseProofs
import FluxBar.StoreRuns

/-! What a refresh with the result of a browse does to the remote columns, and
when the absence of an entry from the result is evidence of what the server
holds. -/
namespace FluxBar
open Relational WriteBehind Procedure

/-- The value the server holds of an article. -/
def MutationField.held : (field : MutationField) → Article → field.Value
  | .read, article => article.dto.status
  | .starred, article => article.dto.starred

/-- Whether the reconciliation of a selection clears the field of a row that the
result does not list. -/
def Selection.clears (selection : Selection) : MutationField → EntryRow → Bool
  | .read, row => selection.isUnreadOnly && Store.inScope selection row && row.remoteStatus = "unread"
  | .starred, row => selection.isStarred && !selection.isUnreadOnly && row.remoteStarred

namespace Store
variable {store after : Store} {now accountId : String} {host : Host} {selection : Selection}
  {account : RemoteAccount} {entryId : Int} {field : MutationField}

section Browsed
variable (account) (host) (selection)

theorem ids_browsed : (account.browsed host selection).entries.map (·.id) =
    (account.matching (browseFilter selection)).map Article.id := by
  unfold RemoteAccount.browsed
  rw [List.map_map]
  rfl

theorem distinct_browsed : ((account.browsed host selection).entries.map (·.id)).Nodup := by
  rw [ids_browsed]
  exact (account.rising_matching (browseFilter selection)).imp ne_of_lt

/-- The ids a browse lists are those of the articles its filter admits. -/
theorem listed_browsed :
    (∃ entry ∈ (account.browsed host selection).entries, entry.id = entryId) ↔
      ∃ article, account.articles.find? entryId = some article ∧
        (browseFilter selection).admits article := by
  simp only [RemoteAccount.browsed, RemoteAccount.matching, Table.select, List.mem_map,
    List.mem_filter, Table.find?_eq_some]
  constructor
  · rintro ⟨entry, ⟨article, ⟨held, admitted⟩, rfl⟩, rfl⟩
    exact ⟨article, ⟨held, rfl⟩, admitted⟩
  · rintro ⟨article, ⟨held, rfl⟩, admitted⟩
    exact ⟨_, ⟨article, ⟨held, admitted⟩, rfl⟩, rfl⟩

/-- A browsed result of a restricted selection always counts as complete, so that what it
dismisses depends on the row alone. -/
theorem dismisses_browsed (row : EntryRow) :
    dismisses selection (account.browsed host selection) field row = selection.clears field row := by
  have complete : (account.browsed host selection).total ≤
      toI32 (account.browsed host selection).entries.length := by
    simp [RemoteAccount.browsed]
  unfold dismisses reconciles Selection.clears
  cases field <;> cases selection <;> rename_i unreadOnly <;> cases unreadOnly <;>
    simp [complete, Selection.isStarred, Selection.isUnreadOnly, inScope]

end Browsed

section Refresh
variable (normal : selection.Normal)
  (applied : store.applySnapshot now accountId (account.browsed host selection) = .ok after)
include normal applied

theorem refreshed_browsed : ∃ reconciled navigated, Refreshed store after now accountId selection
    (account.browsed host selection) reconciled navigated := by
  obtain ⟨reconciled, navigated, refreshed⟩ := applySnapshot_parts applied
  have same : normalizeSelection (account.browsed host selection).selection = selection :=
    normalizeSelection_of_normal normal
  rw [same] at refreshed
  exact ⟨reconciled, navigated, refreshed⟩

/-- An article of the selection is observed as the server holds it, whatever else the
refresh does. -/
theorem cell_refresh_listed {article : Article}
    (found : account.articles.find? entryId = some article)
    (admitted : (browseFilter selection).admits article) :
    after.cell accountId entryId field =
      (store.cell accountId entryId field).observe (field.held article) := by
  obtain ⟨reconciled, navigated, refreshed⟩ := refreshed_browsed normal applied
  obtain ⟨held, rfl⟩ := Table.find?_eq_some.mp found
  have listed : entryToDomain host article.dto ∈ (account.browsed host selection).entries :=
    List.mem_map_of_mem (List.mem_filter.mpr ⟨held, admitted⟩)
  have observed : after.cell accountId article.id field =
      (store.cell accountId article.id field).observe
        (field.browsed (entryToDomain host article.dto)) :=
    refreshed.cell_listed (distinct_browsed host selection account) listed
  have value : field.browsed (entryToDomain host article.dto) = field.held article := by
    cases field
    · exact EntryStatus.asStr_parse article.dto.status
    · rfl
  exact value ▸ observed

section Unlisted
variable (absent : ∀ article, account.articles.find? entryId = some article →
  ¬ (browseFilter selection).admits article)
include absent

theorem cell_refresh_cleared {row : EntryRow}
    (found : store.entries.find? (accountId, entryId) = some row)
    (cleared : selection.clears field row) :
    after.cell accountId entryId field =
      (store.cell accountId entryId field).observe field.absent := by
  obtain ⟨reconciled, navigated, refreshed⟩ := refreshed_browsed normal applied
  refine refreshed.cell_dismissed (fun entry listed same => ?_) found
    ((dismisses_browsed host selection account row).trans cleared)
  obtain ⟨article, held, admitted⟩ :=
    (listed_browsed host selection account).mp ⟨entry, listed, same⟩
  exact absent article held admitted

theorem cell_refresh_kept
    (kept : ∀ row, store.entries.find? (accountId, entryId) = some row →
      ¬ selection.clears field row) :
    after.cell accountId entryId field = store.cell accountId entryId field := by
  obtain ⟨reconciled, navigated, refreshed⟩ := refreshed_browsed normal applied
  refine refreshed.cell_kept (fun entry listed same => ?_) fun row found => ?_
  · obtain ⟨article, held, admitted⟩ :=
      (listed_browsed host selection account).mp ⟨entry, listed, same⟩
    exact absent article held admitted
  · rw [dismisses_browsed]
    exact kept row found

end Unlisted
end Refresh

/-- The row a cell with a copy comes from. -/
theorem exists_row {cell : Cell field.Value} {value : field.Value}
    (observed : store.cell accountId entryId field = cell.observe value) :
    ∃ row, store.entries.find? (accountId, entryId) = some row ∧ field.baseline row = value := by
  have copied := congrArg Cell.copy observed
  rw [Cell.observe_copy] at copied
  obtain ⟨row, found, copy⟩ := Option.map_eq_some_iff.mp copied
  exact ⟨row, found, congrArg Copy.baseline copy⟩

/-- The baseline of an article whose row a refresh does not clear unasked: that of the
server where the article was listed, and else what it was. -/
theorem baseline_refresh {row : EntryRow} {article : Article} (normal : selection.Normal)
    (applied : store.applySnapshot now accountId (account.browsed host selection) = .ok after)
    (found : store.entries.find? (accountId, entryId) = some row)
    (held : account.articles.find? entryId = some article)
    (spared : ¬ (browseFilter selection).admits article → ¬ selection.clears field row) :
    ∃ refreshed, after.entries.find? (accountId, entryId) = some refreshed ∧
      field.baseline refreshed =
        if (browseFilter selection).admits article then field.held article
        else field.baseline row := by
  by_cases admitted : (browseFilter selection).admits article
  · rw [if_pos admitted]
    exact exists_row (cell_refresh_listed normal applied held admitted)
  · have kept : after.cell accountId entryId field = store.cell accountId entryId field := by
      refine cell_refresh_kept normal applied (fun other found' => ?_) fun other found' => ?_
      · cases held.symm.trans found'
        exact admitted
      · cases found.symm.trans found'
        exact spared admitted
    have copied := congrArg Cell.copy kept
    simp only [cell, found, Option.map_some] at copied
    obtain ⟨refreshed, same, copy⟩ := Option.map_eq_some_iff.mp copied
    rw [if_neg admitted]
    exact ⟨refreshed, same, congrArg Copy.baseline copy⟩

end Store

/-- A starred article is always asked for where stars are cleared. -/
theorem admits_of_clears {selection : Selection} {row : EntryRow} {article : Article}
    (cleared : selection.clears .starred row) (starred : article.dto.starred) :
    (browseFilter selection).admits article := by
  simp only [Selection.clears, Bool.and_eq_true, Bool.not_eq_true'] at cleared
  cases selection with
  | starred unreadOnly =>
    have normal : (Selection.starred unreadOnly).Normal := trivial
    refine (admits_browseFilter normal article).mpr ⟨fun restricted => ?_, fun _ => starred, trivial⟩
    simp [restricted] at cleared
  | all _ _ | unread _ | category _ _ | feed _ _ => simp [Selection.isStarred] at cleared

/-! ## Soundness of the reconciliation -/

/-- A refresh leaves the remote columns true of what the server still shows: what is unread
there and was known as unread stays so, and so does a star. -/
structure KeepsRemote (accountId : String) (account : RemoteAccount) (store after : Store) : Prop where
  unread : ∀ row, store.entries.find? (accountId, row.id) = some row → row.remoteStatus = "unread" →
    ∀ article, account.articles.find? row.id = some article → article.dto.status = "unread" →
      ∃ refreshed, after.entries.find? (accountId, row.id) = some refreshed ∧
        refreshed.remoteStatus = "unread"
  starred : ∀ row, store.entries.find? (accountId, row.id) = some row → row.remoteStarred →
    ∀ article, account.articles.find? row.id = some article → article.dto.starred →
      ∃ refreshed, after.entries.find? (accountId, row.id) = some refreshed ∧
        refreshed.remoteStarred

/-- An unread article that the remote filter of an unread-only selection leaves
out, while the local row is in the scope of the selection. -/
def Selection.Overlooks (selection : Selection) (row : EntryRow) (article : Article) : Prop :=
  selection.isUnreadOnly ∧ Store.inScope selection row ∧
    ((selection.isStarred ∧ ¬ article.dto.starred) ∨ ¬ selection.covers article)

theorem Selection.overlooks_iff {selection : Selection} (normal : selection.Normal) {row : EntryRow}
    {article : Article} (unread : article.dto.status = "unread") :
    selection.Overlooks row article ↔ selection.isUnreadOnly ∧ Store.inScope selection row ∧
      ¬ (browseFilter selection).admits article := by
  rw [admits_browseFilter normal]
  unfold Overlooks
  tauto

/-- A refresh clears no star the server still shows, and marks no entry read that
is unread there, exactly when the remote filter overlooks no article whose row
is in the local scope. -/
theorem keepsRemote_iff {store after : Store} {now accountId : String} {host : Host}
    {selection : Selection} {account : RemoteAccount} (normal : selection.Normal)
    (applied : store.applySnapshot now accountId (account.browsed host selection) = .ok after) :
    KeepsRemote accountId account store after ↔
      ∀ row, store.entries.find? (accountId, row.id) = some row → row.remoteStatus = "unread" →
        ∀ article, account.articles.find? row.id = some article →
          article.dto.status = "unread" → ¬ selection.Overlooks row article := by
  have alone : ∀ {entryId article}, account.articles.find? entryId = some article →
      ¬ (browseFilter selection).admits article → ∀ other,
      account.articles.find? entryId = some other → ¬ (browseFilter selection).admits other := by
    intro entryId article held refused other found
    cases held.symm.trans found
    exact refused
  constructor
  · intro keeps row found wasUnread article held isUnread overlooked
    obtain ⟨restricted, inside, refused⟩ := (Selection.overlooks_iff normal isUnread).mp overlooked
    have cleared : selection.clears .read row := by
      simp [Selection.clears, restricted, inside, wasUnread]
    obtain ⟨refreshed, kept, shown⟩ := keeps.unread row found wasUnread article held isUnread
    obtain ⟨marked, same, read⟩ := Store.exists_row
      (Store.cell_refresh_cleared normal applied (alone held refused) found cleared)
    cases kept.symm.trans same
    have contrary : "unread" = "read" := shown.symm.trans read
    exact absurd contrary (by decide)
  · intro sound
    constructor
    · intro row found wasUnread article held isUnread
      have spared : ¬ (browseFilter selection).admits article → ¬ selection.clears .read row := by
        intro refused cleared
        simp only [Selection.clears, Bool.and_eq_true, decide_eq_true_eq] at cleared
        exact sound row found wasUnread article held isUnread
          ((Selection.overlooks_iff normal isUnread).mpr ⟨cleared.1.1, cleared.1.2, refused⟩)
      obtain ⟨refreshed, kept, shown⟩ := Store.baseline_refresh normal applied found held spared
      refine ⟨refreshed, kept, shown.trans ?_⟩
      split
      · exact isUnread
      · exact wasUnread
    · intro row found wasStarred article held isStarred
      have spared : ¬ (browseFilter selection).admits article → ¬ selection.clears .starred row :=
        fun refused cleared => refused (admits_of_clears cleared isStarred)
      obtain ⟨refreshed, kept, shown⟩ := Store.baseline_refresh normal applied found held spared
      refine ⟨refreshed, kept, shown.trans ?_⟩
      split
      · exact isStarred
      · exact wasStarred

/-- The stores a client without local changes comes to, refreshing from whatever
states the server is in. -/
def refreshes (accountId server : String) : Transition.System Store where
  initial store := store = Store.empty.ensureAccount accountId server
  step store after := ∃ host kind id unreadOnly account snapshot settled now,
    Returns (browse host accountApi.inbox (Selection.normalize kind id unreadOnly)) account
      snapshot settled ∧ store.applySnapshot now accountId snapshot = .ok after

/-- A refresh keeps the remote columns true exactly when it overlooks no article that is
unread on both sides. Overlooked is one without a star, where starred and unread articles
are asked for, and one that the server files elsewhere than its row: it is not listed, and
its absence is taken for a read one. -/
theorem refresh_keeps_remote_iff {store after : Store} {now accountId : String} {host : Host}
    {kind : String} {id : Int} {unreadOnly : Bool} {account settled : RemoteAccount}
    {snapshot : SnapshotData}
    (browsed : Returns (browse host accountApi.inbox (Selection.normalize kind id unreadOnly))
      account snapshot settled)
    (applied : store.applySnapshot now accountId snapshot = .ok after) :
    KeepsRemote accountId account store after ↔
      ∀ row, store.entries.find? (accountId, row.id) = some row → row.remoteStatus = "unread" →
        ∀ article, account.articles.find? row.id = some article →
          article.dto.status = "unread" →
          ¬ (Selection.normalize kind id unreadOnly).Overlooks row article := by
  obtain ⟨_, rfl, _⟩ := returns_browse.mp browsed
  exact keepsRemote_iff (Selection.normalize_normal kind id unreadOnly) applied

/-- The account of a single unread article. -/
def loneUnread : RemoteAccount where
  articles := {
    rows := [{
      dto := {
        id := 1, feedId := 1, title := "", url := "", commentsUrl := "", status := "unread"
        starred := false, publishedAt := "", content := "", enclosures := [], feed := none }
      feedId := 1
      categoryId := 0
      placed := rfl
      known := Or.inr rfl }]
    unique := by simp }
  rising := by simp
  categories := []
  feeds := []
  count _ := .empty

/-- A host that finds nothing in an article. -/
def bareHost : Host where
  extract _ _ _ := ⟨"", ""⟩
  firstImageEnclosureUrl _ _ := ""
  toLowercase := id

theorem navigation_loneUnread : loneUnread.navigation bareHost = ([], 0) := by
  simp [RemoteAccount.navigation, loneUnread, dtoMappingInputs, buildNavigation, sortByTitle]

/-- What an unread-only browse of the account lists. -/
def loneEntry : Entry where
  id := 1
  title := ""
  url := ""
  commentsUrl := ""
  feedId := 1
  feedName := ""
  categoryId := 0
  publishedAtRfc3339 := ""
  preview := ""
  imageUrl := ""
  status := .unread
  starred := false

def loneSnapshot (selection : Selection) (entries : List Entry) : SnapshotData where
  version := 1
  selection
  entries
  categories := []
  total := entries.length
  unreadTotal := 0
  starredTotal := 0

theorem browse_unread : Returns (browse bareHost accountApi.inbox (.normalize "all" 0 true))
    loneUnread (loneSnapshot (.all 0 true) [loneEntry]) loneUnread := by
  refine returns_browse.mpr ⟨⟨by decide, by decide⟩, ?_, rfl⟩
  unfold RemoteAccount.browsed
  rw [navigation_loneUnread]
  decide

theorem browse_starred : Returns (browse bareHost accountApi.inbox (.normalize "starred" 0 true))
    loneUnread (loneSnapshot (.starred true) []) loneUnread := by
  refine returns_browse.mpr ⟨⟨by decide, by decide⟩, ?_, rfl⟩
  unfold RemoteAccount.browsed
  rw [navigation_loneUnread]
  decide

/-- The store before its first refresh. -/
def freshStore : Store := Store.empty.ensureAccount "account" "server"

/-- It after a refresh of everything unread. -/
def unreadRefreshed : Store :=
  freshStore.commit (freshStore.applySnapshot "t" "account" (loneSnapshot (.all 0 true) [loneEntry]))

theorem apply_unread : freshStore.applySnapshot "t" "account"
    (loneSnapshot (.all 0 true) [loneEntry]) = .ok unreadRefreshed :=
  Store.commit_of_isOk (by decide)

/-- It after a refresh of what is starred and unread. -/
def starredRefreshed : Store :=
  unreadRefreshed.commit
    (unreadRefreshed.applySnapshot "t" "account" (loneSnapshot (.starred true) []))

theorem apply_starred : unreadRefreshed.applySnapshot "t" "account"
    (loneSnapshot (.starred true) []) = .ok starredRefreshed :=
  Store.commit_of_isOk (by decide)

/-- An unread article of the one feed of an account. -/
def filedArticle (id : Int) (publishedAt : String) (starred : Bool) : Article where
  dto := {
    id, feedId := 1, title := "", url := "", commentsUrl := "", status := "unread", starred
    publishedAt, content := "", enclosures := [], feed := some ⟨1, "Feed", some ⟨1, "Category"⟩⟩ }
  feedId := 1
  categoryId := 1
  placed := rfl
  known := Or.inr rfl

/-- The account of two such articles, the later one starred, which counts what is unread. -/
def twoArticles : RemoteAccount where
  articles := {
    rows := [filedArticle 1 "2024-01-01T00:00:00Z" false, filedArticle 2 "2024-01-02T00:00:00Z" true]
    unique := by decide }
  rising := by decide
  categories := [⟨1, "Category"⟩]
  feeds := [⟨1, "Feed", some ⟨1, "Category"⟩⟩]
  count articles := {
    rows := [⟨1, (articles.select fun article => article.dto.status = "unread").length⟩]
    unique := List.nodup_singleton _ }

/-- The two as the client lists them. -/
def earlierEntry : Entry :=
  { loneEntry with
    feedName := "Feed", categoryId := 1, publishedAtRfc3339 := "2024-01-01T00:00:00Z" }

def laterEntry : Entry :=
  { earlierEntry with id := 2, publishedAtRfc3339 := "2024-01-02T00:00:00Z", starred := true }

/-- A browse of what is unread among them. -/
def unreadSnapshot (entries : List Entry) : SnapshotData :=
  { loneSnapshot (.all 0 true) entries with
    categories := [⟨1, "Category", entries.length, [⟨1, "Feed", 1, entries.length⟩]⟩]
    unreadTotal := entries.length
    starredTotal := 1 }

theorem navigation_oneFeed {account : RemoteAccount} {count : Int}
    (categories : account.categories = [⟨1, "Category"⟩])
    (feeds : account.feeds = [⟨1, "Feed", some ⟨1, "Category"⟩⟩])
    (counted : account.feedCounters.counter 1 = some count) (fits : InI32 count) :
    account.navigation bareHost = ([⟨1, "Category", count, [⟨1, "Feed", 1, count⟩]⟩], count) := by
  have filed : addFeed [⟨1, "Category"⟩] account.feedCounters.counter ([⟨1, "Category", 0, []⟩], 0)
      ⟨1, "Feed", 1⟩ = ([⟨1, "Category", count, [⟨1, "Feed", 1, count⟩]⟩], count) := by
    simp [addFeed, categoryIndex, counted, toI32_of_in fits]
  unfold RemoteAccount.navigation
  rw [categories, feeds]
  simp [dtoMappingInputs, buildNavigation, sortByTitle, FeedDto.categoryId, filed]

theorem browsed_oneFeed {account : RemoteAccount} {entries : List Entry}
    (categories : account.categories = [⟨1, "Category"⟩])
    (feeds : account.feeds = [⟨1, "Feed", some ⟨1, "Category"⟩⟩])
    (counted : account.feedCounters.counter 1 = some (entries.length : Int))
    (fits : InI32 entries.length)
    (listed : (account.matching (browseFilter (.all 0 true))).map (fun article =>
      entryToDomain bareHost article.dto) = entries)
    (starred : account.starred.length = 1) :
    account.browsed bareHost (.all 0 true) = unreadSnapshot entries := by
  have length := congrArg List.length listed
  rw [List.length_map] at length
  unfold RemoteAccount.browsed
  rw [navigation_oneFeed categories feeds counted fits, listed, length, starred, toI32_of_in fits]
  rfl

theorem browsed_twoArticles : twoArticles.browsed bareHost (.all 0 true) =
    unreadSnapshot [earlierEntry, laterEntry] :=
  browsed_oneFeed rfl rfl (by decide) (by decide) (by decide) (by decide)

/-- The earlier one has been read. -/
theorem browsed_earlierRead : (twoArticles.setRead [1] true).browsed bareHost (.all 0 true) =
    unreadSnapshot [laterEntry] :=
  browsed_oneFeed rfl rfl (by decide) (by decide) (by decide) (by decide)

/-- The store after a refresh of both. -/
def twoStored : Store :=
  freshStore.commit (freshStore.applySnapshot "t" "account" (unreadSnapshot [earlierEntry, laterEntry]))

theorem apply_twoStored : freshStore.applySnapshot "t" "account"
    (unreadSnapshot [earlierEntry, laterEntry]) = .ok twoStored :=
  Store.commit_of_isOk (by decide)

/-- It after a refresh with the earlier one read elsewhere. -/
def earlierDismissed : Store :=
  twoStored.commit (twoStored.applySnapshot "t" "account" (unreadSnapshot [laterEntry]))

theorem apply_earlierDismissed : twoStored.applySnapshot "t" "account"
    (unreadSnapshot [laterEntry]) = .ok earlierDismissed :=
  Store.commit_of_isOk (by decide)

/-- The refresh marks the article read that was read elsewhere, and spares the other one,
which is listed. -/
theorem unread_refresh_keeps_remote :
    KeepsRemote "account" (twoArticles.setRead [1] true) twoStored earlierDismissed ∧
      (earlierDismissed.entries.find? ("account", 1)).map (·.remoteStatus) = some "read" := by
  have browsed : Returns (browse bareHost accountApi.inbox (.normalize "all" 0 true))
      (twoArticles.setRead [1] true) (unreadSnapshot [laterEntry]) (twoArticles.setRead [1] true) :=
    returns_browse.mpr ⟨⟨by decide, by decide⟩, browsed_earlierRead.symm, rfl⟩
  refine ⟨(refresh_keeps_remote_iff browsed apply_earlierDismissed).mpr ?_, by decide⟩
  rintro row _ _ article _ _ ⟨_, _, starred | uncovered⟩
  · exact absurd starred.1 (by decide)
  · exact uncovered trivial

/-- A refresh of what is starred and unread marks an unread article read because it carries
no star, though the server has it unread. -/
theorem starred_refresh_marks_read :
    ¬ ∀ store account host kind id unreadOnly snapshot settled now after,
      (refreshes "account" "server").Reachable store →
      Returns (browse host accountApi.inbox (Selection.normalize kind id unreadOnly)) account
        snapshot settled →
      store.applySnapshot now "account" snapshot = .ok after →
      KeepsRemote "account" account store after := by
  intro keeps
  have reached : (refreshes "account" "server").Reachable unreadRefreshed :=
    .next (.start rfl) ⟨_, _, _, _, _, _, _, _, browse_unread, apply_unread⟩
  have kept := keeps _ _ _ _ _ _ _ _ _ _ reached browse_starred apply_starred
  obtain ⟨row, found, unread⟩ : ∃ row, unreadRefreshed.entries.find? ("account", 1) = some row ∧
      row.remoteStatus = "unread" := by
    decide
  have named : row.id = 1 := congrArg Prod.snd (Table.key_of_find? found)
  have kept := (keeps _ _ _ _ _ _ _ _ _ _ reached browse_starred apply_starred).unread row
    (named ▸ found) unread
  rw [named] at kept
  obtain ⟨refreshed, found, still⟩ := kept _ rfl rfl
  have marked : starredRefreshed.entries.find? ("account", 1) = some refreshed →
      refreshed.remoteStatus = "read" := by
    intro found
    cases found
    rfl
  exact absurd (still.symm.trans (marked found)) (by decide)

end FluxBar
