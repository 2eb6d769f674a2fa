import FluxBar.RuntimeProofs
import FluxBar.StoreFrames
import FluxBar.SyncExactness

/-! A local change does not move the list: the entries it names are retained, so the
rows a snapshot chooses from are the same before and after, and so is their order. -/
namespace FluxBar
open Relational Procedure

namespace Store
variable {store after : Store} {accountId : String} {selection : Selection} {newestFirst : Bool}
  {retainIds laterIds ids : List Int} {scan laterScan : Scan}

/-- No two of the rows a snapshot chooses from were published at the same time. -/
def DistinctDates (store : Store) (accountId : String) (selection : Selection)
    (retainIds : List Int) : Prop :=
  ∀ left ∈ store.qualifying accountId selection retainIds,
    ∀ right ∈ store.qualifying accountId selection retainIds,
      left.publishedAt = right.publishedAt → left.id = right.id

instance : Decidable (store.DistinctDates accountId selection retainIds) :=
  inferInstanceAs (Decidable (∀ left ∈ _, ∀ right ∈ _, _))

/-- What decides where a row stands in a list. -/
def place (row : EntryRow) : String × Int := (row.publishedAt, row.id)

/-- Two lists of the same places are the same list, where the dates are distinct. -/
theorem ids_snapshotEntries (distinct : store.DistinctDates accountId selection retainIds)
    (same : ∀ spot, spot ∈ (after.qualifying accountId selection laterIds).map place ↔
      spot ∈ (store.qualifying accountId selection retainIds).map place) :
    (after.snapshotEntries laterScan accountId selection newestFirst laterIds).map Entry.id =
      (store.snapshotEntries scan accountId selection newestFirst retainIds).map Entry.id := by
  obtain ⟨before, perm, dates, listed⟩ :=
    store.snapshotEntries_ordered scan accountId selection newestFirst retainIds
  obtain ⟨later, laterPerm, laterDates, laterListed⟩ :=
    after.snapshotEntries_ordered laterScan accountId selection newestFirst laterIds
  have nodup : ∀ (store : Store) (retainIds : List Int),
      ((store.qualifying accountId selection retainIds).map place).Nodup := by
    intro store retainIds
    refine List.Nodup.of_map Prod.snd ?_
    rw [List.map_map]
    exact store.nodup_qualifying accountId selection retainIds
  have places : (later.map place).Perm (before.map place) := by
    refine (laterPerm.map place).trans (.trans ?_ (perm.map place).symm)
    exact (List.perm_ext_iff_of_nodup (nodup after laterIds) (nodup store retainIds)).mpr same
  have sorted : ∀ rows : List EntryRow,
      rows.Pairwise (fun left right => InDateOrder newestFirst left.toEntry right.toEntry) →
      (rows.map place).Pairwise fun left right =>
        if newestFirst then right.1 ≤ left.1 else left.1 ≤ right.1 :=
    fun rows ordered => List.pairwise_map.mpr ordered
  have alike : later.map place = before.map place := by
    refine List.Perm.eq_of_pairwise ?_ (sorted later laterDates) (sorted before dates) places
    intro left right leftHeld rightHeld forward backward
    -- equal dates leave only one row
    have date : left.1 = right.1 := by
      cases newestFirst
      · exact le_antisymm (by simpa using forward) (by simpa using backward)
      · exact le_antisymm (by simpa using backward) (by simpa using forward)
    obtain ⟨first, firstHeld, rfl⟩ := List.mem_map.mp (places.mem_iff.mp leftHeld)
    obtain ⟨second, secondHeld, rfl⟩ := List.mem_map.mp rightHeld
    exact Prod.ext date
      (distinct first (perm.mem_iff.mp firstHeld) second (perm.mem_iff.mp secondHeld) date)
  have cut : ∀ rows : List EntryRow, ((rows.take snapshotLimit).map EntryRow.toEntry).map Entry.id =
      ((rows.map place).take snapshotLimit).map Prod.snd := by
    intro rows
    rw [← List.map_take, List.map_map, List.map_map]
    rfl
  rw [listed, laterListed, cut, cut, alike]

/-- A change that reaches named entries only, none of them outside the list. This is all
that a change has to satisfy for the list to stay as it is. -/
structure ChangesListed (store after : Store) (accountId : String) (selection : Selection)
    (retainIds ids : List Int) : Prop where
  content : SameContent store after
  others : ∀ entryId ∉ ids,
    after.entries.find? (accountId, entryId) = store.entries.find? (accountId, entryId)
  listed : ∀ entryId ∈ ids, entryId ∈ retainIds ∨ ∃ row,
    store.entries.find? (accountId, entryId) = some row ∧
      selectionClause accountId selection row = true

theorem mem_qualifying {row : EntryRow} :
    row ∈ store.qualifying accountId selection retainIds ↔
      store.entries.find? row.key = some row ∧ qualifies accountId selection retainIds row = true := by
  unfold qualifying Table.select
  rw [List.mem_filter, Table.find?_eq_some, and_iff_left rfl]

/-- Whether a row qualifies once the named ids are retained, told by whether it did before:
a changed one is retained, and any other is as it was. -/
theorem ChangesListed.qualifies_iff
    (changes : ChangesListed store after accountId selection retainIds ids)
    {entryId : Int} {row later : EntryRow}
    (held : store.entries.find? (accountId, entryId) = some row)
    (laterHeld : after.entries.find? (accountId, entryId) = some later) :
    qualifies accountId selection (retainIds ++ ids) later = true ↔
      qualifies accountId selection retainIds row = true := by
  have key := Table.key_of_find? held
  have laterKey := Table.key_of_find? laterHeld
  simp only [EntryRow.key, Prod.mk.injEq] at key laterKey
  obtain ⟨named, rowId⟩ := key
  obtain ⟨laterNamed, laterId⟩ := laterKey
  by_cases listed : entryId ∈ ids
  · have now : qualifies accountId selection (retainIds ++ ids) later = true := by
      simp [qualifies, laterNamed, laterId, listed]
    have before : qualifies accountId selection retainIds row = true := by
      rcases changes.listed entryId listed with retained | ⟨_, found, clause⟩
      · simp [qualifies, named, rowId, retained]
      · rw [held] at found
        cases found
        simp [qualifies, clause]
    exact iff_of_true now before
  · have same : later = row := by
      have unchanged := changes.others entryId listed
      rw [held, laterHeld] at unchanged
      exact Option.some.inj unchanged
    simp [qualifies, same, rowId, listed]

theorem ChangesListed.ids_eq (changes : ChangesListed store after accountId selection retainIds ids)
    (distinct : store.DistinctDates accountId selection retainIds) :
    (after.snapshotEntries laterScan accountId selection newestFirst (retainIds ++ ids)).map Entry.id =
      (store.snapshotEntries scan accountId selection newestFirst retainIds).map Entry.id := by
  refine ids_snapshotEntries distinct fun spot => ?_
  have alike : ∀ key, (after.entries.find? key).map place = (store.entries.find? key).map place := by
    intro key
    have content := congrArg (Option.map place) (changes.content key)
    rw [Option.map_map, Option.map_map] at content
    exact content
  simp only [List.mem_map, mem_qualifying]
  constructor
  · rintro ⟨later, ⟨laterHeld, chosen⟩, rfl⟩
    have named := accountId_of_qualifies chosen
    have key : later.key = (accountId, later.id) := Prod.ext named rfl
    rw [key] at laterHeld
    have before := alike (accountId, later.id)
    rw [laterHeld] at before
    obtain ⟨row, held, spot⟩ := Option.map_eq_some_iff.mp before.symm
    refine ⟨row, ⟨?_, (changes.qualifies_iff held laterHeld).mp chosen⟩, spot⟩
    rw [Table.key_of_find? held, held]
  · rintro ⟨row, ⟨held, chosen⟩, rfl⟩
    have named := accountId_of_qualifies chosen
    have key : row.key = (accountId, row.id) := Prod.ext named rfl
    rw [key] at held
    have later := alike (accountId, row.id)
    rw [held] at later
    obtain ⟨row', laterHeld, spot⟩ := Option.map_eq_some_iff.mp later
    refine ⟨row', ⟨?_, (changes.qualifies_iff held laterHeld).mpr chosen⟩, spot⟩
    rw [Table.key_of_find? laterHeld, laterHeld]

end Store

/-! ## The snapshots of local changes -/

namespace SyncService
variable {σ : Type} {service : SyncService σ} {world after : World σ} {selection : Selection}
  {retainIds ids : List Int} {snapshot before : SnapshotData}

/-- A snapshot of `mark_read` is of the store its transaction left, with the ids it named
retained. -/
theorem entries_markRead {read automatic : Bool} {receipt : Option MutationReceipt}
    (ran : Returns (service.markRead selection ids retainIds read automatic) world
      (snapshot, receipt) after) :
    ∃ marked, world.store.setRead (service.clock world.transactions)
        (service.randomId world.transactions) service.accountId ids read automatic =
          .ok (marked, receipt) ∧
      snapshot.entries = marked.snapshotEntries service.scan service.accountId
        (normalizeSelection selection) service.newestFirst (retainIds ++ ids) := by
  obtain ⟨marked, shown, _⟩ := committed_markRead ran
  exact ⟨after.store, marked, Store.entries_localSnapshot shown⟩

theorem entries_setStarred {entryId : Int} {starred : Bool}
    (ran : Returns (service.setStarred selection entryId starred retainIds) world snapshot after) :
    snapshot.entries = (world.store.setStarred (service.clock world.transactions 0) service.accountId
      entryId starred).snapshotEntries service.scan service.accountId (normalizeSelection selection)
        service.newestFirst (retainIds ++ [entryId]) := by
  obtain ⟨starredStore, shown⟩ := committed_setStarred ran
  rw [← starredStore]
  exact Store.entries_localSnapshot shown

end SyncService

/-- Marking entries of a list, or starring one, shows the same ids in the same order: the
selection no longer admits them, but they are retained, and their dates are what they were.
-/
theorem list_stays {σ : Type} {service : SyncService σ} {world : World σ} {selection : Selection}
    {retainIds ids : List Int} {scan : Scan} {before : SnapshotData}
    (shown : world.store.localSnapshot scan service.accountId selection service.newestFirst
      retainIds = .ok before)
    (listed : ∀ entryId ∈ ids, entryId ∈ retainIds ∨ ∃ row,
      world.store.entries.find? (service.accountId, entryId) = some row ∧
        Store.selectionClause service.accountId (normalizeSelection selection) row = true)
    (distinct : world.store.DistinctDates service.accountId (normalizeSelection selection) retainIds) :
    (∀ read automatic snapshot receipt after,
      Returns (service.markRead selection ids retainIds read automatic) world (snapshot, receipt)
        after → snapshot.entries.map Entry.id = before.entries.map Entry.id) ∧
    ∀ entryId starred snapshot after, ids = [entryId] →
      Returns (service.setStarred selection entryId starred retainIds) world snapshot after →
        snapshot.entries.map Entry.id = before.entries.map Entry.id := by
  rw [Store.entries_localSnapshot shown]
  constructor
  · intro read automatic snapshot receipt after ran
    obtain ⟨marked, changed, same⟩ := SyncService.entries_markRead ran
    rw [same]
    have changes : Store.ChangesListed world.store marked service.accountId
        (normalizeSelection selection) retainIds ids := by
      refine ⟨Store.sameContent_setRead changed, ?_, listed⟩
      intro entryId unnamed
      refine Store.find?_setRead_other changed ?_
      intro other named same
      exact unnamed ((Prod.mk.inj same).2 ▸ named)
    exact changes.ids_eq distinct
  · rintro entryId starred snapshot after rfl ran
    rw [SyncService.entries_setStarred ran]
    have changes : Store.ChangesListed world.store (world.store.setStarred
        (service.clock world.transactions 0) service.accountId entryId starred) service.accountId
        (normalizeSelection selection) retainIds [entryId] := by
      refine ⟨Store.sameContent_setStarred, ?_, listed⟩
      intro other unnamed
      rw [List.mem_singleton] at unnamed
      refine Store.find?_setStarred_other ?_
      exact fun same => unnamed (Prod.mk.inj same).2
    exact changes.ids_eq distinct

/-! ## A list of one article -/

/-- The unread article, and a category. -/
def filedSnapshot : SnapshotData :=
  { loneSnapshot (.all 0 true) [loneEntry] with categories := [⟨1, "", 0, []⟩] }

/-- The article marked read, still listed. -/
def retainedSnapshot : SnapshotData :=
  { filedSnapshot with total := 0, entries := [{ loneEntry with status := .read }] }

/-- The store after a refresh. -/
def filedStore : Store := freshStore.commit (freshStore.applySnapshot "t" "account" filedSnapshot)

/-- It with the article marked read. -/
def retainedStore : Store :=
  filedStore.commit ((filedStore.setRead (fun _ => "t") "" "account" [1] true false).map Prod.fst)

theorem setRead_filed : filedStore.setRead (fun _ => "t") "" "account" [1] true false =
    .ok (retainedStore, none) := rfl

theorem navigation_filed {store : Store}
    (categories : store.categories.select (fun row => row.accountId = "account") =
      [⟨"account", 1, ""⟩])
    (feeds : store.feeds.select (fun feed => feed.accountId = "account" && feed.categoryId = 1) = []) :
    store.navigation .storage "account" = .ok ([⟨1, "", 0, []⟩], 0) := by
  simp [Store.navigation, categories, orderByTitle, Scan.storage, Store.navigationCategory, feeds]
  rfl

theorem snapshot_filed (retainIds : List Int) :
    filedStore.localSnapshot .storage "account" (.all 0 true) true retainIds = .ok filedSnapshot := by
  have navigation := @navigation_filed filedStore (by decide) (by decide)
  have stored : filedStore.entries.rows = [Store.entryRow "account" loneEntry] := by decide
  have clause : Store.selectionClause "account" (.all 0 true) (Store.entryRow "account" loneEntry) =
      true := by decide
  have rows : filedStore.entries.select (fun row =>
      Store.selectionClause "account" (.all 0 true) row ||
        (row.accountId = "account" && row.id ∈ retainIds)) =
      [Store.entryRow "account" loneEntry] := by
    simp [Table.select, stored, clause]
  have listed : filedStore.snapshotEntries .storage "account" (.all 0 true) true retainIds =
      [loneEntry] := by
    simp only [Store.snapshotEntries, rows, Scan.storage, List.mergeSort_singleton]
    rfl
  have shown := @Store.localSnapshot_parts filedStore "account" .storage (.all 0 true) true retainIds
    _ _ _ 0 1 1 0 rfl navigation listed (by decide) (by decide) (by decide) (by decide)
  exact shown.trans (by decide)

theorem snapshot_retained :
    retainedStore.localSnapshot .storage "account" (.all 0 true) true [1, 1] =
      .ok retainedSnapshot := by
  have navigation := @navigation_filed retainedStore (by decide) (by decide)
  have rows : retainedStore.entries.select (fun row =>
      Store.selectionClause "account" (.all 0 true) row ||
        (row.accountId = "account" && row.id ∈ ([1, 1] : List Int))) =
      [{ Store.entryRow "account" loneEntry with status := "read" }] := by decide
  have listed : retainedStore.snapshotEntries .storage "account" (.all 0 true) true [1, 1] =
      [{ loneEntry with status := .read }] := by
    simp only [Store.snapshotEntries, rows, Scan.storage, List.mergeSort_singleton]
    rfl
  have shown := @Store.localSnapshot_parts retainedStore "account" .storage (.all 0 true) true [1, 1]
    _ _ _ 0 0 1 (-1) rfl navigation listed (by decide) (by decide) (by decide) (by decide)
  exact shown.trans (by decide)

/-- The core as the app finds it. -/
def filedWorld : World RemoteAccount := { freshWorld loneUnread with store := filedStore }

theorem store_filedWorld : filedWorld.store = filedStore := by
  dsimp only [filedWorld]

/-- Articles are marked read, and the list shown again. -/
theorem returns_marked {world : World RemoteAccount} {ids retainIds : List Int} {marked : Store}
    {snapshot : SnapshotData}
    (changed : world.store.setRead (fun _ => "t") "" "account" ids true false = .ok (marked, none))
    (shown : marked.localSnapshot .storage "account" (.all 0 true) true (retainIds ++ ids) =
      .ok snapshot) :
    Returns (timelyService.markRead (.all 0 true) ids retainIds true false) world
      (snapshot, none) { world with
        store := marked, transactions := world.transactions + 2
        checks := world.checks + 3, requested := 0 :: world.requested } := by
  refine returns_bind.mpr ⟨(), _, SyncService.returns_lockUntil.mpr ⟨rfl, rfl⟩, ?_⟩
  refine returns_bind.mpr ⟨none, _, SyncService.returns_transact.mpr ⟨marked, changed, rfl⟩, ?_⟩
  refine returns_bind.mpr ⟨(), _, returns_modify.mpr rfl, ?_⟩
  refine returns_bind.mpr ⟨(), _, SyncService.returns_ensureBefore.mpr ⟨rfl, rfl⟩, ?_⟩
  refine returns_bind.mpr ⟨snapshot, _, SyncService.returns_consult.mpr ⟨shown, rfl⟩, ?_⟩
  refine returns_bind.mpr ⟨(), _, SyncService.returns_ensureBefore.mpr ⟨rfl, rfl⟩, ?_⟩
  exact returns_pure.mpr ⟨rfl, rfl⟩

theorem returns_read {world : World RemoteAccount} (stored : world.store = filedStore) :
    Returns (timelyService.markRead (.all 0 true) [1] [1] true false) world
      (retainedSnapshot, none) { world with
        store := retainedStore, transactions := world.transactions + 2
        checks := world.checks + 3, requested := 0 :: world.requested } :=
  returns_marked (stored ▸ setRead_filed) snapshot_retained

/-! ## A list of two articles -/

/-- The later of two unread articles marked read. -/
def laterRead : Store :=
  twoStored.commit ((twoStored.setRead (fun _ => "t") "" "account" [2] true false).map Prod.fst)

theorem setRead_twoStored : twoStored.setRead (fun _ => "t") "" "account" [2] true false =
    .ok (laterRead, none) := rfl

/-- Both articles, the newest first. -/
def bothListed : SnapshotData :=
  { unreadSnapshot [earlierEntry, laterEntry] with entries := [laterEntry, earlierEntry] }

/-- Both are still listed once the later one is read. -/
def bothKept : SnapshotData :=
  { bothListed with
    entries := [{ laterEntry with status := .read }, earlierEntry]
    categories := [⟨1, "Category", 1, [⟨1, "Feed", 1, 1⟩]⟩], total := 1, unreadTotal := 1 }

/-- Two rows are listed in the order of their dates, whatever order they are stored in. -/
theorem entries_two {store : Store} {retainIds : List Int} {first second : EntryRow}
    (rows : store.qualifying "account" (.all 0 true) retainIds = [first, second])
    (dated : first.publishedAt < second.publishedAt) (distinct : first.id ≠ second.id) :
    store.snapshotEntries .storage "account" (.all 0 true) true retainIds =
      [second.toEntry, first.toEntry] := by
  have chosen : store.entries.select (fun row => Store.selectionClause "account" (.all 0 true) row ||
      (row.accountId = "account" && row.id ∈ retainIds)) = [first, second] := rows
  have apart : first.toEntry.id ≠ second.toEntry.id := distinct
  simp [Store.snapshotEntries, chosen, Scan.storage, StableSort.mergeSort_pair, not_le.mpr dated,
    snapshotLimit, Store.distinctEntries, apart]

theorem snapshot_twoStored :
    twoStored.localSnapshot .storage "account" (.all 0 true) true [] = .ok bothListed := by
  have navigation : twoStored.navigation .storage "account" =
      .ok ([⟨1, "Category", 2, [⟨1, "Feed", 1, 2⟩]⟩], 2) := by
    have fed : twoStored.navigationFeed "account" ⟨"account", 1, 1, "Feed", 2⟩ =
        .ok ⟨1, "Feed", 1, 2⟩ := by decide
    rw [@Store.navigation_one twoStored "account" ⟨"account", 1, "Category"⟩
      ⟨"account", 1, 1, "Feed", 2⟩ (by decide) (by decide), fed]
    rfl
  have listed := @entries_two twoStored [] (Store.entryRow "account" earlierEntry)
    (Store.entryRow "account" laterEntry) (by decide) (by decide) (by decide)
  have shown := @Store.localSnapshot_parts twoStored "account" .storage (.all 0 true) true []
    _ _ _ 1 2 2 0 rfl navigation listed (by decide) (by decide) (by decide) (by decide)
  exact shown.trans (by decide)

theorem snapshot_laterRead :
    laterRead.localSnapshot .storage "account" (.all 0 true) true [2] = .ok bothKept := by
  have navigation : laterRead.navigation .storage "account" =
      .ok ([⟨1, "Category", 1, [⟨1, "Feed", 1, 1⟩]⟩], 1) := by
    have fed : laterRead.navigationFeed "account" ⟨"account", 1, 1, "Feed", 2⟩ =
        .ok ⟨1, "Feed", 1, 1⟩ := by decide
    rw [@Store.navigation_one laterRead "account" ⟨"account", 1, "Category"⟩
      ⟨"account", 1, 1, "Feed", 2⟩ (by decide) (by decide), fed]
    rfl
  have listed := @entries_two laterRead [2] (Store.entryRow "account" earlierEntry)
    { Store.entryRow "account" laterEntry with status := "read" } (by decide) (by decide) (by decide)
  have shown := @Store.localSnapshot_parts laterRead "account" .storage (.all 0 true) true [2]
    _ _ _ 1 1 2 (-1) rfl navigation listed (by decide) (by decide) (by decide) (by decide)
  exact shown.trans (by decide)

/-- The client that lists both. -/
def listedWorld : World RemoteAccount := { freshWorld twoArticles with store := twoStored }

/-- An article that nothing retained yet is marked read and stays where it is, at the head
of an unread-only list, before one of an earlier date. -/
theorem read_article_stays :
    bothKept.entries.map Entry.id = bothListed.entries.map Entry.id ∧
      bothKept.entries.map Entry.id = [2, 1] := by
  have stored : listedWorld.store = twoStored := by dsimp only [listedWorld]
  have shown : listedWorld.store.localSnapshot .storage "account" (.all 0 true) true [] =
      .ok bothListed := stored ▸ snapshot_twoStored
  have listed : ∃ row, listedWorld.store.entries.find? ("account", 2) = some row ∧
      Store.selectionClause "account" (normalizeSelection (.all 0 true)) row = true := by
    rw [stored]
    exact ⟨Store.entryRow "account" laterEntry, by decide, by decide⟩
  have distinct : listedWorld.store.DistinctDates "account" (normalizeSelection (.all 0 true)) [] := by
    rw [stored]
    decide
  have stays := @list_stays _ timelyService listedWorld (.all 0 true) [] [2] .storage bothListed
    shown (fun entryId named => .inr (List.mem_singleton.mp named ▸ listed)) distinct
  have marked := @returns_marked listedWorld [2] [] _ _ (stored ▸ setRead_twoStored) snapshot_laterRead
  exact ⟨stays.1 true false bothKept none _ marked, by decide⟩

end FluxBar
