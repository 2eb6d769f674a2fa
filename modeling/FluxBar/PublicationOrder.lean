import FluxBar.DeliveryDisplay
import FluxBar.RuntimeProofs
import FluxBar.Library.SortedPrefix
import FluxBar.Library.Timestamps

/-! Snapshots by publication. The store keeps the server's texts and sorts those; the
instants follow as long as the texts that decide the first rows are in their order. -/
namespace FluxBar
open Rfc3339 SortedPrefix

/-- Published no later, or no earlier where the newest come first, by the instants that the
two texts are read as. -/
def InTime (newestFirst : Bool) (first second : String) : Prop :=
  ∃ early late, parse first = some early ∧ parse second = some late ∧
    if newestFirst then late.instant ≤ early.instant else early.instant ≤ late.instant

/-- The order of the query. -/
def sortsBefore (newestFirst : Bool) (first second : String) : Bool :=
  if newestFirst then decide (second < first) else decide (first < second)

theorem inTime_refl {newestFirst : Bool} {published : String}
    (valid : (parse published).isSome) : InTime newestFirst published published := by
  obtain ⟨timestamp, read⟩ := Option.isSome_iff_exists.mp valid
  refine ⟨timestamp, timestamp, read, read, ?_⟩
  split <;> exact le_refl _

/-- Texts of one shape sort by their instants: with the same separator, number of digits and
offset, a text and its instant are compared field by field. -/
theorem inTime_of_shape {newestFirst : Bool} {first second : String} {shape : Char × Nat × Int}
    (read : (parse first).map Timestamp.shape = some shape)
    (readOther : (parse second).map Timestamp.shape = some shape)
    (before : sortsBefore newestFirst first second) : InTime newestFirst first second := by
  obtain ⟨early, readEarly, rfl⟩ := Option.map_eq_some_iff.mp read
  obtain ⟨late, readLate, same⟩ := Option.map_eq_some_iff.mp readOther
  refine ⟨early, late, readEarly, readLate, ?_⟩
  unfold sortsBefore at before
  split at before
  · rename_i newest
    rw [if_pos newest]
    exact instant_le readLate readEarly same (le_of_lt (of_decide_eq_true before))
  · rename_i oldest
    rw [if_neg oldest]
    exact instant_le readEarly readLate same.symm (le_of_lt (of_decide_eq_true before))

namespace Store
variable (store : Store) (accountId : String) (selection : Selection) (newestFirst : Bool)
  (retainIds : List Int)

/-- The first rows of a selection by publication: nothing left out was due before
something listed. -/
structure ListsByPublication (entries : List Entry) : Prop where
  size : entries.length = min snapshotLimit (store.qualifying accountId selection retainIds).length
  stored : ∀ entry ∈ entries, ∃ row ∈ store.qualifying accountId selection retainIds,
    row.toEntry = entry
  ordered : entries.Pairwise fun first second =>
    InTime newestFirst first.publishedAtRfc3339 second.publishedAtRfc3339
  kept : ∀ entry ∈ entries, ∀ row ∈ store.qualifying accountId selection retainIds,
    row.id ∉ entries.map Entry.id → InTime newestFirst entry.publishedAtRfc3339 row.publishedAt

/-- Rows whose texts come early enough to be listed are in time before those that sort
after them. -/
def TextsInTime : Prop :=
  ∀ first ∈ store.qualifying accountId selection retainIds,
    ∀ second ∈ store.qualifying accountId selection retainIds,
    sortsBefore newestFirst first.publishedAt second.publishedAt →
    (store.qualifying accountId selection retainIds).countP
      (fun row => sortsBefore newestFirst row.publishedAt first.publishedAt) < snapshotLimit →
    InTime newestFirst first.publishedAt second.publishedAt

variable {store accountId selection newestFirst retainIds}

/-- What is listed of the rows in order. -/
theorem listsByPublication_iff {ordered : List EntryRow}
    (perm : ordered.Perm (store.qualifying accountId selection retainIds)) :
    store.ListsByPublication accountId selection newestFirst retainIds
        ((ordered.take snapshotLimit).map EntryRow.toEntry) ↔
      Meets (InTime newestFirst) (ordered.map EntryRow.publishedAt) snapshotLimit := by
  have distinct : (ordered.map EntryRow.id).Nodup :=
    (perm.map EntryRow.id).nodup_iff.mpr (store.nodup_qualifying accountId selection retainIds)
  have left : ∀ row ∈ ordered, row.id ∉ (ordered.take snapshotLimit).map EntryRow.id ↔
      row ∈ ordered.drop snapshotLimit := by
    intro row held
    rw [← List.take_append_drop snapshotLimit ordered, List.map_append] at distinct
    rw [← List.take_append_drop snapshotLimit ordered, List.mem_append] at held
    constructor
    · intro unlisted
      exact held.resolve_left fun listed => unlisted (List.mem_map_of_mem listed)
    · intro dropped listed
      exact (List.nodup_append.mp distinct).2.2 _ listed _ (List.mem_map_of_mem dropped) rfl
  constructor
  · rintro ⟨_, _, inOrder, kept⟩
    constructor
    · rw [List.pairwise_map] at inOrder
      rw [← List.map_take, List.pairwise_map]
      exact inOrder
    · rw [← List.map_take, ← List.map_drop]
      intro early earlyListed late lateDropped
      obtain ⟨first, listed, rfl⟩ := List.mem_map.mp earlyListed
      obtain ⟨second, dropped, rfl⟩ := List.mem_map.mp lateDropped
      have held := List.mem_of_mem_drop dropped
      refine kept first.toEntry (List.mem_map_of_mem listed) second (perm.mem_iff.mp held) ?_
      rw [List.map_map]
      exact (left second held).mpr dropped
  · rintro ⟨inOrder, kept⟩
    rw [← List.map_take] at inOrder kept
    rw [← List.map_drop] at kept
    constructor
    · rw [List.length_map, List.length_take, perm.length_eq]
    · intro entry listed
      obtain ⟨row, taken, rfl⟩ := List.mem_map.mp listed
      exact ⟨row, perm.mem_iff.mp (List.mem_of_mem_take taken), rfl⟩
    · rw [List.pairwise_map] at inOrder ⊢
      exact inOrder
    · intro entry listed row held unlisted
      obtain ⟨first, taken, rfl⟩ := List.mem_map.mp listed
      rw [List.map_map] at unlisted
      exact kept _ (List.mem_map_of_mem taken) _
        (List.mem_map_of_mem ((left row (perm.mem_iff.mpr held)).mp unlisted))

/-- The agreement of the texts, over the rows in any order. -/
theorem textsInTime_iff {ordered : List EntryRow}
    (perm : ordered.Perm (store.qualifying accountId selection retainIds)) :
    store.TextsInTime accountId selection newestFirst retainIds ↔
      ∀ first ∈ ordered.map EntryRow.publishedAt, ∀ second ∈ ordered.map EntryRow.publishedAt,
        sortsBefore newestFirst first second →
        (ordered.map EntryRow.publishedAt).countP (sortsBefore newestFirst · first) < snapshotLimit →
        InTime newestFirst first second := by
  have count : ∀ first, (ordered.map EntryRow.publishedAt).countP (sortsBefore newestFirst · first) =
      (store.qualifying accountId selection retainIds).countP
        fun row => sortsBefore newestFirst row.publishedAt first := by
    intro first
    rw [List.countP_map, perm.countP_eq]
    rfl
  simp only [List.forall_mem_map, count, perm.mem_iff]
  rfl

/-- The rows a snapshot lists are those of the claim exactly where the texts agree. -/
theorem listsByPublication_snapshotEntries_iff (scan : Scan)
    (valid : ∀ row ∈ store.qualifying accountId selection retainIds,
      (parse row.publishedAt).isSome) :
    store.ListsByPublication accountId selection newestFirst retainIds
        (store.snapshotEntries scan accountId selection newestFirst retainIds) ↔
      store.TextsInTime accountId selection newestFirst retainIds := by
  obtain ⟨ordered, perm, dates, same⟩ :=
    store.snapshotEntries_ordered scan accountId selection newestFirst retainIds
  have refl : ∀ key ∈ ordered.map EntryRow.publishedAt, InTime newestFirst key key := by
    intro key listed
    obtain ⟨row, held, rfl⟩ := List.mem_map.mp listed
    exact inTime_refl (valid row (perm.mem_iff.mp held))
  rw [same, listsByPublication_iff perm, textsInTime_iff perm]
  cases newestFirst with
  | false =>
    have agree := @meets_iff_agrees String _ (InTime false) (ordered.map EntryRow.publishedAt)
      snapshotLimit (List.pairwise_map.mpr dates) refl
    rw [agree]
    simp only [Agrees, sortsBefore, Bool.false_eq_true, if_false, decide_eq_true_eq]
  | true =>
    have agree := @meets_iff_agrees Stringᵒᵈ _ (InTime true) (ordered.map EntryRow.publishedAt)
      snapshotLimit (List.pairwise_map.mpr dates) refl
    refine agree.trans ?_
    simp only [Agrees, sortsBefore, if_true, decide_eq_true_eq]
    rfl

/-- The snapshot is the claim's exactly where the texts agree, as texts of one shape do:
wherever one text sorts before another, and few enough sort before the first for it to be
listed, it is published in time. -/
theorem lists_by_publication_iff {scan : Scan} {snapshot : SnapshotData}
    (shown : store.localSnapshot scan accountId selection newestFirst retainIds = .ok snapshot)
    (valid : ∀ row ∈ store.qualifying accountId (normalizeSelection selection) retainIds,
      (parse row.publishedAt).isSome) :
    (store.ListsByPublication accountId (normalizeSelection selection) newestFirst retainIds
        snapshot.entries ↔
      store.TextsInTime accountId (normalizeSelection selection) newestFirst retainIds) ∧
    ∀ shape, (∀ row ∈ store.qualifying accountId (normalizeSelection selection) retainIds,
        (parse row.publishedAt).map Timestamp.shape = some shape) →
      store.ListsByPublication accountId (normalizeSelection selection) newestFirst retainIds
        snapshot.entries := by
  rw [entries_localSnapshot shown]
  have exactly := @listsByPublication_snapshotEntries_iff store accountId
    (normalizeSelection selection) newestFirst retainIds scan valid
  refine ⟨exactly, ?_⟩
  intro shape same
  apply exactly.mpr
  intro first held second heldOther before _
  exact inTime_of_shape (same first held) (same second heldOther) before

end Store

/-! ## The end of daylight saving -/

/-- Two unread articles. -/
def dated (first second : String) : SnapshotData :=
  { oneUnread with
    entries := oneUnread.entries.flatMap fun entry => [
      { entry with publishedAtRfc3339 := first },
      { entry with id := 2, publishedAtRfc3339 := second }]
    total := 2 }

/-- A refresh has stored them. -/
def datedStore (first second : String) : Store :=
  [Operation.ensureAccount "account" "", .applySnapshot "t" "account" (dated first second)].foldl
    (fun store operation => store.commit (operation.run store)) .empty

theorem navigation_empty {store : Store} {accountId : String} (empty : store.categories.rows = []) :
    store.navigation .storage accountId = .ok ([], 0) := by
  unfold Store.navigation Relational.Table.select
  rw [empty]
  simp [orderByTitle, Scan.storage, pure, Except.pure]

theorem shown_dated {first second : String}
    (starred : (datedStore first second).starredTotal "account" = .ok 0)
    (total : (datedStore first second).total "account" (.all 0 true) = .ok 2)
    (navigation : (datedStore first second).categories.rows = []) :
    ∃ snapshot, (datedStore first second).localSnapshot .storage "account" (.all 0 true) false [] =
      .ok snapshot := by
  rw [Store.localSnapshot_eq, navigation_empty navigation, starred]
  simp only [normalizeSelection, total]
  exact ⟨_, rfl⟩

/-- Two articles whose dates are written with one offset, listed by publication. -/
theorem lists_two_by_publication : ∃ snapshot,
    (datedStore "2026-10-25T01:15:00Z" "2026-10-25T00:30:00Z").localSnapshot .storage "account"
      (.all 0 true) false [] = .ok snapshot ∧
    (datedStore "2026-10-25T01:15:00Z" "2026-10-25T00:30:00Z").ListsByPublication "account"
      (.all 0 true) false [] snapshot.entries := by
  obtain ⟨snapshot, shown⟩ := @shown_dated "2026-10-25T01:15:00Z" "2026-10-25T00:30:00Z"
    (by decide) (by decide) (by decide)
  exact ⟨snapshot, shown,
    (Store.lists_by_publication_iff shown (by decide)).2 ('T', 0, 0) (by decide)⟩

/-- In the hour that comes twice, the later article is listed first: its text, with the
offset of winter, sorts before the other one. -/
theorem repeated_hour_out_of_order : ∃ snapshot,
    (datedStore "2026-10-25T02:30:00+02:00" "2026-10-25T02:15:00+01:00").localSnapshot .storage
      "account" (.all 0 true) false [] = .ok snapshot ∧
    (∀ row ∈ (datedStore "2026-10-25T02:30:00+02:00" "2026-10-25T02:15:00+01:00").qualifying
      "account" (.all 0 true) [], (parse row.publishedAt).isSome) ∧
    ¬ (datedStore "2026-10-25T02:30:00+02:00" "2026-10-25T02:15:00+01:00").ListsByPublication
      "account" (.all 0 true) false [] snapshot.entries := by
  obtain ⟨snapshot, shown⟩ := @shown_dated "2026-10-25T02:30:00+02:00" "2026-10-25T02:15:00+01:00"
    (by decide) (by decide) (by decide)
  have valid : ∀ row ∈ (datedStore "2026-10-25T02:30:00+02:00"
      "2026-10-25T02:15:00+01:00").qualifying "account" (.all 0 true) [],
      (parse row.publishedAt).isSome := by decide
  refine ⟨snapshot, shown, valid, ?_⟩
  rw [Store.entries_localSnapshot shown]
  intro listed
  have agree := (Store.listsByPublication_snapshotEntries_iff .storage valid).mp listed
  have rows : (datedStore "2026-10-25T02:30:00+02:00" "2026-10-25T02:15:00+01:00").qualifying
      "account" (.all 0 true) [] =
      (dated "2026-10-25T02:30:00+02:00" "2026-10-25T02:15:00+01:00").entries.map
        (Store.entryRow "account") := by decide
  rw [Store.TextsInTime, rows] at agree
  obtain ⟨late, early, read, readOther, order⟩ :=
    agree _ (.tail _ (.head _)) _ (.head _) (by decide) (by decide)
  have later : parse "2026-10-25T02:15:00+01:00" =
      some ⟨2026, 10, 25, 'T', 2, 15, 0, [], 60⟩ := by decide
  have earlier : parse "2026-10-25T02:30:00+02:00" =
      some ⟨2026, 10, 25, 'T', 2, 30, 0, [], 120⟩ := by decide
  cases read.symm.trans later
  cases readOther.symm.trans earlier
  rw [if_neg Bool.false_ne_true, Timestamp.instant, Timestamp.instant,
    Prod.Lex.toLex_le_toLex] at order
  dsimp only at order
  have apart : (Timestamp.localMinute ⟨2026, 10, 25, 'T', 2, 15, 0, [], 60⟩) + 15 =
      Timestamp.localMinute ⟨2026, 10, 25, 'T', 2, 30, 0, [], 120⟩ := by decide
  omega

end FluxBar
