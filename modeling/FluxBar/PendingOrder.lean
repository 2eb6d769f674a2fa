import FluxBar.StoreRuns
import FluxBar.Library.StableSort
import FluxBar.Library.UtcTimestamps

/-! The order of the queue. `pending` sorts the texts of `updated_at`, which is the order of the
changes as long as no fraction of a second continues an earlier one of the same second. -/
namespace FluxBar
open Rfc3339 Relational StableSort

/-- What `pending` returns of a row. -/
def PendingRow.mutation (row : PendingRow) : PendingMutation where
  entryId := row.entryId
  field := row.field
  desired := row.desired
  revision := row.revision

namespace Store
variable (store : Store) (accountId : String)

/-- The rows `pending` selects. -/
def pendingRows : List PendingRow := store.pendingMutations.select fun row => row.accountId = accountId

/-- The changes of the rows, each before those made after it, by the moments they were made
at. -/
def OldestFirst (stamp : PendingRow → Timestamp) (mutations : List PendingMutation) : Prop :=
  ∃ rows : List PendingRow, rows.Perm (store.pendingRows accountId) ∧
    rows.Pairwise (fun early late => (stamp early).instant < (stamp late).instant) ∧
    mutations = rows.map PendingRow.mutation

variable {store accountId}

theorem pending_sorted (scan : Scan) : ∃ rows : List PendingRow,
    rows.Perm (store.pendingRows accountId) ∧
    rows.Pairwise (fun left right => left.updatedAt ≤ right.updatedAt) ∧
    store.pending scan accountId = rows.map PendingRow.mutation := by
  have sort := sortedBy_mergeSort PendingRow.updatedAt (scan.order (store.pendingRows accountId))
  exact ⟨_, sort.perm.trans (scan.perm _), sort.ordered, rfl⟩

/-- The changes of an account tell its rows. -/
theorem rows_of_mutations {rows : List PendingRow}
    (perm : rows.Perm (store.pendingRows accountId)) :
    (rows.map PendingRow.mutation).filterMap (fun mutation =>
      store.pendingMutations.find? (accountId, mutation.entryId, mutation.field)) = rows := by
  have found : ∀ row ∈ rows, store.pendingMutations.find? (accountId, row.entryId, row.field) =
      some row := by
    intro row held
    obtain ⟨stored, mine⟩ := List.mem_filter.mp (perm.mem_iff.mp held)
    rw [← of_decide_eq_true mine]
    exact Table.find?_of_mem stored
  rw [List.filterMap_map]
  exact (List.filterMap_congr found).trans (by simp)

/-- Texts written at moments that are all different: they are queued oldest first exactly
when no row of a second has digits that continue those of an earlier one. The condition is
on the written digits, and holds of texts with one number of them. -/
theorem pending_oldest_first_iff {stamp : PendingRow → Timestamp} (scan : Scan)
    (written : ∀ row ∈ store.pendingRows accountId, WrittenUtc row.updatedAt (stamp row))
    (distinct : (store.pendingRows accountId).Pairwise fun row other =>
      (stamp row).instant ≠ (stamp other).instant) :
    store.OldestFirst accountId stamp (store.pending scan accountId) ↔
      ∀ early ∈ store.pendingRows accountId, ∀ late ∈ store.pendingRows accountId,
        (stamp early).instant < (stamp late).instant → ¬ (stamp early).Continues (stamp late) := by
  obtain ⟨queue, perm, sorted, queued⟩ := @pending_sorted store accountId scan
  have known : ∀ row ∈ queue, WrittenUtc row.updatedAt (stamp row) := fun row held =>
    written row (perm.mem_iff.mp held)
  constructor
  · rintro ⟨rows, perm', inOrder, same⟩ early held late heldLate moments
    obtain rfl : rows = queue := by
      rw [← rows_of_mutations perm', ← same, queued, rows_of_mutations perm]
    have held := perm.mem_iff.mpr held
    have heldLate := perm.mem_iff.mpr heldLate
    have texts := le_of_lt_of_pairwise inOrder sorted held heldLate moments
    refine ((known early held).lt_iff (known late heldLate) moments).mp (lt_of_le_of_ne texts ?_)
    intro same
    have read := (known early held).parse
    rw [same, (known late heldLate).parse] at read
    exact moments.ne (by rw [Option.some.inj read])
  · intro apart
    have different := (perm.pairwise_iff Ne.symm).mpr distinct
    refine ⟨queue, perm, (sorted.and different).imp_of_mem ?_, queued⟩
    rintro left right held heldRight ⟨texts, differ⟩
    refine lt_of_le_of_ne (le_of_not_gt fun reverse => ?_) differ
    have before := ((known right heldRight).lt_iff (known left held) reverse).mpr
      (apart right (perm.mem_iff.mp heldRight) left (perm.mem_iff.mp held) reverse)
    exact absurd texts (not_le_of_gt before)

end Store

/-! ## Two changes of one second -/

/-- An article is starred, and then unread again. -/
def hurriedStore (starred unread : String) : Store :=
  [Operation.setRead (fun _ => "2026-01-01T11:59:58Z") "first" "account" [1] true false,
    .setStarred starred "account" 1 true,
    .setRead (fun _ => unread) "second" "account" [1] false false].foldl
    (fun store operation => store.commit (operation.run store)) storedStore

/-- The moments of the two, by the digits after noon. -/
def hurriedStamp (starred unread : List Nat) (row : PendingRow) : Timestamp where
  year := 2026
  month := 1
  day := 1
  letter := 'T'
  hour := 12
  minute := 0
  second := 0
  fraction := match row.field with
    | .read => unread
    | .starred => starred
  offset := 0

theorem pendingRows_hurried (starred unread : String) :
    (hurriedStore starred unread).pendingRows "account" =
      [⟨"account", 1, .read, false, 2, unread⟩, ⟨"account", 1, .starred, true, 1, starred⟩] := rfl

/-- The article is unread again half a second past noon. -/
theorem written_hurried {starred : String} {digits : List Nat}
    (first : WrittenUtc starred
      (hurriedStamp digits [5] ⟨"account", 1, .starred, true, 1, starred⟩)) :
    ∀ row ∈ (hurriedStore starred "2026-01-01T12:00:00.5Z").pendingRows "account",
      WrittenUtc row.updatedAt (hurriedStamp digits [5] row) := by
  have second : WrittenUtc "2026-01-01T12:00:00.5Z" (hurriedStamp [] [5]
      ⟨"account", 1, .read, false, 2, "2026-01-01T12:00:00.5Z"⟩) :=
    ⟨by decide, by decide, rfl, rfl, by decide, by decide⟩
  rw [pendingRows_hurried]
  simp only [List.forall_mem_cons, List.not_mem_nil, false_imp_iff, implies_true, and_true]
  exact ⟨second, first⟩

/-- The star was set a quarter of a second past noon, and sorts before the change half a
second past it. -/
theorem fractions_sort_by_time :
    (hurriedStore "2026-01-01T12:00:00.25Z" "2026-01-01T12:00:00.5Z").OldestFirst "account"
      (hurriedStamp [2, 5] [5])
      ((hurriedStore "2026-01-01T12:00:00.25Z" "2026-01-01T12:00:00.5Z").pending .storage
        "account") := by
  refine (Store.pending_oldest_first_iff .storage ?_ ?_).mpr ?_
  · exact written_hurried ⟨by decide, by decide, rfl, rfl, by decide, by decide⟩
  · rw [pendingRows_hurried, List.pairwise_pair]
    norm_num [Timestamp.instant, hurriedStamp, fractionValue]
  · rw [pendingRows_hurried]
    norm_num [Timestamp.Continues, hurriedStamp]

/-- The star was set at noon, written without a fraction, and sorts after the change half a
second later: a full stop comes before the letter that ends a text. -/
theorem whole_second_sorts_last :
    (∀ row ∈ (hurriedStore "2026-01-01T12:00:00Z" "2026-01-01T12:00:00.5Z").pendingRows "account",
      WrittenUtc row.updatedAt (hurriedStamp [] [5] row)) ∧
    ((hurriedStore "2026-01-01T12:00:00Z" "2026-01-01T12:00:00.5Z").pendingRows "account").Pairwise
      (fun row other => (hurriedStamp [] [5] row).instant ≠ (hurriedStamp [] [5] other).instant) ∧
    ¬ (hurriedStore "2026-01-01T12:00:00Z" "2026-01-01T12:00:00.5Z").OldestFirst "account"
      (hurriedStamp [] [5])
      ((hurriedStore "2026-01-01T12:00:00Z" "2026-01-01T12:00:00.5Z").pending .storage
        "account") := by
  refine ⟨?_, ?_, ?_⟩
  · exact written_hurried ⟨by decide, by decide, rfl, rfl, by decide, by decide⟩
  · rw [pendingRows_hurried, List.pairwise_pair]
    norm_num [Timestamp.instant, hurriedStamp, fractionValue]
  · rintro ⟨rows, perm, inOrder, same⟩
    have queued : (hurriedStore "2026-01-01T12:00:00Z" "2026-01-01T12:00:00.5Z").pending .storage
        "account" = [⟨1, .read, false, 2⟩, ⟨1, .starred, true, 1⟩] := by
      change ((Store.pendingRows _ "account").mergeSort _).map PendingRow.mutation = _
      rw [pendingRows_hurried, List.mergeSort_of_pairwise (by decide)]
      rfl
    have told := Store.rows_of_mutations perm
    rw [← same, queued] at told
    obtain rfl : rows = [⟨"account", 1, .read, false, 2, "2026-01-01T12:00:00.5Z"⟩,
        ⟨"account", 1, .starred, true, 1, "2026-01-01T12:00:00Z"⟩] := told.symm
    rw [List.pairwise_pair, Timestamp.instant, Timestamp.instant] at inOrder
    rcases Prod.Lex.toLex_lt_toLex.mp inOrder with less | ⟨_, less⟩
    · exact absurd less (lt_irrefl _)
    · norm_num [hurriedStamp, fractionValue] at less

end FluxBar
