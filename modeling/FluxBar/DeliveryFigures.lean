import FluxBar.SnapshotProofs
import FluxBar.StoreWrites

/-! The figures of a snapshot across a delivery. What is shown is a stored counter
corrected by the pending changes; an acknowledgement moves a unit from the
correction to the counter. With coherent cells the correction is the difference
of two counts of rows, the local one and the server's, and the local one covers
what a counter clamped at zero loses. -/
namespace FluxBar
open Relational Procedure WriteBehind

/-! ## Counting rows -/

namespace MutationField

/-- Whether a value is one that the counters count: an unread article, a star. -/
def counts : (field : MutationField) → field.Value → Bool
  | .read, (status : String) => status = "unread"
  | .starred, (shown : Bool) => shown

/-- What a row adds to the pending correction of the counters of a field. -/
def delta : MutationField → EntryRow → Int
  | .read, row => row.readDelta
  | .starred, row => row.starredDelta

/-- The correction of a row is the difference of what is counted here and there. -/
theorem delta_eq (field : MutationField) {row : EntryRow} (two : row.TwoStatuses) :
    field.delta row = (if field.counts (field.effective row) then 1 else 0) -
      (if field.counts (field.baseline row) then 1 else 0) := by
  cases field with
  | read =>
    obtain ⟨status, remote⟩ := two
    rcases status with status | status <;> rcases remote with remote | remote <;>
      simp [delta, counts, effective, baseline, EntryRow.readDelta, status, remote]
  | starred =>
    cases status : row.starred <;> cases remote : row.remoteStarred <;>
      simp [delta, counts, effective, baseline, EntryRow.starredDelta, status, remote]

end MutationField

/-- How far a delivery moves the counters: by the difference between the delivered value and
what the server had. -/
def PendingMutation.shift (mutation : PendingMutation) (row : EntryRow) : Int :=
  (if mutation.field.counts (mutation.field.value mutation.desired) then 1 else 0) -
    (if mutation.field.counts (mutation.field.baseline row) then 1 else 0)

namespace Store
variable {store after : Store} {accountId : String} {field : MutationField}
  {scope : EntryRow → Bool}

/-- The rows of an account that are counted here. -/
def localCount (store : Store) (accountId : String) (field : MutationField)
    (scope : EntryRow → Bool) : Int :=
  store.entries.rows.countP fun row =>
    row.accountId = accountId && scope row && field.counts (field.effective row)

/-- The rows of an account that were counted on the server. -/
def remoteCount (store : Store) (accountId : String) (field : MutationField)
    (scope : EntryRow → Bool) : Int :=
  store.entries.rows.countP fun row =>
    row.accountId = accountId && scope row && field.counts (field.baseline row)

section Bounds
variable (store) (accountId) (field) (scope)

theorem localCount_nonneg : 0 ≤ store.localCount accountId field scope := Int.natCast_nonneg _

theorem remoteCount_nonneg : 0 ≤ store.remoteCount accountId field scope := Int.natCast_nonneg _

theorem localCount_le : store.localCount accountId field scope ≤ store.entries.rows.length := by
  unfold localCount
  exact_mod_cast List.countP_le_length

theorem remoteCount_le : store.remoteCount accountId field scope ≤ store.entries.rows.length := by
  unfold remoteCount
  exact_mod_cast List.countP_le_length

end Bounds

/-- The correction by the pending changes of a field, in some scope, as the figures are
corrected by it. -/
def pendingDelta (store : Store) (accountId : String) (field : MutationField)
    (scope : EntryRow → Bool) : Int :=
  (((store.pendingEntries accountId field).filter scope).map field.delta).sum

/-- Where no row is out of step without a pending change, the correction is the
difference of the two counts. -/
theorem pendingDelta_eq (two : store.TwoStatuses)
    (coherent : ∀ entryId, (store.cell accountId entryId field).Coherent) :
    store.pendingDelta accountId field scope =
      store.localCount accountId field scope - store.remoteCount accountId field scope := by
  have rows : ∀ row ∈ store.entries.rows, row.TwoStatuses ∧ (row.accountId = accountId →
      store.hasPending accountId row.id field = false → field.effective row = field.baseline row) := by
    intro row held
    have found := Table.find?_of_mem held
    refine ⟨two _ row found, ?_⟩
    rintro rfl absent
    have settled := (coherent row.id).settled
    rw [← Option.not_isSome_iff_eq_none, cell_pending, absent] at settled
    exact settled (by simp) (field.copy row) (by simp [cell, found])
  unfold pendingDelta localCount remoteCount pendingEntries Table.select
  rw [List.filter_filter]
  generalize store.entries.rows = listed at rows
  induction listed with
  | nil => rfl
  | cons row rest ih =>
    obtain ⟨known, settled⟩ := rows row List.mem_cons_self
    have rest := ih fun other later => rows other (List.mem_cons_of_mem row later)
    have delta := field.delta_eq known
    rw [List.countP_cons, List.countP_cons, List.filter_cons]
    push_cast
    by_cases own : row.accountId = accountId
    · by_cases inside : scope row
      · cases pending : store.hasPending accountId row.id field with
        | true =>
          simp [own, inside, delta] at rest ⊢
          omega
        | false =>
          rw [settled own pending, sub_self] at delta
          simp [own, inside, settled own pending] at rest ⊢
          omega
      · simp [inside] at rest ⊢
        omega
    · simp [own] at rest ⊢
      omega

/-! ## What an acknowledgement moves -/

section Acknowledged
variable {mutation : PendingMutation} {row : EntryRow}

/-- The feed whose count a delivery moves. -/
def movesFeed (accountId : String) (mutation : PendingMutation) (row : EntryRow) (feed : FeedRow) :
    Bool :=
  mutation.field = .read && mutation.shift row ≠ 0 && feed.accountId = accountId &&
    feed.id = row.feedId

/-- The selection totals a delivery moves: those that count the field, where the delivered
value is a new one for the server. -/
def movesTotal (accountId : String) (mutation : PendingMutation) (row : EntryRow)
    (total : SelectionTotalRow) : Bool :=
  mutation.shift row ≠ 0 && match mutation.field with
    | .read => countsUnread accountId row.feedId row.categoryId total
    | .starred => total.accountId = accountId && total.kind = "starred"

/-- The account whose starred total a delivery moves. -/
def movesAccount (accountId : String) (mutation : PendingMutation) (row : EntryRow)
    (account : AccountRow) : Bool :=
  mutation.field = .starred && mutation.shift row ≠ 0 && account.id = accountId

/-- The tables after an acknowledgement: the baseline of one entry, the counters it enters,
moved as far as the delivery does, and one pending row less where it was not overtaken. -/
structure Acknowledged (store after : Store) (accountId : String) (mutation : PendingMutation)
    (row : EntryRow) : Prop where
  found : store.entries.find? (accountId, mutation.entryId) = some row
  entries : after.entries = store.entries.update (fun entry =>
    entry.accountId = accountId && entry.id = mutation.entryId) (acknowledgeRow mutation)
      (by intro entry; unfold acknowledgeRow; cases mutation.field <;> rfl)
  categories : after.categories = store.categories
  feeds : after.feeds = store.feeds.update (movesFeed accountId mutation row) fun feed =>
    { feed with remoteUnreadCount := max 0 (feed.remoteUnreadCount + mutation.shift row) }
  selectionTotals : after.selectionTotals = store.selectionTotals.update
    (movesTotal accountId mutation row) fun total =>
      { total with total := max 0 (total.total + mutation.shift row) }
  accounts : after.accounts = store.accounts.update (movesAccount accountId mutation row)
    fun account =>
      { account with remoteStarredTotal := max 0 (account.remoteStarredTotal + mutation.shift row) }

/-- The step of a read change is the code's. -/
theorem shift_read {entryId revision : Int} {desired : Bool} (two : row.TwoStatuses) :
    (if row.remoteStatus = "unread" && desired then -1
      else if row.remoteStatus = "read" && !desired then 1 else 0) =
      PendingMutation.shift ⟨entryId, .read, desired, revision⟩ row := by
  unfold PendingMutation.shift
  rcases two.2 with remote | remote <;> cases desired <;>
    simp [MutationField.counts, MutationField.value, MutationField.baseline, statusText, remote]

theorem shift_starred {entryId revision : Int} {desired : Bool} :
    (if !row.remoteStarred && desired then 1 else if row.remoteStarred && !desired then -1 else 0) =
      PendingMutation.shift ⟨entryId, .starred, desired, revision⟩ row := by
  unfold PendingMutation.shift
  cases remote : row.remoteStarred <;> cases desired <;>
    simp [MutationField.counts, MutationField.value, MutationField.baseline, remote]

theorem acknowledged_of_ok (two : store.TwoStatuses)
    (done : store.acknowledge accountId mutation = .ok after) :
    ∃ row, Acknowledged store after accountId mutation row := by
  unfold acknowledge at done
  split at done
  · cases done
  rename_i row found
  have key := Table.key_of_find? found
  simp only [Prod.mk.injEq] at key
  have known := two _ row found
  refine ⟨row, ?_⟩
  cases done
  obtain ⟨entryId, field, desired, revision⟩ := mutation
  cases field with
  | read =>
    have shift := @shift_read row entryId revision desired known
    unfold acknowledgeRead
    rw [shift]
    dsimp only
    by_cases still : PendingMutation.shift ⟨entryId, .read, desired, revision⟩ row = 0
    · rw [if_pos still]
      refine ⟨found, ?_, rfl, ?_, ?_, ?_⟩
      · simp only [key.2]
        rfl
      · exact (Table.update_eq_self fun feed _ => by simp [movesFeed, still]).symm
      · exact (Table.update_eq_self fun total _ => by simp [movesTotal, still]).symm
      · exact (Table.update_eq_self fun account _ => by simp [movesAccount]).symm
    · rw [if_neg still]
      refine ⟨found, ?_, rfl, ?_, ?_, ?_⟩
      · simp only [key.2]
        rfl
      · exact Table.update_congr fun feed _ => by simp [movesFeed, still]
      · exact Table.update_congr fun total _ => by simp [movesTotal, still]
      · exact (Table.update_eq_self fun account _ => by simp [movesAccount]).symm
  | starred =>
    have shift := @shift_starred row entryId revision desired
    unfold acknowledgeStarred
    rw [shift]
    dsimp only
    by_cases still : PendingMutation.shift ⟨entryId, .starred, desired, revision⟩ row = 0
    · rw [if_pos still]
      refine ⟨found, ?_, rfl, ?_, ?_, ?_⟩
      · simp only [key.2]
        rfl
      · exact (Table.update_eq_self fun feed _ => by simp [movesFeed]).symm
      · exact (Table.update_eq_self fun total _ => by simp [movesTotal, still]).symm
      · exact (Table.update_eq_self fun account _ => by simp [movesAccount, still]).symm
    · rw [if_neg still]
      refine ⟨found, ?_, rfl, ?_, ?_, ?_⟩
      · simp only [key.2]
        rfl
      · exact (Table.update_eq_self fun feed _ => by simp [movesFeed]).symm
      · exact Table.update_congr fun total _ => by simp [movesTotal, still]
      · exact Table.update_congr fun account _ => by simp [movesAccount, still]

namespace Acknowledged
variable (acked : Acknowledged store after accountId mutation row)
include acked

/-- The entry acknowledged is the only one. -/
theorem only : ∀ other ∈ store.entries.rows,
    (other.accountId = accountId && other.id = mutation.entryId) = true ↔ other = row := by
  intro other held
  have key := Table.key_of_find? acked.found
  constructor
  · intro chosen
    simp only [Bool.and_eq_true, decide_eq_true_eq] at chosen
    have found := Table.find?_of_mem held
    rw [EntryRow.key, chosen.1, chosen.2, acked.found] at found
    exact (Option.some.inj found).symm
  · rintro rfl
    simp only [EntryRow.key, Prod.mk.injEq] at key
    simp [key]

/-- Neither what is shown of the rows nor their place changes. -/
theorem rows : after.entries.rows = store.entries.rows.map fun entry =>
    if entry.accountId = accountId && entry.id = mutation.entryId then acknowledgeRow mutation entry
    else entry := by
  rw [acked.entries]
  rfl

variable (field) (scope) in
theorem localCount_eq (inside : ∀ row, scope (acknowledgeRow mutation row) = scope row) :
    after.localCount accountId field scope = store.localCount accountId field scope := by
  unfold localCount
  rw [acked.rows, List.countP_map]
  congr 2
  funext entry
  simp only [Function.comp_apply]
  have owner : (acknowledgeRow mutation entry).accountId = entry.accountId := by
    unfold acknowledgeRow
    cases mutation.field <;> rfl
  split
  · rw [owner, inside, effective_acknowledgeRow]
  · rfl

variable (field) (scope) in
theorem remoteCount_eq (inside : ∀ row, scope (acknowledgeRow mutation row) = scope row) :
    after.remoteCount accountId field scope = store.remoteCount accountId field scope +
      if field = mutation.field ∧ scope row then mutation.shift row else 0 := by
  have key := Table.key_of_find? acked.found
  simp only [EntryRow.key, Prod.mk.injEq] at key
  have owner : (acknowledgeRow mutation row).accountId = row.accountId := by
    unfold acknowledgeRow
    cases mutation.field <;> rfl
  unfold remoteCount
  rw [acked.entries, Table.countP_update (Table.mem_of_find? acked.found) _ _ _ acked.only]
  rw [owner, inside]
  simp only [key, decide_true, Bool.true_and]
  by_cases same : field = mutation.field
  · subst same
    rw [baseline_acknowledgeRow]
    unfold PendingMutation.shift
    cases scope row <;> simp
    omega
  · rw [baseline_acknowledgeRow_other row same]
    simp [same]

end Acknowledged

end Acknowledged

end Store

/-! ## The total of a selection -/

/-- The pending changes a selection's total is corrected by: stars for a starred one, reads
for another filtered one. -/
def Selection.side (selection : Selection) : Option MutationField :=
  if selection.isStarred then some .starred
  else if selection.isUnreadOnly then some .read
  else none

namespace Store
variable {store after : Store} {accountId : String} {selection : Selection}
  {mutation : PendingMutation} {row : EntryRow}

/-- The total `local_snapshot` shows. -/
def total (store : Store) (accountId : String) (selection : Selection) : Except StoreError Int := do
  let count ← readI32 0 (store.entries.select (selectionClause accountId selection)).length
  match ← store.selectionTotal accountId selection with
  | some remoteTotal => do
    let delta ← store.selectionPendingDelta accountId selection
    return max count (max 0 (toI32 (remoteTotal + delta)))
  | none => return count

theorem localSnapshot_eq (scan : Scan) (newestFirst : Bool) (retainIds : List Int) :
    store.localSnapshot scan accountId selection newestFirst retainIds = do
      let (categories, unreadTotal) ← store.navigation scan accountId
      let starredTotal ← store.starredTotal accountId
      let total ← store.total accountId (normalizeSelection selection)
      return {
        version := 1
        selection := normalizeSelection selection
        entries := store.snapshotEntries scan accountId (normalizeSelection selection) newestFirst
          retainIds
        categories
        total
        unreadTotal
        starredTotal } := by
  unfold localSnapshot total
  simp only [bind, Except.bind, pure, Except.pure]
  cases store.navigation scan accountId with
  | error failure => rfl
  | ok shown =>
    cases store.starredTotal accountId with
    | error failure => rfl
    | ok starred =>
      dsimp only
      split
      · rfl
      · rename_i count _
        cases store.selectionTotal accountId (normalizeSelection selection) with
        | error failure => rfl
        | ok stored =>
          cases stored with
          | none => rfl
          | some remoteTotal =>
            dsimp only
            cases store.selectionPendingDelta accountId (normalizeSelection selection) <;> rfl

theorem selectionPendingDelta_eq : store.selectionPendingDelta accountId selection =
    match selection.side with
    | none => .ok 0
    | some field => readI32 0 (store.pendingDelta accountId field (inScope selection)) := by
  cases selection with
  | all id unreadOnly | unread unreadOnly | category id unreadOnly | feed id unreadOnly | starred unreadOnly =>
    cases unreadOnly <;> rfl

/-- The total a selection looks up is moved by the deliveries its correction is
about, in its scope. -/
theorem movesTotal_eq {total : SelectionTotalRow}
    (found : store.selectionTotals.find?
      (accountId, selectionKind selection, selection.scopeId, selection.isUnreadOnly) = some total) :
    movesTotal accountId mutation row total = true ↔
      mutation.shift row ≠ 0 ∧ selection.side = some mutation.field ∧ inScope selection row = true := by
  have key := Table.key_of_find? found
  simp only [SelectionTotalRow.key, Prod.mk.injEq] at key
  obtain ⟨own, kind, scope, flag⟩ := key
  unfold movesTotal countsUnread Selection.side inScope
  rw [own, kind, scope, flag]
  cases selection with
  | all id unreadOnly | unread unreadOnly | starred unreadOnly =>
    cases unreadOnly <;> cases mutation.field <;>
      simp [selectionKind, Selection.isStarred, Selection.isUnreadOnly]
  | category id unreadOnly | feed id unreadOnly =>
    cases unreadOnly <;> cases mutation.field <;>
      simp [selectionKind, Selection.isStarred, Selection.isUnreadOnly, Selection.scopeId,
        eq_comm (a := id)]

end Store
end FluxBar
