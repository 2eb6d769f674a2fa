import FluxBar.DeliveryFigures
import FluxBar.ReconciliationProofs
import FluxBar.ServiceProofs

/-! What is shown across a delivery. A figure is read in 32 bits, so the unit that
an acknowledgement moves from the correction to the counter is unseen as long as
both can be read before and after it. -/
namespace FluxBar
open Relational Procedure WriteBehind

/-! ## Figures -/

/-- A stored total with its correction, at least the rows at hand; nothing where
one of the two cannot be read. -/
def correctedTotal (rows stored correction : Int) : Option Int :=
  if InI32 stored ∧ InI32 correction then some (max rows (max 0 (toI32 (stored + correction))))
  else none

/-- A feed's count with its correction, cut to 32 bits; one that cannot be read counts as
none. -/
def correctedCount (stored correction : Int) : Option Int :=
  if InI32 stored then some (max 0 (toI32 (stored + if InI32 correction then correction else 0)))
  else none

/-- The numbers behind a total are read after a shift exactly when they are before,
and the rows at hand cover what clamping at zero loses. -/
structure TotalHolds (rows stored correction shift : Int) : Prop where
  readable : InI32 stored ∧ InI32 correction ↔
    InI32 (max 0 (stored + shift)) ∧ InI32 (correction - shift)
  covered : stored + shift < 0 → InI32 stored → InI32 correction →
    toI32 (stored + correction) ≤ rows

/-- A feed's count is read after a shift exactly when it is before, and so is its
correction, unless both give zero. -/
structure CountHolds (stored correction shift : Int) : Prop where
  readable : InI32 stored ↔ InI32 (stored + shift)
  corrected : InI32 stored → InI32 correction ∧ InI32 (correction - shift) ∨
    (InI32 correction ∨ InI32 (correction - shift)) ∧ min stored (stored + shift) = 0

theorem correctedTotal_eq_iff {rows stored correction shift : Int} (counted : 0 ≤ rows)
    (most : correction - shift ≤ rows) :
    correctedTotal rows (max 0 (stored + shift)) (correction - shift) =
      correctedTotal rows stored correction ↔ TotalHolds rows stored correction shift := by
  have same : 0 ≤ stored + shift →
      max 0 (stored + shift) + (correction - shift) = stored + correction := by omega
  unfold correctedTotal
  constructor
  · intro equal
    by_cases before : InI32 stored ∧ InI32 correction
    · rw [if_pos before] at equal
      by_cases after : InI32 (max 0 (stored + shift)) ∧ InI32 (correction - shift)
      · refine ⟨iff_of_true before after, fun clamped _ _ => ?_⟩
        rw [if_pos after, Option.some.injEq, max_eq_left clamped.le, zero_add,
          toI32_of_in after.2] at equal
        omega
      · rw [if_neg after] at equal
        cases equal
    · rw [if_neg before] at equal
      by_cases after : InI32 (max 0 (stored + shift)) ∧ InI32 (correction - shift)
      · rw [if_pos after] at equal
        cases equal
      · exact ⟨iff_of_false before after, fun _ read fits => absurd ⟨read, fits⟩ before⟩
  · rintro ⟨readable, covered⟩
    by_cases before : InI32 stored ∧ InI32 correction
    · have after := readable.mp before
      rw [if_pos before, if_pos after]
      rcases lt_or_ge (stored + shift) 0 with clamped | kept
      · have bound := covered clamped before.1 before.2
        rw [max_eq_left clamped.le, zero_add, toI32_of_in after.2]
        congr 1
        omega
      · rw [same kept]
    · rw [if_neg before, if_neg fun after => before (readable.mpr after)]

/-- A sum of two readable counts wraps to a negative one or not at all. -/
theorem max_toI32 {value : Int} (counted : 0 ≤ value) (bound : value < 4294967296) :
    max 0 (toI32 value) = if value ≤ 2147483647 then value else 0 := by
  split
  · rw [toI32_of_in (by unfold InI32; omega)]
    omega
  · have wrapped : toI32 value = value - 4294967296 := by
      have shifted : toI32 (value - 4294967296) = toI32 value := Int.sub_bmod_right value 4294967296
      rw [← shifted, toI32_of_in (by unfold InI32; omega)]
    omega

theorem correctedCount_eq_iff {stored correction shift : Int} (counted : 0 ≤ stored)
    (stays : 0 ≤ stored + shift) (low : -stored ≤ correction) (moved : shift = 1 ∨ shift = -1) :
    correctedCount (stored + shift) (correction - shift) = correctedCount stored correction ↔
      CountHolds stored correction shift := by
  have shown : ∀ stored correction : Int, InI32 stored → 0 ≤ stored → -stored ≤ correction →
      max 0 (toI32 (stored + if InI32 correction then correction else 0)) =
        if InI32 correction then (if stored + correction ≤ 2147483647 then stored + correction else 0)
        else stored := by
    intro stored correction fits counted low
    by_cases read : InI32 correction
    · rw [if_pos read, if_pos read, max_toI32 (by omega)]
      unfold InI32 at fits read
      omega
    · rw [if_neg read, if_neg read, add_zero, toI32_of_in fits, max_eq_right counted]
  unfold correctedCount
  constructor
  · intro equal
    by_cases before : InI32 stored
    · by_cases after : InI32 (stored + shift)
      · refine ⟨iff_of_true before after, fun _ => ?_⟩
        rw [if_pos before, if_pos after, Option.some.injEq, shown _ _ before counted low,
          shown _ _ after stays (by omega)] at equal
        unfold InI32 at *
        split_ifs at equal <;> omega
      · rw [if_pos before, if_neg after] at equal
        cases equal
    · by_cases after : InI32 (stored + shift)
      · rw [if_neg before, if_pos after] at equal
        cases equal
      · exact ⟨iff_of_false before after, fun fits => absurd fits before⟩
  · rintro ⟨readable, corrected⟩
    by_cases before : InI32 stored
    · have after := readable.mp before
      rw [if_pos before, if_pos after, Option.some.injEq, shown _ _ before counted low,
        shown _ _ after stays (by omega)]
      have corrected := corrected before
      unfold InI32 at *
      split_ifs <;> omega
    · rw [if_neg before, if_neg fun after => before (readable.mpr after)]

/-- The columns that the schema's keys and indexes are made of. -/
def EntryRow.indexed (row : EntryRow) : String × Int × Int × Int × String :=
  (row.accountId, row.id, row.feedId, row.categoryId, row.publishedAt)

/-- Rows are visited in an order that their keys and indexes tell, whatever stands
in the columns of the server. -/
structure Scan.Blind (scan : Scan) : Prop where
  entries : ∀ change : EntryRow → EntryRow, (∀ row, (change row).indexed = row.indexed) →
    ∀ rows, scan.order (rows.map change) = (scan.order rows).map change
  feeds : ∀ change : FeedRow → FeedRow, (∀ row, (change row).key = row.key) →
    ∀ rows, scan.order (rows.map change) = (scan.order rows).map change

theorem Scan.blind_storage : Scan.storage.Blind := ⟨fun _ _ _ => rfl, fun _ _ _ => rfl⟩

namespace Store
variable {store after : Store} {accountId : String} {selection : Selection}
  {mutation : PendingMutation} {row : EntryRow}

/-! ## The figures of a coherent store -/

/-- The correction of a selection's total, as the rows tell it: how many are counted here,
less how many were counted on the server. -/
def correction (store : Store) (accountId : String) (selection : Selection) : Int :=
  match selection.side with
  | none => 0
  | some field => store.localCount accountId field (inScope selection) -
      store.remoteCount accountId field (inScope selection)

/-- The correction of a feed's count, as the rows tell it. -/
def feedCorrection (store : Store) (accountId : String) (feedId : Int) : Int :=
  store.localCount accountId .read (·.feedId = feedId) -
    store.remoteCount accountId .read (·.feedId = feedId)

/-- The rows a selection shows are the ones its correction counts here. -/
theorem length_selected {field : MutationField} (side : selection.side = some field)
    (plain : selection ≠ .starred true) :
    ((store.selected accountId selection).length : Int) =
      store.localCount accountId field (inScope selection) := by
  unfold selected Table.select localCount
  rw [← List.countP_eq_length_filter]
  congr 2
  funext row
  unfold selectionClause
  cases selection with
  | all id unreadOnly | unread unreadOnly | category id unreadOnly | feed id unreadOnly =>
    cases unreadOnly <;> cases side <;>
      simp [Selection.isUnreadOnly, Selection.isStarred, MutationField.counts,
        MutationField.effective, Bool.and_right_comm] <;> rfl
  | starred unreadOnly =>
    cases unreadOnly with
    | true => exact absurd rfl plain
    | false =>
      cases side
      simp [Selection.isUnreadOnly, Selection.isStarred, MutationField.counts,
        MutationField.effective, Bool.and_right_comm]

/-- The total shown, given the correction that is read for it. -/
theorem toOption_total_of {correction : Int}
    (delta : store.selectionPendingDelta accountId selection = readI32 0 correction) :
    (store.total accountId selection).toOption =
      if InI32 (store.selected accountId selection).length then
        match store.selectionTotals.find?
          (accountId, selectionKind selection, selection.scopeId, selection.isUnreadOnly) with
        | none => some ((store.selected accountId selection).length : Int)
        | some total =>
          correctedTotal (store.selected accountId selection).length total.total correction
      else none := by
  unfold total selectionTotal
  rw [delta]
  unfold readI32 correctedTotal selected
  by_cases fits : InI32 (store.entries.select (selectionClause accountId selection)).length
  · simp only [if_pos fits]
    cases store.selectionTotals.find?
      (accountId, selectionKind selection, selection.scopeId, selection.isUnreadOnly) with
    | none => rfl
    | some total =>
      by_cases stored : InI32 total.total
      · by_cases corrected : InI32 correction
        · simp only [if_pos stored, if_pos corrected, if_pos (And.intro stored corrected)]
          rfl
        · simp only [if_pos stored, if_neg corrected, if_neg fun both => corrected (And.right both)]
          rfl
      · simp only [if_neg stored, if_neg fun both => stored (And.left both)]
        rfl
  · simp only [if_neg fits]
    rfl

/-- The count of a feed shown, given the correction that is read for it. -/
theorem toOption_navigationFeed_of {feed : FeedRow} {correction : Int}
    (delta : store.pendingReadDeltaForFeed accountId feed.id = readI32 0 correction) :
    (store.navigationFeed accountId feed).toOption =
      (correctedCount feed.remoteUnreadCount correction).map
        fun unreadCount => ⟨feed.id, feed.title, feed.categoryId, unreadCount⟩ := by
  unfold navigationFeed
  rw [delta]
  unfold readI32 correctedCount
  by_cases stored : InI32 feed.remoteUnreadCount
  · by_cases corrected : InI32 correction
    · simp only [if_pos stored, if_pos corrected]
      rfl
    · simp only [if_pos stored, if_neg corrected]
      rfl
  · simp only [if_neg stored]
    rfl

section Coherent
variable (two : store.TwoStatuses)
  (coherent : ∀ entryId field, (store.cell accountId entryId field).Coherent)
include two coherent

theorem toOption_total : (store.total accountId selection).toOption =
    if InI32 (store.selected accountId selection).length then
      match store.selectionTotals.find?
        (accountId, selectionKind selection, selection.scopeId, selection.isUnreadOnly) with
      | none => some ((store.selected accountId selection).length : Int)
      | some total => correctedTotal (store.selected accountId selection).length total.total
          (store.correction accountId selection)
    else none := by
  refine toOption_total_of ?_
  rw [selectionPendingDelta_eq]
  unfold correction
  cases side : selection.side with
  | none => rfl
  | some field =>
    dsimp only
    rw [pendingDelta_eq two fun entryId => coherent entryId field]

theorem toOption_navigationFeed (feed : FeedRow) :
    (store.navigationFeed accountId feed).toOption =
      (correctedCount feed.remoteUnreadCount (store.feedCorrection accountId feed.id)).map
        fun unreadCount => ⟨feed.id, feed.title, feed.categoryId, unreadCount⟩ := by
  refine toOption_navigationFeed_of ?_
  unfold feedCorrection
  rw [← pendingDelta_eq two fun entryId => coherent entryId .read]
  rfl

theorem starredTotal_eq : store.starredTotal accountId =
    match store.accounts.find? accountId with
    | none => .error .queryReturnedNoRows
    | some account => .ok (toI32 (max 0 (account.remoteStarredTotal +
        (store.localCount accountId .starred (fun _ => true) -
          store.remoteCount accountId .starred fun _ => true)))) := by
  unfold starredTotal
  rw [← pendingDelta_eq two fun entryId => coherent entryId .starred]
  unfold pendingDelta
  rw [List.filter_true]
  rfl

end Coherent

/-! ## What a delivery shows -/

/-- The server's counters cover the rows stored as counted there, as they do after a
refresh. A counter that is corrected then does not fall below zero. -/
structure CoversServer (store : Store) (accountId : String) : Prop where
  feeds : ∀ feed ∈ store.feeds.rows, feed.accountId = accountId →
    store.remoteCount accountId .read (·.feedId = feed.id) ≤ feed.remoteUnreadCount
  starred : ∀ account, store.accounts.find? accountId = some account →
    store.remoteCount accountId .starred (fun _ => true) ≤ account.remoteStarredTotal

/-- Two stores show an account alike: the rows and the total of a selection always,
the unread and starred counts where the server's counters cover the stored rows.
Starred articles restricted to unread ones have no correction of their own. -/
structure ShowAlike (store after : Store) (accountId : String) : Prop where
  entries : ∀ scan : Scan, scan.Blind → ∀ selection newestFirst retainIds,
    after.snapshotEntries scan accountId selection newestFirst retainIds =
      store.snapshotEntries scan accountId selection newestFirst retainIds
  total : ∀ selection, selection ≠ .starred true →
    (after.total accountId selection).toOption = (store.total accountId selection).toOption
  feeds : store.CoversServer accountId → ∀ feedId,
    (after.feeds.find? (accountId, feedId)).map
        (fun feed => (after.navigationFeed accountId feed).toOption) =
      (store.feeds.find? (accountId, feedId)).map
        fun feed => (store.navigationFeed accountId feed).toOption
  starredTotal : store.CoversServer accountId →
    after.starredTotal accountId = store.starredTotal accountId
  snapshot : store.CoversServer accountId → ∀ scan : Scan, scan.Blind →
    ∀ selection newestFirst retainIds, normalizeSelection selection ≠ .starred true →
      (after.localSnapshot scan accountId selection newestFirst retainIds).toOption =
        (store.localSnapshot scan accountId selection newestFirst retainIds).toOption

/-- The numbers a delivery moves hold: the totals of selections that list at most as many
rows as can be counted, and the counts of feeds that cover their rows. All of it is read of
the store before the delivery. -/
structure Steady (store : Store) (accountId : String) (mutation : PendingMutation) : Prop where
  totals : ∀ row, store.entries.find? (accountId, mutation.entryId) = some row →
    ∀ selection total, selection ≠ .starred true → store.selectionTotals.find?
      (accountId, selectionKind selection, selection.scopeId, selection.isUnreadOnly) = some total →
    movesTotal accountId mutation row total → InI32 (store.selected accountId selection).length →
    TotalHolds (store.selected accountId selection).length total.total
      (store.correction accountId selection) (mutation.shift row)
  feeds : store.CoversServer accountId →
    ∀ row, store.entries.find? (accountId, mutation.entryId) = some row →
    ∀ feed ∈ store.feeds.rows, movesFeed accountId mutation row feed →
      CountHolds feed.remoteUnreadCount (store.feedCorrection accountId feed.id) (mutation.shift row)

theorem shift_cases (mutation : PendingMutation) (row : EntryRow) :
    mutation.shift row = 0 ∨ mutation.shift row = 1 ∨ mutation.shift row = -1 := by
  unfold PendingMutation.shift
  split_ifs <;> simp

theorem indexed_acknowledgeRow (mutation : PendingMutation) (row : EntryRow) :
    (acknowledgeRow mutation row).indexed = row.indexed := by
  unfold acknowledgeRow
  cases mutation.field <;> rfl

theorem toEntry_acknowledgeRow (mutation : PendingMutation) (row : EntryRow) :
    (acknowledgeRow mutation row).toEntry = row.toEntry := by
  unfold acknowledgeRow
  cases mutation.field <;> rfl

theorem feedId_acknowledgeRow (mutation : PendingMutation) (row : EntryRow) :
    (acknowledgeRow mutation row).feedId = row.feedId :=
  congrArg (fun columns => columns.2.2.1) (indexed_acknowledgeRow mutation row)

theorem qualifies_acknowledgeRow (mutation : PendingMutation) (row : EntryRow)
    (retainIds : List Int) :
    qualifies accountId selection retainIds (acknowledgeRow mutation row) =
      qualifies accountId selection retainIds row := by
  unfold acknowledgeRow
  cases mutation.field <;> rfl

namespace Acknowledged
variable (acked : Acknowledged store after accountId mutation row)
include acked

/-- The rows chosen by what is shown of them are the same. -/
theorem qualifying_eq (retainIds : List Int) :
    after.qualifying accountId selection retainIds =
      (store.qualifying accountId selection retainIds).map fun entry =>
        if entry.accountId = accountId && entry.id = mutation.entryId
          then acknowledgeRow mutation entry else entry := by
  unfold qualifying Table.select
  rw [acked.rows, List.filter_map]
  congr 2
  funext entry
  simp only [Function.comp_apply]
  split
  · exact qualifies_acknowledgeRow mutation entry retainIds
  · rfl

theorem length_selected_eq : (after.selected accountId selection).length =
    (store.selected accountId selection).length := by
  rw [← qualifying_nil, ← qualifying_nil, acked.qualifying_eq, List.length_map]

theorem snapshotEntries_eq {scan : Scan} (blind : scan.Blind) (selection : Selection)
    (newestFirst : Bool) (retainIds : List Int) :
    after.snapshotEntries scan accountId selection newestFirst retainIds =
      store.snapshotEntries scan accountId selection newestFirst retainIds := by
  obtain ⟨change, same, indexed, shown⟩ : ∃ change : EntryRow → EntryRow,
      after.qualifying accountId selection retainIds =
        (store.qualifying accountId selection retainIds).map change ∧
      (∀ entry, (change entry).indexed = entry.indexed) ∧
      ∀ entry, (change entry).toEntry = entry.toEntry := by
    refine ⟨_, acked.qualifying_eq retainIds, fun entry => ?_, fun entry => ?_⟩
    · split
      · exact indexed_acknowledgeRow mutation entry
      · rfl
    · split
      · exact toEntry_acknowledgeRow mutation entry
      · rfl
  have dated : ∀ entry, (change entry).publishedAt = entry.publishedAt := fun entry =>
    congrArg (fun columns => columns.2.2.2.2) (indexed entry)
  unfold qualifying qualifies at same
  unfold snapshotEntries
  rw [same, blind.entries change indexed]
  dsimp only
  rw [← List.map_mergeSort fun left _ right _ => by rw [dated, dated], ← List.map_take, List.map_map]
  congr 2
  funext entry
  exact shown entry

theorem correction_eq : after.correction accountId selection =
    store.correction accountId selection -
      if selection.side = some mutation.field ∧ inScope selection row then mutation.shift row else 0 := by
  have scope : ∀ entry, inScope selection (acknowledgeRow mutation entry) = inScope selection entry := by
    intro entry
    unfold acknowledgeRow
    cases mutation.field <;> cases selection <;> rfl
  unfold correction
  cases side : selection.side with
  | none => simp
  | some field =>
    simp only [acked.localCount_eq _ _ scope, acked.remoteCount_eq _ _ scope, Option.some.injEq]
    omega

theorem feedCorrection_eq (feedId : Int) : after.feedCorrection accountId feedId =
    store.feedCorrection accountId feedId -
      if mutation.field = .read ∧ row.feedId = feedId then mutation.shift row else 0 := by
  have scope : ∀ entry, decide ((acknowledgeRow mutation entry).feedId = feedId) =
      decide (entry.feedId = feedId) := fun entry => by rw [feedId_acknowledgeRow]
  unfold feedCorrection
  rw [acked.localCount_eq .read _ scope, acked.remoteCount_eq .read _ scope]
  simp only [decide_eq_true_eq, eq_comm (a := MutationField.read)]
  omega

section Coherent
variable (two : store.TwoStatuses) (twoAfter : after.TwoStatuses)
  (coherent : ∀ entryId field, (store.cell accountId entryId field).Coherent)
  (coherentAfter : ∀ entryId field, (after.cell accountId entryId field).Coherent)
include two twoAfter coherent coherentAfter

/-- The total of a selection is shown alike exactly when the numbers moved hold, that is,
when the same is left of them in 32 bits. -/
theorem total_eq_iff (plain : selection ≠ .starred true) :
    (after.total accountId selection).toOption = (store.total accountId selection).toOption ↔
      ∀ total, store.selectionTotals.find?
          (accountId, selectionKind selection, selection.scopeId, selection.isUnreadOnly) = some total →
        movesTotal accountId mutation row total → InI32 (store.selected accountId selection).length →
        TotalHolds (store.selected accountId selection).length total.total
          (store.correction accountId selection) (mutation.shift row) := by
  rw [toOption_total two coherent, toOption_total twoAfter coherentAfter, acked.length_selected_eq,
    acked.selectionTotals, Table.find?_update]
  by_cases fits : InI32 (store.selected accountId selection).length
  · rw [if_pos fits, if_pos fits]
    cases found : store.selectionTotals.find?
        (accountId, selectionKind selection, selection.scopeId, selection.isUnreadOnly) with
    | none => simp
    | some total =>
      simp only [Option.map_some, Option.some.injEq, forall_eq', fits, true_implies]
      have moves := @movesTotal_eq store accountId selection mutation row total found
      by_cases moved : movesTotal accountId mutation row total
      · obtain ⟨_, side, inside⟩ := moves.mp moved
        have correction := @correction_eq _ _ _ selection _ _ acked
        rw [if_pos ⟨side, inside⟩] at correction
        have counted := @length_selected after accountId _ _ side plain
        rw [acked.length_selected_eq] at counted
        simp only [moved, true_implies, correction]
        refine correctedTotal_eq_iff (Int.natCast_nonneg _) ?_
        rw [← correction, Store.correction, side, counted]
        have := remoteCount_nonneg after accountId mutation.field (inScope selection)
        dsimp only
        omega
      · have still : (if selection.side = some mutation.field ∧ inScope selection row then
            mutation.shift row else 0) = 0 := by
          by_contra shifted
          rw [ite_eq_right_iff, not_forall] at shifted
          obtain ⟨within, shifted⟩ := shifted
          exact moved (moves.mpr ⟨shifted, within⟩)
        simp [moved, acked.correction_eq, still]
  · simp [fits]

/-- So is the count of a feed that covers its rows: the counter moves one way and the
correction the other. -/
theorem feed_eq_iff {feed : FeedRow} (own : feed.accountId = accountId)
    (covers : store.remoteCount accountId .read (·.feedId = feed.id) ≤ feed.remoteUnreadCount) :
    (after.navigationFeed accountId (if movesFeed accountId mutation row feed then
        { feed with remoteUnreadCount := max 0 (feed.remoteUnreadCount + mutation.shift row) }
      else feed)).toOption = (store.navigationFeed accountId feed).toOption ↔
      (movesFeed accountId mutation row feed → CountHolds feed.remoteUnreadCount
        (store.feedCorrection accountId feed.id) (mutation.shift row)) := by
  rw [toOption_navigationFeed two coherent, toOption_navigationFeed twoAfter coherentAfter]
  have correction := acked.feedCorrection_eq feed.id
  by_cases moved : movesFeed accountId mutation row feed
  · have moves := moved
    simp only [movesFeed, Bool.and_eq_true, decide_eq_true_eq] at moves
    obtain ⟨⟨⟨kind, shifted⟩, _⟩, here⟩ := moves
    rw [if_pos ⟨kind, here.symm⟩] at correction
    have remoteAfter := acked.remoteCount_eq .read (·.feedId = feed.id)
      fun entry => by rw [feedId_acknowledgeRow]
    rw [if_pos ⟨kind.symm, decide_eq_true here.symm⟩] at remoteAfter
    have stays := remoteCount_nonneg after accountId .read (·.feedId = feed.id)
    have counted := remoteCount_nonneg store accountId .read (·.feedId = feed.id)
    have low : -feed.remoteUnreadCount ≤ store.feedCorrection accountId feed.id := by
      have := localCount_nonneg store accountId .read (·.feedId = feed.id)
      unfold feedCorrection
      omega
    have injective : Function.Injective fun unreadCount =>
        (⟨feed.id, feed.title, feed.categoryId, unreadCount⟩ : Feed) := fun _ _ same => by cases same; rfl
    simp only [moved, if_true, true_implies]
    rw [correction, max_eq_right (by omega), (Option.map_injective injective).eq_iff]
    exact correctedCount_eq_iff (by omega) (by omega) low
      ((shift_cases mutation row).resolve_left shifted)
  · have still : (if mutation.field = .read ∧ row.feedId = feed.id then mutation.shift row else 0) = 0 := by
      by_contra shifted
      rw [ite_eq_right_iff, not_forall] at shifted
      obtain ⟨⟨kind, here⟩, shifted⟩ := shifted
      exact moved (by simp [movesFeed, kind, here, own, shifted])
    rw [still, sub_zero] at correction
    simp [moved, correction]

/-- The feeds of the account are shown alike exactly when the counts moved hold. -/
theorem feeds_eq_iff (covers : store.CoversServer accountId) :
    (∀ feedId, (after.feeds.find? (accountId, feedId)).map
        (fun feed => (after.navigationFeed accountId feed).toOption) =
      (store.feeds.find? (accountId, feedId)).map
        fun feed => (store.navigationFeed accountId feed).toOption) ↔
      ∀ feed ∈ store.feeds.rows, movesFeed accountId mutation row feed →
        CountHolds feed.remoteUnreadCount (store.feedCorrection accountId feed.id)
          (mutation.shift row) := by
  rw [acked.feeds]
  constructor
  · intro alike feed held moved
    have own : feed.accountId = accountId := by
      simp only [movesFeed, Bool.and_eq_true, decide_eq_true_eq] at moved
      exact moved.1.2
    have found := Table.find?_of_mem held
    have shown := alike feed.id
    rw [FeedRow.key, own] at found
    rw [Table.find?_update, found, Option.map_map, Option.map_some, Option.map_some,
      Option.some.injEq] at shown
    exact (acked.feed_eq_iff two twoAfter coherent coherentAfter own
      (covers.feeds feed held own)).mp shown moved
  · intro holds feedId
    rw [Table.find?_update]
    cases found : store.feeds.find? (accountId, feedId) with
    | none => rfl
    | some feed =>
      have key := Table.key_of_find? found
      simp only [FeedRow.key, Prod.mk.injEq] at key
      have held := Table.mem_of_find? found
      rw [Option.map_map, Option.map_some, Option.map_some, Option.some.injEq]
      exact (acked.feed_eq_iff two twoAfter coherent coherentAfter key.1
        (covers.feeds feed held key.1)).mpr (holds feed held)

/-- The starred total is shown alike where the server's counter covers the rows. -/
theorem starredTotal_eq (covers : store.CoversServer accountId) :
    after.starredTotal accountId = store.starredTotal accountId := by
  have localSame := acked.localCount_eq .starred (fun _ => true) fun _ => rfl
  have remoteAfter := acked.remoteCount_eq .starred (fun _ => true) fun _ => rfl
  have stays := remoteCount_nonneg after accountId .starred (fun _ => true)
  rw [Store.starredTotal_eq two coherent, Store.starredTotal_eq twoAfter coherentAfter, acked.accounts,
    Table.find?_update, localSame, remoteAfter]
  cases found : store.accounts.find? accountId with
  | none => rfl
  | some account =>
    have key := Table.key_of_find? found
    have covered := covers.starred account found
    have counted : (if movesAccount accountId mutation row account then
          { account with
            remoteStarredTotal := max 0 (account.remoteStarredTotal + mutation.shift row) }
        else account).remoteStarredTotal = account.remoteStarredTotal +
          if MutationField.starred = mutation.field ∧ true = true then mutation.shift row else 0 := by
      by_cases kind : mutation.field = .starred
      · have within : MutationField.starred = mutation.field ∧ true = true := ⟨kind.symm, rfl⟩
        rw [if_pos within] at remoteAfter
        rw [if_pos within]
        by_cases still : mutation.shift row = 0
        · simp [movesAccount, still]
        · rw [if_pos (by simp [movesAccount, kind, still, key])]
          dsimp only
          omega
      · rw [if_neg (by simp [movesAccount, kind]), if_neg fun within => kind within.1.symm, add_zero]
    simp only [Option.map_some, counted]
    congr 3
    omega

end Coherent

/-- The navigation is shown alike where its feeds are. -/
theorem navigation_eq {scan : Scan} (blind : scan.Blind)
    (alike : ∀ feedId, (after.feeds.find? (accountId, feedId)).map
        (fun feed => (after.navigationFeed accountId feed).toOption) =
      (store.feeds.find? (accountId, feedId)).map
        fun feed => (store.navigationFeed accountId feed).toOption) :
    (after.navigation scan accountId).toOption = (store.navigation scan accountId).toOption := by
  obtain ⟨change, feeds, key, category, title, shown⟩ : ∃ change : FeedRow → FeedRow,
      after.feeds.rows = store.feeds.rows.map change ∧ (∀ feed, (change feed).key = feed.key) ∧
      (∀ feed, (change feed).categoryId = feed.categoryId) ∧
      (∀ feed, (change feed).title = feed.title) ∧
      ∀ feed ∈ store.feeds.rows, feed.accountId = accountId →
        (after.navigationFeed accountId (change feed)).toOption =
          (store.navigationFeed accountId feed).toOption := by
    let change : FeedRow → FeedRow := fun feed => if movesFeed accountId mutation row feed then
      { feed with remoteUnreadCount := max 0 (feed.remoteUnreadCount + mutation.shift row) }
      else feed
    have updated : after.feeds.rows = store.feeds.rows.map change := by
      rw [acked.feeds]
      rfl
    have key : ∀ feed, (change feed).key = feed.key := by
      intro feed
      dsimp only [change]
      split <;> rfl
    refine ⟨change, updated, key, ?_, ?_, ?_⟩
    · intro feed
      dsimp only [change]
      split <;> rfl
    · intro feed
      dsimp only [change]
      split <;> rfl
    · intro feed held own
      have found := Table.find?_of_mem held
      have foundAfter : after.feeds.find? (change feed).key = some (change feed) :=
        Table.find?_of_mem (updated ▸ List.mem_map_of_mem held)
      rw [key] at foundAfter
      have shown := alike feed.id
      rw [FeedRow.key, own] at found foundAfter
      rw [found, foundAfter, Option.map_some, Option.map_some, Option.some.injEq] at shown
      exact shown
  have select : ∀ categoryId, after.feeds.select (fun feed =>
        feed.accountId = accountId && feed.categoryId = categoryId) =
      (store.feeds.select fun feed =>
        feed.accountId = accountId && feed.categoryId = categoryId).map change := by
    intro categoryId
    unfold Table.select
    rw [feeds, List.filter_map]
    congr 2
    funext feed
    have owner := congrArg Prod.fst (key feed)
    simp only [Function.comp_apply, category]
    rw [show (change feed).accountId = feed.accountId from owner]
  unfold navigation
  rw [acked.categories]
  refine toOption_foldlM (fun progress row => ?_) _ _
  unfold navigationCategory orderByTitle
  rw [select, blind.feeds change key, ← List.map_mergeSort fun left _ right _ => by rw [title, title],
    List.mapM_map]
  refine toOption_bind (toOption_mapM fun feed listed => ?_) fun _ => rfl
  have member := (scan.perm _).mem_iff.mp ((List.mergeSort_perm _ _).mem_iff.mp listed)
  obtain ⟨held, own⟩ := List.mem_filter.mp member
  simp only [Bool.and_eq_true, decide_eq_true_eq] at own
  exact shown feed held own.1

/-- Counters that cover the stored rows still do after a delivery. -/
theorem covers (covers : store.CoversServer accountId) : after.CoversServer accountId := by
  constructor
  · intro moved held own
    rw [acked.feeds] at held
    obtain ⟨feed, stored, rfl⟩ := List.mem_map.mp held
    have remoteAfter := acked.remoteCount_eq .read (·.feedId = feed.id)
      fun entry => by rw [feedId_acknowledgeRow]
    by_cases moved : movesFeed accountId mutation row feed
    · rw [if_pos moved] at own ⊢
      have covered := covers.feeds feed stored own
      simp only [movesFeed, Bool.and_eq_true, decide_eq_true_eq] at moved
      rw [if_pos ⟨moved.1.1.1.symm, decide_eq_true moved.2.symm⟩] at remoteAfter
      dsimp only
      omega
    · rw [if_neg moved] at own ⊢
      have covered := covers.feeds feed stored own
      rw [remoteAfter]
      split
      · rename_i within
        have still : mutation.shift row = 0 := by
          by_contra shifted
          have here := of_decide_eq_true within.2
          exact moved (by simp [movesFeed, within.1.symm, here, own, shifted])
        omega
      · omega
  · intro account found
    rw [acked.accounts, Table.find?_update, Option.map_eq_some_iff] at found
    obtain ⟨account, found, rfl⟩ := found
    have covered := covers.starred account found
    rw [acked.remoteCount_eq .starred (fun _ => true) fun _ => rfl]
    have key := Table.key_of_find? found
    by_cases moved : movesAccount accountId mutation row account
    · rw [if_pos moved]
      simp only [movesAccount, Bool.and_eq_true, decide_eq_true_eq] at moved
      rw [if_pos ⟨moved.1.1.symm, rfl⟩]
      dsimp only
      omega
    · rw [if_neg moved]
      split
      · rename_i within
        have still : mutation.shift row = 0 := by
          by_contra shifted
          exact moved (by simp [movesAccount, within.1.symm, key, shifted])
        omega
      · omega

section Coherent
variable (two : store.TwoStatuses) (twoAfter : after.TwoStatuses)
  (coherent : ∀ entryId field, (store.cell accountId entryId field).Coherent)
  (coherentAfter : ∀ entryId field, (after.cell accountId entryId field).Coherent)
include two twoAfter coherent coherentAfter

/-- A delivery is unseen exactly when the numbers it moves hold. The entries and the order
of the navigation never change by it. -/
theorem showAlike_iff : store.ShowAlike after accountId ↔ store.Steady accountId mutation := by
  constructor
  · intro alike
    constructor
    · intro other found selection total plain stored
      cases acked.found.symm.trans found
      exact (acked.total_eq_iff two twoAfter coherent coherentAfter plain).mp
        (alike.total selection plain) total stored
    · intro covers other found
      cases acked.found.symm.trans found
      exact (acked.feeds_eq_iff two twoAfter coherent coherentAfter covers).mp (alike.feeds covers)
  · intro steady
    have total : ∀ selection, selection ≠ .starred true →
        (after.total accountId selection).toOption = (store.total accountId selection).toOption :=
      fun selection plain => (acked.total_eq_iff two twoAfter coherent coherentAfter plain).mpr
        fun total => steady.totals row acked.found selection total plain
    have feeds := fun covers => (acked.feeds_eq_iff two twoAfter coherent coherentAfter covers).mpr
      (steady.feeds covers row acked.found)
    have starred := acked.starredTotal_eq two twoAfter coherent coherentAfter
    refine ⟨fun scan blind => acked.snapshotEntries_eq blind, total, feeds, starred, ?_⟩
    intro covers scan blind selection newestFirst retainIds plain
    rw [localSnapshot_eq, localSnapshot_eq, starred covers, acked.snapshotEntries_eq blind]
    refine toOption_bind (acked.navigation_eq blind (feeds covers)) fun shown => ?_
    refine toOption_bind rfl fun starredTotal => ?_
    exact toOption_bind (total _ plain) fun _ => rfl

end Coherent

end Acknowledged

theorem ShowAlike.refl (store : Store) (accountId : String) : store.ShowAlike store accountId :=
  ⟨fun _ _ _ _ _ => rfl, fun _ _ => rfl, fun _ _ => rfl, fun _ => rfl, fun _ _ _ _ _ _ _ => rfl⟩

theorem ShowAlike.trans {middle : Store} (first : store.ShowAlike middle accountId)
    (covers : store.CoversServer accountId → middle.CoversServer accountId)
    (second : middle.ShowAlike after accountId) : store.ShowAlike after accountId where
  entries scan blind selection newestFirst retainIds :=
    (second.entries scan blind selection newestFirst retainIds).trans
      (first.entries scan blind selection newestFirst retainIds)
  total selection plain := (second.total selection plain).trans (first.total selection plain)
  feeds covered feedId := (second.feeds (covers covered) feedId).trans (first.feeds covered feedId)
  starredTotal covered := (second.starredTotal (covers covered)).trans (first.starredTotal covered)
  snapshot covered scan blind selection newestFirst retainIds plain :=
    (second.snapshot (covers covered) scan blind selection newestFirst retainIds plain).trans
      (first.snapshot covered scan blind selection newestFirst retainIds plain)

/-- Every delivery of a flush is steady where it is made, on the store that those before it
have left. -/
def SteadyThrough (store : Store) (accountId : String) : List PendingMutation → Prop
  | [] => True
  | mutation :: rest => store.Steady accountId mutation ∧
      ∀ after, store.acknowledge accountId mutation = .ok after → after.SteadyThrough accountId rest

end Store

/-! ## Whole flushes -/

namespace SyncService
variable {σ : Type} {service : SyncService σ} {world after : World σ}

/-- A loop that goes through acknowledges its mutations in turn, and writes nothing else. -/
theorem acknowledged_of_flushMutations {mutations : List PendingMutation} {done : Unit}
    (ran : Returns (mutations.forM service.flushMutation) world done after) :
    mutations.foldlM (fun store mutation => store.acknowledge service.accountId mutation) world.store =
      .ok after.store := by
  induction mutations generalizing world with
  | nil =>
    obtain ⟨_, rfl⟩ := returns_pure.mp ran
    rfl
  | cons mutation rest ih =>
    obtain ⟨_, middle, first, rest⟩ := returns_bind.mp ran
    unfold flushMutation at first
    simp only [returns_bind, returns_request, returns_lockUntil, returns_transact,
      returns_ensureBefore] at first
    obtain ⟨_, _, ⟨remote, _, rfl⟩, _, _, ⟨_, rfl⟩, _, _, ⟨stored, acknowledged, rfl⟩, _, rfl⟩ := first
    rw [List.foldlM_cons, map_unit_ok.mp acknowledged]
    exact ih rest

/-- So does a flush, with what it lists. -/
theorem acknowledged_of_flushPending {done : Unit}
    (ran : Returns service.flushPending world done after) :
    (world.store.pending service.scan service.accountId).foldlM (fun store mutation =>
      store.acknowledge service.accountId mutation) world.store = .ok after.store := by
  unfold flushPending at ran
  simp only [returns_bind, returns_lockUntil, returns_consult, returns_ensureBefore] at ran
  obtain ⟨_, _, ⟨_, rfl⟩, pending, _, ⟨listed, rfl⟩, _, _, ⟨_, rfl⟩, ran⟩ := ran
  cases listed
  have looped := acknowledged_of_flushMutations ran
  exact looped

end SyncService

/-- Acknowledging what a session has listed is one of its moves. -/
theorem Session.Step.acknowledged {session : Session} {accountId : String}
    {mutation : PendingMutation} {after : Store} (listed : mutation ∈ session.listed accountId)
    (done : session.store.acknowledge accountId mutation = .ok after) :
    Session.Step session ⟨after, Function.update session.listed accountId
      ((session.listed accountId).erase mutation)⟩ := by
  have step := Session.Step.acknowledge accountId mutation listed
  rwa [done] at step

/-- Steady deliveries in turn are unseen together; by induction on them, since what each
leaves is a state of the session again. -/
theorem showAlike_acknowledgeAll {accountId : String} {mutations : List PendingMutation}
    {session : Session} {after : Store} (sound : session.Sound) (two : session.store.TwoStatuses)
    (listed : session.listed accountId = mutations)
    (done : mutations.foldlM (fun store mutation => store.acknowledge accountId mutation)
      session.store = .ok after)
    (steady : session.store.SteadyThrough accountId mutations) :
    session.store.ShowAlike after accountId := by
  induction mutations generalizing session with
  | nil =>
    cases done
    exact .refl session.store accountId
  | cons mutation rest ih =>
    rw [List.foldlM_cons] at done
    obtain ⟨middle, acknowledged, done⟩ := bind_eq_ok.mp done
    have step := Session.Step.acknowledged (listed ▸ List.mem_cons_self) acknowledged
    have soundMiddle := Session.sound_step sound step
    have twoMiddle := two.acknowledge acknowledged
    obtain ⟨row, acked⟩ := Store.acknowledged_of_ok two acknowledged
    have first := (acked.showAlike_iff two twoMiddle (sound.coherent accountId)
      (soundMiddle.coherent accountId)).mpr steady.1
    refine first.trans acked.covers (ih soundMiddle twoMiddle ?_ done (steady.2 middle acknowledged))
    dsimp only
    rw [Function.update_self, listed, List.erase_cons_head]

/-- A delivery of a listed mutation, superseded or not, is unseen exactly when the numbers
it moves hold; a flush is, when they hold at each of its deliveries. Unseen are the rows and
the total of every selection, and the counts that cover the stored rows. -/
theorem delivery_unseen_iff_steady {session : Session} (reached : sessions.Reachable session)
    (two : session.store.TwoStatuses) :
    (∀ accountId, ∀ mutation ∈ session.listed accountId, ∀ after,
      session.store.acknowledge accountId mutation = .ok after →
        (session.store.ShowAlike after accountId ↔ session.store.Steady accountId mutation)) ∧
    ∀ (σ : Type) (service : SyncService σ) (world after : World σ), world.store = session.store →
      Returns service.flushPending world () after →
      world.store.SteadyThrough service.accountId
        (world.store.pending service.scan service.accountId) →
      world.store.ShowAlike after.store service.accountId := by
  have sound := sound_of_reachable reached
  constructor
  · intro accountId mutation listed after acknowledged
    obtain ⟨row, acked⟩ := Store.acknowledged_of_ok two acknowledged
    have soundAfter := Session.sound_step sound (.acknowledged listed acknowledged)
    exact acked.showAlike_iff two (two.acknowledge acknowledged) (sound.coherent accountId)
      (soundAfter.coherent accountId)
  · intro σ service world after same flushed steady
    have done := SyncService.acknowledged_of_flushPending flushed
    rw [same] at done steady ⊢
    let flushing : Session := ⟨session.store, Function.update session.listed service.accountId
      (session.store.pending service.scan service.accountId)⟩
    have listing : Session.Step session flushing := .list service.scan service.accountId
    exact @showAlike_acknowledgeAll _ _ flushing _ (Session.sound_step sound listing) two
      (Function.update_self ..) done steady

/-! ## An article marked read -/

/-- The article marked read, and its delivery under way. -/
theorem reachable_marked : sessions.Reachable ⟨markedStore, Function.update (fun _ => []) "account"
    (markedStore.pending .storage "account")⟩ := by
  have start : sessions.Reachable ⟨.empty, fun _ => []⟩ := .start ⟨rfl, fun _ => rfl⟩
  have stored : sessions.Reachable ⟨storedStore, fun _ => []⟩ :=
    reachable_write start (.applySnapshot "t" "account" oneUnread) trivial
  have marked : sessions.Reachable ⟨markedStore, fun _ => []⟩ :=
    reachable_write stored (.setRead (fun _ => "t") "id" "account" [1] true false) trivial
  exact marked.next (.list .storage "account")

theorem twoStatuses_empty : Store.empty.TwoStatuses := by
  intro key row found
  cases found

/-- Writes that bring in two statuses, and star stored articles only. -/
theorem reachable_writes {listed : String → List PendingMutation} (operations : List Operation)
    (known : ∀ operation ∈ operations, operation.TwoStatuses ∧ ∀ store, operation.OnStored store)
    {store : Store} (reached : sessions.Reachable ⟨store, listed⟩) (two : store.TwoStatuses) :
    sessions.Reachable ⟨operations.foldl (fun store operation =>
      store.commit (operation.run store)) store, listed⟩ ∧
    (operations.foldl (fun store operation => store.commit (operation.run store)) store).TwoStatuses := by
  induction operations generalizing store with
  | nil => exact ⟨reached, two⟩
  | cons operation rest ih =>
    obtain ⟨statuses, onStored⟩ := known operation List.mem_cons_self
    exact ih (fun other later => known other (List.mem_cons_of_mem operation later))
      (reachable_write reached operation (onStored store)) (two.commit operation statuses)

theorem twoStatuses_marked : markedStore.TwoStatuses := by
  refine Store.TwoStatuses.commit (twoStatuses_empty.commit
    (.applySnapshot "t" "account" oneUnread) ?_) (.setRead (fun _ => "t") "id" "account" [1] true false)
    trivial
  intro entry listed
  cases List.mem_singleton.mp listed
  exact .inr rfl

/-- Its numbers are small. -/
theorem steady_marked : markedStore.Steady "account" firstMark := by
  have totals : markedStore.selectionTotals.rows = [⟨"account", "all", 0, true, 1⟩] := by decide
  have feeds : markedStore.feeds.rows = [] := by decide
  have entries : (markedStore.entries.rows.length : Int) = 1 := by decide
  have shift : ∀ row, markedStore.entries.find? ("account", 1) = some row →
      firstMark.shift row = -1 := by
    have known : (markedStore.entries.find? ("account", 1)).map firstMark.shift = some (-1) := by
      decide
    intro row found
    rw [found] at known
    exact Option.some.inj known
  constructor
  · intro row found selection total plain stored moves few
    have listed := Table.mem_of_find? stored
    rw [totals, List.mem_singleton] at listed
    obtain ⟨_, side, _⟩ := (Store.movesTotal_eq stored).mp moves
    have localLow := markedStore.localCount_nonneg "account" .read (Store.inScope selection)
    have localHigh := markedStore.localCount_le "account" .read (Store.inScope selection)
    have remoteLow := markedStore.remoteCount_nonneg "account" .read (Store.inScope selection)
    have remoteHigh := markedStore.remoteCount_le "account" .read (Store.inScope selection)
    have correction : markedStore.correction "account" selection =
        markedStore.localCount "account" .read (Store.inScope selection) -
          markedStore.remoteCount "account" .read (Store.inScope selection) := by
      unfold Store.correction
      rw [side]
      rfl
    rw [listed, shift row found, correction]
    constructor
    · unfold InI32
      dsimp only
      omega
    · intro clamped
      dsimp only at clamped
      omega
  · intro _ row _ feed held
    rw [feeds] at held
    cases held

/-- The delivery of one read article: the feed's counter goes down as its correction goes,
and what is shown stays. -/
theorem read_delivery_unseen : ∃ after, markedStore.acknowledge "account" firstMark = .ok after ∧
    markedStore.ShowAlike after "account" ∧
    after.snapshotEntries .storage "account" (.all 0 true) true [1] =
      markedStore.snapshotEntries .storage "account" (.all 0 true) true [1] := by
  have member : firstMark ∈ Function.update (fun _ => []) "account"
      (markedStore.pending .storage "account") "account" := by
    rw [Function.update_self]
    exact firstMark_listed
  have acknowledged := @Store.commit_of_isOk markedStore
    (markedStore.acknowledge "account" firstMark) (by decide)
  have alike := ((delivery_unseen_iff_steady reachable_marked twoStatuses_marked).1
    "account" firstMark member _ acknowledged).mpr steady_marked
  exact ⟨_, acknowledged, alike, alike.entries .storage Scan.blind_storage _ _ _⟩

/-! ## A count too large -/

/-- A server whose one feed has as many unread articles as an `i32` counts, and a read one that
carries a star. -/
def fullAccount : RemoteAccount :=
  { twoArticles with
    articles := {
      rows := [(filedArticle 1 "2024-01-01T00:00:00Z" true).setRead true]
      unique := List.nodup_singleton _ }
    rising := List.pairwise_singleton _ _
    count := fun _ => { rows := [⟨1, 2147483647⟩], unique := List.nodup_singleton _ } }

/-- What a browse of its starred articles lists. -/
def fullFeed : SnapshotData where
  version := 1
  selection := .starred false
  entries := [{ earlierEntry with status := .read, starred := true }]
  categories := [⟨1, "Category", 2147483647, [⟨1, "Feed", 1, 2147483647⟩]⟩]
  total := 1
  unreadTotal := 2147483647
  starredTotal := 1

theorem browsed_fullAccount : fullAccount.browsed bareHost (.starred false) = fullFeed := by
  have counted : fullAccount.feedCounters.counter 1 = some 2147483647 := by decide
  unfold RemoteAccount.browsed
  rw [navigation_oneFeed rfl rfl counted (by decide)]
  decide

/-- The writes before a flush: the article is marked unread. -/
def crowdedWrites : List Operation := [
  .ensureAccount "account" "", .applySnapshot "t" "account" fullFeed,
  .setRead (fun _ => "t") "id" "account" [1] false false]

def crowdedStore : Store :=
  crowdedWrites.foldl (fun store operation => store.commit (operation.run store)) .empty

/-- It is marked read again while the change is delivered. -/
def crowdedAgain : Store :=
  crowdedStore.commit (Operation.run crowdedStore (.setRead (fun _ => "t") "id" "account" [1] true false))

/-- The delivery of the change. -/
def unreadMark : PendingMutation := ⟨1, .read, false, 1⟩

theorem crowded_reachable : sessions.Reachable ⟨crowdedAgain, Function.update (fun _ => []) "account"
    (crowdedStore.pending .storage "account")⟩ ∧ crowdedAgain.TwoStatuses := by
  have known : ∀ operation ∈ crowdedWrites, operation.TwoStatuses ∧ ∀ store, operation.OnStored store := by
    have read : Operation.TwoStatuses (.applySnapshot "t" "account" fullFeed) := by
      intro entry listed
      cases List.mem_singleton.mp listed
      exact .inl rfl
    intro operation listed
    simp only [crowdedWrites, List.mem_cons, List.not_mem_nil, or_false] at listed
    rcases listed with rfl | rfl | rfl
    · exact ⟨trivial, fun _ => trivial⟩
    · exact ⟨read, fun _ => trivial⟩
    · exact ⟨trivial, fun _ => trivial⟩
  obtain ⟨reached, two⟩ := reachable_writes crowdedWrites known (.start ⟨rfl, fun _ => rfl⟩)
    twoStatuses_empty
  have listing := reached.next (.list .storage "account")
  exact ⟨reachable_write listing (.setRead (fun _ => "t") "id" "account" [1] true false) trivial,
    two.commit (.setRead (fun _ => "t") "id" "account" [1] true false) trivial⟩

/-- The counters cover what is stored as counted there. -/
theorem covers_crowdedAgain : crowdedAgain.CoversServer "account" where
  feeds := by decide
  starred := by
    have known : (crowdedAgain.accounts.find? "account").map AccountRow.remoteStarredTotal =
        some 1 := by decide
    have count : crowdedAgain.remoteCount "account" .starred (fun _ => true) = 1 := by decide
    intro account found
    rw [found] at known
    rw [count, Option.some.inj known]

/-- A feed's counter outgrows 32 bits by the delivery and takes the snapshot away, for all
that the counters cover the stored rows. -/
theorem outgrown_count_fails : ∃ session, sessions.Reachable session ∧
    session.store.TwoStatuses ∧ session.store.CoversServer "account" ∧
    ∃ mutation ∈ session.listed "account", ∃ after,
      session.store.acknowledge "account" mutation = .ok after ∧
      (session.store.localSnapshot .storage "account" (.all 0 true) true []).isOk ∧
      after.localSnapshot .storage "account" (.all 0 true) true [] =
        .error (.integralValueOutOfRange 2 2147483648) := by
  obtain ⟨reached, two⟩ := crowded_reachable
  have member : unreadMark ∈ Function.update (fun _ => []) "account"
      (crowdedStore.pending .storage "account") "account" := by
    rw [Function.update_self]
    exact Store.mem_pending.mpr ⟨⟨"account", 1, .read, false, 1, "t"⟩, by decide, rfl, rfl⟩
  have acknowledged := @Store.commit_of_isOk crowdedAgain
    (crowdedAgain.acknowledge "account" unreadMark) (by decide)
  refine ⟨_, reached, two, covers_crowdedAgain, unreadMark, member, _, acknowledged, ?_, ?_⟩
  · have navigation : crowdedAgain.navigation .storage "account" =
        .ok ([⟨1, "Category", 2147483647, [⟨1, "Feed", 1, 2147483647⟩]⟩], 2147483647) :=
      (@Store.navigation_one crowdedAgain "account" ⟨"account", 1, "Category"⟩
        ⟨"account", 1, 1, "Feed", 2147483647⟩ (by decide) (by decide)).trans (by decide)
    have starred : crowdedAgain.starredTotal "account" = .ok 1 := by decide
    have total : crowdedAgain.total "account" (.all 0 true) = .ok 0 := by decide
    dsimp only
    rw [Store.localSnapshot_eq, navigation, starred]
    simp only [normalizeSelection, total]
    rfl
  · have navigation : (crowdedAgain.commit (crowdedAgain.acknowledge "account" unreadMark)).navigation
        .storage "account" = .error (.integralValueOutOfRange 2 2147483648) :=
      (@Store.navigation_one (crowdedAgain.commit (crowdedAgain.acknowledge "account" unreadMark))
        "account" ⟨"account", 1, "Category"⟩ ⟨"account", 1, 1, "Feed", 2147483648⟩ (by decide)
        (by decide)).trans (by decide)
    rw [Store.localSnapshot_eq, navigation]
    rfl

end FluxBar
