import FluxBar.DeliveryDisplay
import FluxBar.GoSnapshot
import Mathlib.Algebra.Order.BigOperators.Group.List
import Mathlib.Algebra.Order.Group.Int

/-! The figures of a snapshot in the two cores. Both count the rows of a selection
alike. They part where they look up another stored total for it, where they
correct it by another pending change, and where one of them reads or adds in 32
bits what the other keeps whole. -/
namespace FluxBar
open Relational Procedure

/-! ## Selections -/

/-- A wire selection in both cores, kind by kind; proofs about the two go by these cases. -/
theorem normalize_normalized (kind : String) (id : Int) (unreadOnly : Bool) :
    (kind = "all" ∧ Selection.normalize kind id unreadOnly = .all id unreadOnly ∧
      (Inbox.Selection.mk kind id unreadOnly).normalized = ⟨"all", id, unreadOnly⟩) ∨
    (kind = "unread" ∧ Selection.normalize kind id unreadOnly = .unread unreadOnly ∧
      (Inbox.Selection.mk kind id unreadOnly).normalized = ⟨"unread", 0, unreadOnly⟩) ∨
    (kind = "starred" ∧ Selection.normalize kind id unreadOnly = .starred unreadOnly ∧
      (Inbox.Selection.mk kind id unreadOnly).normalized = ⟨"starred", 0, unreadOnly⟩) ∨
    (kind = "category" ∧ Selection.normalize kind id unreadOnly = .category id unreadOnly ∧
      (Inbox.Selection.mk kind id unreadOnly).normalized = ⟨"category", id, unreadOnly⟩) ∨
    (kind = "feed" ∧ Selection.normalize kind id unreadOnly = .feed id unreadOnly ∧
      (Inbox.Selection.mk kind id unreadOnly).normalized = ⟨"feed", id, unreadOnly⟩) ∨
    (kind ≠ "all" ∧ kind ≠ "unread" ∧ kind ≠ "starred" ∧
      Selection.normalize kind id unreadOnly = .all 0 true ∧
      (Inbox.Selection.mk kind id unreadOnly).normalized = ⟨"all", 0, true⟩) := by
  unfold Selection.normalize Inbox.Selection.normalized Selection.fallback
  by_cases all : kind = "all"
  · simp [all]
  by_cases unread : kind = "unread"
  · simp [unread]
  by_cases starred : kind = "starred"
  · simp [starred]
  by_cases category : kind = "category"
  · by_cases positive : 0 < id <;> simp [category, positive]
  by_cases feed : kind = "feed"
  · by_cases positive : 0 < id <;> simp [feed, positive]
  simp [all, unread, starred, category, feed]

section Wire
variable (kind : String) (id : Int) (unreadOnly : Bool)

theorem inScope_normalized (row : EntryRow) :
    Inbox.inScope (Inbox.Selection.mk kind id unreadOnly).normalized row =
      Store.inScope (Selection.normalize kind id unreadOnly) row := by
  rcases normalize_normalized kind id unreadOnly with
    ⟨_, rust, go⟩ | ⟨_, rust, go⟩ | ⟨_, rust, go⟩ | ⟨_, rust, go⟩ | ⟨_, rust, go⟩ | ⟨_, _, _, rust, go⟩ <;>
    rw [rust, go] <;> simp [Inbox.inScope, Store.inScope]

theorem restrictsToUnread_normalized :
    (Inbox.Selection.mk kind id unreadOnly).normalized.restrictsToUnread =
      (Selection.normalize kind id unreadOnly).isUnreadOnly := by
  rcases normalize_normalized kind id unreadOnly with
    ⟨_, rust, go⟩ | ⟨_, rust, go⟩ | ⟨_, rust, go⟩ | ⟨_, rust, go⟩ | ⟨_, rust, go⟩ | ⟨_, _, _, rust, go⟩ <;>
    rw [rust, go] <;> simp [Inbox.Selection.restrictsToUnread, Selection.isUnreadOnly]

theorem kind_normalized : (Inbox.Selection.mk kind id unreadOnly).normalized.kind =
    selectionKind (Selection.normalize kind id unreadOnly) := by
  rcases normalize_normalized kind id unreadOnly with
    ⟨_, rust, go⟩ | ⟨_, rust, go⟩ | ⟨_, rust, go⟩ | ⟨_, rust, go⟩ | ⟨_, rust, go⟩ | ⟨_, _, _, rust, go⟩ <;>
    rw [rust, go] <;> rfl

theorem isStarred_iff (selection : Selection) :
    selection.isStarred = (selectionKind selection == "starred") := by
  cases selection <;> rfl

/-- The two cores select the same rows, for every wire selection and account. -/
theorem selectionClause_normalized (accountId : String) :
    Inbox.selectionClause (Inbox.Selection.mk kind id unreadOnly).normalized accountId =
      Store.selectionClause accountId (Selection.normalize kind id unreadOnly) := by
  funext row
  unfold Inbox.selectionClause Store.selectionClause
  rw [restrictsToUnread_normalized, inScope_normalized, kind_normalized, isStarred_iff]
  rfl

/-- The selections both cores store totals under one key for, and correct alike. -/
def Aligned : Prop :=
  (kind = "all" → id = 0) ∧ (kind = "unread" → unreadOnly = true) ∧
    (kind = "starred" → unreadOnly = false)

end Wire

namespace Store
variable (store : Store) (accountId : String)

/-- The pending change that corrects the total of a selection, with nothing cut. -/
def pendingChange (selection : Selection) : Int :=
  match selection.side with
  | none => 0
  | some field => store.pendingDelta accountId field (inScope selection)

/-- The stored total of a selection. -/
def storedTotal (selection : Selection) : Option Int :=
  (store.selectionTotals.find? (accountId, selectionKind selection, selection.scopeId,
    selection.isUnreadOnly)).map SelectionTotalRow.total

/-- The feeds that the navigation shows. -/
def shownFeeds : List FeedRow :=
  (store.categories.select fun row => row.accountId = accountId).flatMap fun row =>
    store.feeds.select fun feed => feed.accountId = accountId && feed.categoryId = row.id

theorem selectionPendingDelta_read (selection : Selection) :
    store.selectionPendingDelta accountId selection =
      readI32 0 (store.pendingChange accountId selection) := by
  rw [selectionPendingDelta_eq]
  unfold pendingChange
  cases selection.side <;> rfl

end Store

namespace Inbox
variable (store : Store) (accountId : String)

/-- The stored total this core finds. -/
def storedTotal (selection : Selection) : Option Int :=
  (store.selectionTotals.find? (accountId, selection.kind, selection.id, selection.unreadOnly)).map
    SelectionTotalRow.total

end Inbox

/-! ## Unread counts -/

/-- The feeds shown under a category. -/
def Store.categoryFeeds (store : Store) (accountId : String) (row : CategoryRow) : List FeedRow :=
  store.feeds.select fun feed => feed.accountId = accountId && feed.categoryId = row.id

/-- The count of a feed as it comes out of 32-bit numbers. -/
def Store.feedFigure (store : Store) (accountId : String) (feed : FeedRow) : Int :=
  let delta := Inbox.feedDelta store accountId feed.id
  max 0 (toI32 (feed.remoteUnreadCount + if InI32 delta then delta else 0))

/-- The same count with nothing cut. -/
def Inbox.feedFigure (store : Store) (accountId : String) (feed : FeedRow) : Int :=
  max 0 (feed.remoteUnreadCount + feedDelta store accountId feed.id)

section Navigation
variable {store : Store} {accountId : String} {scan : Scan}

theorem forall_shownFeeds {holds : FeedRow → Prop} :
    (∀ feed ∈ store.shownFeeds accountId, holds feed) ↔
      ∀ row ∈ store.categories.select (fun row => row.accountId = accountId),
        ∀ feed ∈ store.categoryFeeds accountId row, holds feed :=
  List.forall_mem_flatMap

theorem sum_shownFeeds (figure : FeedRow → Int) :
    ((store.shownFeeds accountId).map figure).sum =
      ((store.categories.select fun row => row.accountId = accountId).map fun row =>
        ((store.categoryFeeds accountId row).map figure).sum).sum := by
  unfold Store.shownFeeds
  rw [List.map_flatMap, List.flatMap, List.sum_flatten, List.map_map]
  rfl

theorem perm_orderByTitle {α : Type} (title : α → String) (rows : List α) :
    (orderByTitle title (scan.order rows)).Perm rows :=
  (List.mergeSort_perm _ _).trans (scan.perm rows)

theorem sum_orderByTitle {α : Type} (title : α → String) (rows : List α) (figure : α → Int) :
    ((orderByTitle title (scan.order rows)).map figure).sum = (rows.map figure).sum :=
  ((perm_orderByTitle title rows).map figure).sum_eq

theorem toOption_navigationFeed_eq (feed : FeedRow) :
    (store.navigationFeed accountId feed).toOption = if InI32 feed.remoteUnreadCount
      then some ⟨feed.id, feed.title, feed.categoryId, store.feedFigure accountId feed⟩ else none := by
  rw [@Store.toOption_navigationFeed_of store accountId feed (Inbox.feedDelta store accountId feed.id)
    rfl]
  unfold correctedCount Store.feedFigure
  split <;> rfl

/-- A category whose feeds can be read adds up their counts, in 32 bits, to those before it.
-/
theorem navigationCategory_ok {progress : List Category × Int} {row : CategoryRow}
    (fits : InI32 progress.2)
    (readable : ∀ feed ∈ store.categoryFeeds accountId row, InI32 feed.remoteUnreadCount) :
    ∃ categories, store.navigationCategory scan accountId progress row = .ok (categories,
      toI32 (progress.2 +
        ((store.categoryFeeds accountId row).map (store.feedFigure accountId)).sum)) := by
  let shown : FeedRow → Feed := fun feed =>
    ⟨feed.id, feed.title, feed.categoryId, store.feedFigure accountId feed⟩
  have feeds : (orderByTitle FeedRow.title (scan.order (store.categoryFeeds accountId row))).mapM
      (store.navigationFeed accountId) =
        .ok ((orderByTitle FeedRow.title (scan.order (store.categoryFeeds accountId row))).map shown) := by
    refine mapM_ok fun feed listed => ?_
    have figure := @toOption_navigationFeed_eq store accountId feed
    rw [if_pos (readable feed ((perm_orderByTitle _ _).mem_iff.mp listed))] at figure
    cases outcome : store.navigationFeed accountId feed with
    | error failure =>
      rw [outcome] at figure
      cases figure
    | ok value =>
      rw [outcome] at figure
      cases figure
      rfl
  unfold Store.categoryFeeds at feeds
  unfold Store.navigationCategory
  rw [feeds]
  refine ⟨_, congrArg Except.ok (Prod.ext rfl ?_)⟩
  dsimp only
  rw [addCounts_eq fits, List.map_map]
  exact congrArg (fun sum => toI32 (progress.2 + sum))
    (sum_orderByTitle FeedRow.title _ (store.feedFigure accountId))

/-- One unreadable feed fails its category. -/
theorem navigationCategory_none {progress : List Category × Int} {row : CategoryRow}
    (unreadable : ¬ ∀ feed ∈ store.categoryFeeds accountId row, InI32 feed.remoteUnreadCount) :
    (store.navigationCategory scan accountId progress row).toOption = none := by
  simp only [not_forall] at unreadable
  obtain ⟨feed, held, out⟩ := unreadable
  have stops := @toOption_mapM_none _ _ _ (store.navigationFeed accountId) _ _
    ((@perm_orderByTitle scan _ FeedRow.title _).mem_iff.mpr held)
    (by rw [toOption_navigationFeed_eq, if_neg out])
  unfold Store.categoryFeeds at stops
  unfold Store.navigationCategory
  cases outcome : (orderByTitle FeedRow.title (scan.order (store.feeds.select fun feed =>
      decide (feed.accountId = accountId) && decide (feed.categoryId = row.id)))).mapM
        (store.navigationFeed accountId) with
  | error failure => rfl
  | ok values =>
    rw [outcome] at stops
    cases stops

/-- The category loop adds up the counts of all their feeds, or fails at one that cannot be
read; by induction on the categories. -/
theorem navigationCategories {rows : List CategoryRow} {progress : List Category × Int}
    (fits : InI32 progress.2) :
    (rows.foldlM (store.navigationCategory scan accountId) progress).toOption.map Prod.snd =
      if ∀ row ∈ rows, ∀ feed ∈ store.categoryFeeds accountId row, InI32 feed.remoteUnreadCount then
        some (toI32 (progress.2 + (rows.map fun row =>
          ((store.categoryFeeds accountId row).map (store.feedFigure accountId)).sum).sum))
      else none := by
  induction rows generalizing progress with
  | nil =>
    rw [if_pos fun _ listed => (by cases listed), List.foldlM_nil, List.map_nil, List.sum_nil,
      add_zero, toI32_of_in fits]
    rfl
  | cons row rest ih =>
    rw [List.foldlM_cons]
    by_cases readable : ∀ feed ∈ store.categoryFeeds accountId row, InI32 feed.remoteUnreadCount
    · obtain ⟨categories, turned⟩ := @navigationCategory_ok store accountId scan progress row fits readable
      rw [turned]
      change ((rest.foldlM (store.navigationCategory scan accountId) (categories, toI32 (progress.2 +
        ((store.categoryFeeds accountId row).map (store.feedFigure accountId)).sum))).toOption.map
          Prod.snd) = _
      rw [ih (toI32_in _), toI32_add_left, List.map_cons, List.sum_cons, add_assoc]
      simp only [List.forall_mem_cons, and_iff_right readable]
    · rw [if_neg fun all => readable (all row List.mem_cons_self)]
      have stops := @navigationCategory_none store accountId scan progress row readable
      cases outcome : store.navigationCategory scan accountId progress row with
      | error failure => rfl
      | ok next =>
        rw [outcome] at stops
        cases stops

/-- The unread total is the 32-bit sum of the feeds', if all of them can be read. -/
theorem unreadTotal_navigation : (store.navigation scan accountId).toOption.map Prod.snd =
    if ∀ feed ∈ store.shownFeeds accountId, InI32 feed.remoteUnreadCount then
      some (toI32 ((store.shownFeeds accountId).map (store.feedFigure accountId)).sum) else none := by
  have listed : ∀ row, row ∈ orderByTitle CategoryRow.title (scan.order
      (store.categories.select fun row => row.accountId = accountId)) ↔
        row ∈ store.categories.select fun row => row.accountId = accountId := fun row =>
    (perm_orderByTitle CategoryRow.title _).mem_iff
  unfold Store.navigation
  rw [navigationCategories (by decide), zero_add, sum_orderByTitle, sum_shownFeeds]
  simp only [listed, forall_shownFeeds]

/-- The other core adds the same feeds up whole, each corrected and never below zero. -/
theorem unreadTotal_go : (Inbox.navigation store accountId scan).2 =
    ((store.shownFeeds accountId).map (Inbox.feedFigure store accountId)).sum := by
  have general : ∀ (rows : List CategoryRow) (progress : List Category × Int),
      (rows.foldl (Inbox.navigationCategory store accountId scan) progress).2 =
        progress.2 + (rows.map fun row =>
          ((store.categoryFeeds accountId row).map (Inbox.feedFigure store accountId)).sum).sum := by
    intro rows
    induction rows with
    | nil => simp
    | cons row rest ih =>
      intro progress
      have turn : (Inbox.navigationCategory store accountId scan progress row).2 = progress.2 +
          ((store.categoryFeeds accountId row).map (Inbox.feedFigure store accountId)).sum := by
        unfold Inbox.navigationCategory
        dsimp only
        rw [List.map_map]
        exact congrArg (progress.2 + ·)
          (sum_orderByTitle FeedRow.title _ (Inbox.feedFigure store accountId))
      rw [List.foldl_cons, ih, turn, List.map_cons, List.sum_cons, add_assoc]
  unfold Inbox.navigation
  rw [general, zero_add, sum_orderByTitle, sum_shownFeeds]

end Navigation

/-! ## The figures -/

/-- The three figures of a snapshot. -/
def SnapshotData.figures (snapshot : SnapshotData) : Int × Int × Int :=
  (snapshot.total, snapshot.unreadTotal, snapshot.starredTotal)

def Inbox.BrowseSnapshot.figures (snapshot : Inbox.BrowseSnapshot) : Int × Int × Int :=
  (snapshot.total, snapshot.unreadTotal, snapshot.starredTotal)

/-- The two cores show the same figures of an account for a wire selection, or none. -/
def SameFigures (store : Store) (accountId kind : String) (id : Int) (unreadOnly : Bool) : Prop :=
  ∀ (scan goScan : Scan) (newestFirst : Bool) (retainIds : List Int),
    (store.localSnapshot scan accountId (.normalize kind id unreadOnly) newestFirst
        retainIds).toOption.map SnapshotData.figures =
      (Inbox.snapshot store accountId goScan ⟨kind, id, unreadOnly⟩).toOption.map
        Inbox.BrowseSnapshot.figures

section Figures
variable (store : Store) (accountId : String)

/-- The starred total of an account, whole. -/
def starredSum (account : AccountRow) : Int :=
  account.remoteStarredTotal +
    ((store.pendingEntries accountId .starred).map EntryRow.starredDelta).sum

/-- What this core's stored total of a selection comes to, in 32 bits. -/
def rustTotal (selection : Selection) : Int :=
  match store.storedTotal accountId selection with
  | none => 0
  | some total => toI32 (total + store.pendingChange accountId selection)

/-- What the other core's comes to. -/
def goTotal (selection : Inbox.Selection) : Int :=
  match Inbox.storedTotal store accountId selection with
  | none => 0
  | some total => total + Inbox.selectionPendingDelta store accountId selection

/-- The numbers behind the figures meet. Every number read as an `i32` fits one;
what 32 bits cut off the feeds' counts is a multiple of their range; and the two
stored totals come to the same, or to no more than the rows at hand. -/
structure FiguresMeet (kind : String) (id : Int) (unreadOnly : Bool) (account : AccountRow) :
    Prop where
  feeds : ∀ feed ∈ store.shownFeeds accountId, InI32 feed.remoteUnreadCount
  unread : ((store.shownFeeds accountId).map (Inbox.feedFigure store accountId)).sum ≤ 2147483647
  cut : (4294967296 : Int) ∣ ((store.shownFeeds accountId).map fun feed =>
    store.feedFigure accountId feed - Inbox.feedFigure store accountId feed).sum
  starred : starredSum store accountId account ≤ 2147483647
  rows : (store.selected accountId (.normalize kind id unreadOnly)).length ≤ 2147483647
  stored : ∀ total, store.storedTotal accountId (.normalize kind id unreadOnly) = some total →
    InI32 total ∧ InI32 (store.pendingChange accountId (.normalize kind id unreadOnly))
  totals : rustTotal store accountId (.normalize kind id unreadOnly) =
      goTotal store accountId (Inbox.Selection.mk kind id unreadOnly).normalized ∨
    rustTotal store accountId (.normalize kind id unreadOnly) ≤
        (store.selected accountId (.normalize kind id unreadOnly)).length ∧
      goTotal store accountId (Inbox.Selection.mk kind id unreadOnly).normalized ≤
        (store.selected accountId (.normalize kind id unreadOnly)).length

variable {store accountId} {scan : Scan} {kind : String} {id : Int} {unreadOnly : Bool}

/-- The snapshot of this core has figures when each of them can be read, and fails
otherwise. -/
theorem figures_localSnapshot {newestFirst : Bool} {retainIds : List Int} :
    (store.localSnapshot scan accountId (.normalize kind id unreadOnly) newestFirst
        retainIds).toOption.map SnapshotData.figures = (do
      let unread ← (store.navigation scan accountId).toOption.map Prod.snd
      let starred ← (store.starredTotal accountId).toOption
      let total ← (store.total accountId (.normalize kind id unreadOnly)).toOption
      return (total, unread, starred)) := by
  rw [Store.localSnapshot_eq, normalizeSelection_of_normal (Selection.normalize_normal ..)]
  cases store.navigation scan accountId with
  | error failure => rfl
  | ok shown =>
    cases store.starredTotal accountId with
    | error failure => rfl
    | ok starred => cases store.total accountId (.normalize kind id unreadOnly) <;> rfl

theorem figures_go : (Inbox.snapshot store accountId scan ⟨kind, id, unreadOnly⟩).toOption.map
    Inbox.BrowseSnapshot.figures = (store.accounts.find? accountId).map fun account =>
      (max ((store.selected accountId (.normalize kind id unreadOnly)).length : Int)
        (max 0 (goTotal store accountId (Inbox.Selection.mk kind id unreadOnly).normalized)),
      ((store.shownFeeds accountId).map (Inbox.feedFigure store accountId)).sum,
      max 0 (starredSum store accountId account)) := by
  unfold Inbox.snapshot Inbox.starredTotal goTotal Inbox.storedTotal Store.selected
  rw [← @unreadTotal_go store accountId scan, ← selectionClause_normalized]
  dsimp only
  cases store.accounts.find? accountId with
  | none => rfl
  | some account =>
    cases store.selectionTotals.find? (accountId,
        (Inbox.Selection.mk kind id unreadOnly).normalized.kind,
        (Inbox.Selection.mk kind id unreadOnly).normalized.id,
        (Inbox.Selection.mk kind id unreadOnly).normalized.unreadOnly) with
    | none => simp [starredSum, Inbox.BrowseSnapshot.figures, bind, Except.bind, pure, Except.pure,
        Except.toOption]
    | some total => rfl

theorem toOption_starredTotal : (store.starredTotal accountId).toOption =
    (store.accounts.find? accountId).map fun account =>
      toI32 (max 0 (starredSum store accountId account)) := by
  unfold Store.starredTotal
  cases store.accounts.find? accountId <;> rfl

/-- The total of this core, if the numbers it reads fit. -/
theorem toOption_total_eq {selection : Selection} : (store.total accountId selection).toOption =
    if InI32 (store.selected accountId selection).length ∧
        ∀ total, store.storedTotal accountId selection = some total →
          InI32 total ∧ InI32 (store.pendingChange accountId selection) then
      some (max ((store.selected accountId selection).length : Int)
        (max 0 (rustTotal store accountId selection)))
    else none := by
  rw [Store.toOption_total_of (store.selectionPendingDelta_read accountId selection)]
  unfold rustTotal Store.storedTotal correctedTotal
  by_cases fits : InI32 (store.selected accountId selection).length
  · cases store.selectionTotals.find? (accountId, selectionKind selection, selection.scopeId,
        selection.isUnreadOnly) with
    | none => simp [fits]
    | some total => simp [fits]
  · simp [fits]

theorem sum_map_sub {α : Type} (left right : α → Int) (items : List α) :
    (items.map fun item => left item - right item).sum =
      (items.map left).sum - (items.map right).sum := by
  induction items with
  | nil => rfl
  | cons item rest ih =>
    rw [List.map_cons, List.map_cons, List.map_cons, List.sum_cons, List.sum_cons, List.sum_cons, ih]
    omega

/-- A total no less than the rows at hand shows nothing of what is below them. -/
theorem max_eq_iff {rows left right : Int} (counted : 0 ≤ rows) :
    max rows (max 0 left) = max rows (max 0 right) ↔ left = right ∨ left ≤ rows ∧ right ≤ rows := by
  omega

/-- A wrapped sum is the whole one when that fits and the rest is a multiple of the
range. -/
theorem toI32_eq_iff {wrapped whole : Int} :
    toI32 wrapped = whole ↔ InI32 whole ∧ (4294967296 : Int) ∣ wrapped - whole := by
  constructor
  · rintro rfl
    exact ⟨toI32_in wrapped, Int.dvd_self_sub_bmod⟩
  · rintro ⟨fits, divides⟩
    rw [← toI32_of_in fits]
    exact Int.bmod_eq_bmod_iff_bmod_sub_eq_zero.mpr (Int.bmod_eq_zero_of_dvd divides)

/-- The cores show the same figures of an account exactly when the numbers behind
them meet; of an account unknown to them they show none. -/
theorem sameFigures_iff : SameFigures store accountId kind id unreadOnly ↔
    ∀ account, store.accounts.find? accountId = some account →
      FiguresMeet store accountId kind id unreadOnly account := by
  have counted : 0 ≤ ((store.shownFeeds accountId).map (Inbox.feedFigure store accountId)).sum := by
    refine List.sum_nonneg fun count listed => ?_
    obtain ⟨feed, _, rfl⟩ := List.mem_map.mp listed
    exact le_max_left 0 _
  have cut : ((store.shownFeeds accountId).map fun feed =>
      store.feedFigure accountId feed - Inbox.feedFigure store accountId feed).sum =
      ((store.shownFeeds accountId).map (store.feedFigure accountId)).sum -
        ((store.shownFeeds accountId).map (Inbox.feedFigure store accountId)).sum :=
    sum_map_sub _ _ _
  unfold SameFigures
  simp only [figures_localSnapshot, figures_go, unreadTotal_navigation, toOption_starredTotal,
    toOption_total_eq]
  cases found : store.accounts.find? accountId with
  | none => simp
  | some account =>
    constructor
    · intro same other named
      cases named
      have figures := same .storage .storage true []
      by_cases feeds : ∀ feed ∈ store.shownFeeds accountId, InI32 feed.remoteUnreadCount
      · by_cases stored : InI32 (store.selected accountId (.normalize kind id unreadOnly)).length ∧
          ∀ total, store.storedTotal accountId (.normalize kind id unreadOnly) = some total →
            InI32 total ∧ InI32 (store.pendingChange accountId (.normalize kind id unreadOnly))
        · rw [if_pos feeds, if_pos stored] at figures
          simp only [Option.map_some, bind, Option.bind, pure, Option.some.injEq, Prod.mk.injEq]
            at figures
          obtain ⟨total, unread, starred⟩ := figures
          have unread := toI32_eq_iff.mp unread
          have starred := (toI32_eq_iff.mp starred).1
          have rows := stored.1.2
          have whole := unread.1.2
          have most := starred.2
          refine ⟨feeds, whole, cut ▸ unread.2, by omega, by omega, stored.2, ?_⟩
          exact (max_eq_iff (Int.natCast_nonneg _)).mp total
        · rw [if_neg stored] at figures
          simp at figures
      · rw [if_neg feeds] at figures
        simp at figures
    · intro meet
      obtain ⟨feeds, unread, divides, starred, rows, stored, totals⟩ := meet account rfl
      intro _ _ _ _
      have fits : InI32 (store.selected accountId (.normalize kind id unreadOnly)).length := by
        unfold InI32
        omega
      rw [if_pos feeds, if_pos ⟨fits, stored⟩]
      rw [cut] at divides
      have sum := toI32_eq_iff.mpr ⟨⟨by omega, unread⟩, divides⟩
      have star : toI32 (max 0 (starredSum store accountId account)) =
          max 0 (starredSum store accountId account) := toI32_of_in (by unfold InI32; omega)
      have total := (max_eq_iff (Int.natCast_nonneg
        (store.selected accountId (.normalize kind id unreadOnly)).length)).mpr totals
      simp only [Option.map_some, bind, Option.bind, pure, sum, star, total]

end Figures

/-! ## Stored numbers

Which databases give the same figures is told from the rows alone: how many of the
pending ones are newly unread, read, starred or not, and the totals and counters
stored by the last refresh. -/

/-- How many more of the rows are `gained` than `lost`. -/
def balance (gained lost : EntryRow → Bool) (rows : List EntryRow) : Int :=
  rows.countP gained - rows.countP lost

namespace EntryRow
variable (row : EntryRow)

def newlyUnread : Bool := row.status = "unread" && row.remoteStatus = "read"

def newlyRead : Bool := row.status = "read" && row.remoteStatus = "unread"

def newlyStarred : Bool := row.starred && !row.remoteStarred

def newlyUnstarred : Bool := !row.starred && row.remoteStarred

end EntryRow

section Balance
variable (rows : List EntryRow)

theorem sum_eq_balance {delta : EntryRow → Int} {gained lost : EntryRow → Bool}
    (counts : ∀ row, delta row = (if gained row then 1 else 0) - if lost row then 1 else 0) :
    (rows.map delta).sum = balance gained lost rows := by
  unfold balance
  induction rows with
  | nil => rfl
  | cons row rest ih =>
    rw [List.map_cons, List.sum_cons, List.countP_cons, List.countP_cons, ih, counts row]
    push_cast
    omega

theorem sum_readDelta :
    (rows.map EntryRow.readDelta).sum = balance EntryRow.newlyUnread EntryRow.newlyRead rows := by
  refine sum_eq_balance rows fun row => ?_
  unfold EntryRow.readDelta EntryRow.newlyUnread EntryRow.newlyRead
  by_cases unread : row.status = "unread"
  · have other : row.status ≠ "read" := by simp [unread]
    simp [unread]
  · simp [unread]
    split <;> rfl

theorem sum_starredDelta : (rows.map EntryRow.starredDelta).sum =
    balance EntryRow.newlyStarred EntryRow.newlyUnstarred rows := by
  refine sum_eq_balance rows fun row => ?_
  unfold EntryRow.starredDelta EntryRow.newlyStarred EntryRow.newlyUnstarred
  cases row.starred <;> cases row.remoteStarred <;> rfl

end Balance

namespace Store
variable (store : Store) (accountId : String)

/-- The pending read changes in a scope: rows newly unread, less those newly read. It counts
stored rows, and computes no figure. -/
def readBalance (scope : EntryRow → Bool) : Int :=
  balance EntryRow.newlyUnread EntryRow.newlyRead
    ((store.pendingEntries accountId .read).filter scope)

/-- The pending stars of an account: rows newly starred, less those no longer so, counted
over stored rows. -/
def starredBalance : Int :=
  balance EntryRow.newlyStarred EntryRow.newlyUnstarred (store.pendingEntries accountId .starred)

/-- The row of the selection totals under a key. -/
def totalRow (kind : String) (id : Int) (unreadOnly : Bool) : Option SelectionTotalRow :=
  store.selectionTotals.find? (accountId, kind, id, unreadOnly)

/-- The change pending for a wire selection: that of the stars for starred articles,
that of the reads in its scope for unread ones, and none for the others. -/
def wireChange (kind : String) (id : Int) (unreadOnly : Bool) : Int :=
  if kind = "starred" then store.starredBalance accountId
  else if (Selection.normalize kind id unreadOnly).isUnreadOnly then
    store.readBalance accountId (inScope (.normalize kind id unreadOnly))
  else 0

theorem feedDelta_eq (feedId : Int) :
    Inbox.feedDelta store accountId feedId = store.readBalance accountId (·.feedId = feedId) :=
  sum_readDelta _

theorem starredSum_eq (account : AccountRow) : starredSum store accountId account =
    account.remoteStarredTotal + store.starredBalance accountId :=
  congrArg (account.remoteStarredTotal + ·) (sum_starredDelta _)

end Store

/-- What 32 bits make a feed show too much. A change that no `i32` holds is left out,
and a count that falls below their range comes back from above it. -/
def surplus (count change : Int) : Int :=
  if InI32 change then
    if count + change < -2147483648 then count + change + 4294967296 else 0
  else max 0 count - max 0 (count + change)

theorem surplus_eq {count change : Int} (readable : InI32 count)
    (whole : count + change ≤ 2147483647) :
    max 0 (toI32 (count + if InI32 change then change else 0)) - max 0 (count + change) =
      surplus count change := by
  unfold surplus
  by_cases fits : InI32 change
  · rw [if_pos fits, if_pos fits]
    by_cases below : count + change < -2147483648
    · obtain ⟨low, _⟩ := readable
      obtain ⟨least, _⟩ := fits
      have back : toI32 (count + change) = count + change + 4294967296 :=
        toI32_eq_iff.mpr ⟨⟨by omega, by omega⟩, ⟨-1, by omega⟩⟩
      rw [if_pos below, back]
      omega
    · rw [if_neg below, toI32_of_in ⟨by omega, whole⟩]
      omega
  · rw [if_neg fits, if_neg fits, add_zero, toI32_of_in readable]

/-- A stored total and its change, added in 32 bits and whole, show the same beside the
rows at hand. -/
theorem wrapped_total_iff {total change rows : Int} (stored : InI32 total) (corrected : InI32 change)
    (counted : 0 ≤ rows) (few : rows ≤ 2147483647) :
    toI32 (total + change) = total + change ∨
        toI32 (total + change) ≤ rows ∧ total + change ≤ rows ↔
      total + change ≤ 2147483647 ∧
        (total + change < -2147483648 → total + change + 4294967296 ≤ rows) := by
  obtain ⟨low, high⟩ := stored
  obtain ⟨least, most⟩ := corrected
  by_cases below : total + change < -2147483648
  · have back : toI32 (total + change) = total + change + 4294967296 :=
      toI32_eq_iff.mpr ⟨⟨by omega, by omega⟩, ⟨-1, by omega⟩⟩
    rw [back]
    omega
  · by_cases above : total + change ≤ 2147483647
    · rw [toI32_of_in ⟨by omega, above⟩]
      omega
    · have back : toI32 (total + change) = total + change - 4294967296 :=
        toI32_eq_iff.mpr ⟨⟨by omega, by omega⟩, ⟨1, by omega⟩⟩
      rw [back]
      omega

/-! ## The exact condition -/

section Agreement
variable (store : Store) (accountId kind : String) (id : Int) (unreadOnly : Bool)

/-- The two cores show the same figures of a wire selection, or none. Of an account
they know, they also come by the total alike: they look up the same stored row, and
the change this core adds to it is the one that the other adds. -/
structure SnapshotsAgree : Prop where
  figures : SameFigures store accountId kind id unreadOnly
  row : (store.accounts.find? accountId).isSome →
    store.totalRow accountId (selectionKind (.normalize kind id unreadOnly))
        (Selection.normalize kind id unreadOnly).scopeId
        (Selection.normalize kind id unreadOnly).isUnreadOnly =
      store.totalRow accountId (Inbox.Selection.mk kind id unreadOnly).normalized.kind
        (Inbox.Selection.mk kind id unreadOnly).normalized.id
        (Inbox.Selection.mk kind id unreadOnly).normalized.unreadOnly
  change : (store.accounts.find? accountId).isSome → ∀ row,
    store.totalRow accountId (selectionKind (.normalize kind id unreadOnly))
        (Selection.normalize kind id unreadOnly).scopeId
        (Selection.normalize kind id unreadOnly).isUnreadOnly = some row →
      store.selectionPendingDelta accountId (.normalize kind id unreadOnly) =
        .ok (Inbox.selectionPendingDelta store accountId
          (Inbox.Selection.mk kind id unreadOnly).normalized)

/-- What the rows of an account must be for the two cores to agree on a selection.
All articles under an id, and unread ones without the flag, have no total stored under
either of the keys that the cores use for them. Where a total of the starred unread
articles is stored, the pending stars come to as much as the pending reads. And the
numbers read or added in 32 bits fit them: the counter of every shown feed, the sum of
these counters as pending reads correct them, the starred counter with the pending
stars, the number of rows at hand, and the stored total with its change. -/
structure FiguresFit (account : AccountRow) : Prop where
  allTotals : kind = "all" → id ≠ 0 → store.totalRow accountId "all" 0 unreadOnly = none ∧
    store.totalRow accountId "all" id unreadOnly = none
  unreadTotals : kind = "unread" → unreadOnly = false →
    store.totalRow accountId "unread" 0 true = none ∧
      store.totalRow accountId "unread" 0 false = none
  sides : kind = "starred" → unreadOnly = true →
    (store.totalRow accountId "starred" 0 true).isSome →
      store.starredBalance accountId = store.readBalance accountId fun _ => true
  feeds : ∀ feed ∈ store.shownFeeds accountId, InI32 feed.remoteUnreadCount
  unread : ((store.shownFeeds accountId).map fun feed => max 0 (feed.remoteUnreadCount +
    store.readBalance accountId (·.feedId = feed.id))).sum ≤ 2147483647
  cut : (4294967296 : Int) ∣ ((store.shownFeeds accountId).map fun feed =>
    surplus feed.remoteUnreadCount (store.readBalance accountId (·.feedId = feed.id))).sum
  starred : account.remoteStarredTotal + store.starredBalance accountId ≤ 2147483647
  rows : (store.selected accountId (.normalize kind id unreadOnly)).length ≤ 2147483647
  total : ∀ row, store.totalRow accountId (selectionKind (.normalize kind id unreadOnly))
      (Selection.normalize kind id unreadOnly).scopeId
      (Selection.normalize kind id unreadOnly).isUnreadOnly = some row →
    InI32 row.total ∧ InI32 (store.wireChange accountId kind id unreadOnly) ∧
      row.total + store.wireChange accountId kind id unreadOnly ≤ 2147483647 ∧
      (row.total + store.wireChange accountId kind id unreadOnly < -2147483648 →
        row.total + store.wireChange accountId kind id unreadOnly + 4294967296 ≤
          (store.selected accountId (.normalize kind id unreadOnly)).length)

variable {store accountId kind id unreadOnly}

theorem pendingChange_eq : store.pendingChange accountId (.normalize kind id unreadOnly) =
    store.wireChange accountId kind id unreadOnly := by
  unfold Store.pendingChange Store.wireChange
  rcases normalize_normalized kind id unreadOnly with
    ⟨rfl, rust, _⟩ | ⟨rfl, rust, _⟩ | ⟨rfl, rust, _⟩ | ⟨rfl, rust, _⟩ | ⟨rfl, rust, _⟩ |
      ⟨_, _, other, rust, _⟩
  case inr.inr.inl =>
    rw [rust, if_pos rfl]
    exact (congrArg (fun rows => (rows.map EntryRow.starredDelta).sum) (List.filter_true _)).trans
      (sum_starredDelta _)
  case inr.inr.inr.inr.inr =>
    rw [rust, if_neg other]
    exact sum_readDelta _
  all_goals
    rw [rust, if_neg (by decide)]
    cases unreadOnly with
    | true => exact sum_readDelta _
    | false => first | rfl | exact sum_readDelta _

theorem goChange_eq : Inbox.selectionPendingDelta store accountId
      (Inbox.Selection.mk kind id unreadOnly).normalized =
    if kind = "starred" ∧ unreadOnly = true then store.readBalance accountId fun _ => true
    else store.wireChange accountId kind id unreadOnly := by
  rw [← pendingChange_eq]
  by_cases sides : kind = "starred" ∧ unreadOnly = true
  · obtain ⟨rfl, rfl⟩ := sides
    exact sum_readDelta _
  rw [if_neg sides]
  have scope : Inbox.inScope (Inbox.Selection.mk kind id unreadOnly).normalized =
      Store.inScope (Selection.normalize kind id unreadOnly) :=
    funext (inScope_normalized kind id unreadOnly)
  unfold Inbox.selectionPendingDelta Store.pendingChange Store.pendingDelta
  rw [scope]
  rcases normalize_normalized kind id unreadOnly with
    ⟨_, rust, go⟩ | ⟨_, rust, go⟩ | ⟨rfl, rust, go⟩ | ⟨_, rust, go⟩ | ⟨_, rust, go⟩ |
      ⟨_, _, _, rust, go⟩
  case inr.inr.inl =>
    cases unreadOnly with
    | true => exact absurd ⟨rfl, rfl⟩ sides
    | false =>
      rw [rust, go]
      rfl
  all_goals
    rw [rust, go]
    cases unreadOnly <;> rfl

/-- Two keys find the same row when neither is stored, or they are one, since a row carries
its key. -/
theorem totalRow_eq_iff {kind other : String} {id otherId : Int} {flag otherFlag : Bool} :
    store.totalRow accountId kind id flag = store.totalRow accountId other otherId otherFlag ↔
      (kind, id, flag) = (other, otherId, otherFlag) ∨
        store.totalRow accountId kind id flag = none ∧
          store.totalRow accountId other otherId otherFlag = none := by
  constructor
  · intro same
    cases found : store.totalRow accountId kind id flag with
    | none => exact .inr ⟨rfl, same ▸ found⟩
    | some row =>
      have key := Table.key_of_find? found
      have again := Table.key_of_find? (same ▸ found)
      exact .inl (Prod.mk.inj (key.symm.trans again)).2
  · rintro (same | ⟨absent, missing⟩)
    · simp only [Prod.mk.injEq] at same
      obtain ⟨rfl, rfl, rfl⟩ := same
      rfl
    · rw [absent, missing]

/-- The cores look up the same stored total unless their keys differ and either is
stored. -/
theorem same_totalRow_iff :
    store.totalRow accountId (selectionKind (.normalize kind id unreadOnly))
        (Selection.normalize kind id unreadOnly).scopeId
        (Selection.normalize kind id unreadOnly).isUnreadOnly =
      store.totalRow accountId (Inbox.Selection.mk kind id unreadOnly).normalized.kind
        (Inbox.Selection.mk kind id unreadOnly).normalized.id
        (Inbox.Selection.mk kind id unreadOnly).normalized.unreadOnly ↔
    (kind = "all" → id ≠ 0 → store.totalRow accountId "all" 0 unreadOnly = none ∧
      store.totalRow accountId "all" id unreadOnly = none) ∧
    (kind = "unread" → unreadOnly = false → store.totalRow accountId "unread" 0 true = none ∧
      store.totalRow accountId "unread" 0 false = none) := by
  rw [totalRow_eq_iff]
  rcases normalize_normalized kind id unreadOnly with
    ⟨rfl, rust, go⟩ | ⟨rfl, rust, go⟩ | ⟨rfl, rust, go⟩ | ⟨rfl, rust, go⟩ | ⟨rfl, rust, go⟩ |
      ⟨all, unread, _, rust, go⟩
  case inl =>
    rw [rust, go]
    by_cases zero : id = 0
    · cases unreadOnly <;> simp [zero, selectionKind, Selection.scopeId, Selection.isUnreadOnly]
    · cases unreadOnly <;>
        simp [zero, Ne.symm zero, selectionKind, Selection.scopeId, Selection.isUnreadOnly]
  case inr.inr.inr.inr.inr =>
    rw [rust, go]
    simp [all, unread, selectionKind, Selection.scopeId, Selection.isUnreadOnly]
  all_goals
    rw [rust, go]
    cases unreadOnly <;> simp [selectionKind, Selection.scopeId, Selection.isUnreadOnly]

theorem rustTotal_eq {row : SelectionTotalRow}
    (found : store.totalRow accountId (selectionKind (.normalize kind id unreadOnly))
      (Selection.normalize kind id unreadOnly).scopeId
      (Selection.normalize kind id unreadOnly).isUnreadOnly = some row) :
    store.storedTotal accountId (.normalize kind id unreadOnly) = some row.total ∧
      rustTotal store accountId (.normalize kind id unreadOnly) =
        toI32 (row.total + store.wireChange accountId kind id unreadOnly) := by
  have stored : store.storedTotal accountId (.normalize kind id unreadOnly) = some row.total :=
    congrArg (Option.map SelectionTotalRow.total) found
  refine ⟨stored, ?_⟩
  unfold rustTotal
  rw [stored, pendingChange_eq]

/-- The other core's total, once both look up the same row and add the same change. -/
theorem goTotal_eq {row : SelectionTotalRow}
    (found : store.totalRow accountId (Inbox.Selection.mk kind id unreadOnly).normalized.kind
      (Inbox.Selection.mk kind id unreadOnly).normalized.id
      (Inbox.Selection.mk kind id unreadOnly).normalized.unreadOnly = some row)
    (change : Inbox.selectionPendingDelta store accountId
      (Inbox.Selection.mk kind id unreadOnly).normalized =
        store.wireChange accountId kind id unreadOnly) :
    goTotal store accountId (Inbox.Selection.mk kind id unreadOnly).normalized =
      row.total + store.wireChange accountId kind id unreadOnly := by
  have stored : Inbox.storedTotal store accountId
      (Inbox.Selection.mk kind id unreadOnly).normalized = some row.total :=
    congrArg (Option.map SelectionTotalRow.total) found
  unfold goTotal
  rw [stored, ← change]

/-- The changes added are the same where a row is found, exactly when the pending stars
balance the pending reads for starred unread articles, and an `i32` holds the change. -/
theorem same_change_iff {row : SelectionTotalRow}
    (found : store.totalRow accountId (selectionKind (.normalize kind id unreadOnly))
      (Selection.normalize kind id unreadOnly).scopeId
      (Selection.normalize kind id unreadOnly).isUnreadOnly = some row) :
    store.selectionPendingDelta accountId (.normalize kind id unreadOnly) =
        .ok (Inbox.selectionPendingDelta store accountId
          (Inbox.Selection.mk kind id unreadOnly).normalized) ↔
      InI32 (store.wireChange accountId kind id unreadOnly) ∧
        (kind = "starred" → unreadOnly = true →
          (store.totalRow accountId "starred" 0 true).isSome →
            store.starredBalance accountId = store.readBalance accountId fun _ => true) := by
  rw [Store.selectionPendingDelta_read, pendingChange_eq, goChange_eq]
  unfold Store.readI32
  by_cases fits : InI32 (store.wireChange accountId kind id unreadOnly)
  · rw [if_pos fits, Except.ok.injEq]
    by_cases sides : kind = "starred" ∧ unreadOnly = true
    · obtain ⟨rfl, rfl⟩ := sides
      have held : (store.totalRow accountId "starred" 0 true).isSome :=
        Option.isSome_iff_exists.mpr ⟨row, found⟩
      have stars : store.wireChange accountId "starred" id true = store.starredBalance accountId :=
        if_pos rfl
      rw [stars] at fits ⊢
      simp [fits, held]
    · rw [if_neg sides]
      simp only [fits, true_and, true_iff]
      exact fun starred flag => absurd ⟨starred, flag⟩ sides
  · rw [if_neg fits]
    simp [fits]

theorem sum_le_of_mem {items : List FeedRow} {figure : FeedRow → Int} {most : Int}
    (nonnegative : ∀ feed ∈ items, 0 ≤ figure feed) (bounded : (items.map figure).sum ≤ most)
    {feed : FeedRow} (listed : feed ∈ items) : figure feed ≤ most := by
  refine le_trans (List.single_le_sum ?_ _ (List.mem_map.mpr ⟨feed, listed, rfl⟩)) bounded
  intro count counted
  obtain ⟨other, held, rfl⟩ := List.mem_map.mp counted
  exact nonnegative other held

/-- Given the bounds on the feeds, what is cut off them is the surplus of each. -/
theorem cut_eq (feeds : ∀ feed ∈ store.shownFeeds accountId, InI32 feed.remoteUnreadCount)
    (unread : ((store.shownFeeds accountId).map fun feed => max 0 (feed.remoteUnreadCount +
      store.readBalance accountId (·.feedId = feed.id))).sum ≤ 2147483647) :
    ((store.shownFeeds accountId).map fun feed =>
        store.feedFigure accountId feed - Inbox.feedFigure store accountId feed) =
      (store.shownFeeds accountId).map fun feed =>
        surplus feed.remoteUnreadCount (store.readBalance accountId (·.feedId = feed.id)) := by
  refine List.map_congr_left fun feed listed => ?_
  have whole : max 0 (feed.remoteUnreadCount +
      store.readBalance accountId (·.feedId = feed.id)) ≤ 2147483647 :=
    sum_le_of_mem (fun _ _ => le_max_left 0 _) unread listed
  unfold Store.feedFigure Inbox.feedFigure
  rw [Store.feedDelta_eq]
  exact surplus_eq (feeds feed listed) (le_trans (le_max_right 0 _) whole)

theorem goFigures_eq : (store.shownFeeds accountId).map (Inbox.feedFigure store accountId) =
    (store.shownFeeds accountId).map fun feed => max 0 (feed.remoteUnreadCount +
      store.readBalance accountId (·.feedId = feed.id)) := by
  refine List.map_congr_left fun feed _ => ?_
  unfold Inbox.feedFigure
  rw [Store.feedDelta_eq]

theorem goChange_of_same {row : SelectionTotalRow}
    (found : store.totalRow accountId (selectionKind (.normalize kind id unreadOnly))
      (Selection.normalize kind id unreadOnly).scopeId
      (Selection.normalize kind id unreadOnly).isUnreadOnly = some row)
    (same : store.selectionPendingDelta accountId (.normalize kind id unreadOnly) =
      .ok (Inbox.selectionPendingDelta store accountId
        (Inbox.Selection.mk kind id unreadOnly).normalized)) :
    Inbox.selectionPendingDelta store accountId (Inbox.Selection.mk kind id unreadOnly).normalized =
      store.wireChange accountId kind id unreadOnly := by
  have fits := ((same_change_iff found).mp same).1
  rw [Store.selectionPendingDelta_read, pendingChange_eq] at same
  unfold Store.readI32 at same
  rw [if_pos fits] at same
  exact (Except.ok.inj same).symm

/-- Figures that meet, with one stored row and one change behind them, are those of rows
that fit. -/
theorem FiguresFit.of_agree {account : AccountRow}
    (agree : SnapshotsAgree store accountId kind id unreadOnly)
    (known : store.accounts.find? accountId = some account) :
    FiguresFit store accountId kind id unreadOnly account := by
  have meet := sameFigures_iff.mp agree.figures account known
  have named : (store.accounts.find? accountId).isSome := Option.isSome_iff_exists.mpr ⟨_, known⟩
  have rows := agree.row named
  have keys := same_totalRow_iff.mp rows
  have unread := meet.unread
  rw [goFigures_eq] at unread
  have starred := meet.starred
  rw [Store.starredSum_eq] at starred
  refine ⟨keys.1, keys.2, ?sides, meet.feeds, unread, ?cut, starred, meet.rows, ?total⟩
  case sides =>
    rintro rfl rfl held
    obtain ⟨row, found⟩ := Option.isSome_iff_exists.mp held
    exact ((same_change_iff found).mp (agree.change named row found)).2 rfl rfl held
  case cut =>
    have cut := meet.cut
    rwa [cut_eq meet.feeds unread] at cut
  case total =>
    intro row found
    have same := agree.change named row found
    have corrected := ((same_change_iff found).mp same).1
    obtain ⟨held, rust⟩ := rustTotal_eq found
    have stored := (meet.stored row.total held).1
    have totals := meet.totals
    rw [rust, goTotal_eq (rows.symm.trans found) (goChange_of_same found same)] at totals
    exact ⟨stored, corrected, (wrapped_total_iff stored corrected (Int.natCast_nonneg _)
      (by exact_mod_cast meet.rows)).mp totals⟩

section Fit
variable {account : AccountRow} (fit : FiguresFit store accountId kind id unreadOnly account)
include fit

theorem FiguresFit.sameRow :
    store.totalRow accountId (selectionKind (.normalize kind id unreadOnly))
        (Selection.normalize kind id unreadOnly).scopeId
        (Selection.normalize kind id unreadOnly).isUnreadOnly =
      store.totalRow accountId (Inbox.Selection.mk kind id unreadOnly).normalized.kind
        (Inbox.Selection.mk kind id unreadOnly).normalized.id
        (Inbox.Selection.mk kind id unreadOnly).normalized.unreadOnly :=
  same_totalRow_iff.mpr ⟨fit.allTotals, fit.unreadTotals⟩

theorem FiguresFit.sameChange {row : SelectionTotalRow}
    (found : store.totalRow accountId (selectionKind (.normalize kind id unreadOnly))
      (Selection.normalize kind id unreadOnly).scopeId
      (Selection.normalize kind id unreadOnly).isUnreadOnly = some row) :
    store.selectionPendingDelta accountId (.normalize kind id unreadOnly) =
      .ok (Inbox.selectionPendingDelta store accountId
        (Inbox.Selection.mk kind id unreadOnly).normalized) :=
  (same_change_iff found).mpr ⟨(fit.total row found).2.1, fit.sides⟩

/-- The totals of rows that fit come to the same, or to no more than the rows at hand. With
nothing stored both are 0; with a stored row both add one change to it. -/
theorem FiguresFit.sameTotals :
    rustTotal store accountId (.normalize kind id unreadOnly) =
        goTotal store accountId (Inbox.Selection.mk kind id unreadOnly).normalized ∨
      rustTotal store accountId (.normalize kind id unreadOnly) ≤
          (store.selected accountId (.normalize kind id unreadOnly)).length ∧
        goTotal store accountId (Inbox.Selection.mk kind id unreadOnly).normalized ≤
          (store.selected accountId (.normalize kind id unreadOnly)).length := by
  have rows := fit.sameRow
  cases found : store.totalRow accountId (selectionKind (.normalize kind id unreadOnly))
      (Selection.normalize kind id unreadOnly).scopeId
      (Selection.normalize kind id unreadOnly).isUnreadOnly with
  | none =>
    have rust : store.storedTotal accountId (.normalize kind id unreadOnly) = none :=
      congrArg (Option.map SelectionTotalRow.total) found
    have go : Inbox.storedTotal store accountId
        (Inbox.Selection.mk kind id unreadOnly).normalized = none :=
      congrArg (Option.map SelectionTotalRow.total) (rows.symm.trans found)
    left
    unfold rustTotal goTotal
    rw [rust, go]
  | some row =>
    obtain ⟨stored, corrected, most, least⟩ := fit.total row found
    rw [(rustTotal_eq found).2,
      goTotal_eq (rows.symm.trans found) (goChange_of_same found (fit.sameChange found))]
    exact (wrapped_total_iff stored corrected (Int.natCast_nonneg _)
      (by exact_mod_cast fit.rows)).mpr ⟨most, least⟩

/-- Rows that fit are numbers that meet, figure by figure. -/
theorem FiguresFit.meet : FiguresMeet store accountId kind id unreadOnly account := by
  refine ⟨fit.feeds, ?unread, ?cut, ?starred, fit.rows, ?stored, fit.sameTotals⟩
  case unread =>
    rw [goFigures_eq]
    exact fit.unread
  case cut =>
    rw [cut_eq fit.feeds fit.unread]
    exact fit.cut
  case starred =>
    rw [Store.starredSum_eq]
    exact fit.starred
  case stored =>
    intro total held
    obtain ⟨row, found, rfl⟩ := Option.map_eq_some_iff.mp held
    obtain ⟨stored, corrected, _⟩ := fit.total row found
    rw [pendingChange_eq]
    exact ⟨stored, corrected⟩

end Fit

/-- Where the rows of a known account fit, the cores show the same figures and come by them in
the same way. -/
theorem SnapshotsAgree.of_fit
    (fit : ∀ account, store.accounts.find? accountId = some account →
      FiguresFit store accountId kind id unreadOnly account) :
    SnapshotsAgree store accountId kind id unreadOnly := by
  refine ⟨sameFigures_iff.mpr fun account known => (fit account known).meet, ?row, ?change⟩
  case row =>
    intro named
    obtain ⟨account, known⟩ := Option.isSome_iff_exists.mp named
    exact (fit account known).sameRow
  case change =>
    intro named row found
    obtain ⟨account, known⟩ := Option.isSome_iff_exists.mp named
    exact (fit account known).sameChange found

/-- Of a selection that both cores store totals under one key for and correct alike, they
agree over every database whose numbers and their sums fit 32 bits. -/
theorem SnapshotsAgree.of_aligned (aligned : Aligned kind id unreadOnly)
    (feeds : ∀ feed ∈ store.shownFeeds accountId, InI32 feed.remoteUnreadCount ∧
      InI32 (store.readBalance accountId (·.feedId = feed.id)) ∧
        -2147483648 ≤ feed.remoteUnreadCount + store.readBalance accountId (·.feedId = feed.id))
    (unread : ((store.shownFeeds accountId).map fun feed => max 0 (feed.remoteUnreadCount +
      store.readBalance accountId (·.feedId = feed.id))).sum ≤ 2147483647)
    (starred : ∀ account, store.accounts.find? accountId = some account →
      account.remoteStarredTotal + store.starredBalance accountId ≤ 2147483647)
    (rows : (store.selected accountId (.normalize kind id unreadOnly)).length ≤ 2147483647)
    (total : ∀ row, store.totalRow accountId (selectionKind (.normalize kind id unreadOnly))
        (Selection.normalize kind id unreadOnly).scopeId
        (Selection.normalize kind id unreadOnly).isUnreadOnly = some row →
      InI32 row.total ∧ InI32 (store.wireChange accountId kind id unreadOnly) ∧
        InI32 (row.total + store.wireChange accountId kind id unreadOnly)) :
    SnapshotsAgree store accountId kind id unreadOnly := by
  obtain ⟨all, unreadFlag, starredFlag⟩ := aligned
  refine .of_fit fun account known => ⟨?allTotals, ?unreadTotals, ?sides,
    fun feed listed => (feeds feed listed).1, unread, ?cut, starred account known, rows, ?total⟩
  case allTotals => exact fun named other => absurd (all named) other
  case unreadTotals =>
    intro named flag
    rw [unreadFlag named] at flag
    cases flag
  case sides =>
    intro named flag
    rw [starredFlag named] at flag
    cases flag
  case cut =>
    have none : ∀ feed ∈ store.shownFeeds accountId, surplus feed.remoteUnreadCount
        (store.readBalance accountId (·.feedId = feed.id)) = 0 := by
      intro feed listed
      obtain ⟨_, change, above⟩ := feeds feed listed
      unfold surplus
      rw [if_pos change, if_neg (by omega)]
    rw [List.map_congr_left none, List.map_const', List.sum_replicate]
    simp
  case total =>
    intro row found
    obtain ⟨stored, corrected, low, high⟩ := total row found
    exact ⟨stored, corrected, high, fun below => absurd low (by omega)⟩

end Agreement

/-- For every database and every wire selection the two cores agree, on the figures, on the
stored total they look up and on the change they add to it, exactly when the rows of the
account fit. Nothing is asked of an account that is unknown, which both refuse. -/
theorem figures_agree_iff (store : Store) (accountId kind : String) (id : Int) (unreadOnly : Bool) :
    SnapshotsAgree store accountId kind id unreadOnly ↔
      ∀ account, store.accounts.find? accountId = some account →
        FiguresFit store accountId kind id unreadOnly account :=
  ⟨fun agree _ known => .of_agree agree known, .of_fit⟩

/-! ## Starred and unread -/

/-- Three starred unread articles, one of them listed. -/
def starredUnread : SnapshotData :=
  { oneUnread with
    selection := .starred true
    entries := oneUnread.entries.map fun entry => { entry with starred := true }
    total := 3 }

/-- The one listed is marked read. -/
def readStarredStore : Store :=
  [.ensureAccount "account" "", .applySnapshot "t" "account" starredUnread,
    .setRead (fun _ => "t") "id" "account" [1] true false].foldl
    (fun store (operation : Operation) => store.commit (operation.run store)) .empty

/-- One core takes the pending read off the total of starred unread articles, the other
looks at pending stars, and the totals shown are not the same. -/
theorem starred_unread_totals_differ : ¬ SameFigures readStarredStore "account" "starred" 0 true := by
  intro same
  have account : (readStarredStore.accounts.find? "account").isSome := by decide
  obtain ⟨row, found⟩ := Option.isSome_iff_exists.mp account
  have meet := sameFigures_iff.mp same row found
  have rust : rustTotal readStarredStore "account" (.normalize "starred" 0 true) = 3 := by decide
  have go : goTotal readStarredStore "account" (Inbox.Selection.mk "starred" 0 true).normalized = 2 := by
    decide
  have rows : (readStarredStore.selected "account" (.normalize "starred" 0 true)).length = 0 := by decide
  have totals := meet.totals
  rw [rust, go, rows] at totals
  omega

end FluxBar
