import Mathlib.Data.List.Basic
import Mathlib.Data.List.Pairwise
import Mathlib.Order.Lattice
import Mathlib.Order.Defs.LinearOrder

/-! Stable sorting by a key: what the sort of a list is, however it is computed. It has the
items of the list, in the order of their keys, and those of one key as the list has them. -/
namespace StableSort
variable {α β κ : Type} [LinearOrder κ] {key : α → κ} {items sorted other : List α}

/-- The stable sort of some items by a key: the same items, in the order of their keys, and
among those of one key in the order they came in. There is just one such list. -/
structure SortedBy (key : α → κ) (items sorted : List α) : Prop where
  perm : sorted.Perm items
  ordered : sorted.Pairwise fun early late => key early ≤ key late
  ties : ∀ value, sorted.filter (fun item => key item = value) =
    items.filter fun item => key item = value

theorem mergeSort_pair (before : α → α → Bool) (first second : α) :
    [first, second].mergeSort before =
      if before first second then [first, second] else [second, first] := by
  simp [List.mergeSort, List.MergeSort.Internal.splitInTwo, List.merge]

theorem sortedBy_mergeSort (key : α → κ) (items : List α) :
    SortedBy key items (items.mergeSort fun left right => decide (key left ≤ key right)) := by
  let before (left right : α) : Bool := key left ≤ key right
  have trans : ∀ first second third, before first second = true → before second third = true →
      before first third = true := by
    intro first second third earlier later
    exact decide_eq_true (le_trans (of_decide_eq_true earlier) (of_decide_eq_true later))
  have total : ∀ first second, (before first second || before second first) = true := by
    intro first second
    simpa [before] using le_total (key first) (key second)
  refine ⟨List.mergeSort_perm _ _, (List.pairwise_mergeSort trans total _).imp of_decide_eq_true,
    fun value => ?_⟩
  -- the items of one key are a sorted part of the list, which the sort keeps together
  have alike : (items.filter fun item => key item = value).Pairwise (before · · = true) := by
    refine List.pairwise_of_forall_mem_list fun left held right heldRight => decide_eq_true ?_
    have same := of_decide_eq_true (List.mem_filter.mp held).2
    have sameRight := of_decide_eq_true (List.mem_filter.mp heldRight).2
    rw [same, sameRight]
  have kept := (List.sublist_mergeSort trans total alike List.filter_sublist).filter
    fun item => decide (key item = value)
  rw [List.filter_filter] at kept
  simp only [Bool.and_self] at kept
  exact (kept.eq_of_length_le ((List.mergeSort_perm _ _).filter _).length_eq.le).symm

/-- Where a list is in two orders at once, what is strictly before in one is not after in the
other. -/
theorem le_of_lt_of_pairwise {ι : Type} [Preorder ι] {moment : α → ι}
    (moments : items.Pairwise fun early late => moment early < moment late)
    (ordered : items.Pairwise fun early late => key early ≤ key late) {early late : α}
    (held : early ∈ items) (heldLate : late ∈ items) (before : moment early < moment late) :
    key early ≤ key late := by
  have apart : early ≠ late := fun same => before.ne (by rw [same])
  let aligned (left right : α) : Prop :=
    (moment left < moment right → key left ≤ key right) ∧
      (moment right < moment left → key right ≤ key left)
  have symm : Std.Symm aligned := ⟨fun _ _ => And.symm⟩
  have both : items.Pairwise aligned := (moments.and ordered).imp fun ⟨less, keys⟩ =>
    ⟨fun _ => keys, fun reverse => absurd reverse (lt_asymm less)⟩
  exact (both.forall held heldLate apart).1 before

namespace SortedBy

/-- A map that keeps the keys keeps the sort, so rows can be sorted before or after they are
turned into something else. -/
theorem map {key' : β → κ} (sort : SortedBy key items sorted) {change : α → β}
    (same : ∀ item ∈ items, key' (change item) = key item) :
    SortedBy key' (items.map change) (sorted.map change) := by
  refine ⟨sort.perm.map change, ?_, fun value => ?_⟩
  · refine List.pairwise_map.mpr (sort.ordered.imp_of_mem fun held heldLate order => ?_)
    rw [same _ (sort.perm.mem_iff.mp held), same _ (sort.perm.mem_iff.mp heldLate)]
    exact order
  · have filters : ∀ part : List α, (∀ item ∈ part, item ∈ items) →
        (part.map change).filter (fun item => key' item = value) =
          (part.filter fun item => key item = value).map change := by
      intro part inside
      rw [List.filter_map]
      refine congrArg (List.map change) (List.filter_congr fun item held => ?_)
      simp [same item (inside item held)]
    rw [filters sorted fun item held => sort.perm.mem_iff.mp held, filters items fun _ => id,
      sort.ties]

end SortedBy
end StableSort
