import Mathlib.Data.List.Basic

/-! Lists told at one of their members: what is counted or picked of them, what some member is
like, and what holds of all. -/
namespace Places
variable {α β : Type}

theorem countP_place (counts : α → Bool) (left right : List α) (item : α) :
    (left ++ item :: right).countP counts =
      left.countP counts + right.countP counts + (counts item).toNat := by
  rw [List.countP_append, List.countP_cons]
  cases counts item <;> simp [Nat.add_assoc]

theorem any_place (tells : α → Bool) (left right : List α) (item : α) :
    (left ++ item :: right).any tells = ((left ++ right).any tells || tells item) := by
  simp only [List.any_append, List.any_cons]
  cases tells item <;> simp

theorem forall_mem_place {holds : α → Prop} {left right : List α} {item : α} :
    (∀ other ∈ left ++ item :: right, holds other) ↔
      holds item ∧ ∀ other ∈ left ++ right, holds other := by
  simp only [List.forall_mem_append, List.forall_mem_cons]
  exact and_left_comm

theorem count_filterMap_place [BEq β] {pick : α → Option β} {left right : List α} {item : α}
    (value : β) : ((left ++ item :: right).filterMap pick).count value =
      ((left ++ right).filterMap pick).count value + (pick item).toList.count value := by
  rw [List.filterMap_append, List.filterMap_cons, List.filterMap_append]
  cases pick item <;> simp [List.count_cons, Nat.add_assoc]

end Places
