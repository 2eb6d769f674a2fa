import Mathlib.Order.Lattice
import Mathlib.Data.List.Basic

/-! The first items of a list sorted by their keys, where another order was meant.
The prefix is in the other order, and nothing left out should have come before it,
exactly when the two orders agree wherever the first item of a pair is early
enough to be in the prefix. -/
namespace SortedPrefix
variable {κ : Type} [LinearOrder κ] {meant : κ → κ → Prop} {keys : List κ} {limit : Nat}

/-- A prefix in the order meant: its own items are in that order, and nothing has been left
out that precedes an item of the prefix. -/
structure Meets (meant : κ → κ → Prop) (keys : List κ) (limit : Nat) : Prop where
  ordered : (keys.take limit).Pairwise meant
  kept : ∀ early ∈ keys.take limit, ∀ late ∈ keys.drop limit, meant early late

/-- The orders agree on the pairs that matter, those whose first item is in the prefix:
where the sort puts one item before another, so does the order meant. -/
def Agrees (meant : κ → κ → Prop) (keys : List κ) (limit : Nat) : Prop :=
  ∀ early ∈ keys, ∀ late ∈ keys, early < late → keys.countP (· < early) < limit → meant early late

omit [LinearOrder κ] in
theorem meets_cons {key : κ} : Meets meant (key :: keys) (limit + 1) ↔
    (∀ late ∈ keys, meant key late) ∧ Meets meant keys limit := by
  have split : ∀ late, late ∈ keys ↔ late ∈ keys.take limit ∨ late ∈ keys.drop limit := by
    intro late
    rw [← List.mem_append, List.take_append_drop]
  constructor
  · rintro ⟨ordered, kept⟩
    rw [List.take_succ_cons, List.pairwise_cons] at ordered
    rw [List.take_succ_cons, List.drop_succ_cons, List.forall_mem_cons] at kept
    refine ⟨fun late listed => ?_, ordered.2, kept.2⟩
    rcases (split late).mp listed with early | late
    · exact ordered.1 _ early
    · exact kept.1 _ late
  · rintro ⟨first, ordered, kept⟩
    constructor
    · rw [List.take_succ_cons, List.pairwise_cons]
      exact ⟨fun late listed => first late ((split late).mpr (.inl listed)), ordered⟩
    · rw [List.take_succ_cons, List.drop_succ_cons, List.forall_mem_cons]
      exact ⟨fun late listed => first late ((split late).mpr (.inr listed)), kept⟩

theorem agrees_cons {key : κ} (least : ∀ late ∈ keys, key ≤ late)
    (same : ∀ late ∈ keys, late = key → meant key late) :
    Agrees meant (key :: keys) (limit + 1) ↔
      (∀ late ∈ keys, meant key late) ∧ Agrees meant keys limit := by
  have none : keys.countP (· < key) = 0 :=
    List.countP_eq_zero.mpr fun late listed => by simpa using least late listed
  constructor
  · intro agrees
    constructor
    · intro late listed
      rcases eq_or_lt_of_le (least late listed) with equal | less
      · exact same late listed equal.symm
      · refine agrees key List.mem_cons_self late (List.mem_cons_of_mem key listed) less ?_
        rw [List.countP_cons, none]
        simp
    · intro early earlyListed late lateListed less count
      refine agrees early (List.mem_cons_of_mem key earlyListed) late
        (List.mem_cons_of_mem key lateListed) less ?_
      rw [List.countP_cons]
      split <;> omega
  · rintro ⟨first, agrees⟩ early earlyListed late lateListed less count
    rcases List.mem_cons.mp lateListed with rfl | later
    · rcases List.mem_cons.mp earlyListed with rfl | earlier
      · exact absurd less (lt_irrefl _)
      · exact absurd less (not_lt_of_ge (least early earlier))
    · rcases List.mem_cons.mp earlyListed with rfl | earlier
      · exact first late later
      · rcases eq_or_lt_of_le (least early earlier) with equal | above
        · exact equal ▸ first late later
        · rw [List.countP_cons, if_pos (decide_eq_true above)] at count
          exact agrees early earlier late later less (Nat.lt_of_succ_lt_succ count)

/-- A sorted list shows its prefix in the order meant exactly when the two orders agree on
the pairs that matter. Equal keys are never out of the order meant, so only pairs that the
sort tells apart are asked about. -/
theorem meets_iff_agrees (sorted : keys.Pairwise (· ≤ ·)) (refl : ∀ key ∈ keys, meant key key) :
    Meets meant keys limit ↔ Agrees meant keys limit := by
  induction keys generalizing limit with
  | nil =>
    refine iff_of_true ⟨?_, ?_⟩ ?_
    · rw [List.take_nil]
      exact List.Pairwise.nil
    · rw [List.take_nil]
      exact fun _ listed => (by cases listed)
    · exact fun _ listed => (by cases listed)
  | cons key rest ih =>
    rw [List.pairwise_cons] at sorted
    rw [List.forall_mem_cons] at refl
    cases limit with
    | zero =>
      refine iff_of_true ⟨?_, ?_⟩ ?_
      · exact List.Pairwise.nil
      · exact fun _ listed => (by cases listed)
      · exact fun _ _ _ _ _ count => absurd count (Nat.not_lt_zero _)
    | succ limit =>
      rw [meets_cons, agrees_cons sorted.1 (fun late _ equal => equal ▸ refl.1),
        ih sorted.2 refl.2]

end SortedPrefix
