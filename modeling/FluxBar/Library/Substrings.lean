import Mathlib.Data.List.Infix

/-! Where a text first contains another: what stands before the first occurrence, and that
no occurrence begins there. -/
namespace Substrings
variable {α : Type} [DecidableEq α] {pattern text : List α}

/-- The place of the first occurrence of a pattern, counted from the front; an empty pattern
occurs at once. -/
def find (pattern : List α) : List α → Option Nat
  | [] => if pattern = [] then some 0 else none
  | c :: rest =>
    if pattern.isPrefixOf (c :: rest) then some 0 else (find pattern rest).map (· + 1)

theorem find_eq_none : find pattern text = none ↔ ¬ pattern <:+: text := by
  induction text with
  | nil => by_cases empty : pattern = [] <;> simp [find, empty]
  | cons c rest ih =>
    rw [find, List.infix_cons_iff, ← List.isPrefixOf_iff_prefix]
    by_cases here : pattern.isPrefixOf (c :: rest) = true
    · simp [here]
    · simp [here, ih]

/-- The text falls apart at the place that was found: what stands before, the pattern, and
the rest. Up to the end of this occurrence there is no other, so it is the first. -/
theorem find_eq_some {place : Nat} (found : find pattern text = some place) :
    ∃ before after, text = before ++ pattern ++ after ∧ before.length = place ∧
      (pattern ≠ [] → ¬ pattern <:+: before ++ pattern.dropLast) := by
  induction text generalizing place with
  | nil =>
    by_cases empty : pattern = []
    · subst empty
      cases found
      exact ⟨[], [], rfl, rfl, fun some => absurd rfl some⟩
    · simp [find, empty] at found
  | cons c rest ih =>
    rw [find] at found
    by_cases here : pattern.isPrefixOf (c :: rest) = true
    · rw [if_pos here] at found
      cases found
      obtain ⟨after, same⟩ := List.isPrefixOf_iff_prefix.mp here
      refine ⟨[], after, same.symm, rfl, fun some within => ?_⟩
      have longer := within.length_le
      have shorter := List.length_pos_iff.mpr some
      simp only [List.nil_append, List.length_dropLast] at longer
      omega
    · rw [if_neg here] at found
      obtain ⟨place, later, rfl⟩ := Option.map_eq_some_iff.mp found
      obtain ⟨before, after, rfl, rfl, alone⟩ := ih later
      refine ⟨c :: before, after, rfl, rfl, fun some within => ?_⟩
      rw [List.cons_append, List.infix_cons_iff] at within
      refine within.elim (fun first => here ?_) (alone some)
      refine List.isPrefixOf_iff_prefix.mpr (first.trans ?_)
      have parts : pattern.dropLast <+: pattern := List.dropLast_prefix pattern
      rw [List.append_assoc]
      exact (List.prefix_append_right_inj (c :: before)).mpr
        (parts.trans (List.prefix_append pattern after))

end Substrings
