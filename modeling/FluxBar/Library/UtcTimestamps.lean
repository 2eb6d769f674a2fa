import FluxBar.Library.Timestamps

/-! Timestamps written in UTC with no digit more than the fraction needs. A fraction that
continues another comes after it in time and before it in text, since a `Z` sorts after the
digits and the point; there the two orders part, and nowhere else. -/
namespace Rfc3339

/-- What follows the seconds: the fraction, if there is one, and the `Z`. -/
def utcTail (fraction : List Nat) : List Char :=
  (if fraction = [] then [] else '.' :: fraction.map Nat.digitChar) ++ ['Z']

/-- A text as it is written of a moment in UTC, to the nanosecond: fields of fixed width,
then a fraction without trailing zeros or none at all, then the `Z`. -/
structure WrittenUtc (text : String) (stamp : Timestamp) : Prop where
  read : fields text.toList =
    some ({ stamp with fraction := [], offset := 0 }, utcTail stamp.fraction)
  valid : stamp.Valid
  letter : stamp.letter = 'T'
  offset : stamp.offset = 0
  precision : stamp.fraction.length ≤ 9
  shortest : stamp.fraction.getLast? ≠ some 0

/-- Of one second. -/
def Timestamp.SameSecond (early late : Timestamp) : Prop :=
  early.localMinute = late.localMinute ∧ early.second = late.second

/-- Two moments of one second, where the digits of the later fraction continue those of the
earlier. The earlier text then has its `Z` where the later has a digit or the point. -/
def Timestamp.Continues (early late : Timestamp) : Prop :=
  early.SameSecond late ∧ early.fraction <+: late.fraction

theorem digitChar_lt {left right : Nat} (digit : left ≤ 9) (digit' : right ≤ 9) :
    Nat.digitChar left < Nat.digitChar right ↔ left < right := by
  have all : ∀ left < 10, ∀ right < 10,
      Nat.digitChar left < Nat.digitChar right ↔ left < right := by decide
  exact all left (by omega) right (by omega)

theorem digitChar_lt_z {digit : Nat} (known : digit ≤ 9) : Nat.digitChar digit < 'Z' := by
  have all : ∀ digit < 10, Nat.digitChar digit < 'Z' := by decide
  exact all digit (by omega)

theorem digit_digitChar {value : Nat} (known : value ≤ 9) : digit (Nat.digitChar value) = some value := by
  have all : ∀ value < 10, digit (Nat.digitChar value) = some value := by decide
  exact all value (by omega)

theorem digits_append {values : List Nat} (known : ∀ digit ∈ values, digit ≤ 9) :
    digits (values.map Nat.digitChar ++ ['Z']) = (values, ['Z']) := by
  induction values with
  | nil => rfl
  | cons value rest ih =>
    rw [List.forall_mem_cons] at known
    simp only [List.map_cons, List.cons_append, digits, digit_digitChar known.1, ih known.2]

theorem fraction_utcTail {values : List Nat} (known : ∀ digit ∈ values, digit ≤ 9) :
    fraction (utcTail values) = some (values, ['Z']) := by
  unfold utcTail
  by_cases whole : values = []
  · subst whole
    rfl
  · rw [if_neg whole, List.cons_append, fraction, digits_append known, if_neg whole]

/-- Digits in the order of their values, each list closed by a `Z`: their texts are in this
order too, unless the greater continues the lesser. A `Z` comes after every digit. -/
theorem digits_lt_iff {left right : List Nat} (known : ∀ digit ∈ left, digit ≤ 9)
    (known' : ∀ digit ∈ right, digit ≤ 9) (less : fractionValue left < fractionValue right) :
    left.map Nat.digitChar ++ ['Z'] < right.map Nat.digitChar ++ ['Z'] ↔ ¬ left <+: right := by
  induction left generalizing right with
  | nil =>
    cases right with
    | nil => exact absurd less (lt_irrefl _)
    | cons digit rest =>
      have below := digitChar_lt_z (known' digit List.mem_cons_self)
      refine iff_of_false (fun before => ?_) (not_not_intro List.nil_prefix)
      rcases List.cons_lt_cons_iff.mp before with above | ⟨same, _⟩
      · exact lt_asymm above below
      · exact below.ne same.symm
  | cons first left ih =>
    rw [List.forall_mem_cons] at known
    cases right with
    | nil =>
      have nonneg := fractionValue_nonneg (first :: left)
      exact absurd less (not_lt_of_ge nonneg)
    | cons second right =>
      rw [List.forall_mem_cons] at known'
      simp only [List.map_cons, List.cons_append, List.cons_lt_cons_iff,
        digitChar_lt known.1 known'.1, List.cons_prefix_cons]
      unfold fractionValue at less
      rcases Nat.lt_trichotomy first second with below | rfl | above
      · exact iff_of_true (.inl below) fun same => below.ne same.1
      · have rest := ih known.2 known'.2 (by linarith)
        simp [rest]
      · -- the digits left out do not make up for a whole one
        have whole : (second : ℚ) + 1 ≤ first := by exact_mod_cast above
        have low := fractionValue_nonneg left
        have high := fractionValue_le_one known'.2
        linarith

theorem utcTail_lt_iff {left right : List Nat} (known : ∀ digit ∈ left, digit ≤ 9)
    (known' : ∀ digit ∈ right, digit ≤ 9) (less : fractionValue left < fractionValue right) :
    utcTail left < utcTail right ↔ ¬ left <+: right := by
  have some : right ≠ [] := by
    rintro rfl
    exact not_lt_of_ge (fractionValue_nonneg left) less
  unfold utcTail
  by_cases whole : left = []
  · subst whole
    refine iff_of_false ?_ (not_not_intro List.nil_prefix)
    rw [if_pos rfl, if_neg some, List.nil_append, List.cons_append, List.cons_lt_cons_iff]
    rintro (above | ⟨same, _⟩)
    · exact absurd above (by decide)
    · exact absurd same (by decide)
  · rw [if_neg whole, if_neg some, List.cons_append, List.cons_append, List.cons_lt_cons_iff,
      ← digits_lt_iff known known' less]
    simp

namespace WrittenUtc
variable {text other : String} {early late : Timestamp}

/-- What is written is read back. -/
theorem parse (written : WrittenUtc text early) : parse text = some early := by
  have offset : Rfc3339.offset ['Z'] = some early.offset := by
    rw [written.offset]
    rfl
  unfold Rfc3339.parse
  rw [written.read]
  simp only [Option.bind_eq_bind, Option.bind_some, fraction_utcTail written.valid.digits, offset]
  exact if_pos written.valid

/-- Texts that differ. -/
theorem seconds_of_lt (written : WrittenUtc text early) (writtenOther : WrittenUtc other late)
    (before : text < other) : early.localMinute < late.localMinute ∨
      early.localMinute = late.localMinute ∧ (early.second < late.second ∨
        early.second = late.second ∧ utcTail early.fraction < utcTail late.fraction) := by
  have chain := fields_lt (fields_read written.read) (fields_read writtenOther.read)
    (written.letter.trans writtenOther.letter.symm) (String.lt_iff_toList_lt.mp before)
  exact Timestamp.localMinute_of_before written.valid writtenOther.valid chain

theorem instant_lt_iff (written : WrittenUtc text early) (writtenOther : WrittenUtc other late) :
    early.instant < late.instant ↔ early.localMinute < late.localMinute ∨
      early.localMinute = late.localMinute ∧
        early.second + fractionValue early.fraction < late.second + fractionValue late.fraction := by
  unfold Timestamp.instant
  rw [Prod.Lex.toLex_lt_toLex, written.offset, writtenOther.offset]
  simp

/-- Of two moments the earlier has the earlier text, unless the digits of the later fraction
continue those of its own. This is the exact condition under which such texts sort by time.
-/
theorem lt_iff (written : WrittenUtc text early) (writtenOther : WrittenUtc other late)
    (moments : early.instant < late.instant) : text < other ↔ ¬ early.Continues late := by
  have before := (written.instant_lt_iff writtenOther).mp moments
  have tails : early.SameSecond late → (utcTail early.fraction < utcTail late.fraction ↔
      ¬ early.fraction <+: late.fraction) := by
    rintro ⟨minute, second⟩
    refine utcTail_lt_iff written.valid.digits writtenOther.valid.digits ?_
    rw [second] at before
    rcases before with less | ⟨_, less⟩
    · omega
    · linarith
  constructor
  · rintro sorted ⟨same, continues⟩
    rcases written.seconds_of_lt writtenOther sorted with less | ⟨_, less | ⟨_, tail⟩⟩
    · exact less.ne same.1
    · exact less.ne same.2
    · exact (tails same).mp tail continues
  · intro apart
    rcases lt_trichotomy text other with sorted | rfl | swapped
    · exact sorted
    · cases written.parse.symm.trans writtenOther.parse
      exact absurd moments (lt_irrefl _)
    · rcases writtenOther.seconds_of_lt written swapped with less | ⟨same, less | ⟨second, tail⟩⟩
      · omega
      · have whole : (late.second : ℚ) + 1 ≤ early.second := by exact_mod_cast less
        have low := fractionValue_nonneg early.fraction
        have high := fractionValue_le_one writtenOther.valid.digits
        rcases before with less | ⟨_, less⟩
        · omega
        · linarith
      · have together : early.SameSecond late := ⟨same.symm, second.symm⟩
        exact absurd tail (lt_asymm ((tails together).mpr fun continues =>
          apart ⟨together, continues⟩))

end WrittenUtc
end Rfc3339
