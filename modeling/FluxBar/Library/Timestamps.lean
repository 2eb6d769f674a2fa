import Mathlib.Algebra.Order.Field.Rat
import Mathlib.Data.Prod.Lex
import Mathlib.Data.String.Basic
import Mathlib.Tactic.Linarith

/-! Timestamps as RFC 3339 writes them, and the instants they denote. Written with
one offset and as many digits, later instants have later texts; offsets and
fractions of different lengths break the order. -/
namespace Rfc3339

/-! ## Instants -/

def isLeap (year : Nat) : Bool := (year % 4 = 0 && year % 100 ≠ 0) || year % 400 = 0

/-- The days of a month; there is no other month. -/
def daysIn (year : Nat) : Nat → Nat
  | 2 => if isLeap year then 29 else 28
  | 4 | 6 | 9 | 11 => 30
  | 1 | 3 | 5 | 7 | 8 | 10 | 12 => 31
  | _ => 0

/-- The days of the months of a year before one. -/
def daysBeforeMonth (year : Nat) : Nat → Nat
  | 0 => 0
  | month + 1 => daysBeforeMonth year month + daysIn year month

/-- The days of the years before one. -/
def daysBeforeYear (year : Nat) : Nat :=
  365 * year + (year + 3) / 4 + (year + 399) / 400 - (year + 99) / 100

/-- A timestamp as written: the letter before the time, the digits of the fraction,
and the offset from UTC in minutes. -/
structure Timestamp where
  year : Nat
  month : Nat
  day : Nat
  letter : Char
  hour : Nat
  minute : Nat
  second : Nat
  fraction : List Nat
  offset : Int
  deriving DecidableEq, Repr

/-- The value of digits after the point. -/
def fractionValue : List Nat → ℚ
  | [] => 0
  | digit :: rest => (digit + fractionValue rest) / 10

namespace Timestamp
variable (timestamp : Timestamp)

/-- A day of the calendar and a time of it, a leap second perhaps. Only of valid timestamps
does the order of the fields say anything about the order of the instants. -/
structure Valid : Prop where
  first : 1 ≤ timestamp.day
  last : timestamp.day ≤ daysIn timestamp.year timestamp.month
  hour : timestamp.hour ≤ 23
  minute : timestamp.minute ≤ 59
  second : timestamp.second ≤ 60
  digits : ∀ digit ∈ timestamp.fraction, digit ≤ 9

instance : Decidable timestamp.Valid :=
  decidable_of_iff (1 ≤ timestamp.day ∧ timestamp.day ≤ daysIn timestamp.year timestamp.month ∧
      timestamp.hour ≤ 23 ∧ timestamp.minute ≤ 59 ∧ timestamp.second ≤ 60 ∧
      ∀ digit ∈ timestamp.fraction, digit ≤ 9)
    ⟨fun ⟨first, last, hour, minute, second, digits⟩ =>
        ⟨first, last, hour, minute, second, digits⟩,
      fun ⟨first, last, hour, minute, second, digits⟩ =>
        ⟨first, last, hour, minute, second, digits⟩⟩

def dayNumber : Nat :=
  daysBeforeYear timestamp.year + daysBeforeMonth timestamp.year timestamp.month + timestamp.day

/-- The minute of the local clock. -/
def localMinute : Nat := timestamp.dayNumber * 1440 + timestamp.hour * 60 + timestamp.minute

/-- The instant denoted: the minute in UTC, and the second in it with its fraction, compared
one after the other. So a leap second comes before the next minute, as it should. -/
def instant : ℤ ×ₗ ℚ :=
  toLex ((timestamp.localMinute : Int) - timestamp.offset,
    timestamp.second + fractionValue timestamp.fraction)

/-- What two timestamps have in common for their texts to compare: the letter, the number
of digits after the point and the offset. -/
def shape : Char × Nat × Int := (timestamp.letter, timestamp.fraction.length, timestamp.offset)

end Timestamp

/-! ## Texts -/

def digit (c : Char) : Option Nat := if c.isDigit then some (c.toNat - 48) else none

/-- Reads two digits. -/
def number : List Char → Option (Nat × List Char)
  | tens :: units :: rest => do
    let tens ← digit tens
    let units ← digit units
    return (10 * tens + units, rest)
  | _ => none

/-- Reads one of some characters. -/
def oneOf (allowed : List Char) : List Char → Option (Char × List Char)
  | c :: rest => if c ∈ allowed then some (c, rest) else none
  | [] => none

/-- Reads as many digits as there are. -/
def digits : List Char → List Nat × List Char
  | [] => ([], [])
  | c :: rest => match digit c with
    | none => ([], c :: rest)
    | some value => (value :: (digits rest).1, (digits rest).2)

/-- Reads a fraction, if there is one: a point and at least one digit. -/
def fraction : List Char → Option (List Nat × List Char)
  | '.' :: rest => if (digits rest).1 = [] then none else some (digits rest)
  | rest => some ([], rest)

/-- Reads an offset, to the end. -/
def offset (zone : List Char) : Option Int := do
  let (sign, rest) ← oneOf ['Z', 'z', '+', '-'] zone
  if sign = 'Z' ∨ sign = 'z' then if rest = [] then return 0 else none
  else
    let (hours, rest) ← number rest
    let (_, rest) ← oneOf [':'] rest
    let (minutes, rest) ← number rest
    if rest = [] ∧ hours ≤ 23 ∧ minutes ≤ 59 then
      return if sign = '+' then (60 * hours + minutes : Nat) else -(60 * hours + minutes : Nat)
    else none

/-- Reads the fields up to the seconds. -/
def fields (text : List Char) : Option (Timestamp × List Char) := do
  let (century, rest) ← number text
  let (year, rest) ← number rest
  let (_, rest) ← oneOf ['-'] rest
  let (month, rest) ← number rest
  let (_, rest) ← oneOf ['-'] rest
  let (day, rest) ← number rest
  let (letter, rest) ← oneOf ['T', 't'] rest
  let (hour, rest) ← number rest
  let (_, rest) ← oneOf [':'] rest
  let (minute, rest) ← number rest
  let (_, rest) ← oneOf [':'] rest
  let (second, rest) ← number rest
  return ({
    year := 100 * century + year, month, day, letter, hour, minute, second,
    fraction := [], offset := 0 }, rest)

/-- Reads a timestamp, of which nothing may be left over, and refuses one that is not valid.
The letter before the time is kept, since texts with another letter compare differently. -/
def parse (text : String) : Option Timestamp := do
  let (timestamp, rest) ← fields text.toList
  let (fraction, rest) ← fraction rest
  let offset ← offset rest
  let timestamp := { timestamp with fraction, offset }
  if timestamp.Valid then return timestamp else none

/-! ## The calendar -/

theorem daysBeforeMonth_le {year month later : Nat} (before : month < later) :
    daysBeforeMonth year month + daysIn year month ≤ daysBeforeMonth year later := by
  induction before with
  | refl => exact Nat.le_refl _
  | step _ ih => exact Nat.le_trans ih (Nat.le_add_right _ _)

/-- A month that has days is over by the end of the year. -/
theorem daysBeforeMonth_end {year month day : Nat} (last : day ≤ daysIn year month) :
    daysBeforeMonth year month + day ≤ if isLeap year then 366 else 365 := by
  have whole : daysBeforeMonth year 13 = if isLeap year then 366 else 365 := by
    cases leap : isLeap year <;> simp [daysBeforeMonth, daysIn, leap]
  by_cases known : month < 13
  · have bound := @daysBeforeMonth_le year month 13 known
    omega
  · have none : ∀ beyond, daysIn year (beyond + 13) = 0 := fun _ => rfl
    obtain ⟨beyond, rfl⟩ := Nat.exists_eq_add_of_le' (Nat.le_of_not_lt known)
    have still : ∀ beyond, daysBeforeMonth year (beyond + 13) = daysBeforeMonth year 13 := by
      intro beyond
      induction beyond with
      | zero => rfl
      | succ beyond ih =>
        have next : daysBeforeMonth year (beyond + 1 + 13) =
            daysBeforeMonth year (beyond + 13) + daysIn year (beyond + 13) := by
          rw [Nat.add_right_comm]
          rfl
        rw [next, ih, none, Nat.add_zero]
    rw [none] at last
    rw [still]
    omega

theorem daysBeforeYear_succ (year : Nat) :
    daysBeforeYear (year + 1) = daysBeforeYear year + if isLeap year then 366 else 365 := by
  have four : (year + 1 + 3) / 4 = (year + 3) / 4 + if year % 4 = 0 then 1 else 0 := by
    split <;> omega
  have hundred : (year + 1 + 99) / 100 = (year + 99) / 100 + if year % 100 = 0 then 1 else 0 := by
    split <;> omega
  have fourHundred : (year + 1 + 399) / 400 =
      (year + 399) / 400 + if year % 400 = 0 then 1 else 0 := by
    split <;> omega
  have centuries : year % 400 = 0 → year % 100 = 0 := by omega
  have leaps : year % 100 = 0 → year % 4 = 0 := by omega
  have fewer : (year + 99) / 100 ≤ (year + 3) / 4 := by omega
  unfold daysBeforeYear isLeap
  rw [four, hundred, fourHundred]
  simp only [Bool.or_eq_true, Bool.and_eq_true, decide_eq_true_eq]
  generalize (year + 3) / 4 = fours, (year + 99) / 100 = hundreds at fewer ⊢
  by_cases leap : year % 4 = 0 <;> by_cases century : year % 100 = 0 <;>
    by_cases great : year % 400 = 0 <;> simp [leap, century, great] <;> omega

theorem daysBeforeYear_le {year later : Nat} (before : year < later) :
    daysBeforeYear year + (if isLeap year then 366 else 365) ≤ daysBeforeYear later := by
  induction before with
  | refl => rw [← daysBeforeYear_succ]
  | @step later _ ih =>
    rw [Nat.succ_eq_add_one, daysBeforeYear_succ]
    exact Nat.le_trans ih (Nat.le_add_right _ _)

namespace Timestamp
variable {early late : Timestamp}

/-- One minute of the local calendar before another, or the same with a time of it. -/
def Before (early late : Timestamp) (then_ : Prop) : Prop :=
  early.year < late.year ∨ early.year = late.year ∧
    (early.month < late.month ∨ early.month = late.month ∧
      (early.day < late.day ∨ early.day = late.day ∧
        (early.hour < late.hour ∨ early.hour = late.hour ∧
          (early.minute < late.minute ∨ early.minute = late.minute ∧ then_))))

theorem dayNumber_lt (valid : early.Valid) (lateValid : late.Valid)
    (before : early.year < late.year ∨ early.year = late.year ∧
      (early.month < late.month ∨ early.month = late.month ∧ early.day < late.day)) :
    early.dayNumber < late.dayNumber := by
  unfold dayNumber
  have first := lateValid.first
  rcases before with year | ⟨year, month | ⟨month, day⟩⟩
  · have whole := daysBeforeMonth_end valid.last
    have bound := daysBeforeYear_le year
    omega
  · have last := valid.last
    have bound := @daysBeforeMonth_le late.year _ _ month
    rw [year] at last ⊢
    omega
  · rw [year, month]
    omega

/-- The order of the fields, from the year down to the minute, is that of the minutes of the
local clock. The dates need to be valid: the thirtieth of February would come after the
first of March. -/
theorem localMinute_of_before (valid : early.Valid) (lateValid : late.Valid) {then_ : Prop}
    (before : early.Before late then_) :
    early.localMinute < late.localMinute ∨ early.localMinute = late.localMinute ∧ then_ := by
  have hour := valid.hour
  have minute := valid.minute
  unfold localMinute
  rcases before with year | ⟨year, month | ⟨month, day | ⟨day, time⟩⟩⟩
  · have days := dayNumber_lt valid lateValid (.inl year)
    omega
  · have days := dayNumber_lt valid lateValid (.inr ⟨year, .inl month⟩)
    omega
  · have days := dayNumber_lt valid lateValid (.inr ⟨year, .inr ⟨month, day⟩⟩)
    omega
  · have days : early.dayNumber = late.dayNumber := by
      unfold dayNumber
      rw [year, month, day]
    rw [days]
    rcases time with hours | ⟨hours, minutes | ⟨minutes, rest⟩⟩
    · omega
    · omega
    · exact .inr ⟨by rw [hours, minutes], rest⟩

end Timestamp

/-! ## Fractions -/

theorem fractionValue_nonneg (digits : List Nat) : 0 ≤ fractionValue digits := by
  induction digits with
  | nil => exact le_refl _
  | cons digit rest ih =>
    unfold fractionValue
    exact div_nonneg (add_nonneg (Nat.cast_nonneg _) ih) (by norm_num)

theorem fractionValue_le_one {digits : List Nat} (known : ∀ digit ∈ digits, digit ≤ 9) :
    fractionValue digits ≤ 1 := by
  induction digits with
  | nil => exact zero_le_one
  | cons digit rest ih =>
    rw [List.forall_mem_cons] at known
    have below := ih known.2
    have most : (digit : ℚ) ≤ 9 := by exact_mod_cast known.1
    unfold fractionValue
    linarith

/-! ## The order of texts -/

theorem digit_eq_some {c : Char} {value : Nat} (read : digit c = some value) :
    c.toNat = 48 + value ∧ value ≤ 9 := by
  unfold digit at read
  split at read
  · rename_i decimal
    cases read
    simp only [Char.isDigit, Bool.and_eq_true, decide_eq_true_eq, UInt32.le_iff_toNat_le] at decimal
    change 48 ≤ c.toNat ∧ c.toNat ≤ 57 at decimal
    omega
  · cases read

theorem char_lt_iff {c d : Char} : c < d ↔ c.toNat < d.toNat := Iff.rfl

theorem digit_lt {c d : Char} {left right : Nat} (read : digit c = some left)
    (other : digit d = some right) (before : c < d) : left < right := by
  have first := digit_eq_some read
  have second := digit_eq_some other
  rw [char_lt_iff] at before
  omega

/-- The first two characters of texts decide their order, or are the same. -/
theorem number_lt {text other rest rest' : List Char} {left right : Nat}
    (read : number text = some (left, rest)) (readOther : number other = some (right, rest'))
    (before : text < other) : left < right ∨ left = right ∧ rest < rest' := by
  match text, other with
  | [], _ | [_], _ => cases read
  | _ :: _ :: _, [] | _ :: _ :: _, [_] => cases readOther
  | c :: d :: tail, c' :: d' :: tail' =>
    simp only [number, Option.bind_eq_bind, Option.bind_eq_some_iff, Option.pure_def,
      Option.some.injEq, Prod.mk.injEq] at read readOther
    obtain ⟨tens, tensRead, units, unitsRead, rfl, rfl⟩ := read
    obtain ⟨tens', tensRead', units', unitsRead', rfl, rfl⟩ := readOther
    have bound := (digit_eq_some unitsRead).2
    have bound' := (digit_eq_some unitsRead').2
    rw [List.cons_lt_cons_iff, List.cons_lt_cons_iff] at before
    rcases before with first | ⟨rfl, second | ⟨rfl, rest⟩⟩
    · have less := digit_lt tensRead tensRead' first
      omega
    · have less := digit_lt unitsRead unitsRead' second
      rw [tensRead] at tensRead'
      cases tensRead'
      omega
    · rw [tensRead] at tensRead'
      rw [unitsRead] at unitsRead'
      cases tensRead'
      cases unitsRead'
      exact .inr ⟨rfl, rest⟩

theorem number_le {text rest : List Char} {value : Nat} (read : number text = some (value, rest)) :
    value ≤ 99 := by
  match text with
  | [] | [_] => cases read
  | c :: d :: tail =>
    simp only [number, Option.bind_eq_bind, Option.bind_eq_some_iff, Option.pure_def,
      Option.some.injEq, Prod.mk.injEq] at read
    obtain ⟨tens, tensRead, units, unitsRead, rfl, rfl⟩ := read
    have bound := (digit_eq_some tensRead).2
    have bound' := (digit_eq_some unitsRead).2
    omega

/-- The same character in front of both decides nothing. -/
theorem oneOf_lt {allowed text other rest rest' : List Char} {left right : Char}
    (read : oneOf allowed text = some (left, rest))
    (readOther : oneOf allowed other = some (right, rest')) (same : left = right)
    (before : text < other) : rest < rest' := by
  match text, other with
  | [], _ => cases read
  | _ :: _, [] => cases readOther
  | c :: tail, c' :: tail' =>
    simp only [oneOf, Option.ite_none_right_eq_some, Option.some.injEq, Prod.mk.injEq]
      at read readOther
    obtain ⟨_, rfl, rfl⟩ := read
    obtain ⟨_, rfl, rfl⟩ := readOther
    cases same
    rw [List.cons_lt_cons_iff] at before
    rcases before with less | ⟨_, rest⟩
    · exact absurd less (lt_irrefl _)
    · exact rest

theorem oneOf_single {c left : Char} {text rest : List Char}
    (read : oneOf [c] text = some (left, rest)) : left = c := by
  cases text with
  | nil => cases read
  | cons first tail =>
    simp only [oneOf, Option.ite_none_right_eq_some, Option.some.injEq, Prod.mk.injEq] at read
    obtain ⟨allowed, rfl, _⟩ := read
    exact List.mem_singleton.mp allowed

theorem digits_known (text : List Char) : ∀ digit ∈ (digits text).1, digit ≤ 9 := by
  induction text with
  | nil => exact fun _ listed => (by cases listed)
  | cons c tail ih =>
    unfold digits
    cases read : digit c with
    | none => exact fun _ listed => (by cases listed)
    | some value => exact List.forall_mem_cons.mpr ⟨(digit_eq_some read).2, ih⟩

/-- Fractions with as many digits are in the order of their texts. With digits missing at
the end of one of them they need not be, as what follows the fraction is then compared with
a digit. -/
theorem digits_le {text other : List Char}
    (length : (digits text).1.length = (digits other).1.length) (before : text < other) :
    fractionValue (digits text).1 ≤ fractionValue (digits other).1 := by
  induction text generalizing other with
  | nil =>
    have none : (digits other).1 = [] := List.eq_nil_of_length_eq_zero length.symm
    rw [none]
    exact le_refl _
  | cons c tail ih =>
    cases read : digit c with
    | none =>
      have stops : (digits (c :: tail)).1 = [] := by simp [digits, read]
      rw [stops]
      exact fractionValue_nonneg _
    | some value =>
      have here : (digits (c :: tail)).1 = value :: (digits tail).1 := by simp [digits, read]
      rw [here] at length ⊢
      match other with
      | [] => cases length
      | d :: rest =>
        cases readOther : digit d with
        | none => simp [digits, readOther] at length
        | some value' =>
          have there : (digits (d :: rest)).1 = value' :: (digits rest).1 := by
            simp [digits, readOther]
          rw [there] at length ⊢
          unfold fractionValue
          rw [List.cons_lt_cons_iff] at before
          rcases before with first | ⟨rfl, later⟩
          · have less : (value : ℚ) + 1 ≤ value' := by exact_mod_cast digit_lt read readOther first
            have low := fractionValue_nonneg (digits rest).1
            have high := fractionValue_le_one (digits_known tail)
            linarith
          · rw [read] at readOther
            cases readOther
            have rest := ih (Nat.succ.inj length) later
            linarith

theorem fraction_le {text other rest rest' : List Char} {left right : List Nat}
    (read : fraction text = some (left, rest)) (readOther : fraction other = some (right, rest'))
    (length : left.length = right.length) (before : text < other) :
    fractionValue left ≤ fractionValue right := by
  unfold fraction at read
  split at read
  · rename_i tail
    split at read
    · cases read
    · rename_i some
      obtain rfl : (digits tail).1 = left := congrArg Prod.fst (Option.some.inj read)
      unfold fraction at readOther
      split at readOther
      · rename_i tail'
        split at readOther
        · cases readOther
        · obtain rfl : (digits tail').1 = right := congrArg Prod.fst (Option.some.inj readOther)
          rw [List.cons_lt_cons_iff] at before
          rcases before with less | ⟨_, later⟩
          · exact absurd less (lt_irrefl _)
          · exact digits_le length later
      · cases readOther
        exact absurd (List.eq_nil_of_length_eq_zero length) some
  · cases read
    exact fractionValue_nonneg right

/-- What is read of a text, up to the seconds: number by number and sign by sign. As a
relation it can be taken apart by cases where the comparison of two texts is. -/
inductive FieldsRead : List Char → Timestamp → List Char → Prop where
  | intro {t₀ t₁ t₂ t₃ t₄ t₅ t₆ t₇ t₈ t₉ t₁₀ t₁₁ t₁₂ : List Char}
      {century year month day hour minute second : Nat} {dash dash' letter colon colon' : Char} :
      number t₀ = some (century, t₁) → number t₁ = some (year, t₂) →
      oneOf ['-'] t₂ = some (dash, t₃) → number t₃ = some (month, t₄) →
      oneOf ['-'] t₄ = some (dash', t₅) → number t₅ = some (day, t₆) →
      oneOf ['T', 't'] t₆ = some (letter, t₇) → number t₇ = some (hour, t₈) →
      oneOf [':'] t₈ = some (colon, t₉) → number t₉ = some (minute, t₁₀) →
      oneOf [':'] t₁₀ = some (colon', t₁₁) → number t₁₁ = some (second, t₁₂) →
      FieldsRead t₀ {
        year := 100 * century + year, month, day, letter, hour, minute, second,
        fraction := [], offset := 0 } t₁₂

theorem fields_read {text rest : List Char} {timestamp : Timestamp}
    (read : fields text = some (timestamp, rest)) : FieldsRead text timestamp rest := by
  obtain ⟨⟨_, _⟩, century, read⟩ := Option.bind_eq_some_iff.mp read
  obtain ⟨⟨_, _⟩, year, read⟩ := Option.bind_eq_some_iff.mp read
  obtain ⟨⟨_, _⟩, dash, read⟩ := Option.bind_eq_some_iff.mp read
  obtain ⟨⟨_, _⟩, month, read⟩ := Option.bind_eq_some_iff.mp read
  obtain ⟨⟨_, _⟩, dash', read⟩ := Option.bind_eq_some_iff.mp read
  obtain ⟨⟨_, _⟩, day, read⟩ := Option.bind_eq_some_iff.mp read
  obtain ⟨⟨_, _⟩, letter, read⟩ := Option.bind_eq_some_iff.mp read
  obtain ⟨⟨_, _⟩, hour, read⟩ := Option.bind_eq_some_iff.mp read
  obtain ⟨⟨_, _⟩, colon, read⟩ := Option.bind_eq_some_iff.mp read
  obtain ⟨⟨_, _⟩, minute, read⟩ := Option.bind_eq_some_iff.mp read
  obtain ⟨⟨_, _⟩, colon', read⟩ := Option.bind_eq_some_iff.mp read
  obtain ⟨⟨_, _⟩, second, read⟩ := Option.bind_eq_some_iff.mp read
  cases read
  exact .intro century year dash month dash' day letter hour colon minute colon' second

/-- Texts that differ, read up to the seconds. -/
theorem fields_lt {text other rest rest' : List Char} {early late : Timestamp}
    (read : FieldsRead text early rest) (readOther : FieldsRead other late rest')
    (letter : early.letter = late.letter) (before : text < other) :
    early.Before late
      (early.second < late.second ∨ early.second = late.second ∧ rest < rest') := by
  cases read with
  | intro centuryRead yearRead dash monthRead dash2 dayRead letterRead hourRead colon minuteRead colon2
      secondRead =>
  cases readOther with
  | intro centuryRead' yearRead' dash' monthRead' dash2' dayRead' letterRead' hourRead' colon'
      minuteRead' colon2' secondRead' =>
  have known := number_le yearRead
  have single : ∀ {c left right : Char} {text rest other rest' : List Char},
      oneOf [c] text = some (left, rest) → oneOf [c] other = some (right, rest') → left = right :=
    fun read readOther => (oneOf_single read).trans (oneOf_single readOther).symm
  unfold Timestamp.Before
  dsimp only at letter ⊢
  rcases number_lt centuryRead centuryRead' before with less | ⟨same, before⟩
  · exact .inl (by omega)
  subst same
  rcases number_lt yearRead yearRead' before with less | ⟨same, before⟩
  · exact .inl (by omega)
  subst same
  refine .inr ⟨rfl, ?_⟩
  have before := oneOf_lt dash dash' (single dash dash') before
  rcases number_lt monthRead monthRead' before with less | ⟨same, before⟩
  · exact .inl less
  refine .inr ⟨same, ?_⟩
  have before := oneOf_lt dash2 dash2' (single dash2 dash2') before
  rcases number_lt dayRead dayRead' before with less | ⟨same, before⟩
  · exact .inl less
  refine .inr ⟨same, ?_⟩
  have before := oneOf_lt letterRead letterRead' letter before
  rcases number_lt hourRead hourRead' before with less | ⟨same, before⟩
  · exact .inl less
  refine .inr ⟨same, ?_⟩
  have before := oneOf_lt colon colon' (single colon colon') before
  rcases number_lt minuteRead minuteRead' before with less | ⟨same, before⟩
  · exact .inl less
  refine .inr ⟨same, ?_⟩
  have before := oneOf_lt colon2 colon2' (single colon2 colon2') before
  exact number_lt secondRead secondRead' before

/-- Of two timestamps of one shape the instants are in the order of the texts. Sorting by
the text is then sorting by the moment, which is what storing a date as a text relies on. -/
theorem instant_le {text other : String} {early late : Timestamp} (read : parse text = some early)
    (readOther : parse other = some late) (same : early.shape = late.shape)
    (before : text ≤ other) :
    early.instant ≤ late.instant := by
  rcases eq_or_lt_of_le before with rfl | before
  · rw [read] at readOther
    cases readOther
    exact le_refl _
  simp only [parse, Option.bind_eq_bind, Option.bind_eq_some_iff, Prod.exists, Option.pure_def,
    Option.ite_none_right_eq_some, Option.some.injEq] at read readOther
  obtain ⟨first, tail, fieldsRead, digits, zone, digitsRead, shift, _, valid, rfl⟩ := read
  obtain ⟨second, tail', fieldsRead', digits', zone', digitsRead', shift', _, valid', rfl⟩ := readOther
  simp only [Timestamp.shape, Prod.mk.injEq] at same
  obtain ⟨letter, length, offset⟩ := same
  obtain rfl : shift = shift' := offset
  have chain := fields_lt (fields_read fieldsRead) (fields_read fieldsRead') letter
    (String.lt_iff_toList_lt.mp before)
  have minutes := Timestamp.localMinute_of_before valid valid' chain
  unfold Timestamp.instant
  rw [Prod.Lex.toLex_le_toLex]
  dsimp only
  rcases minutes with less | ⟨same, seconds⟩
  · exact .inl (by omega)
  · refine .inr ⟨by rw [same], ?_⟩
    rcases seconds with less | ⟨same, later⟩
    · have whole : (first.second : ℚ) + 1 ≤ second.second := by exact_mod_cast less
      have low := fractionValue_nonneg digits'
      have high := fractionValue_le_one valid.digits
      dsimp only at high
      linarith
    · rw [same]
      have order := fraction_le digitsRead digitsRead' length later
      linarith

end Rfc3339
