import FluxBar.Library.KeyedTable

/-! Tables whose rows have owners, told by the key. Statements on the rows of one
owner act alike on two tables that agree on them, and leave the rows of every other
owner as they are. -/
namespace Relational.Table
variable {ρ κ : Type} {key : ρ → κ} {owned : κ → Bool} {left right middle : Table key}

/-- The rows with owned keys, in storage order: the part of a table that one owner can see
and change. -/
def rowsOf (table : Table key) (owned : κ → Bool) : List ρ :=
  table.rows.filter fun row => owned (key row)

/-- Two tables hold the same owned rows in the same order, whatever else they hold of other
owners and wherever it stands. -/
def Agree (owned : κ → Bool) (left right : Table key) : Prop := left.rowsOf owned = right.rowsOf owned

instance [DecidableEq ρ] : Decidable (Agree owned left right) := inferInstanceAs (Decidable (_ = _))

theorem Agree.refl (table : Table key) : Agree owned table table := rfl

theorem Agree.trans (first : Agree owned left middle) (second : Agree owned middle right) :
    Agree owned left right :=
  Eq.trans first second

/-! ## Reading -/

/-- A query that selects owned rows only sees nothing else: it is answered from the owned
rows, in the same order. -/
theorem select_rowsOf (table : Table key) {condition : ρ → Bool}
    (within : ∀ row, condition row = true → owned (key row) = true) :
    table.select condition = (table.rowsOf owned).filter condition := by
  unfold select rowsOf
  rw [List.filter_filter]
  apply List.filter_congr
  intro row _
  cases selected : condition row with
  | false => rfl
  | true => simp [within row selected]

theorem Agree.select (agree : Agree owned left right) {condition : ρ → Bool}
    (within : ∀ row, condition row = true → owned (key row) = true) :
    left.select condition = right.select condition := by
  rw [select_rowsOf left within, select_rowsOf right within, agree]

theorem any_rowsOf (table : Table key) {condition : ρ → Bool}
    (within : ∀ row, condition row = true → owned (key row) = true) :
    table.rows.any condition = (table.rowsOf owned).any condition := by
  apply Bool.eq_iff_iff.mpr
  simp only [List.any_eq_true, rowsOf, List.mem_filter]
  constructor
  · rintro ⟨row, held, holds⟩
    exact ⟨row, ⟨held, within row holds⟩, holds⟩
  · rintro ⟨row, ⟨held, _⟩, holds⟩
    exact ⟨row, held, holds⟩

theorem Agree.any (agree : Agree owned left right) {condition : ρ → Bool}
    (within : ∀ row, condition row = true → owned (key row) = true) :
    left.rows.any condition = right.rows.any condition := by
  rw [any_rowsOf left within, any_rowsOf right within, agree]

section Keys
variable [DecidableEq κ] {k : κ}

theorem find?_rowsOf (table : Table key) (mine : owned k = true) :
    table.find? k = (table.rowsOf owned).find? fun row => key row = k := by
  unfold find? rowsOf
  rw [List.find?_filter]
  congr 1
  funext row
  by_cases same : key row = k
  · simp [same, mine]
  · simp [same]

theorem Agree.find? (agree : Agree owned left right) (mine : owned k = true) :
    left.find? k = right.find? k := by
  rw [find?_rowsOf left mine, find?_rowsOf right mine, agree]

theorem Agree.has (agree : Agree owned left right) (mine : owned k = true) :
    left.has k = right.has k := by
  unfold Table.has
  rw [agree.find? mine]

end Keys

/-! ## Writing -/

theorem rowsOf_update (table : Table key) (condition : ρ → Bool) (change : ρ → ρ)
    (keeps : ∀ row, key (change row) = key row) :
    (table.update condition change keeps).rowsOf owned =
      (table.rowsOf owned).map fun row => if condition row then change row else row := by
  unfold update rowsOf
  rw [List.filter_map]
  congr 1
  apply List.filter_congr
  intro row _
  simp only [Function.comp_apply]
  split
  · rw [keeps row]
  · rfl

/-- Updates of two agreeing tables agree again. Their conditions may read other tables, and
may even differ, as long as both do the same to every owned row. -/
theorem Agree.update (agree : Agree owned left right) {condition condition' : ρ → Bool}
    {change change' : ρ → ρ} (same : ∀ row, owned (key row) = true →
      (if condition row then change row else row) = if condition' row then change' row else row)
    (keeps : ∀ row, key (change row) = key row)
    (keeps' : ∀ row, key (change' row) = key row) :
    Agree owned (left.update condition change keeps) (right.update condition' change' keeps') := by
  unfold Agree
  rw [rowsOf_update, rowsOf_update, agree]
  apply List.map_congr_left
  intro row held
  exact same row (List.mem_filter.mp held).2

theorem Agree.update_same (agree : Agree owned left right) {condition : ρ → Bool} {change : ρ → ρ}
    (keeps : ∀ row, key (change row) = key row) :
    Agree owned (left.update condition change keeps) (right.update condition change keeps) :=
  agree.update (fun _ _ => rfl) keeps keeps

/-- Rows that a condition on other rows only does not select. -/
theorem not_selected_of_elsewhere {table : Table key} {condition : ρ → Bool} {row : ρ}
    (elsewhere : ∀ row, condition row = true → owned (key row) = false)
    (held : row ∈ table.rowsOf owned) : condition row = false := by
  have mine := (List.mem_filter.mp held).2
  cases selected : condition row with
  | false => rfl
  | true =>
    rw [elsewhere row selected] at mine
    cases mine

/-- An update of other rows leaves the owned rows as they are. -/
theorem agree_update (table : Table key) {condition : ρ → Bool} {change : ρ → ρ}
    (elsewhere : ∀ row, condition row = true → owned (key row) = false)
    (keeps : ∀ row, key (change row) = key row) :
    Agree owned (table.update condition change keeps) table := by
  unfold Agree
  rw [rowsOf_update]
  conv_rhs => rw [← List.map_id (table.rowsOf owned)]
  apply List.map_congr_left
  intro row held
  rw [not_selected_of_elsewhere elsewhere held]
  rfl

theorem rowsOf_delete (table : Table key) (condition : ρ → Bool) :
    (table.delete condition).rowsOf owned =
      (table.rowsOf owned).filter fun row => !condition row := by
  unfold delete rowsOf
  rw [List.filter_filter, List.filter_filter]
  apply List.filter_congr
  intro row _
  exact Bool.and_comm _ _

theorem Agree.delete (agree : Agree owned left right) {condition condition' : ρ → Bool}
    (same : ∀ row, owned (key row) = true → condition row = condition' row) :
    Agree owned (left.delete condition) (right.delete condition') := by
  unfold Agree
  rw [rowsOf_delete, rowsOf_delete, agree]
  apply List.filter_congr
  intro row held
  rw [same row (List.mem_filter.mp held).2]

/-- A delete of other rows leaves the owned rows as they are. -/
theorem agree_delete (table : Table key) {condition : ρ → Bool}
    (elsewhere : ∀ row, condition row = true → owned (key row) = false) :
    Agree owned (table.delete condition) table := by
  unfold Agree
  rw [rowsOf_delete]
  apply List.filter_eq_self.mpr
  intro row held
  rw [not_selected_of_elsewhere elsewhere held]
  rfl

section Inserts
variable [DecidableEq κ] {row : ρ}

theorem rowsOf_insert? {table after : Table key} (inserted : table.insert? row = some after) :
    after.rowsOf owned = table.rowsOf owned ++ [row].filter fun row => owned (key row) := by
  unfold rowsOf
  rw [rows_insert? table inserted, List.filter_append]

/-- Inserts of one owned row are both refused, or both go through and agree again: whether
the key is taken depends on owned rows alone. -/
theorem Agree.insert? (agree : Agree owned left right) (mine : owned (key row) = true) :
    left.insert? row = none ∧ right.insert? row = none ∨
      ∃ left' right', left.insert? row = some left' ∧ right.insert? row = some right' ∧
        Agree owned left' right' := by
  have taken : left.insert? row = none ↔ right.insert? row = none := by
    rw [insert?_eq_none, insert?_eq_none, agree.find? mine]
  cases first : left.insert? row with
  | none => exact .inl ⟨rfl, taken.mp first⟩
  | some left' =>
    cases second : right.insert? row with
    | none =>
      rw [taken.mpr second] at first
      cases first
    | some right' =>
      refine .inr ⟨left', right', rfl, rfl, ?_⟩
      unfold Agree
      rw [rowsOf_insert? first, rowsOf_insert? second, agree]

theorem agree_insert? {table after : Table key} (inserted : table.insert? row = some after)
    (elsewhere : owned (key row) = false) : Agree owned after table := by
  unfold Agree
  rw [rowsOf_insert? inserted]
  simp [elsewhere]

theorem Agree.upsert (agree : Agree owned left right) (mine : owned (key row) = true)
    {merge merge' : ρ → ρ} (same : ∀ old, merge old = merge' old)
    (keeps : ∀ old, key (merge old) = key old)
    (keeps' : ∀ old, key (merge' old) = key old) :
    Agree owned (left.upsert row merge keeps) (right.upsert row merge' keeps') := by
  unfold Table.upsert
  rcases agree.insert? mine with ⟨first, second⟩ | ⟨left', right', first, second, inserted⟩
  · rw [first, second]
    refine agree.update ?_ keeps keeps'
    intro old _
    rw [same old]
  · rw [first, second]
    exact inserted

theorem Agree.upsert_same (agree : Agree owned left right) (mine : owned (key row) = true)
    {merge : ρ → ρ} (keeps : ∀ old, key (merge old) = key old) :
    Agree owned (left.upsert row merge keeps) (right.upsert row merge keeps) :=
  agree.upsert mine (fun _ => rfl) keeps keeps

theorem agree_upsert (table : Table key) {merge : ρ → ρ} (elsewhere : owned (key row) = false)
    (keeps : ∀ old, key (merge old) = key old) :
    Agree owned (table.upsert row merge keeps) table := by
  unfold upsert
  cases inserted : table.insert? row with
  | some after => exact agree_insert? inserted elsewhere
  | none =>
    refine agree_update table ?_ keeps
    intro old same
    rw [of_decide_eq_true same]
    exact elsewhere

end Inserts

end Relational.Table
