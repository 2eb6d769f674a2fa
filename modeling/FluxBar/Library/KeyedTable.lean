import Mathlib.Data.List.Nodup
import Mathlib.Data.List.Basic

/-! Tables of a relational store under one primary key, with the statements a
program runs against them. Uniqueness of the key is part of the table, so a
state with two rows of one key cannot be written down. Every statement is
characterised by what a lookup finds after it. -/
namespace Relational

/-- The rows of one table in storage order. No two of them have the same key, and as a field
of the table this need not be proved again by what reads it. -/
structure Table {ρ κ : Type} (key : ρ → κ) where
  rows : List ρ
  unique : (rows.map key).Nodup

namespace Table
variable {ρ κ : Type} {key : ρ → κ}

@[ext] theorem ext {left right : Table key} (same : left.rows = right.rows) : left = right := by
  cases left
  cases right
  simpa using same

/-- The table no statement has touched. -/
def empty : Table key := ⟨[], List.nodup_nil⟩

/-- `SELECT ... WHERE key = ?`. -/
def find? [DecidableEq κ] (table : Table key) (k : κ) : Option ρ :=
  table.rows.find? fun row => key row = k

/-- Whether some row carries this key. -/
def has [DecidableEq κ] (table : Table key) (k : κ) : Bool := (table.find? k).isSome

/-- `SELECT ... WHERE condition`, in storage order. -/
def select (table : Table key) (condition : ρ → Bool) : List ρ := table.rows.filter condition

@[simp] theorem select_empty (condition : ρ → Bool) : (empty : Table key).select condition = [] := rfl

/-- `INSERT`, refused when the primary key is taken. -/
def insert? [DecidableEq κ] (table : Table key) (row : ρ) : Option (Table key) :=
  if taken : key row ∈ table.rows.map key then none
  else some ⟨table.rows ++ [row], by
    simpa only [List.map_append, List.map_cons, List.map_nil] using
      List.nodup_append.mpr ⟨table.unique, List.nodup_singleton _, by
        intro old held new added same
        rw [List.mem_singleton.mp added] at same
        exact taken (same ▸ held)⟩⟩

theorem keys_map_if (rows : List ρ) (condition : ρ → Bool) (change : ρ → ρ)
    (keeps : ∀ row, key (change row) = key row) :
    (rows.map fun row => if condition row then change row else row).map key = rows.map key := by
  rw [List.map_map]
  apply List.map_congr_left
  intro row _
  simp only [Function.comp_apply]
  split
  · exact keeps row
  · rfl

/-- `UPDATE ... WHERE condition`: the rows that meet the condition are changed in place. The
primary key is never assigned, which is what keeps the keys distinct. -/
def update (table : Table key) (condition : ρ → Bool) (change : ρ → ρ)
    (keeps : ∀ row, key (change row) = key row := by intro; rfl) : Table key :=
  ⟨table.rows.map fun row => if condition row then change row else row, by
    rw [keys_map_if table.rows condition change keeps]
    exact table.unique⟩

theorem keys_update (table : Table key) (condition : ρ → Bool) (change : ρ → ρ)
    (keeps : ∀ row, key (change row) = key row) :
    (table.update condition change keeps).rows.map key = table.rows.map key :=
  keys_map_if table.rows condition change keeps

/-- `INSERT ... ON CONFLICT(key) DO UPDATE`: where a row holds the key already, `merge`
rewrites that row in its place, and otherwise the row is stored behind the others. -/
def upsert [DecidableEq κ] (table : Table key) (row : ρ) (merge : ρ → ρ)
    (keeps : ∀ old, key (merge old) = key old := by intro; rfl) : Table key :=
  match table.insert? row with
  | some inserted => inserted
  | none => table.update (fun old => key old = key row) merge keeps

/-- Two upserts of one row that merge alike. -/
theorem upsert_alike [DecidableEq κ] {table : Table key} {row : ρ} {merge merge' : ρ → ρ}
    (alike : ∀ old, merge old = merge' old)
    (keeps : ∀ old, key (merge old) = key old := by intro; rfl)
    (keeps' : ∀ old, key (merge' old) = key old := by intro; rfl) :
    table.upsert row merge keeps = table.upsert row merge' keeps' := by
  obtain rfl : merge = merge' := funext alike
  rfl

/-- `DELETE ... WHERE condition`. -/
def delete (table : Table key) (condition : ρ → Bool) : Table key :=
  ⟨table.rows.filter fun row => !condition row,
    (List.Sublist.map key List.filter_sublist).nodup table.unique⟩

/-- Deleting nothing. -/
theorem delete_eq_self {table : Table key} {condition : ρ → Bool}
    (none : ∀ row ∈ table.rows, ¬ condition row = true) :
    table.delete condition = table := by
  apply ext
  refine List.filter_eq_self.mpr fun row held => ?_
  simpa using none row held

/-- Updating nothing. -/
theorem update_eq_self {table : Table key} {condition : ρ → Bool} {change : ρ → ρ}
    {keeps : ∀ row, key (change row) = key row}
    (none : ∀ row ∈ table.rows, ¬ condition row = true) :
    table.update condition change keeps = table := by
  apply ext
  refine (List.map_congr_left fun row held => ?_).trans (List.map_id _)
  rw [if_neg (none row held)]
  rfl

theorem update_congr {table : Table key} {condition condition' : ρ → Bool} {change : ρ → ρ}
    {keeps : ∀ row, key (change row) = key row}
    (same : ∀ row ∈ table.rows, condition row = condition' row) :
    table.update condition change keeps = table.update condition' change keeps := by
  apply ext
  refine List.map_congr_left fun row held => ?_
  rw [same row held]

/-- Two updates that select the same rows and do the same to them. -/
theorem update_alike {table : Table key} {condition condition' : ρ → Bool} {change change' : ρ → ρ}
    (same : ∀ row, condition row = condition' row) (alike : ∀ row, change row = change' row)
    (keeps : ∀ row, key (change row) = key row := by intro; rfl)
    (keeps' : ∀ row, key (change' row) = key row := by intro; rfl) :
    table.update condition change keeps = table.update condition' change' keeps' := by
  apply ext
  refine List.map_congr_left fun row _ => ?_
  rw [same row, alike row]

/-- An update of rows that it leaves as they are. -/
theorem update_eq_self_of_fixed {table : Table key} {condition : ρ → Bool} {change : ρ → ρ}
    {keeps : ∀ row, key (change row) = key row}
    (fixed : ∀ row ∈ table.rows, condition row = true → change row = row) :
    table.update condition change keeps = table := by
  apply ext
  refine (List.map_congr_left fun row held => ?_).trans (List.map_id _)
  split
  · rename_i chosen
    exact fixed row held chosen
  · rfl

/-- Two updates by one change that does nothing the second time. -/
theorem update_update {table : Table key} {condition condition' : ρ → Bool} {change : ρ → ρ}
    {keeps : ∀ row, key (change row) = key row} (again : ∀ row, change (change row) = change row)
    (unmoved : ∀ row, condition' (change row) = condition' row) :
    (table.update condition change keeps).update condition' change keeps =
      table.update (fun row => condition row || condition' row) change keeps := by
  apply ext
  unfold update
  dsimp only
  rw [List.map_map]
  refine List.map_congr_left fun row _ => ?_
  rw [Function.comp_apply]
  by_cases first : condition row = true
  · by_cases second : condition' row = true
    · simp [first, second, again, unmoved]
    · simp [first, second, unmoved]
  · simp [first]

section Lookup
variable [DecidableEq κ] {table : Table key} {k : κ} {row : ρ}

/-- A lookup finds a row exactly when the table holds it under that key; as keys are
distinct, there is no other row that it could have found. -/
theorem find?_eq_some : table.find? k = some row ↔ row ∈ table.rows ∧ key row = k := by
  constructor
  · intro found
    exact ⟨List.mem_of_find?_eq_some found, by simpa using List.find?_some found⟩
  · rintro ⟨held, rfl⟩
    cases found : table.find? (key row) with
    | none =>
      have absent := List.find?_eq_none.mp found row held
      simp at absent
    | some other =>
      have otherHeld := List.mem_of_find?_eq_some found
      have otherKey : key other = key row := by simpa using List.find?_some found
      rw [List.inj_on_of_nodup_map table.unique otherHeld held otherKey]

theorem find?_eq_none : table.find? k = none ↔ ∀ row ∈ table.rows, key row ≠ k := by
  simp [find?, List.find?_eq_none]

theorem mem_of_find? (found : table.find? k = some row) : row ∈ table.rows :=
  (find?_eq_some.mp found).1

theorem key_of_find? (found : table.find? k = some row) : key row = k :=
  (find?_eq_some.mp found).2

theorem find?_of_mem (held : row ∈ table.rows) : table.find? (key row) = some row :=
  find?_eq_some.mpr ⟨held, rfl⟩

theorem mem_keys : k ∈ table.rows.map key ↔ (table.find? k).isSome := by
  rw [Option.isSome_iff_exists, List.mem_map]
  exact exists_congr fun row => find?_eq_some.symm

@[simp] theorem find?_empty : (empty : Table key).find? k = none := rfl

theorem has_iff : table.has k = true ↔ ∃ row, table.find? k = some row :=
  Option.isSome_iff_exists

end Lookup

section Statements
variable [DecidableEq κ] (table : Table key) (k : κ)

/-- An update changes the row that a lookup finds, when the condition selects it, and makes
no difference to what is found otherwise. -/
@[simp] theorem find?_update (condition : ρ → Bool) (change : ρ → ρ)
    (keeps : ∀ row, key (change row) = key row) :
    (table.update condition change keeps).find? k =
      (table.find? k).map fun row => if condition row then change row else row := by
  have sameKey : ∀ row, key (if condition row then change row else row) = key row := by
    intro row
    split
    · exact keeps row
    · rfl
  simp only [find?, update, List.find?_map]
  congr 2
  funext row
  simp [sameKey row]

/-- A delete hides exactly the rows its condition selects. -/
@[simp] theorem find?_delete (condition : ρ → Bool) :
    (table.delete condition).find? k = (table.find? k).filter fun row => !condition row := by
  ext row
  rw [find?_eq_some, Option.filter_eq_some_iff, find?_eq_some, delete, List.mem_filter]
  tauto

/-- A successful insert puts its row behind the others. -/
theorem rows_insert? {row : ρ} {after : Table key} (inserted : table.insert? row = some after) :
    after.rows = table.rows ++ [row] := by
  unfold insert? at inserted
  split at inserted
  · cases inserted
  · cases inserted
    rfl

/-- A successful insert adds one row under a key that no row held, and leaves what is found
under every other key as it was. -/
theorem find?_insert {row : ρ} {after : Table key} (inserted : table.insert? row = some after) :
    table.find? (key row) = none ∧
      after.find? k = if k = key row then some row else table.find? k := by
  unfold insert? at inserted
  split at inserted
  · cases inserted
  · rename_i absent
    cases inserted
    have unheld : table.find? (key row) = none := by
      simpa [mem_keys] using absent
    refine ⟨unheld, ?_⟩
    by_cases same : k = key row
    · subst same
      rw [if_pos rfl]
      exact find?_eq_some.mpr ⟨by simp, rfl⟩
    · rw [if_neg same]
      ext other
      rw [find?_eq_some, find?_eq_some, List.mem_append, List.mem_singleton]
      constructor
      · rintro ⟨held | rfl, named⟩
        · exact ⟨held, named⟩
        · exact absurd named.symm same
      · rintro ⟨held, named⟩
        exact ⟨Or.inl held, named⟩

theorem insert?_eq_none {row : ρ} : table.insert? row = none ↔ (table.find? (key row)).isSome := by
  rw [← mem_keys, insert?]
  split <;> simp_all

/-- An upsert leaves every other key alone; at its own key it merges into the
held row, or stores the offered one. -/
@[simp] theorem find?_upsert (row : ρ) (merge : ρ → ρ) (keeps : ∀ old, key (merge old) = key old) :
    (table.upsert row merge keeps).find? k =
      if k = key row then some ((table.find? k).elim row merge) else table.find? k := by
  unfold upsert
  cases inserted : table.insert? row with
  | some after =>
    obtain ⟨absent, found⟩ := find?_insert table k inserted
    simp only [found]
    split
    · rename_i same
      simp [same, absent]
    · rfl
  | none =>
    obtain ⟨old, held⟩ := Option.isSome_iff_exists.mp ((insert?_eq_none table).mp inserted)
    simp only [find?_update]
    by_cases same : k = key row
    · subst same
      simp [held, key_of_find? held]
    · rw [if_neg same]
      cases found : table.find? k with
      | none => rfl
      | some other =>
        have named : key other ≠ key row := by rwa [key_of_find? found]
        simp [named]

end Statements

/-- An update of one row counts it as what it becomes: the count moves by the difference
between the new row and the old, whatever is being counted. -/
theorem countP_update {table : Table key} {row : ρ} (held : row ∈ table.rows)
    (condition : ρ → Bool) (change : ρ → ρ) (keeps : ∀ row, key (change row) = key row)
    (only : ∀ other ∈ table.rows, condition other = true ↔ other = row) (counts : ρ → Bool) :
    ((table.update condition change keeps).rows.countP counts : Int) =
      table.rows.countP counts + (if counts (change row) then 1 else 0) -
        (if counts row then 1 else 0) := by
  have distinct : table.rows.Nodup := List.Nodup.of_map _ table.unique
  change (((table.rows.map fun row => if condition row then change row else row).countP counts : Nat) :
    Int) = _
  generalize table.rows = rows at held only distinct
  induction rows with
  | nil => cases held
  | cons first rest ih =>
    obtain ⟨fresh, distinct⟩ := List.nodup_cons.mp distinct
    rw [List.map_cons, List.countP_cons, List.countP_cons]
    by_cases here : first = row
    · subst here
      have others : (rest.map fun row => if condition row then change row else row) = rest := by
        refine (List.map_congr_left fun other listed => ?_).trans (List.map_id _)
        rw [if_neg]
        · rfl
        · intro chosen
          have same := (only other (List.mem_cons_of_mem first listed)).mp chosen
          exact fresh (same ▸ listed)
      rw [others, if_pos ((only first List.mem_cons_self).mpr rfl)]
      split_ifs <;> push_cast <;> omega
    · have listed := (List.mem_cons.mp held).resolve_left (Ne.symm here)
      have unchosen : ¬ condition first = true := fun chosen =>
        here ((only first List.mem_cons_self).mp chosen)
      have rest := ih listed (fun other later => only other (List.mem_cons_of_mem first later)) distinct
      rw [if_neg unchosen]
      push_cast
      omega
end Table

end Relational
