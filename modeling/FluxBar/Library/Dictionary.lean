import FluxBar.Library.KeyedTable

/-! Dictionaries as tables of pairs, with what a lookup finds after each operation. -/
namespace Relational

/-- A value under each of finitely many keys: a table of pairs whose key is the first
component, so that its lemmas are those of tables. -/
abbrev Dictionary (κ α : Type) := Table (Prod.fst : κ × α → κ)

namespace Dictionary
variable {κ α β : Type} [DecidableEq κ] (dictionary : Dictionary κ α) (k key : κ)

def get? : Option α := (dictionary.find? k).map Prod.snd

/-- The value under a key replaced by what is made of it: inserted where there was none,
changed where there was one, and left as it is where nothing is made of it. -/
def revise (change : Option α → Option α) : Dictionary κ α :=
  match change (dictionary.get? k) with
  | none => dictionary
  | some value => dictionary.upsert (k, value) (fun old => (old.1, value)) fun _ => rfl

/-- Each of the listed keys revised in turn, with the value listed for it, as a loop over
the entries of another dictionary does. -/
def reviseAll (entries : List (κ × β)) (change : κ → β → Option α → Option α) : Dictionary κ α :=
  entries.foldl (fun dictionary entry => revise dictionary entry.1 (change entry.1 entry.2)) dictionary

def mapValues (change : α → α) : Dictionary κ α :=
  dictionary.update (fun _ => true) (fun row => (row.1, change row.2)) fun _ => rfl

def filterKeys (keep : κ → Bool) : Dictionary κ α := dictionary.delete fun row => !keep row.1

variable {dictionary k key}

theorem get?_eq_some {value : α} :
    dictionary.get? k = some value ↔ (k, value) ∈ dictionary.rows := by
  unfold get?
  rw [Option.map_eq_some_iff]
  constructor
  · rintro ⟨⟨key, _⟩, found, rfl⟩
    cases Table.key_of_find? found
    exact Table.mem_of_find? found
  · exact fun held => ⟨_, Table.find?_of_mem held, rfl⟩

@[simp] theorem get?_empty : get? (Table.empty : Dictionary κ α) k = none := rfl

theorem get?_revise {change : Option α → Option α} :
    (dictionary.revise key change).get? k =
      if k = key then (change (dictionary.get? k)).or (dictionary.get? k)
      else dictionary.get? k := by
  unfold revise
  by_cases same : k = key
  · subst same
    rw [if_pos rfl]
    cases made : change (dictionary.get? k) with
    | none => rfl
    | some value =>
      unfold get?
      rw [Table.find?_upsert, if_pos rfl]
      cases dictionary.find? k <;> rfl
  · rw [if_neg same]
    cases change (dictionary.get? key) with
    | none => rfl
    | some value =>
      unfold get?
      rw [Table.find?_upsert, if_neg same]

/-- Keys that are listed once are revised once: what a key holds in the end depends on its
own entry and on what it held before, and the order of the entries does not matter. -/
theorem get?_reviseAll {entries : List (κ × β)} (distinct : (entries.map Prod.fst).Nodup)
    {change : κ → β → Option α → Option α} :
    (dictionary.reviseAll entries change).get? k =
      ((entries.find? fun entry => entry.1 = k).bind fun entry =>
        change k entry.2 (dictionary.get? k)).or (dictionary.get? k) := by
  induction entries generalizing dictionary with
  | nil => rfl
  | cons entry rest ih =>
    obtain ⟨fresh, distinct⟩ := List.nodup_cons.mp distinct
    unfold reviseAll at ih ⊢
    rw [List.foldl_cons, ih distinct, get?_revise, List.find?_cons]
    by_cases here : k = entry.1
    · subst here
      have absent : rest.find? (fun other => other.1 = entry.1) = none :=
        List.find?_eq_none.mpr fun other held same =>
          fresh (List.mem_map.mpr ⟨other, held, by simpa using same⟩)
      simp [absent]
    · simp [here, Ne.symm here]

theorem get?_mapValues {change : α → α} :
    (dictionary.mapValues change).get? k = (dictionary.get? k).map change := by
  unfold get? mapValues
  rw [Table.find?_update, Option.map_map, Option.map_map]
  rfl

theorem get?_filterKeys {keep : κ → Bool} :
    (dictionary.filterKeys keep).get? k = if keep k then dictionary.get? k else none := by
  unfold get? filterKeys
  rw [Table.find?_delete]
  cases found : dictionary.find? k with
  | none => simp
  | some row =>
    cases Table.key_of_find? found
    rw [Option.filter_some]
    cases keep row.1 <;> rfl

end Dictionary
end Relational
