import Mathlib.Data.List.Nodup

/-! Registries of weak references. Objects are shared and die when nobody holds
them; under each key a registry names at most one object, and lets a newcomer
take the place only of a dead one. So no two objects enrolled under one key are
alive together. -/
namespace WeakRegistry
variable {κ ι : Type} [DecidableEq κ] {key : κ} {object candidate : ι} {entries : List (κ × ι)}

/-- The object registered under a key, if it is still alive. The registry itself keeps no
object alive, so an entry may outlast what it names. -/
def upgrade (alive : ι → Bool) (key : κ) (entries : List (κ × ι)) : Option ι :=
  match entries.find? fun entry => entry.1 = key with
  | none => none
  | some entry => if alive entry.2 then some entry.2 else none

/-- Drops the entries of dead objects, that of a key aside. -/
def prune (alive : ι → Bool) (key : κ) (entries : List (κ × ι)) : List (κ × ι) :=
  entries.filter fun entry => entry.1 = key || alive entry.2

/-- Registers an object, in the place of the key if it has one. -/
def register (key : κ) (object : ι) : List (κ × ι) → List (κ × ι)
  | [] => [(key, object)]
  | entry :: rest => if entry.1 = key then (key, object) :: rest else entry :: register key object rest

theorem mem_register_self : (key, object) ∈ register key object entries := by
  induction entries with
  | nil => exact List.mem_singleton_self _
  | cons entry rest ih =>
    unfold register
    split
    · exact List.mem_cons_self
    · exact List.mem_cons_of_mem entry ih

theorem mem_register_other {entry : κ × ι} (listed : entry ∈ entries) (other : entry.1 ≠ key) :
    entry ∈ register key object entries := by
  induction entries with
  | nil => cases listed
  | cons first rest ih =>
    unfold register
    rcases List.mem_cons.mp listed with rfl | later
    · rw [if_neg other]
      exact List.mem_cons_self
    · split
      · exact List.mem_cons_of_mem _ later
      · exact List.mem_cons_of_mem _ (ih later)

theorem mem_of_register {entry : κ × ι} (listed : entry ∈ register key object entries) :
    entry = (key, object) ∨ entry ∈ entries := by
  induction entries with
  | nil => exact .inl (List.mem_singleton.mp listed)
  | cons first rest ih =>
    unfold register at listed
    split at listed
    · exact (List.mem_cons.mp listed).imp_right (List.mem_cons_of_mem first)
    · rcases List.mem_cons.mp listed with rfl | later
      · exact .inr List.mem_cons_self
      · exact (ih later).imp_right (List.mem_cons_of_mem first)

/-- The keys are those there were, and the new one at the end if it was not there; so keys
that were distinct stay distinct. -/
theorem keys_register : (register key object entries).map Prod.fst =
    if key ∈ entries.map Prod.fst then entries.map Prod.fst else entries.map Prod.fst ++ [key] := by
  induction entries with
  | nil => simp [register]
  | cons entry rest ih =>
    unfold register
    by_cases here : entry.1 = key
    · simp [here]
    · rw [if_neg here, List.map_cons, ih]
      by_cases later : key ∈ rest.map Prod.fst
      · simp [later]
      · simp [later, Ne.symm here]

theorem nodup_register (distinct : (entries.map Prod.fst).Nodup) :
    ((register key object entries).map Prod.fst).Nodup := by
  rw [keys_register]
  split
  · exact distinct
  · rename_i absent
    exact List.nodup_append.mpr ⟨distinct, List.nodup_singleton key, fun found held other same => by
      rw [List.mem_singleton.mp same]
      rintro rfl
      exact absent held⟩

/-- A live object is found under its key. -/
theorem upgrade_of_mem {alive : ι → Bool} (distinct : (entries.map Prod.fst).Nodup)
    (listed : (key, object) ∈ entries) (live : alive object = true) :
    upgrade alive key entries = some object := by
  have found : entries.find? (fun entry => entry.1 = key) = some (key, object) := by
    cases found : entries.find? fun entry => entry.1 = key with
    | none =>
      have absent := List.find?_eq_none.mp found (key, object) listed
      simp at absent
    | some entry =>
      have same := List.find?_some found
      simp only [decide_eq_true_eq] at same
      rw [List.inj_on_of_nodup_map distinct (List.mem_of_find?_eq_some found) listed same]
  unfold upgrade
  rw [found]
  simp [live]

theorem alive_of_upgrade {alive : ι → Bool} (found : upgrade alive key entries = some object) :
    alive object = true ∧ (key, object) ∈ entries := by
  unfold upgrade at found
  split at found
  · cases found
  · rename_i entry first
    split at found
    · rename_i live
      cases found
      have same := List.find?_some first
      simp only [decide_eq_true_eq] at same
      exact ⟨live, same ▸ List.mem_of_find?_eq_some first⟩
    · cases found

/-- Of the objects ever enrolled under their keys, the live ones are registered under them,
and the keys of the registry are distinct. -/
structure Registered (alive : ι → Bool) (enrolled entries : List (κ × ι)) : Prop where
  distinct : (entries.map Prod.fst).Nodup
  listed : ∀ entry ∈ enrolled, alive entry.2 = true → entry ∈ entries

namespace Registered
variable {alive : ι → Bool} {enrolled : List (κ × ι)}

omit [DecidableEq κ] in
theorem empty : Registered alive ([] : List (κ × ι)) [] :=
  ⟨List.nodup_nil, fun _ held => by cases held⟩

omit [DecidableEq κ] in
/-- No two live objects are enrolled under one key: both of them would be registered there,
and a key has one entry. -/
theorem unique (registered : Registered alive enrolled entries) {other : ι}
    (held : (key, object) ∈ enrolled) (otherHeld : (key, other) ∈ enrolled)
    (live : alive object = true) (otherLive : alive other = true) : object = other := by
  have same := List.inj_on_of_nodup_map registered.distinct (registered.listed _ held live)
    (registered.listed _ otherHeld otherLive) rfl
  exact congrArg Prod.snd same

omit [DecidableEq κ] in
/-- Objects may die, and new ones be born that are not enrolled, without the registry being
told. -/
theorem die {alive' : ι → Bool} (registered : Registered alive enrolled entries)
    (dies : ∀ entry ∈ enrolled, alive' entry.2 = true → alive entry.2 = true) :
    Registered alive' enrolled entries :=
  ⟨registered.distinct, fun entry held live => registered.listed entry held (dies entry held live)⟩

/-- Under a key the live object is kept; only for want of one the candidate is enrolled.
Whichever was chosen is the one registered afterwards, and every other live object still is.
-/
theorem enroll (registered : Registered alive enrolled entries)
    (chosen : object = (upgrade alive key entries).getD candidate) :
    Registered alive ((key, object) :: enrolled) (register key object (prune alive key entries)) := by
  refine ⟨nodup_register ((List.filter_sublist.map _).nodup registered.distinct), ?_⟩
  intro entry held live
  rcases List.mem_cons.mp held with rfl | held
  · exact mem_register_self
  · have listed := registered.listed entry held live
    by_cases same : entry.1 = key
    · obtain ⟨name, found⟩ := entry
      cases same
      rw [upgrade_of_mem registered.distinct listed live] at chosen
      cases chosen
      exact mem_register_self
    · refine mem_register_other (List.mem_filter.mpr ⟨listed, ?_⟩) same
      simp [live]

end Registered

end WeakRegistry
