import FluxBar.Library.TransitionSystem
import Mathlib.Logic.Function.Basic

/-! Single flight: values fetched under keys and kept, with at most one fetch of a key at a
time. A value kept may be dropped again. How often a key was fetched is told by how often a
fetch of it failed and its value was dropped. -/
namespace SingleFlight
open Transition

/-- What is kept under each key and which keys are being fetched, with counts of the fetches
begun, of those that failed and of the values dropped. The counts are there for the
statements only; no step reads them. -/
structure Flights (κ α : Type) where
  kept : κ → Option α
  running : κ → Bool
  begun : κ → Nat
  failed : κ → Nat
  dropped : κ → Nat

namespace Flights
variable {κ α : Type} [DecidableEq κ]

def none : Flights κ α := ⟨fun _ => .none, fun _ => false, fun _ => 0, fun _ => 0, fun _ => 0⟩

/-- One more at a key. -/
def more (count : κ → Nat) (key : κ) : κ → Nat := Function.update count key (count key + 1)

inductive Step : Flights κ α → Flights κ α → Prop where
  | start {flights : Flights κ α} (key : κ) :
      flights.kept key = .none → flights.running key = false →
      Step flights { flights with
        running := Function.update flights.running key true
        begun := more flights.begun key }
  | land {flights : Flights κ α} (key : κ) (value : α) : flights.running key = true →
      Step flights { flights with
        kept := Function.update flights.kept key (some value)
        running := Function.update flights.running key false }
  | fail {flights : Flights κ α} (key : κ) : flights.running key = true →
      Step flights { flights with
        running := Function.update flights.running key false
        failed := more flights.failed key }
  | drop {flights : Flights κ α} (key : κ) : (flights.kept key).isSome →
      Step flights { flights with
        kept := Function.update flights.kept key .none
        dropped := more flights.dropped key }

/-- The runs from nothing kept and nothing under way, with every count at zero. -/
def system (κ α : Type) [DecidableEq κ] : System (Flights κ α) where
  initial flights := flights = none
  step := Step

/-- Every fetch of a key is under way, has failed, or has brought a value that is kept or
was dropped; and a key with a value is not being fetched. The equation between the counts is
the invariant of all runs. -/
structure Accounted (flights : Flights κ α) (key : κ) : Prop where
  begun : flights.begun key = flights.failed key + flights.dropped key +
    (flights.kept key).isSome.toNat + (flights.running key).toNat
  idle : (flights.kept key).isSome → flights.running key = false

variable {flights after : Flights κ α} {key : κ}

@[simp] theorem more_self (count : κ → Nat) (key : κ) : more count key key = count key + 1 :=
  Function.update_self ..

theorem more_of_ne {other : κ} (count : κ → Nat) (different : key ≠ other) :
    more count other key = count key := Function.update_of_ne different ..

/-- Counts over a list of the keys that were counted. -/
theorem more_count (keys : List κ) (key : κ) :
    more (fun other => keys.count other) key = fun other => (key :: keys).count other := by
  funext other
  by_cases same : other = key
  · subst same
    rw [more_self, List.count_cons_self]
  · rw [more_of_ne _ same, List.count_cons_of_ne (Ne.symm same)]

theorem accounted_step (held : Accounted flights key) (step : Step flights after) :
    Accounted after key := by
  obtain ⟨begun, idle⟩ := held
  cases step with
  | start other absent rest =>
    by_cases same : key = other
    · subst same
      rw [absent, rest] at begun
      exact ⟨by simp [absent, begun], by simp [absent]⟩
    · exact ⟨by simpa [more_of_ne _ same, Function.update_of_ne same] using begun,
        by simpa [Function.update_of_ne same] using idle⟩
  | land other value running =>
    by_cases same : key = other
    · subst same
      have absent : (flights.kept key).isSome = false :=
        Bool.eq_false_iff.mpr fun present => by simp [idle present] at running
      rw [absent, running] at begun
      exact ⟨by simp [begun], by simp⟩
    · exact ⟨by simpa [Function.update_of_ne same] using begun,
        by simpa [Function.update_of_ne same] using idle⟩
  | fail other running =>
    by_cases same : key = other
    · subst same
      rw [running] at begun
      simp only [Bool.toNat_true] at begun
      refine ⟨?_, by simp⟩
      simp only [more_self, Function.update_self, Bool.toNat_false]
      omega
    · exact ⟨by simpa [more_of_ne _ same, Function.update_of_ne same] using begun,
        by simpa [Function.update_of_ne same] using idle⟩
  | drop other present =>
    by_cases same : key = other
    · subst same
      rw [present] at begun
      simp only [Bool.toNat_true] at begun
      refine ⟨?_, by simp⟩
      simp only [more_self, Function.update_self, Option.isSome_none, Bool.toNat_false]
      omega
    · exact ⟨by simpa [more_of_ne _ same, Function.update_of_ne same] using begun,
        by simpa [Function.update_of_ne same] using idle⟩

theorem accounted (reached : (system κ α).Reachable flights) (key : κ) :
    Accounted flights key := by
  refine reached.invariant _ ?_ fun _ _ _ held step => accounted_step held step
  rintro _ rfl
  exact ⟨rfl, fun absurd => (by cases absurd)⟩

/-- A key is fetched at most once more than its fetches failed and its values were dropped:
calls that come while a fetch is under way, or after it has brought a value, begin none. -/
theorem begun_le (reached : (system κ α).Reachable flights) (key : κ) :
    flights.begun key ≤ flights.failed key + flights.dropped key + 1 := by
  obtain ⟨begun, idle⟩ := accounted reached key
  cases kept : (flights.kept key).isSome with
  | false =>
    have bound := Bool.toNat_le (flights.running key)
    simp only [kept, Bool.toNat_false] at begun
    omega
  | true => simp [begun, kept, idle kept]

/-- A value stays, and its key is not fetched again, as long as no value of the key is
dropped, however long the run goes on and whatever other keys do. -/
theorem kept_of_run {value : α} (kept : flights.kept key = some value)
    (idle : flights.running key = false) (run : Relation.ReflTransGen Step flights after) :
    flights.dropped key ≤ after.dropped key ∧ (after.dropped key = flights.dropped key →
      after.kept key = some value ∧ after.running key = false ∧
        after.begun key = flights.begun key) := by
  induction run with
  | refl => exact ⟨Nat.le_refl _, fun _ => ⟨kept, idle, rfl⟩⟩
  | @tail middle after _ step ih =>
    obtain ⟨dropped, ih⟩ := ih
    cases step with
    | start other absent _ =>
      refine ⟨dropped, fun same => ?_⟩
      obtain ⟨still, rest, begun⟩ := ih same
      have different : key ≠ other := fun same => by simp [same ▸ still] at absent
      exact ⟨still, (Function.update_of_ne different ..).trans rest,
        (more_of_ne _ different).trans begun⟩
    | land other brought running =>
      refine ⟨dropped, fun same => ?_⟩
      obtain ⟨still, rest, begun⟩ := ih same
      have different : key ≠ other := fun same => by simp [same ▸ rest] at running
      exact ⟨(Function.update_of_ne different ..).trans still,
        (Function.update_of_ne different ..).trans rest, begun⟩
    | fail other running =>
      refine ⟨dropped, fun same => ?_⟩
      obtain ⟨still, rest, begun⟩ := ih same
      have different : key ≠ other := fun same => by simp [same ▸ rest] at running
      exact ⟨still, (Function.update_of_ne different ..).trans rest, begun⟩
    | drop other present =>
      by_cases here : key = other
      · subst here
        have grew : more middle.dropped key key = middle.dropped key + 1 := more_self ..
        exact ⟨by dsimp only; omega, fun same => by dsimp only at same; omega⟩
      · have same : more middle.dropped other key = middle.dropped key := more_of_ne _ here
        refine ⟨by dsimp only; omega, fun unchanged => ?_⟩
        obtain ⟨still, rest, begun⟩ := ih (same.symm.trans unchanged)
        exact ⟨(Function.update_of_ne here ..).trans still, rest, begun⟩

end Flights
end SingleFlight
