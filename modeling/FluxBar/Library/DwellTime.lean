import Mathlib.Algebra.Order.Group.Defs
import Mathlib.Data.List.Infix

/-! How long something has been shown without a break, told by the observations made of it,
the newest first. What happens between two observations is not observed. -/
namespace DwellTime
variable {O τ : Type}

/-- The latest observations all show it, from one made at this time on. This is what a timer
that is restarted by every observation to the contrary stands for. -/
def Since (shows : O → Prop) (time : O → τ) (start : τ) (history : List O) : Prop :=
  ∃ stretch, stretch <+: history ∧ (∀ observation ∈ stretch, shows observation) ∧
    ∃ first ∈ stretch.getLast?, time first = start

/-- Two observations this far apart, and all that were made between them, show it. Nothing
is said of the time between observations, when nobody looked. -/
def Dwelt [LE τ] [Sub τ] (shows : O → Prop) (time : O → τ) (duration : τ) (history : List O) :
    Prop :=
  ∃ stretch, stretch <:+: history ∧ (∀ observation ∈ stretch, shows observation) ∧
    ∃ last ∈ stretch.head?, ∃ first ∈ stretch.getLast?, duration ≤ time last - time first

section
variable {shows : O → Prop} {time : O → τ} {start : τ} {history : List O} {observation : O}

theorem since_begin (shown : shows observation) :
    Since shows time (time observation) (observation :: history) := by
  refine ⟨[observation], ⟨history, rfl⟩, ?_, observation, rfl, rfl⟩
  intro other held
  rw [List.mem_singleton.mp held]
  exact shown

theorem Since.extend (since : Since shows time start history) (shown : shows observation) :
    Since shows time start (observation :: history) := by
  obtain ⟨stretch, latest, all, first, beginning, began⟩ := since
  refine ⟨observation :: stretch, (List.prefix_cons_inj observation).mpr latest, ?_, first, ?_,
    began⟩
  · exact List.forall_mem_cons.mpr ⟨shown, all⟩
  · cases stretch with
    | nil => cases beginning
    | cons later rest =>
      rw [List.getLast?_cons_cons]
      exact beginning

variable [LE τ] [Sub τ] {duration : τ}

theorem Since.dwelt (since : Since shows time start (observation :: history))
    (long : duration ≤ time observation - start) :
    Dwelt shows time duration (observation :: history) := by
  obtain ⟨stretch, latest, all, first, beginning, rfl⟩ := since
  refine ⟨stretch, latest.isInfix, all, observation, ?_, first, beginning, long⟩
  cases stretch with
  | nil => cases beginning
  | cons later rest =>
    obtain ⟨rfl, _⟩ := List.cons_prefix_cons.mp latest
    rfl

theorem Dwelt.cons (dwelt : Dwelt shows time duration history) :
    Dwelt shows time duration (observation :: history) := by
  obtain ⟨stretch, within, all, ends⟩ := dwelt
  exact ⟨stretch, within.trans (List.suffix_cons observation history).isInfix, all, ends⟩

theorem Dwelt.ends (dwelt : Dwelt shows time duration history) :
    ∃ last ∈ history, ∃ first ∈ history, duration ≤ time last - time first := by
  obtain ⟨stretch, within, _, last, latest, first, earliest, long⟩ := dwelt
  exact ⟨last, within.subset (List.mem_of_mem_head? latest), first,
    within.subset (List.mem_of_mem_getLast? earliest), long⟩

/-- An observation that does not show it breaks the history in two: a stretch that is long
enough lies wholly after the observation or wholly before it. -/
theorem Dwelt.broken {newer older : List O}
    (dwelt : Dwelt shows time duration (newer ++ observation :: older))
    (hidden : ¬ shows observation) :
    Dwelt shows time duration newer ∨ Dwelt shows time duration older := by
  obtain ⟨stretch, ⟨before, rest, whole⟩, all, ends⟩ := dwelt
  have absent : observation ∉ stretch := fun held => hidden (all observation held)
  rcases List.append_eq_append_iff.mp whole with ⟨more, within, _⟩ | ⟨past, crossed, tail⟩
  · exact .inl ⟨stretch, ⟨before, more, within.symm⟩, all, ends⟩
  · cases past with
    | nil =>
      rw [List.append_nil] at crossed
      exact .inl ⟨stretch, ⟨before, [], by rw [List.append_nil, crossed]⟩, all, ends⟩
    | cons gap past =>
      rw [List.cons_append] at tail
      obtain ⟨rfl, rfl⟩ := List.cons.inj tail
      rcases List.append_eq_append_iff.mp crossed with ⟨inside, _, beyond⟩ | ⟨skipped, _, under⟩
      · rw [beyond] at absent
        exact absurd (List.mem_append_right _ List.mem_cons_self) absent
      · cases skipped with
        | nil =>
          rw [List.nil_append] at under
          rw [← under] at absent
          exact absurd List.mem_cons_self absent
        | cons gap skipped =>
          obtain ⟨rfl, rfl⟩ := List.cons.inj under
          exact .inr ⟨stretch, ⟨skipped, rest, rfl⟩, all, ends⟩

end
end DwellTime
