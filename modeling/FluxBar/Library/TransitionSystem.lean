import Mathlib.Logic.Relation

/-! Labelled-free transition systems: what holds of the initial states and survives
each step holds in every state reached, and what one system does another can
be shown to do through an abstraction of its states. -/
namespace Transition

/-- A set of initial states and a step relation. Runs interleave whatever steps there are,
and nothing is assumed about which of them is taken. -/
structure System (σ : Type) where
  initial : σ → Prop
  step : σ → σ → Prop

variable {σ τ : Type}

/-- The states in which some finite run from an initial state ends. -/
inductive System.Reachable (system : System σ) : σ → Prop where
  | start {state : σ} : system.initial state → system.Reachable state
  | next {state after : σ} : system.Reachable state → system.step state after →
      system.Reachable after

namespace System.Reachable
variable {system other : System σ}

/-- The invariant rule: what holds initially and is kept by every step holds of every
reachable state. The step may use that the state it starts from is reachable. -/
theorem invariant (holds : σ → Prop) {state : σ} (reached : system.Reachable state)
    (initially : ∀ state, system.initial state → holds state)
    (preserved : ∀ state after, system.Reachable state → holds state →
      system.step state after → holds after) : holds state := by
  induction reached with
  | start initial => exact initially _ initial
  | next reached step ih => exact preserved _ _ reached ih step

theorem steps {state after : σ} (reached : system.Reachable state)
    (taken : Relation.ReflTransGen system.step state after) : system.Reachable after := by
  induction taken with
  | refl => exact reached
  | tail _ step ih => exact .next ih step

/-- Forward simulation through an abstraction: each concrete step is a finite run of
abstract ones, so reachable states abstract to reachable states, and invariants of the
abstract system hold of the concrete one through the view. -/
theorem abstracts {abstract : System τ} (view : σ → τ) {state : σ}
    (reached : system.Reachable state)
    (initial : ∀ state, system.initial state → abstract.Reachable (view state))
    (step : ∀ state after, system.Reachable state → system.step state after →
      Relation.ReflTransGen abstract.step (view state) (view after)) :
    abstract.Reachable (view state) := by
  induction reached with
  | start first => exact initial _ first
  | next reached taken ih => exact ih.steps (step _ _ reached taken)

end System.Reachable

/-- A fold keeps what its steps over the listed items keep. A fold that fails says nothing,
which is why only the steps that go through are asked about. -/
theorem foldlM_invariant_mem {ε α : Type} (holds : σ → Prop) {advance : σ → α → Except ε σ}
    {items : List α} (preserved : ∀ state, ∀ item ∈ items, ∀ after, holds state →
      advance state item = .ok after → holds after)
    {state after : σ} (initially : holds state) (ran : items.foldlM advance state = .ok after) :
    holds after := by
  induction items generalizing state with
  | nil =>
    simp only [List.foldlM_nil] at ran
    cases ran
    exact initially
  | cons item rest ih =>
    rw [List.foldlM_cons] at ran
    cases first : advance state item with
    | error failure => simp [first, bind, Except.bind] at ran
    | ok middle =>
      rw [first] at ran
      refine ih ?_ (preserved _ item List.mem_cons_self _ initially first) ran
      exact fun state other listed => preserved state other (List.mem_cons_of_mem item listed)

theorem foldlM_invariant {ε α : Type} (holds : σ → Prop) {advance : σ → α → Except ε σ}
    (preserved : ∀ state item after, holds state → advance state item = .ok after → holds after)
    {items : List α} {state after : σ} (initially : holds state)
    (ran : items.foldlM advance state = .ok after) : holds after :=
  foldlM_invariant_mem holds (fun state item _ => preserved state item) initially ran

/-- A fold whose steps append to a list appends, from left to right, what each of the items
adds. -/
theorem foldlM_appends {ε α β : Type} (view : σ → List β) (added : α → List β)
    {advance : σ → α → Except ε σ}
    (appends : ∀ state item after, advance state item = .ok after →
      view after = view state ++ added item)
    {items : List α} {state after : σ} (ran : items.foldlM advance state = .ok after) :
    view after = view state ++ items.flatMap added := by
  induction items generalizing state with
  | nil =>
    simp only [List.foldlM_nil] at ran
    cases ran
    simp
  | cons item rest ih =>
    rw [List.foldlM_cons] at ran
    cases first : advance state item with
    | error failure => simp [first, bind, Except.bind] at ran
    | ok middle =>
      rw [first] at ran
      rw [ih ran, appends state item middle first, List.append_assoc, List.flatMap_cons]

end Transition
