import FluxBar.Library.TransitionSystem

/-! A view of a changing source, brought up to date by the answers to requests.
The source executes each request at some point, and the answer shows some keys with
what the source held right after; it may be applied to the view or dropped, and
answers come in any order. An entry of the view that is behind the source is made
up for by a request still under way, unless an answer was handled too late. -/
namespace AnsweredView
open Transition

variable {κ ν : Type}

/-- A request under way: whether its answer will be shown, and once it has been
executed what the source held before and after. -/
structure Request (κ ν : Type) where
  shown : Bool
  answer : Option ((κ → ν) × (κ → ν))

/-- The view as it is shown, the source that holds the truth, and the requests under way,
each of which will bring some of the source into the view or has been told not to. -/
structure State (κ ν : Type) where
  view : List (κ × ν)
  source : κ → ν
  requests : List (Request κ ν)

/-- The request is about to bring the source's value of a key into the view, or is
what gave the source that value. -/
def Request.MakesUp (request : Request κ ν) (source : κ → ν) (key : κ) : Prop :=
  match request.answer with
  | none => request.shown = true
  | some (before, after) => after key = source key ∧ (request.shown = true ∨ before key ≠ after key)

/-- Some request under way makes up for a key: what the view shows under it may be behind
the source, but an answer that sets it right is still to come. -/
def MadeUp (source : κ → ν) (requests : List (Request κ ν)) (key : κ) : Prop :=
  ∃ request ∈ requests, request.MakesUp source key

/-- An entry of the view is current, or its key is made up for. This is what every step in
time keeps, and with nothing under way it says that the view is current. -/
def Accounted (source : κ → ν) (requests : List (Request κ ν)) (entry : κ × ν) : Prop :=
  source entry.1 = entry.2 ∨ MadeUp source requests entry.1

/-- An answer applied with this view is not behind the source, or something else
makes up for it. -/
def AppliedInTime (source after : κ → ν) (others : List (Request κ ν)) (view : List (κ × ν)) : Prop :=
  ∀ entry ∈ view, after entry.1 = source entry.1 ∨ MadeUp source others entry.1

/-- An answer dropped from beside this view did not bring about a value that the
view lacks, or something else makes up for it. -/
def DroppedInTime (source before after : κ → ν) (others : List (Request κ ν))
    (view : List (κ × ν)) : Prop :=
  ∀ entry ∈ view, before entry.1 ≠ after entry.1 → after entry.1 = source entry.1 →
    Accounted source others entry

/-- What can happen next. Requests may be made, executed at the source, applied to the view
and dropped in any order; only applying and dropping can put the view behind, so these two
carry the condition that they come in time. -/
inductive Step : State κ ν → State κ ν → Prop where
  | keep {state : State κ ν} {requests : List (Request κ ν)} : state.requests ⊆ requests →
      Step state { state with requests }
  -- a new request; those before it may no longer be shown
  | ask {state : State κ ν} {requests : List (Request κ ν)} :
      (∃ request ∈ requests, request.shown = true ∧ request.answer = none) →
      Step state { state with requests }
  | execute {state : State κ ν} {left right : List (Request κ ν)} {shown : Bool} (after : κ → ν) :
      state.requests = left ++ ⟨shown, none⟩ :: right →
      Step state { state with
        source := after, requests := left ++ ⟨shown, some (state.source, after)⟩ :: right }
  | apply {state : State κ ν} {left right : List (Request κ ν)} {before after : κ → ν}
      {view : List (κ × ν)} : state.requests = left ++ ⟨true, some (before, after)⟩ :: right →
      (∀ entry ∈ view, after entry.1 = entry.2) →
      AppliedInTime state.source after (left ++ right) view →
      Step state { state with view, requests := left ++ right }
  | drop {state : State κ ν} {left right : List (Request κ ν)} {before after : κ → ν} :
      state.requests = left ++ ⟨false, some (before, after)⟩ :: right →
      DroppedInTime state.source before after (left ++ right) state.view →
      Step state { state with requests := left ++ right }

/-- The runs that start from a view which is current. Every answer of such a run is handled
in time, as its steps require. -/
def updates : System (State κ ν) where
  initial state := ∀ entry ∈ state.view, state.source entry.1 = entry.2
  step := Step

/-! ## The invariant -/

section Keys
variable {source after : κ → ν} {requests more : List (Request κ ν)} {key : κ}

theorem MadeUp.mono (made : MadeUp source requests key) (kept : requests ⊆ more) :
    MadeUp source more key := by
  obtain ⟨request, member, makes⟩ := made
  exact ⟨request, kept member, makes⟩

/-- A request that is still to be executed makes up for every key it will show. -/
theorem madeUp_of_fresh (fresh : ∃ request ∈ requests, request.shown = true ∧ request.answer = none) :
    MadeUp source requests key := by
  obtain ⟨request, member, shown, unanswered⟩ := fresh
  refine ⟨request, member, ?_⟩
  unfold Request.MakesUp
  rw [unanswered]
  exact shown

/-- What made up for a key before an execution still does, unless the execution
changed its value and makes up for it itself. -/
theorem MadeUp.execute {left right : List (Request κ ν)} {shown : Bool}
    (made : MadeUp source (left ++ ⟨shown, none⟩ :: right) key) :
    MadeUp after (left ++ ⟨shown, some (source, after)⟩ :: right) key := by
  by_cases same : source key = after key
  · obtain ⟨request, member, makes⟩ := made
    rcases List.mem_append.mp member with first | member
    · refine ⟨request, List.mem_append_left _ first, ?_⟩
      unfold Request.MakesUp at makes ⊢
      rwa [← same]
    · rcases List.mem_cons.mp member with rfl | last
      · exact ⟨_, List.mem_append_right _ List.mem_cons_self, rfl, .inl makes⟩
      · refine ⟨request, List.mem_append_right _ (List.mem_cons_of_mem _ last), ?_⟩
        unfold Request.MakesUp at makes ⊢
        rwa [← same]
  · exact ⟨_, List.mem_append_right _ List.mem_cons_self, rfl, .inr same⟩

end Keys

section Handled
variable {source before after : κ → ν} {left right : List (Request κ ν)} {view : List (κ × ν)}

/-- Applying an answer leaves every entry accounted for precisely when it is in time. So the
condition on this step is exact: a late answer always leaves an entry behind that nothing
makes up for. -/
theorem accounted_apply_iff (shows : ∀ entry ∈ view, after entry.1 = entry.2) :
    (∀ entry ∈ view, Accounted source (left ++ right) entry) ↔
      AppliedInTime source after (left ++ right) view := by
  refine forall₂_congr fun entry listed => ?_
  unfold Accounted
  rw [← shows entry listed, eq_comm]

/-- Dropping an answer that will not be shown leaves every entry accounted for precisely
when it is in time. The request may have been what made up for an entry, namely for one
whose value it changed itself. -/
theorem accounted_drop_iff
    (accounted : ∀ entry ∈ view,
      Accounted source (left ++ ⟨false, some (before, after)⟩ :: right) entry) :
    (∀ entry ∈ view, Accounted source (left ++ right) entry) ↔
      DroppedInTime source before after (left ++ right) view := by
  constructor
  · intro still entry listed _ _
    exact still entry listed
  · intro inTime entry listed
    rcases accounted entry listed with current | ⟨request, member, makes⟩
    · exact .inl current
    · have others : request ∈ left ++ right → Accounted source (left ++ right) entry :=
        fun member => .inr ⟨request, member, makes⟩
      rcases List.mem_append.mp member with first | member
      · exact others (List.mem_append_left _ first)
      · rcases List.mem_cons.mp member with rfl | last
        · obtain ⟨held, absurd | changed⟩ := makes
          · cases absurd
          · exact inTime entry listed changed held
        · exact others (List.mem_append_right _ last)

end Handled

/-- One step keeps the view accounted for. An execution that changes a value makes up for it
itself; the two handling steps keep it by their conditions. -/
theorem accounted_step {state after : State κ ν}
    (accounted : ∀ entry ∈ state.view, Accounted state.source state.requests entry)
    (step : Step state after) :
    ∀ entry ∈ after.view, Accounted after.source after.requests entry := by
  cases step with
  | keep kept =>
    intro entry listed
    exact (accounted entry listed).imp_right fun made => made.mono kept
  | ask fresh =>
    intro entry _
    exact .inr (madeUp_of_fresh fresh)
  | execute changed pending =>
    intro entry listed
    rcases accounted entry listed with current | made
    · by_cases same : state.source entry.1 = changed entry.1
      · exact .inl (same.symm.trans current)
      · exact .inr ⟨_, List.mem_append_right _ List.mem_cons_self, rfl, .inr same⟩
    · rw [pending] at made
      exact .inr made.execute
  | apply pending shows inTime => exact (accounted_apply_iff shows).mpr inTime
  | drop pending inTime =>
    rw [pending] at accounted
    exact (accounted_drop_iff accounted).mpr inTime

/-- In every state of a run whose answers come in time, each entry of the view is current or
made up for by a request under way. -/
theorem accounted_of_reachable {state : State κ ν} (reached : updates.Reachable state) :
    ∀ entry ∈ state.view, Accounted state.source state.requests entry := by
  refine reached.invariant
    (fun state => ∀ entry ∈ state.view, Accounted state.source state.requests entry)
    (fun _ current entry listed => .inl (current entry listed)) ?_
  intro state after _ accounted step
  exact accounted_step accounted step

/-- With nothing under way the view is current: whatever requests there were, and in
whatever order they were answered, each entry shows what the source holds. -/
theorem current_of_reachable {state : State κ ν} (reached : updates.Reachable state)
    (idle : state.requests = []) : ∀ entry ∈ state.view, state.source entry.1 = entry.2 := by
  intro entry listed
  rcases accounted_of_reachable reached entry listed with current | ⟨_, absurd, _⟩
  · exact current
  · rw [idle] at absurd
    cases absurd

end AnsweredView
