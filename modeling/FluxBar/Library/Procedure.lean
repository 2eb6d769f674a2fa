import Mathlib.Control.Basic

/-! Procedures that change a state and may fail; a failed one keeps the changes
it made. What a procedure returns is taken apart along its sequencing. -/
namespace Procedure
variable {ε ε' σ τ α β : Type}

/-- A procedure that ends well from a state: its value, and the state it leaves. Together
with `Fails` this is the whole of what a procedure does, and the rules below take sequences
apart by it. -/
def Returns (program : ExceptT ε (StateM σ) α) (state : σ) (value : α) (after : σ) : Prop :=
  @Eq (Except ε α × σ) (program state) (.ok value, after)

variable {state after : σ} {value : α} {result : β}

@[simp] theorem returns_pure {other : α} :
    Returns (pure other : ExceptT ε (StateM σ) α) state value after ↔
      other = value ∧ state = after := by
  unfold Returns
  change (Except.ok other, state) = (Except.ok value, after) ↔ _
  simp

/-- A sequence returns when both of its parts do, one after the other, the second from the
value and the state that the first has left. -/
theorem returns_bind {program : ExceptT ε (StateM σ) α} {next : α → ExceptT ε (StateM σ) β} :
    Returns (program >>= next) state result after ↔
      ∃ value middle, Returns program state value middle ∧
        Returns (next value) middle result after := by
  unfold Returns
  simp only [bind, ExceptT.bind, ExceptT.mk, StateT.bind]
  rcases ran : program state with ⟨outcome, middle⟩
  cases outcome with
  | error failure =>
    refine ⟨fun absurd => (by cases absurd), ?_⟩
    rintro ⟨_, _, absurd, _⟩
    cases absurd
  | ok value =>
    refine ⟨fun rest => ⟨value, middle, rfl, rest⟩, ?_⟩
    rintro ⟨_, _, same, rest⟩
    cases same
    exact rest

@[simp] theorem not_returns_throw {failure : ε} :
    ¬ Returns (throw failure : ExceptT ε (StateM σ) α) state value after := by
  intro absurd
  cases absurd

theorem adapt_apply (program : ExceptT ε (StateM σ) α) (reword : ε → ε') (state : σ) :
    program.adapt reword state = ((program state).1.mapError reword, (program state).2) := rfl

/-- Rewording a failure does not touch what is returned. -/
@[simp] theorem returns_adapt {program : ExceptT ε (StateM σ) α} {reword : ε → ε'} :
    Returns (program.adapt reword) state value after ↔ Returns program state value after := by
  unfold Returns
  rw [adapt_apply]
  rcases program state with ⟨outcome, middle⟩
  cases outcome with
  | error failure => exact ⟨fun absurd => (by cases absurd), fun absurd => (by cases absurd)⟩
  | ok found => exact ⟨fun same => (by cases same; rfl), fun same => (by cases same; rfl)⟩

/-- Reading the state. -/
theorem returns_read {query : σ → α} :
    Returns (fun state => (.ok (query state), state) : ExceptT ε (StateM σ) α) state value after ↔
      value = query state ∧ after = state := by
  constructor
  · intro asked
    cases asked
    exact ⟨rfl, rfl⟩
  · rintro ⟨rfl, rfl⟩
    rfl

@[simp] theorem returns_get {found : σ} :
    Returns (get : ExceptT ε (StateM σ) σ) state found after ↔ found = state ∧ state = after := by
  unfold Returns
  change (Except.ok state, state) = (Except.ok found, after) ↔ _
  simp [eq_comm]

@[simp] theorem returns_set {next : σ} {done : PUnit} :
    Returns (set next : ExceptT ε (StateM σ) PUnit) state done after ↔ next = after := by
  unfold Returns
  change (Except.ok PUnit.unit, next) = (Except.ok done, after) ↔ _
  simp

@[simp] theorem returns_modify {change : σ → σ} {done : PUnit} :
    Returns (modify change : ExceptT ε (StateM σ) PUnit) state done after ↔
      change state = after := by
  unfold Returns
  change (Except.ok PUnit.unit, change state) = (Except.ok done, after) ↔ _
  simp

/-- Recovering by giving up returns in the state reached, failed or not. -/
@[simp] theorem returns_attempt {program : ExceptT ε (StateM σ) PUnit} {done : PUnit} :
    Returns (tryCatch program fun _ => pure PUnit.unit) state done after ↔
      (program state).2 = after := by
  unfold Returns
  simp only [tryCatch, tryCatchThe, MonadExceptOf.tryCatch, ExceptT.tryCatch, ExceptT.mk, bind,
    StateT.bind]
  rcases program state with ⟨outcome, middle⟩
  cases outcome with
  | error failure =>
    change (Except.ok PUnit.unit, middle) = (Except.ok done, after) ↔ _
    simp
  | ok value =>
    change (Except.ok value, middle) = (Except.ok done, after) ↔ _
    simp

/-- Observing a procedure returns what it comes to. -/
@[simp] theorem returns_observing {program : ExceptT ε (StateM σ) α} {outcome : Except ε α} :
    Returns (observing program) state outcome after ↔
      @Eq (Except ε α × σ) (program state) (outcome, after) := by
  unfold Returns observing
  simp only [tryCatch, tryCatchThe, MonadExceptOf.tryCatch, ExceptT.tryCatch, ExceptT.mk, bind,
    StateT.bind, ExceptT.bind]
  rcases ran : program state with ⟨found, middle⟩
  cases found with
  | error failure =>
    change (Except.ok (Except.error failure), middle) = (Except.ok outcome, after) ↔ _
    simp
  | ok value =>
    change (Except.ok (Except.ok value), middle) = (Except.ok outcome, after) ↔ _
    simp

/-- So does a sequence of outcomes. -/
theorem bind_eq_ok {outcome : Except ε α} {next : α → Except ε β} :
    outcome >>= next = .ok result ↔ ∃ value, outcome = .ok value ∧ next value = .ok result := by
  cases outcome with
  | error failure =>
    refine ⟨fun absurd => (by cases absurd), ?_⟩
    rintro ⟨_, absurd, _⟩
    cases absurd
  | ok value =>
    refine ⟨fun rest => ⟨value, rfl, rest⟩, ?_⟩
    rintro ⟨_, same, rest⟩
    cases same
    exact rest

theorem map_eq_ok {outcome : Except ε α} {change : α → β} :
    outcome.map change = .ok result ↔ ∃ value, outcome = .ok value ∧ change value = result := by
  cases outcome with
  | error failure => simp [Except.map]
  | ok value => simp [Except.map]

/-! ## Ends, good or bad -/

/-- What a sequence leaves behind is what its second part does, or its first part where that
fails. A property of the last state is shown part by part, failures included. -/
theorem holds_bind {program : ExceptT ε (StateM σ) α} {next : α → ExceptT ε (StateM σ) β}
    (holds : σ → Prop)
    (failed : ∀ failure, (program state).1 = .error failure → holds (program state).2)
    (went : ∀ value middle, Returns program state value middle → holds (next value middle).2) :
    holds ((program >>= next) state).2 := by
  simp only [bind, ExceptT.bind, ExceptT.mk, StateT.bind]
  unfold Returns at went
  rcases ran : program state with ⟨outcome, middle⟩
  rw [ran] at failed
  cases outcome with
  | error failure => exact failed failure rfl
  | ok value => exact went value middle ran

/-- A procedure that fails from a state: its failure, and the state it leaves. What was done
before the failure stays done, unless the procedure undoes it itself. -/
def Fails (program : ExceptT ε (StateM σ) α) (state : σ) (failure : ε) (after : σ) : Prop :=
  @Eq (Except ε α × σ) (program state) (.error failure, after)

section Failing
variable {failure : ε}

@[simp] theorem not_fails_pure {other : α} :
    ¬ Fails (pure other : ExceptT ε (StateM σ) α) state failure after := by
  intro absurd
  cases absurd

@[simp] theorem fails_throw {thrown : ε} :
    Fails (throw thrown : ExceptT ε (StateM σ) α) state failure after ↔
      thrown = failure ∧ state = after := by
  unfold Fails
  change (Except.error thrown, state) = (Except.error failure, after) ↔ _
  simp

@[simp] theorem not_fails_get : ¬ Fails (get : ExceptT ε (StateM σ) σ) state failure after := by
  intro absurd
  cases absurd

@[simp] theorem not_fails_set {next : σ} :
    ¬ Fails (set next : ExceptT ε (StateM σ) PUnit) state failure after := by
  intro absurd
  cases absurd

@[simp] theorem not_fails_modify {change : σ → σ} :
    ¬ Fails (modify change : ExceptT ε (StateM σ) PUnit) state failure after := by
  intro absurd
  cases absurd

/-- A sequence fails in its first part, or in its second once the first has returned. In
either case the state is the one that the failing part left. -/
theorem fails_bind {program : ExceptT ε (StateM σ) α} {next : α → ExceptT ε (StateM σ) β} :
    Fails (program >>= next) state failure after ↔ Fails program state failure after ∨
      ∃ value middle, Returns program state value middle ∧
        Fails (next value) middle failure after := by
  unfold Fails Returns
  simp only [bind, ExceptT.bind, ExceptT.mk, StateT.bind]
  rcases ran : program state with ⟨outcome, middle⟩
  cases outcome with
  | error thrown =>
    constructor
    · intro failed
      cases failed
      exact .inl rfl
    · rintro (failed | ⟨_, _, absurd, _⟩)
      · cases failed
        rfl
      · cases absurd
  | ok value =>
    constructor
    · intro failed
      exact .inr ⟨value, middle, rfl, failed⟩
    · rintro (absurd | ⟨_, _, same, failed⟩)
      · cases absurd
      · cases same
        exact failed

@[simp] theorem fails_adapt {program : ExceptT ε (StateM σ) α} {reword : ε → ε'} {reworded : ε'} :
    Fails (program.adapt reword) state reworded after ↔
      ∃ failure, Fails program state failure after ∧ reword failure = reworded := by
  unfold Fails
  rw [adapt_apply]
  rcases program state with ⟨outcome, middle⟩
  cases outcome with
  | error thrown =>
    constructor
    · intro failed
      cases failed
      exact ⟨thrown, rfl, rfl⟩
    · rintro ⟨_, failed, rfl⟩
      cases failed
      rfl
  | ok found =>
    refine ⟨fun absurd => (by cases absurd), ?_⟩
    rintro ⟨_, absurd, _⟩
    cases absurd

theorem bind_of_returns {program : ExceptT ε (StateM σ) α} {next : α → ExceptT ε (StateM σ) β}
    (ran : Returns program state value after) : (program >>= next) state = next value after := by
  simp only [bind, ExceptT.bind, ExceptT.mk, StateT.bind]
  rw [show program state = (.ok value, after) from ran]
  rfl

theorem bind_of_fails {program : ExceptT ε (StateM σ) α} {next : α → ExceptT ε (StateM σ) β}
    (ran : Fails program state failure after) : Fails (program >>= next) state failure after :=
  fails_bind.mpr (.inl ran)

/-- Every run ends one way or the other. -/
theorem ends (program : ExceptT ε (StateM σ) α) (state : σ) :
    (∃ value after, Returns program state value after) ∨
      ∃ failure after, Fails program state failure after := by
  unfold Returns Fails
  rcases program state with ⟨failure | value, after⟩
  · exact .inr ⟨failure, after, rfl⟩
  · exact .inl ⟨value, after, rfl⟩

end Failing

/-! ## Two outcomes -/

/-- Two outcomes that failed alike, or returned related values. It relates what one
procedure comes to on two sides whose data differ only where the relation lets them. -/
inductive Lockstep (related : α → β → Prop) : Except ε α → Except ε β → Prop where
  | error (failure : ε) : Lockstep related (.error failure) (.error failure)
  | ok {left : α} {right : β} : related left right → Lockstep related (.ok left) (.ok right)

namespace Lockstep
variable {γ δ : Type} {related : α → β → Prop} {after : γ → δ → Prop}
  {left : Except ε α} {right : Except ε β}

theorem bind {next : α → Except ε γ} {next' : β → Except ε δ} (first : Lockstep related left right)
    (rest : ∀ value value', related value value' → Lockstep after (next value) (next' value')) :
    Lockstep after (left >>= next) (right >>= next') := by
  cases first with
  | error failure => exact .error failure
  | ok same => exact rest _ _ same

theorem map {change : α → γ} {change' : β → δ} (first : Lockstep related left right)
    (rest : ∀ value value', related value value' → after (change value) (change' value')) :
    Lockstep after (left.map change) (right.map change') := by
  cases first with
  | error failure => exact .error failure
  | ok same => exact .ok (rest _ _ same)

/-- Two folds over one list stay related when each of their turns does. -/
theorem foldlM {advance : α → γ → Except ε α} {advance' : β → γ → Except ε β}
    (turn : ∀ state state' item, related state state' →
      Lockstep related (advance state item) (advance' state' item))
    (items : List γ) {state : α} {state' : β} (start : related state state') :
    Lockstep related (items.foldlM advance state) (items.foldlM advance' state') := by
  induction items generalizing state state' with
  | nil => exact .ok start
  | cons item rest ih =>
    rw [List.foldlM_cons, List.foldlM_cons]
    exact (turn _ _ item start).bind fun _ _ same => ih same

end Lockstep

/-! ## Outcomes, whatever the failure -/

section ToOption
variable {γ : Type} {left right : Except ε α}

theorem toOption_bind {next next' : α → Except ε β} (first : left.toOption = right.toOption)
    (rest : ∀ value, (next value).toOption = (next' value).toOption) :
    (left >>= next).toOption = (right >>= next').toOption := by
  cases left with
  | error failure =>
    cases right with
    | error other => rfl
    | ok value => cases first
  | ok value =>
    cases right with
    | error failure => cases first
    | ok other =>
      cases first
      exact rest value

theorem toOption_mapM {change change' : γ → Except ε α} {items : List γ}
    (turn : ∀ item ∈ items, (change item).toOption = (change' item).toOption) :
    (items.mapM change).toOption = (items.mapM change').toOption := by
  induction items with
  | nil => rfl
  | cons item rest ih =>
    rw [List.mapM_cons, List.mapM_cons]
    refine toOption_bind (turn item List.mem_cons_self) fun value => ?_
    exact toOption_bind (ih fun other later => turn other (List.mem_cons_of_mem item later))
      fun _ => rfl

/-- One failing item fails the whole. -/
theorem toOption_mapM_none {change : γ → Except ε α} {items : List γ} {item : γ}
    (listed : item ∈ items) (fails : (change item).toOption = none) :
    (items.mapM change).toOption = none := by
  induction items with
  | nil => cases listed
  | cons first rest ih =>
    rw [List.mapM_cons]
    cases outcome : change first with
    | error failure => rfl
    | ok value =>
      rcases List.mem_cons.mp listed with rfl | later
      · rw [outcome] at fails
        cases fails
      · have stops := ih later
        cases others : rest.mapM change with
        | error failure => rfl
        | ok values =>
          rw [others] at stops
          cases stops

theorem toOption_foldlM {advance advance' : α → γ → Except ε α}
    (turn : ∀ state item, (advance state item).toOption = (advance' state item).toOption)
    (items : List γ) (state : α) :
    (items.foldlM advance state).toOption = (items.foldlM advance' state).toOption := by
  induction items generalizing state with
  | nil => rfl
  | cons item rest ih =>
    rw [List.foldlM_cons, List.foldlM_cons]
    exact toOption_bind (turn state item) ih

end ToOption

/-! ## Failures of one kind -/

/-- An outcome that fails in ways of one kind only. -/
def FailsOnly (kind : ε → Prop) (outcome : Except ε α) : Prop :=
  ∀ failure, outcome = .error failure → kind failure

namespace FailsOnly
variable {γ : Type} {kind : ε → Prop}

theorem ok (value : α) : FailsOnly kind (.ok value) := fun _ failed => by cases failed

theorem error {failure : ε} (named : kind failure) : FailsOnly kind (.error failure : Except ε α) :=
  fun _ failed => by
    cases failed
    exact named

theorem bind {outcome : Except ε α} {next : α → Except ε β} (first : FailsOnly kind outcome)
    (rest : ∀ value, FailsOnly kind (next value)) : FailsOnly kind (outcome >>= next) := by
  cases outcome with
  | error failure => exact .error (first failure rfl)
  | ok value => exact rest value

theorem mapM {change : γ → Except ε α} (each : ∀ item, FailsOnly kind (change item))
    (items : List γ) : FailsOnly kind (items.mapM change) := by
  induction items with
  | nil => exact .ok []
  | cons item rest ih =>
    rw [List.mapM_cons]
    exact (each item).bind fun _ => ih.bind fun _ => .ok _

theorem foldlM {advance : α → γ → Except ε α} (each : ∀ state item, FailsOnly kind (advance state item))
    (items : List γ) (state : α) : FailsOnly kind (items.foldlM advance state) := by
  induction items generalizing state with
  | nil => exact .ok state
  | cons item rest ih =>
    rw [List.foldlM_cons]
    exact (each state item).bind ih

end FailsOnly

end Procedure
