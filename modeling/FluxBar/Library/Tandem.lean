import FluxBar.Library.Procedure
import Mathlib.Data.List.Forall2

/-! Two procedures side by side, each on a state of its own. From related states both
fail in related ways, or both return related values; and the states they leave are
related again. The rules follow the way procedures are put together. -/
namespace Procedure
variable {ε ε' δ δ' σ τ α α' β β' γ : Type}

/-- Two outcomes of one kind: both are failures, related as failures are to be, or both are
values, related as values are to be. -/
inductive Alike (failures : ε → ε' → Prop) (values : α → α' → Prop) :
    Except ε α → Except ε' α' → Prop where
  | error {failure : ε} {failure' : ε'} :
    failures failure failure' → Alike failures values (.error failure) (.error failure')
  | ok {value : α} {value' : α'} :
    values value value' → Alike failures values (.ok value) (.ok value')

/-- Two procedures that, started from related states, leave related states and come to
related outcomes. The outcomes may be related in any way at all, so one side may fail where
the other returns. -/
def Beside (states : σ → τ → Prop) (outcomes : Except ε α → Except ε' α' → Prop)
    (left : ExceptT ε (StateM σ) α) (right : ExceptT ε' (StateM τ) α') : Prop :=
  ∀ state state', states state state' →
    outcomes (left state).1 (right state').1 ∧ states (left state).2 (right state').2

/-- Two procedures that keep related states related, and come to alike outcomes: if one
fails, so does the other, and what they return is related. -/
abbrev Tandem (states : σ → τ → Prop) (failures : ε → ε' → Prop) (values : α → α' → Prop) :
    ExceptT ε (StateM σ) α → ExceptT ε' (StateM τ) α' → Prop :=
  Beside states (Alike failures values)

/-- A failure is reworded alike before and after the value is changed. -/
theorem adapt_bind_pure (program : ExceptT ε (StateM σ) α) (reword : ε → δ) (change : α → β) :
    (program >>= fun value => pure (change value)).adapt reword =
      program.adapt reword >>= fun value => pure (change value) := by
  funext state
  simp only [bind, ExceptT.bind, ExceptT.mk, StateT.bind, adapt_apply]
  rcases program state with ⟨failure | value, after⟩ <;> rfl

namespace Tandem
variable {states : σ → τ → Prop} {failures : ε → ε' → Prop} {failed : δ → δ' → Prop}
  {values : α → α' → Prop} {results : β → β' → Prop}
  {left : ExceptT ε (StateM σ) α} {right : ExceptT ε' (StateM τ) α'}

theorem pure {value : α} {value' : α'} (same : values value value') :
    Tandem states failures values (Pure.pure value) (Pure.pure value') :=
  fun _ _ held => ⟨.ok same, held⟩

theorem throw {failure : ε} {failure' : ε'} (same : failures failure failure') :
    Tandem states failures values (MonadExcept.throw failure : ExceptT ε (StateM σ) α)
      (MonadExcept.throw failure' : ExceptT ε' (StateM τ) α') :=
  fun _ _ held => ⟨.error same, held⟩

/-- A first part in tandem can be followed by parts that come to any related outcomes. The
two failures are related on their own account, since after them the second parts do not run.
-/
theorem before {outcomes : Except ε β → Except ε' β' → Prop}
    {next : α → ExceptT ε (StateM σ) β} {next' : α' → ExceptT ε' (StateM τ) β'}
    (first : Tandem states failures values left right)
    (failed : ∀ failure failure', failures failure failure' →
      outcomes (.error failure) (.error failure'))
    (rest : ∀ value value', values value value' →
      Beside states outcomes (next value) (next' value')) :
    Beside states outcomes (left >>= next) (right >>= next') := by
  intro state state' held
  obtain ⟨alike, kept⟩ := first state state' held
  simp only [Bind.bind, ExceptT.bind, ExceptT.mk, StateT.bind]
  generalize left state = ran at alike kept ⊢
  generalize right state' = ran' at alike kept ⊢
  obtain ⟨outcome, after⟩ := ran
  obtain ⟨outcome', after'⟩ := ran'
  dsimp only at alike kept
  cases alike with
  | error same => exact ⟨failed _ _ same, kept⟩
  | ok same => exact rest _ _ same after after' kept

theorem bind {next : α → ExceptT ε (StateM σ) β} {next' : α' → ExceptT ε' (StateM τ) β'}
    (first : Tandem states failures values left right)
    (rest : ∀ value value', values value value' →
      Tandem states failures results (next value) (next' value')) :
    Tandem states failures results (left >>= next) (right >>= next') :=
  first.before (fun _ _ same => .error same) rest

/-- Failures may be reworded on both sides, each in its own words, as long as related
failures are reworded into related ones. -/
theorem adapt {reword : ε → δ} {reword' : ε' → δ'}
    (first : Tandem states failures values left right)
    (reworded : ∀ failure failure', failures failure failure' →
      failed (reword failure) (reword' failure')) :
    Tandem states failed values (left.adapt reword) (right.adapt reword') := by
  intro state state' held
  obtain ⟨outcomes, kept⟩ := first state state' held
  rw [adapt_apply, adapt_apply]
  refine ⟨?_, kept⟩
  dsimp only
  generalize (left state).1 = outcome at outcomes ⊢
  generalize (right state').1 = outcome' at outcomes ⊢
  cases outcomes with
  | error same => exact .error (reworded _ _ same)
  | ok same => exact .ok same

theorem mono {failures' : ε → ε' → Prop} {values' : α → α' → Prop}
    (first : Tandem states failures values left right)
    (looser : ∀ failure failure', failures failure failure' → failures' failure failure')
    (wider : ∀ value value', values value value' → values' value value') :
    Tandem states failures' values' left right := by
  intro state state' held
  obtain ⟨outcomes, kept⟩ := first state state' held
  refine ⟨?_, kept⟩
  generalize (left state).1 = outcome at outcomes ⊢
  generalize (right state').1 = outcome' at outcomes ⊢
  cases outcomes with
  | error same => exact .error (looser _ _ same)
  | ok same => exact .ok (wider _ _ same)

/-- Failures may be caught on both sides, as long as what is done about related failures is
in tandem again. -/
theorem rescue {caught : ε → ExceptT ε (StateM σ) α} {caught' : ε' → ExceptT ε' (StateM τ) α'}
    (first : Tandem states failures values left right)
    (handled : ∀ failure failure', failures failure failure' →
      Tandem states failures values (caught failure) (caught' failure')) :
    Tandem states failures values (tryCatch left caught) (tryCatch right caught') := by
  intro state state' held
  obtain ⟨outcomes, kept⟩ := first state state' held
  simp only [tryCatch, tryCatchThe, MonadExceptOf.tryCatch, ExceptT.tryCatch, ExceptT.mk, Bind.bind,
    StateT.bind]
  generalize left state = ran at outcomes kept ⊢
  generalize right state' = ran' at outcomes kept ⊢
  obtain ⟨outcome, after⟩ := ran
  obtain ⟨outcome', after'⟩ := ran'
  dsimp only at outcomes kept
  cases outcomes with
  | error same => exact handled _ _ same after after' kept
  | ok same => exact ⟨.ok same, kept⟩

/-- What either side comes to may be looked at as a value: observing does not fail, and the
two outcomes observed are alike. -/
theorem observe (first : Tandem states failures values left right) :
    Tandem states failures (Alike failures values) (observing left) (observing right) := by
  intro state state' held
  obtain ⟨outcomes, kept⟩ := first state state' held
  simp only [observing, tryCatch, tryCatchThe, MonadExceptOf.tryCatch, ExceptT.tryCatch, ExceptT.mk,
    Bind.bind, StateT.bind, ExceptT.bind]
  generalize left state = ran at outcomes kept ⊢
  generalize right state' = ran' at outcomes kept ⊢
  obtain ⟨outcome, after⟩ := ran
  obtain ⟨outcome', after'⟩ := ran'
  dsimp only at outcomes kept
  cases outcomes with
  | error same => exact ⟨.ok (.error same), kept⟩
  | ok same => exact ⟨.ok (.ok same), kept⟩

/-- Loops over one list are in tandem when the turns for each of its items are. The first
turn that fails ends both loops. -/
theorem forM {turn : γ → ExceptT ε (StateM σ) PUnit} {turn' : γ → ExceptT ε' (StateM τ) PUnit}
    (items : List γ)
    (turns : ∀ item ∈ items, Tandem states failures (fun _ _ => True) (turn item) (turn' item)) :
    Tandem states failures (fun _ _ => True) (items.forM turn) (items.forM turn') := by
  induction items with
  | nil => exact pure trivial
  | cons item rest ih =>
    refine (turns item List.mem_cons_self).bind fun _ _ _ => ?_
    exact ih fun other listed => turns other (List.mem_cons_of_mem item listed)

end Tandem

/-! ## Runs of calls -/

/-- Calls answered one after the other, each from the state that the last one left. -/
def serve (answer : γ → ExceptT ε (StateM σ) α) (state : σ) : List γ → List (Except ε α) × σ
  | [] => ([], state)
  | call :: rest =>
    let (outcome, after) := answer call state
    let (outcomes, last) := serve answer after rest
    (outcome :: outcomes, last)

/-- Calls that come to related outcomes one by one do so in every run: the outcomes of a
whole list of calls are related in order, and so are the states that the two runs end in. -/
theorem Beside.serve {states : σ → τ → Prop} {outcomes : Except ε α → Except ε' α' → Prop}
    {answer : γ → ExceptT ε (StateM σ) α} {answer' : γ → ExceptT ε' (StateM τ) α'}
    (calls : List γ) (each : ∀ call ∈ calls, Beside states outcomes (answer call) (answer' call))
    {state : σ} {state' : τ} (held : states state state') :
    List.Forall₂ outcomes (serve answer state calls).1 (serve answer' state' calls).1 ∧
      states (serve answer state calls).2 (serve answer' state' calls).2 := by
  induction calls generalizing state state' with
  | nil => exact ⟨.nil, held⟩
  | cons call rest ih =>
    obtain ⟨outcome, kept⟩ := each call List.mem_cons_self state state' held
    obtain ⟨others, last⟩ := ih (fun other listed => each other (List.mem_cons_of_mem call listed)) kept
    exact ⟨.cons outcome others, last⟩

end Procedure
