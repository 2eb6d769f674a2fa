import FluxBar.Library.TransitionSystem

/-! One value kept in two places: a server holds it, and a client keeps a copy
that it lets its user change at once and delivers later. The copy remembers the
value last seen on the server (the baseline) and the value shown locally (the
effective one); an undelivered local change is an intent with a revision that
each further change increases. -/
namespace WriteBehind
variable {α : Type}

/-- The client's copy of the value. -/
structure Copy (α : Type) where
  baseline : α
  effective : α
  deriving DecidableEq

/-- A local change that the server has not confirmed. Read off at some moment and
carried along, it is the ticket of a delivery. -/
structure Intent (α : Type) where
  desired : α
  revision : Int
  deriving DecidableEq

/-- What the client knows of the value: its copy, once it has taken one, and the change that
is still to be delivered, if there is one. -/
@[ext] structure Cell (α : Type) where
  copy : Option (Copy α)
  intent : Option (Intent α)
  deriving DecidableEq

namespace Cell
variable (cell : Cell α)

/-- A local change: shown at once, and recorded under the next revision. -/
def write (value : α) : Cell α where
  copy := cell.copy.map fun copy => { copy with effective := value }
  intent := some ⟨value, cell.intent.elim 1 (·.revision + 1)⟩

/-- The client reads the server: the baseline follows, and the effective value with it only
when no intent stands in its way. A local change is not overwritten by what the server
holds. -/
def observe (value : α) : Cell α where
  copy := some ⟨value, if cell.intent.isSome then cell.copy.elim value (·.effective) else value⟩
  intent := cell.intent

theorem observe_copy (value : α) : (cell.observe value).copy =
    some ⟨value, if cell.intent.isSome then cell.copy.elim value (·.effective) else value⟩ := rfl

/-- A delivery is confirmed: the baseline is the delivered value, and the intent is done
unless a later change has superseded it, which its revision tells. -/
def acknowledge (ticket : Intent α) : Cell α where
  copy := cell.copy.map fun copy => { copy with baseline := ticket.desired }
  intent := cell.intent.filter fun intent => intent.revision ≠ ticket.revision

/-- The effective value is the intended one, or with no intent the baseline; an
intent never stands without a copy. -/
structure Coherent : Prop where
  intended : ∀ intent, cell.intent = some intent →
    ∃ copy, cell.copy = some copy ∧ copy.effective = intent.desired
  settled : cell.intent = none → ∀ copy, cell.copy = some copy → copy.effective = copy.baseline

end Cell

/-- A ticket still speaks for the cell: its change stands, or a later revision
replaced it. -/
def Intent.Standing (ticket : Intent α) (cell : Cell α) : Prop :=
  ∃ intent, cell.intent = some intent ∧ ticket.revision ≤ intent.revision ∧
    (ticket.revision = intent.revision → ticket.desired = intent.desired)

section Coherence
variable {cell : Cell α} {ticket : Intent α} {value : α}

theorem Cell.coherent_unknown : Coherent (⟨none, none⟩ : Cell α) :=
  ⟨fun _ absurd => (by cases absurd), fun _ _ absurd => (by cases absurd)⟩

theorem Cell.coherent_write (known : cell.copy.isSome) : (cell.write value).Coherent := by
  obtain ⟨copy, held⟩ := Option.isSome_iff_exists.mp known
  refine ⟨?_, fun absurd => (by cases absurd)⟩
  intro intent recorded
  cases recorded
  exact ⟨{ copy with effective := value }, by simp [write, held], rfl⟩

theorem Cell.coherent_observe (coherent : cell.Coherent) : (cell.observe value).Coherent := by
  constructor
  · intro intent recorded
    have stands : cell.intent = some intent := recorded
    obtain ⟨copy, held, shown⟩ := coherent.intended intent stands
    exact ⟨_, rfl, by simp [stands, held, shown]⟩
  · intro unrecorded copy held
    have none : cell.intent = none := unrecorded
    cases held
    simp [none]

/-- Confirming a standing ticket keeps the copy coherent: either the intent it
confirms leaves with the effective value equal to the new baseline, or the
superseding intent stays. -/
theorem Cell.coherent_acknowledge (coherent : cell.Coherent) (standing : ticket.Standing cell) :
    (cell.acknowledge ticket).Coherent := by
  obtain ⟨intent, stands, _, agrees⟩ := standing
  obtain ⟨copy, held, shown⟩ := coherent.intended intent stands
  by_cases same : intent.revision = ticket.revision
  · refine ⟨fun other recorded => ?_, fun _ copy' held' => ?_⟩
    · simp only [acknowledge, stands, Option.filter_eq_some_iff, Option.some.injEq] at recorded
      exact absurd same (by simpa [recorded.1] using recorded.2)
    · simp only [acknowledge, held, Option.map_some, Option.some.injEq] at held'
      subst held'
      exact shown.trans (agrees same.symm).symm
  · refine ⟨fun other recorded => ?_, fun unrecorded => ?_⟩
    · simp only [acknowledge, stands, Option.filter_eq_some_iff, Option.some.injEq] at recorded
      obtain ⟨rfl, _⟩ := recorded
      exact ⟨{ copy with baseline := ticket.desired }, by simp [acknowledge, held], shown⟩
    · simp [acknowledge, stands, same] at unrecorded

theorem Intent.standing_self (stands : cell.intent = some ticket) : ticket.Standing cell :=
  ⟨ticket, stands, Int.le_refl _, fun _ => rfl⟩

theorem Intent.standing_write (standing : ticket.Standing cell) :
    ticket.Standing (cell.write value) := by
  obtain ⟨intent, stands, older, _⟩ := standing
  refine ⟨_, rfl, ?_, ?_⟩ <;> simp only [stands, Option.elim_some]
  · omega
  · intro same
    omega

theorem Intent.standing_observe (standing : ticket.Standing cell) :
    ticket.Standing (cell.observe value) := standing

end Coherence

/-! ## Moves of the client alone -/

/-- What the client does to its copy on its own account: a local change, or an
observation of a value it has seen. -/
inductive Cell.Move (seen : α → Prop) : Cell α → Cell α → Prop where
  | write {cell : Cell α} (value : α) : cell.copy.isSome → Move seen cell (cell.write value)
  | observe {cell : Cell α} {value : α} : seen value → Move seen cell (cell.observe value)

section Moves
open Relation
variable {seen : α → Prop} {cell after : Cell α} {ticket : Intent α}

theorem Cell.coherent_moves (coherent : cell.Coherent)
    (moved : ReflTransGen (Cell.Move seen) cell after) : after.Coherent := by
  induction moved with
  | refl => exact coherent
  | tail _ move ih =>
    cases move with
    | write value known => exact Cell.coherent_write known
    | observe _ => exact Cell.coherent_observe ih

theorem Intent.standing_moves (standing : ticket.Standing cell)
    (moved : ReflTransGen (Cell.Move seen) cell after) : ticket.Standing after := by
  induction moved with
  | refl => exact standing
  | tail _ move ih =>
    cases move with
    | write value known => exact Intent.standing_write ih
    | observe _ => exact Intent.standing_observe ih

/-- A copy once taken stays. -/
theorem Cell.known_moves (known : cell.copy.isSome)
    (moved : ReflTransGen (Cell.Move seen) cell after) : after.copy.isSome := by
  induction moved with
  | refl => exact known
  | tail _ move ih =>
    cases move with
    | write value _ => simpa [Cell.write] using ih
    | observe _ => rfl

/-- An intent is only ever formed over a copy. -/
theorem Cell.founded_moves (founded : cell.intent.isSome → cell.copy.isSome)
    (moved : ReflTransGen (Cell.Move seen) cell after) :
    after.intent.isSome → after.copy.isSome := by
  induction moved with
  | refl => exact founded
  | tail _ move ih =>
    cases move with
    | write value known => exact fun _ => by simpa [Cell.write] using known
    | observe _ => exact fun _ => rfl

/-- A later change has taken the place of the one the ticket was read off. -/
def Intent.Superseded (ticket : Intent α) (cell : Cell α) : Prop :=
  ∃ intent, cell.intent = some intent ∧ ticket.revision < intent.revision

/-- Moves that touch the intent of a standing ticket supersede it: either the intent is as
it was, or it has a later revision and the ticket will not remove it. -/
theorem Intent.superseded_of_moves (standing : ticket.Standing cell)
    (moved : ReflTransGen (Cell.Move seen) cell after) :
    after.intent = cell.intent ∨ ticket.Superseded after := by
  induction moved with
  | refl => exact Or.inl rfl
  | tail before move ih =>
    cases move with
    | observe _ => exact ih
    | write value known =>
      obtain ⟨intent, stands, older, _⟩ := Intent.standing_moves standing before
      refine Or.inr ⟨_, rfl, ?_⟩
      simp only [stands, Option.elim_some]
      omega

theorem Intent.superseded_moves (superseded : ticket.Superseded cell)
    (moved : ReflTransGen (Cell.Move seen) cell after) : ticket.Superseded after := by
  obtain ⟨intent, stands, older⟩ := superseded
  have standing : ticket.Standing cell :=
    ⟨intent, stands, Int.le_of_lt older, fun same => absurd same (Int.ne_of_lt older)⟩
  rcases Intent.superseded_of_moves standing moved with same | superseded
  · exact ⟨intent, same.trans stands, older⟩
  · exact superseded

end Moves

/-! ## The exchange with the server -/

/-- What the client is doing about the value while it holds the right to talk to the server:
nothing; delivering a change it has read off; confirming one that the server has taken; or
holding a value it has read there. -/
inductive Phase (α : Type) where
  | idle
  | listed (ticket : Intent α)
  | delivered (ticket : Intent α)
  | browsed (value : α)

/-- The value on both sides: the client's cell, what the server holds, and what the client
is doing about it. -/
structure Link (α : Type) where
  server : α
  cell : Cell α
  phase : Phase α

/-- The moves of either side. A delivery whose answer is lost has changed the
server all the same; any phase may be given up. Where an intent stands the client
may even misread the server: the delivery sets its baseline right. -/
inductive Link.Step : Link α → Link α → Prop where
  | write {link : Link α} (value : α) : link.cell.copy.isSome →
      Step link { link with cell := link.cell.write value }
  | list {link : Link α} {ticket : Intent α} : link.cell.intent = some ticket →
      Step link { link with phase := .listed ticket }
  | deliver {link : Link α} {ticket : Intent α} : link.phase = .listed ticket →
      Step link { link with server := ticket.desired, phase := .delivered ticket }
  | confirm {link : Link α} {ticket : Intent α} : link.phase = .delivered ticket →
      Step link { link with cell := link.cell.acknowledge ticket, phase := .idle }
  | browse {link : Link α} : Step link { link with phase := .browsed link.server }
  | refresh {link : Link α} {value : α} : link.phase = .browsed value →
      Step link { link with cell := link.cell.observe value }
  | misread {link : Link α} (value : α) : link.cell.intent.isSome →
      Step link { link with cell := link.cell.observe value }
  | giveUp {link : Link α} : Step link { link with phase := .idle }

/-- What a phase knows: the ticket it carries is standing, and a value that was delivered or
read is the one that the server holds. -/
def Link.PhaseSound (link : Link α) : Prop :=
  match link.phase with
  | .idle => True
  | .listed ticket => ticket.Standing link.cell
  | .delivered ticket => ticket.Standing link.cell ∧ link.server = ticket.desired
  | .browsed value => link.server = value

/-- Nothing local is lost: without an intent the client shows what the server
holds. -/
structure Link.Sound (link : Link α) : Prop where
  coherent : link.cell.Coherent
  delivered : link.cell.intent = none → ∀ copy, link.cell.copy = some copy →
    copy.effective = link.server
  phase : link.PhaseSound

theorem Link.sound_step {link after : Link α} (sound : link.Sound) (step : Link.Step link after) :
    after.Sound := by
  obtain ⟨coherent, delivered, phase⟩ := sound
  cases step with
  | write value known =>
    refine ⟨Cell.coherent_write known, fun absurd => (by cases absurd), ?_⟩
    unfold PhaseSound at phase ⊢
    split <;> simp_all [Intent.standing_write]
  | list stands => exact ⟨coherent, delivered, Intent.standing_self stands⟩
  | @deliver ticket listed =>
    have standing : ticket.Standing link.cell := by simpa [PhaseSound, listed] using phase
    refine ⟨coherent, fun unrecorded => ?_, standing, rfl⟩
    obtain ⟨intent, stands, _⟩ := standing
    simp [stands] at unrecorded
  | @confirm ticket sent =>
    have standing : ticket.Standing link.cell ∧ link.server = ticket.desired := by
      simpa [PhaseSound, sent] using phase
    have confirmed := Cell.coherent_acknowledge coherent standing.1
    refine ⟨confirmed, fun unrecorded copy held => ?_, trivial⟩
    rw [confirmed.settled unrecorded copy held, standing.2]
    cases known : link.cell.copy with
    | none => simp [Cell.acknowledge, known] at held
    | some old =>
      simp only [Cell.acknowledge, known, Option.map_some, Option.some.injEq] at held
      rw [← held]
  | browse => exact ⟨coherent, delivered, rfl⟩
  | @refresh value seen =>
    have current : link.server = value := by simpa [PhaseSound, seen] using phase
    have observed : (link.cell.observe value).Coherent := Cell.coherent_observe coherent
    refine ⟨observed, fun unrecorded copy held => ?_, by simpa [PhaseSound, seen] using current⟩
    rw [observed.settled unrecorded copy held, current]
    cases held
    rfl
  | misread value stands =>
    refine ⟨Cell.coherent_observe coherent, fun unrecorded => ?_, ?_⟩
    · have absent : link.cell.intent = none := unrecorded
      simp [absent] at stands
    · unfold PhaseSound at phase ⊢
      split <;> simp_all [Intent.standing_observe]
  | giveUp => exact ⟨coherent, delivered, trivial⟩

/-- Local changes of the cell are moves of the exchange. -/
theorem Link.steps_of_moves {link : Link α} {cell : Cell α}
    (moved : Relation.ReflTransGen (Cell.Move fun _ => False) link.cell cell) :
    Relation.ReflTransGen Link.Step link { link with cell } := by
  induction moved with
  | refl => exact .refl
  | tail _ move ih =>
    cases move with
    | write value known => exact ih.tail (.write value known)
    | observe absurd => exact absurd.elim

/-- The exchange from a client that has not seen the value and is doing nothing about it.
Its steps are those of the client and those of the server, in any order. -/
def exchange (α : Type) : Transition.System (Link α) where
  initial link := link.cell = ⟨none, none⟩ ∧ link.phase = .idle
  step := Link.Step

/-- In every run of the exchange, however changes, deliveries, lost answers and
refreshes interleave, the client without an intent shows the server's value. -/
theorem exchange_sound {link : Link α} (reached : (exchange α).Reachable link) : link.Sound := by
  refine reached.invariant Link.Sound ?_ fun _ _ _ sound step => Link.sound_step sound step
  rintro link ⟨unknown, idle⟩
  refine ⟨unknown ▸ Cell.coherent_unknown, ?_, ?_⟩
  · intro _ copy held
    simp [unknown] at held
  · simp [Link.PhaseSound, idle]

end WriteBehind
