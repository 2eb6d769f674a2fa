import FluxBar.Library.TransitionSystem
import Mathlib.Data.List.Nodup

/-! The lock around the state of the service: a slot that is empty while a guard holds its
value, and a condition variable on which calls wait for it. What a call does under the mutex
of the slot is one step. A poisoned mutex is entered all the same, so a guard dropped while a
panic unwinds takes the same step as any other. -/
namespace FluxBar
open Transition

/-- Where a call of `lock` or `lock_until` stands, from its entry to the end of its guard.
-/
inductive LockPhase (α : Type) where
  | entering
  -- among the sleepers of `available`
  | asleep
  -- no longer among them, and about to lock the slot again
  | woken (timedOut : Bool)
  -- returned a `StateGuard`, with its `value`
  | holding (guard : Option α)
  -- the guard is dropped
  | released
  | failed
  deriving DecidableEq, Repr

/-- A call of `lock`, or of `lock_until` if it is timed, by a thread. -/
structure LockCall (α : Type) where
  thread : Nat
  timed : Bool
  phase : LockPhase α
  deriving DecidableEq, Repr

/-- `StateLock`: the slot, which is empty while a guard has the value, with the calls made
so far. -/
structure StateLock (α : Type) where
  value : Option α
  calls : List (LockCall α)
  deriving DecidableEq, Repr

variable {α : Type}

namespace LockCall

/-- Whether the call has not returned. -/
def pending (call : LockCall α) : Bool :=
  match call.phase with
  | .entering | .asleep | .woken _ => true
  | .holding _ | .released | .failed => false

/-- The guard of the call, while it lives. -/
def guard (call : LockCall α) : Option (Option α) :=
  match call.phase with
  | .holding guard => some guard
  | _ => none

/-- A turn of the loop, under the mutex: what it leaves in the slot, and where the call gets. -/
def turn (value : Option α) (expired : Bool) : Option α × LockPhase α :=
  match value with
  | some _ => (none, .holding value)
  | none => if expired then (value, .failed) else (value, .asleep)

/-- What follows a wait: a call that timed out fails while the slot is empty, and any other
looks at the slot again. -/
def resume (value : Option α) (timedOut expired : Bool) : Option α × LockPhase α :=
  if timedOut && value.isNone then (value, .failed) else turn value expired

/-- The steps of a call on its own. Its deadline may pass at any moment; a sleeper may also
wake without cause. -/
inductive Step (value : Option α) : LockCall α → Option α → LockCall α → Prop where
  | enter (thread : Nat) (timed expired : Bool) :
      Step value ⟨thread, timed, .entering⟩ (turn value (timed && expired)).1
        ⟨thread, timed, (turn value (timed && expired)).2⟩
  | timeOut (thread : Nat) : Step value ⟨thread, true, .asleep⟩ value ⟨thread, true, .woken true⟩
  | wake (thread : Nat) (timed : Bool) :
      Step value ⟨thread, timed, .asleep⟩ value ⟨thread, timed, .woken false⟩
  | resume (thread : Nat) (timed timedOut expired : Bool) :
      Step value ⟨thread, timed, .woken timedOut⟩ (resume value timedOut (timed && expired)).1
        ⟨thread, timed, (resume value timedOut (timed && expired)).2⟩

/-- Sleepers woken by a notification, and whether any was. A timed wait may report at once
that it has timed out. -/
inductive Notified : Bool → List (LockCall α) → List (LockCall α) → Prop where
  | none : Notified false [] []
  | keep {any : Bool} {calls after : List (LockCall α)} (call : LockCall α) :
      Notified any calls after → Notified any (call :: calls) (call :: after)
  | wake {any : Bool} {calls after : List (LockCall α)} (thread : Nat) (timed timedOut : Bool) :
      (timedOut = true → timed = true) → Notified any calls after →
      Notified true (⟨thread, timed, .asleep⟩ :: calls) (⟨thread, timed, .woken timedOut⟩ :: after)

/-- `Condvar::notify_one`: it wakes one of the sleepers at least, if there are any. -/
def NotifyOne (calls after : List (LockCall α)) : Prop :=
  ∃ any, Notified any calls after ∧ ((∃ call ∈ calls, call.phase = .asleep) → any = true)

end LockCall

namespace StateLock
open LockCall

/-- `StateLock::new`. -/
def new (value : α) : StateLock α := ⟨some value, []⟩

/-- The guards that live, each with the value it has. -/
def liveGuards (lock : StateLock α) : List (Option α) := lock.calls.filterMap guard

/-- The steps of the lock, with the value written through a guard, if one is. -/
inductive Step : StateLock α → Option α → StateLock α → Prop where
  -- a thread that is in no other call begins one
  | call (lock : StateLock α) (thread : Nat) (timed : Bool)
      (returned : ∀ call ∈ lock.calls, call.thread = thread → call.pending = false) :
      Step lock none { lock with calls := lock.calls ++ [⟨thread, timed, .entering⟩] }
  | own {value left : Option α} {call after : LockCall α} (earlier later : List (LockCall α)) :
      call.Step value left after →
      Step ⟨value, earlier ++ call :: later⟩ none ⟨left, earlier ++ after :: later⟩
  -- `DerefMut` on the guard
  | write (value : Option α) (earlier later : List (LockCall α)) (thread : Nat) (timed : Bool)
      (old written : α) :
      Step ⟨value, earlier ++ ⟨thread, timed, .holding (some old)⟩ :: later⟩ (some written)
        ⟨value, earlier ++ ⟨thread, timed, .holding (some written)⟩ :: later⟩
  | drop {after : List (LockCall α)} (value : Option α) (earlier later : List (LockCall α))
      (thread : Nat) (timed : Bool) (guard : Option α) :
      NotifyOne (earlier ++ ⟨thread, timed, .released⟩ :: later) after →
      Step ⟨value, earlier ++ ⟨thread, timed, .holding guard⟩ :: later⟩ none ⟨guard, after⟩

/-- The lock beside the value last written: the one it was made with, or one of a guard. -/
def system (α : Type) : System (α × StateLock α) where
  initial := fun (latest, lock) => lock = new latest
  step := fun (latest, lock) (latest', after) =>
    ∃ written, lock.Step written after ∧ latest' = written.getD latest

end StateLock

/-! ## One step -/

namespace LockCall

/-- A call that finds the slot full takes its value, whether its wait has timed out or not. -/
theorem resume_full (held : α) (timedOut expired : Bool) :
    resume (some held) timedOut expired = (none, .holding (some held)) := by
  simp [resume, turn]

/-- A step of a call takes the value, or leaves the slot alone and gains no guard. -/
theorem Step.takes_or_leaves {value left : Option α} {call after : LockCall α}
    (step : call.Step value left after) :
    (∃ held, value = some held ∧ left = none ∧ after.phase = .holding (some held)) ∨
      (left = value ∧ after.guard = none ∧
        (value.isSome → ∃ timedOut, after.phase = .woken timedOut)) := by
  cases step with
  | enter thread timed expired =>
    cases value with
    | some held => exact .inl ⟨held, rfl, rfl, rfl⟩
    | none => cases timed <;> cases expired <;> exact .inr ⟨rfl, rfl, by simp⟩
  | timeOut => exact .inr ⟨rfl, rfl, fun _ => ⟨true, rfl⟩⟩
  | wake => exact .inr ⟨rfl, rfl, fun _ => ⟨false, rfl⟩⟩
  | resume thread timed timedOut expired =>
    cases value with
    | some held =>
      rw [resume_full]
      exact .inl ⟨held, rfl, rfl, rfl⟩
    | none => cases timed <;> cases timedOut <;> cases expired <;> exact .inr ⟨rfl, rfl, by simp⟩

/-- Whoever takes a step has not returned, and so has no guard; the step leaves it on its
thread. -/
theorem Step.pending {value left : Option α} {call after : LockCall α}
    (step : call.Step value left after) :
    call.pending = true ∧ call.guard = none ∧ after.thread = call.thread := by
  cases step <;> exact ⟨rfl, rfl, rfl⟩

/-- A call fails only while the slot is empty, and leaves it so. -/
theorem Step.fails {value left : Option α} {call after : LockCall α}
    (step : call.Step value left after) (failed : after.phase = .failed) :
    value = none ∧ left = none := by
  rcases step.takes_or_leaves with ⟨_, _, _, took⟩ | ⟨rfl, _, awake⟩
  · rw [took] at failed
    cases failed
  · cases left with
    | none => exact ⟨rfl, rfl⟩
    | some held =>
      obtain ⟨timedOut, woken⟩ := awake rfl
      rw [woken] at failed
      cases failed

/-- Only a timed wait reports that it has timed out, and only a `lock_until` fails. -/
def Warranted (call : LockCall α) : Prop :=
  call.phase = .woken true ∨ call.phase = .failed → call.timed = true

theorem Step.warranted {value left : Option α} {call after : LockCall α}
    (step : call.Step value left after) (before : call.Warranted) : after.Warranted := by
  cases step with
  | enter thread timed expired =>
    cases value <;> cases timed <;> cases expired <;> simp [Warranted, turn]
  | timeOut => simp [Warranted]
  | wake => simp [Warranted]
  | resume thread timed timedOut expired =>
    cases value <;> cases timed <;> cases timedOut <;> cases expired <;>
      simp_all [Warranted, LockCall.resume, turn]

/-- Whether the call made at a place has returned an error. -/
def FailedAt (calls : List (LockCall α)) (index : Nat) : Prop :=
  ∃ call, calls[index]? = some call ∧ call.phase = .failed

section Place
variable (earlier later : List (LockCall α)) {index : Nat}

theorem failedAt_append (call : LockCall α) : FailedAt (earlier ++ [call]) index ↔
    FailedAt earlier index ∨ (index = earlier.length ∧ call.phase = .failed) := by
  rcases Nat.lt_trichotomy index earlier.length with inside | here | beyond
  · simp [FailedAt, List.getElem?_append_left inside, Nat.ne_of_lt inside]
  · simp [FailedAt, here]
  · have outside : (earlier ++ [call])[index]? = none :=
      List.getElem?_eq_none (by simpa using Nat.succ_le_of_lt beyond)
    simp [FailedAt, outside, List.getElem?_eq_none (Nat.le_of_lt beyond), Nat.ne_of_gt beyond]

theorem failedAt_place (call other : LockCall α) : FailedAt (earlier ++ call :: later) index ↔
    if index = earlier.length then call.phase = .failed
    else FailedAt (earlier ++ other :: later) index := by
  have placed : earlier ++ call :: later = (earlier ++ other :: later).set earlier.length call := by
    simp
  rw [FailedAt, placed]
  by_cases here : index = earlier.length
  · subst here
    simp
  · rw [if_neg here, List.getElem?_set_ne (Ne.symm here), FailedAt]

theorem failedAt_same {call after : LockCall α}
    (same : call.phase = .failed ↔ after.phase = .failed) :
    FailedAt (earlier ++ call :: later) index ↔ FailedAt (earlier ++ after :: later) index := by
  rw [failedAt_place earlier later call after, same, ← failedAt_place earlier later after after]

end Place

namespace Notified
variable {any : Bool} {calls after : List (LockCall α)}

theorem guards (notified : Notified any calls after) :
    after.filterMap guard = calls.filterMap guard := by
  induction notified with
  | none => rfl
  | keep call _ ih => simp only [List.filterMap_cons, ih]
  | wake thread timed timedOut _ _ ih => simpa [List.filterMap_cons, guard] using ih

theorem pending (notified : Notified any calls after) :
    (after.filter LockCall.pending).map thread = (calls.filter LockCall.pending).map thread := by
  induction notified with
  | none => rfl
  | keep call _ ih => by_cases held : call.pending <;> simp [held, ih]
  | wake thread timed timedOut _ _ ih => simp [List.filter_cons, LockCall.pending, ih]

theorem warranted (notified : Notified any calls after)
    (before : ∀ call ∈ calls, call.Warranted) : ∀ call ∈ after, call.Warranted := by
  induction notified with
  | none => exact before
  | keep call _ ih =>
    obtain ⟨first, rest⟩ := List.forall_mem_cons.mp before
    exact List.forall_mem_cons.mpr ⟨first, ih rest⟩
  | wake thread timed timedOut only _ ih =>
    refine List.forall_mem_cons.mpr ⟨?_, ih (List.forall_mem_cons.mp before).2⟩
    simpa [Warranted] using only

/-- Who is asleep afterwards was before. -/
theorem asleep (notified : Notified any calls after) (left : ∃ call ∈ after, call.phase = .asleep) :
    ∃ call ∈ calls, call.phase = .asleep := by
  induction notified with
  | none => exact left
  | keep call _ ih =>
    rw [List.exists_mem_cons_iff] at left ⊢
    exact left.imp_right ih
  | wake thread timed timedOut _ _ _ => exact ⟨_, List.mem_cons_self, rfl⟩

theorem woken (notified : Notified any calls after) (one : any = true) :
    ∃ call ∈ after, ∃ timedOut, call.phase = .woken timedOut := by
  induction notified with
  | none => cases one
  | keep call _ ih =>
    obtain ⟨other, held, awake⟩ := ih one
    exact ⟨other, List.mem_cons_of_mem call held, awake⟩
  | wake thread timed timedOut _ _ _ => exact ⟨_, List.mem_cons_self, timedOut, rfl⟩

/-- No call returns by it. -/
theorem failed (notified : Notified any calls after) (index : Nat) :
    FailedAt after index ↔ FailedAt calls index := by
  induction notified generalizing index with
  | none => rfl
  | keep call _ ih =>
    cases index with
    | zero => simp [FailedAt]
    | succ index => simpa [FailedAt] using ih index
  | wake thread timed timedOut _ _ ih =>
    cases index with
    | zero => simp [FailedAt]
    | succ index => simpa [FailedAt] using ih index

end Notified
end LockCall

/-! ## Every run -/

namespace StateLock
open LockCall

/-- The value is in the slot, or one guard that lives has it. No state in between is seen,
because the slot and the guards change in one step. -/
def Kept (latest : α) (lock : StateLock α) : Prop :=
  (lock.value = some latest ∧ lock.liveGuards = []) ∨
    (lock.value = none ∧ lock.liveGuards = [some latest])

/-- While the slot is full, no call sleeps unless another was woken to look at it, so that a
value put back is never overlooked. -/
def Watched (lock : StateLock α) : Prop :=
  lock.value.isSome → (∃ call ∈ lock.calls, call.phase = .asleep) →
    ∃ call ∈ lock.calls, ∃ timedOut, call.phase = .woken timedOut

/-- What a run of the lock keeps: where the value is, that sleepers are woken to it, that a
thread is in one call at a time, and that a timeout is a timed call's. -/
structure Sound (latest : α) (lock : StateLock α) : Prop where
  kept : lock.Kept latest
  watched : lock.Watched
  apart : ((lock.calls.filter LockCall.pending).map thread).Nodup
  warranted : ∀ call ∈ lock.calls, call.Warranted

variable {latest : α} {lock after : StateLock α} {written : Option α}

theorem filterMap_place (earlier later : List (LockCall α)) (call : LockCall α) :
    (earlier ++ call :: later).filterMap LockCall.guard =
      earlier.filterMap LockCall.guard ++ call.guard.toList ++ later.filterMap LockCall.guard := by
  rw [List.filterMap_append, List.filterMap_cons, List.append_assoc]
  cases call.guard <;> rfl

/-- The only guard that lives has the value, and the slot is empty; there is no other guard
beside it. -/
theorem Kept.only {value held : Option α} {earlier later : List (LockCall α)} {call : LockCall α}
    (kept : Kept latest ⟨value, earlier ++ call :: later⟩) (lives : call.guard = some held) :
    value = none ∧ held = some latest ∧
      earlier.filterMap LockCall.guard ++ later.filterMap LockCall.guard = [] := by
  rw [Kept, liveGuards, filterMap_place, lives] at kept
  rcases kept with ⟨_, nobody⟩ | ⟨empty, one⟩
  · simp at nobody
  · have lengths := congrArg List.length one
    simp only [Option.toList_some, List.length_append, List.length_singleton] at lengths
    have before := List.eq_nil_of_length_eq_zero (l := earlier.filterMap LockCall.guard) (by omega)
    have behind := List.eq_nil_of_length_eq_zero (l := later.filterMap LockCall.guard) (by omega)
    rw [before, behind] at one ⊢
    exact ⟨empty, by simpa using one, rfl⟩

theorem Step.kept (step : lock.Step written after) (before : lock.Kept latest) :
    after.Kept (written.getD latest) := by
  cases step with
  | call =>
    rw [Kept, liveGuards, filterMap_place]
    simpa [Kept, liveGuards, LockCall.guard] using before
  | own earlier later step =>
    obtain ⟨_, free, _⟩ := step.pending
    rw [Kept, liveGuards, filterMap_place, free] at before
    rw [Kept, liveGuards, filterMap_place]
    rcases step.takes_or_leaves with ⟨held, rfl, rfl, took⟩ | ⟨rfl, still, _⟩
    · obtain ⟨rfl, nobody⟩ : held = latest ∧ earlier.filterMap LockCall.guard ++
          later.filterMap LockCall.guard = [] := by simpa using before
      obtain ⟨first, last⟩ := List.append_eq_nil_iff.mp nobody
      exact .inr ⟨rfl, by simp [first, last, LockCall.guard, took]⟩
    · rw [still]
      exact before
  | write value earlier later thread timed old written =>
    obtain ⟨rfl, _, nobody⟩ := before.only rfl
    obtain ⟨first, last⟩ := List.append_eq_nil_iff.mp nobody
    rw [Kept, liveGuards, filterMap_place, first, last]
    exact .inr ⟨rfl, rfl⟩
  | drop value earlier later thread timed held notified =>
    obtain ⟨any, notified, _⟩ := notified
    obtain ⟨_, rfl, nobody⟩ := before.only rfl
    obtain ⟨first, last⟩ := List.append_eq_nil_iff.mp nobody
    rw [Kept, liveGuards, notified.guards, filterMap_place, first, last]
    exact .inl ⟨rfl, rfl⟩

theorem Step.watched (step : lock.Step written after) (kept : lock.Kept latest)
    (before : lock.Watched) : after.Watched := by
  cases step with
  | call =>
    rintro full ⟨sleeper, held, asleep⟩
    have earlier : sleeper ∈ lock.calls := by
      rcases List.mem_append.mp held with earlier | last
      · exact earlier
      · rw [List.mem_singleton.mp last] at asleep
        cases asleep
    obtain ⟨other, held, awake⟩ := before full ⟨sleeper, earlier, asleep⟩
    exact ⟨other, List.mem_append_left _ held, awake⟩
  | own earlier later step =>
    intro full _
    rcases step.takes_or_leaves with ⟨_, _, rfl, _⟩ | ⟨rfl, _, awake⟩
    · cases full
    · exact ⟨_, List.mem_append_cons_self, awake full⟩
  | write =>
    -- the slot is empty while the guard lives
    rintro full _
    rw [(kept.only rfl).1] at full
    cases full
  | drop value earlier later thread timed held notified =>
    obtain ⟨any, notified, one⟩ := notified
    exact fun _ left => notified.woken (one (notified.asleep left))

theorem Step.apart (step : lock.Step written after)
    (before : ((lock.calls.filter LockCall.pending).map thread).Nodup) :
    ((after.calls.filter LockCall.pending).map thread).Nodup := by
  cases step with
  | call _ thread timed returned =>
    rw [List.filter_append, List.map_append]
    refine List.nodup_append.mpr ⟨before, List.nodup_singleton _, ?_⟩
    rintro other held _ last rfl
    obtain rfl := List.mem_singleton.mp last
    obtain ⟨call, listed, same⟩ := List.mem_map.mp held
    obtain ⟨listed, waits⟩ := List.mem_filter.mp listed
    rw [returned call listed same] at waits
    cases waits
  | own earlier later step =>
    rename_i value left call after
    obtain ⟨waits, _, same⟩ := step.pending
    refine before.sublist ?_
    rw [List.filter_append, List.filter_append, List.filter_cons_of_pos waits, List.map_append,
      List.map_append, List.map_cons, ← same]
    refine (List.Sublist.refl _).append ?_
    by_cases still : after.pending
    · rw [List.filter_cons_of_pos still, List.map_cons]
    · rw [List.filter_cons_of_neg still]
      exact List.sublist_cons_self _ _
  | write => simpa [LockCall.pending, List.filter_cons] using before
  | drop value earlier later thread timed held notified =>
    obtain ⟨any, notified, _⟩ := notified
    rw [notified.pending]
    simpa [LockCall.pending, List.filter_cons] using before

theorem Step.warranted (step : lock.Step written after)
    (before : ∀ call ∈ lock.calls, call.Warranted) : ∀ call ∈ after.calls, call.Warranted := by
  cases step with
  | call =>
    refine List.forall_mem_append.mpr ⟨before, ?_⟩
    simp [LockCall.Warranted]
  | own earlier later step =>
    simp only [List.forall_mem_append, List.forall_mem_cons] at before ⊢
    exact ⟨before.1, step.warranted before.2.1, before.2.2⟩
  | write =>
    simp only [List.forall_mem_append, List.forall_mem_cons] at before ⊢
    exact ⟨before.1, by simp [LockCall.Warranted], before.2.2⟩
  | drop value earlier later thread timed held notified =>
    obtain ⟨any, notified, _⟩ := notified
    refine notified.warranted ?_
    simp only [List.forall_mem_append, List.forall_mem_cons] at before ⊢
    exact ⟨before.1, by simp [LockCall.Warranted], before.2.2⟩

theorem sound (reached : (system α).Reachable (latest, lock)) : lock.Sound latest := by
  refine reached.invariant (fun (latest, lock) => lock.Sound latest) ?_ ?_
  · rintro ⟨latest, lock⟩ rfl
    exact ⟨.inl ⟨rfl, rfl⟩, fun _ => by simp [new], by simp [new], by simp [new]⟩
  · rintro ⟨latest, lock⟩ ⟨_, after⟩ _ before ⟨written, step, rfl⟩
    exact ⟨step.kept before.kept, step.watched before.kept before.watched,
      step.apart before.apart, step.warranted before.warranted⟩

/-- A call that has failed stays so, and one that fails takes nothing. -/
theorem Step.failedAt (step : lock.Step written after) (index : Nat) :
    (FailedAt lock.calls index → FailedAt after.calls index) ∧
      (FailedAt after.calls index → FailedAt lock.calls index ∨
        (lock.value = none ∧ after.value = none ∧ after.liveGuards = lock.liveGuards)) := by
  cases step with
  | call =>
    rw [failedAt_append]
    exact ⟨.inl, fun failed => .inl (failed.resolve_right (by simp))⟩
  | own earlier later step =>
    rename_i value left call after
    obtain ⟨waits, free, _⟩ := step.pending
    rw [failedAt_place _ _ call after, failedAt_place _ _ after after]
    by_cases here : index = earlier.length
    · rw [if_pos here, if_pos here]
      refine ⟨fun failed => ?_, fun failed => ?_⟩
      · simp [LockCall.pending, failed] at waits
      · obtain ⟨rfl, rfl⟩ := step.fails failed
        refine .inr ⟨rfl, rfl, ?_⟩
        rw [liveGuards, liveGuards, filterMap_place, filterMap_place, free]
        simp [LockCall.guard, failed]
    · rw [if_neg here, if_neg here]
      exact ⟨id, .inl⟩
  | write value earlier later thread timed old written =>
    have same : FailedAt (earlier ++ ⟨thread, timed, .holding (some old)⟩ :: later) index ↔
        FailedAt (earlier ++ ⟨thread, timed, .holding (some written)⟩ :: later) index :=
      failedAt_same earlier later (by simp)
    exact ⟨same.mp, fun failed => .inl (same.mpr failed)⟩
  | drop value earlier later thread timed held notified =>
    obtain ⟨any, notified, _⟩ := notified
    have same : FailedAt (earlier ++ ⟨thread, timed, .holding held⟩ :: later) index ↔
        FailedAt (earlier ++ ⟨thread, timed, .released⟩ :: later) index :=
      failedAt_same earlier later (by simp)
    rw [notified.failed, same]
    exact ⟨id, .inl⟩

/-- A call that sleeps and one that was woken are of two threads. -/
theorem Sound.other (sound : lock.Sound latest) (full : lock.value.isSome)
    {sleeper : LockCall α} (held : sleeper ∈ lock.calls) (asleep : sleeper.phase = .asleep) :
    ∃ other ∈ lock.calls, other.thread ≠ sleeper.thread ∧
      ∃ timedOut, other.phase = .woken timedOut := by
  obtain ⟨other, listed, timedOut, awake⟩ := sound.watched full ⟨sleeper, held, asleep⟩
  refine ⟨other, listed, fun same => ?_, timedOut, awake⟩
  have one : other = sleeper := List.inj_on_of_nodup_map sound.apart
    (List.mem_filter.mpr ⟨listed, by simp [LockCall.pending, awake]⟩)
    (List.mem_filter.mpr ⟨held, by simp [LockCall.pending, asleep]⟩) same
  rw [one, asleep] at awake
  cases awake

/-- In every state that calls and guards of any number of threads reach: the value last
written is in the slot or with the one guard that lives; a call fails only if it has a deadline,
takes nothing by it, neither then nor later, and leaves the value to the guard that has it; and
while the slot is full and a call sleeps, a call of another thread has been woken to look at it. -/
theorem value_kept_and_wakeups_kept (reached : (system α).Reachable (latest, lock)) :
    ((lock.value = some latest ∧ lock.liveGuards = []) ∨
      (lock.value = none ∧ lock.liveGuards = [some latest])) ∧
    (∀ call ∈ lock.calls, call.phase = .failed → call.timed = true) ∧
    (∀ written after, lock.Step written after → ∀ index,
      (FailedAt lock.calls index → FailedAt after.calls index) ∧
      (FailedAt after.calls index → FailedAt lock.calls index ∨
        (lock.value = none ∧ lock.liveGuards = [some latest] ∧
          after.value = none ∧ after.liveGuards = [some latest]))) ∧
    ∀ sleeper ∈ lock.calls, sleeper.phase = .asleep → lock.value.isSome →
      ∃ other ∈ lock.calls, other.thread ≠ sleeper.thread ∧
        ∃ timedOut, other.phase = .woken timedOut := by
  have holds := sound reached
  refine ⟨holds.kept, fun call held failed => holds.warranted call held (.inr failed), ?_,
    fun sleeper held asleep full => holds.other full held asleep⟩
  intro written after step index
  obtain ⟨stays, fails⟩ := step.failedAt index
  refine ⟨stays, fun failed => (fails failed).imp_right ?_⟩
  rintro ⟨empty, emptied, same⟩
  have elsewhere : lock.liveGuards = [some latest] := by
    rcases holds.kept with ⟨full, _⟩ | ⟨_, one⟩
    · rw [empty] at full
      cases full
    · exact one
  exact ⟨empty, elsewhere, emptied, same.trans elsewhere⟩

/-- A guard is dropped with two calls asleep: one is woken, the other sleeps on. -/
theorem value_kept_and_wakeups_kept_two :
    let calls : List (LockCall Nat) :=
      [⟨0, false, .released⟩, ⟨1, true, .asleep⟩, ⟨2, false, .woken false⟩]
    (system Nat).Reachable (7, ⟨some 7, calls⟩) ∧
      ∃ other ∈ calls, other.thread ≠ 1 ∧ ∃ timedOut, other.phase = .woken timedOut := by
  intro calls
  have made : (system Nat).Reachable (7, new 7) := .start rfl
  have first : (system Nat).Reachable (7, ⟨some 7, [⟨0, false, .entering⟩]⟩) :=
    made.next ⟨none, .call (new 7) 0 false (by simp [new]), rfl⟩
  have held : (system Nat).Reachable (7, ⟨none, [⟨0, false, .holding (some 7)⟩]⟩) :=
    first.next ⟨none, .own [] [] (.enter 0 false false), rfl⟩
  have second : (system Nat).Reachable
      (7, ⟨none, [⟨0, false, .holding (some 7)⟩, ⟨1, true, .entering⟩]⟩) :=
    held.next ⟨none, .call _ 1 true (by simp), rfl⟩
  have sleeps : (system Nat).Reachable
      (7, ⟨none, [⟨0, false, .holding (some 7)⟩, ⟨1, true, .asleep⟩]⟩) :=
    second.next ⟨none, .own [_] [] (.enter 1 true false), rfl⟩
  have third : (system Nat).Reachable
      (7, ⟨none, [⟨0, false, .holding (some 7)⟩, ⟨1, true, .asleep⟩, ⟨2, false, .entering⟩]⟩) :=
    sleeps.next ⟨none, .call _ 2 false (by simp), rfl⟩
  have both : (system Nat).Reachable
      (7, ⟨none, [⟨0, false, .holding (some 7)⟩, ⟨1, true, .asleep⟩, ⟨2, false, .asleep⟩]⟩) :=
    third.next ⟨none, .own [_, _] [] (.enter 2 false false), rfl⟩
  have notified : NotifyOne [⟨0, false, .released⟩, ⟨1, true, .asleep⟩, ⟨2, false, .asleep⟩] calls :=
    ⟨true, .keep _ (.keep _ (.wake 2 false false (by simp) .none)), fun _ => rfl⟩
  have reached : (system Nat).Reachable (7, ⟨some 7, calls⟩) :=
    both.next ⟨none, .drop none [] _ 0 false (some 7) notified, rfl⟩
  exact ⟨reached, (value_kept_and_wakeups_kept reached).2.2.2 ⟨1, true, .asleep⟩ (by simp [calls])
    rfl rfl⟩

end StateLock
end FluxBar
