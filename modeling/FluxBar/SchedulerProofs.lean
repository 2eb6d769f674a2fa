import FluxBar.Scheduler

/-! What the scheduler keeps: one worker at most, whose wait ends by the deadline, and the
earliest time asked for as the deadline. A start that failed leaves its deadline behind, and
with it every later call that asks for no earlier time. -/
namespace FluxBar
open Transition

/-! ## Notifying -/

@[simp] theorem length_notifyOne (workers : List Worker) :
    (notifyOne workers).length = workers.length := by
  induction workers with
  | nil => rfl
  | cons worker rest ih =>
    unfold notifyOne
    split
    · rename_i empty
      cases empty
    · rename_i same
      cases same
      rfl
    · rename_i same
      cases same
      rw [List.length_cons, ih, List.length_cons]

theorem notifyOne_ne_nil {workers : List Worker} : notifyOne workers ≠ [] ↔ workers ≠ [] := by
  rw [← List.length_pos_iff, ← List.length_pos_iff, length_notifyOne]

/-- A worker that is alone is the one notified. -/
theorem not_waiting_notifyOne {workers : List Worker} {timeout : Nat} (alone : workers.length ≤ 1) :
    .waiting timeout false ∉ notifyOne workers := by
  match workers with
  | [] => exact List.not_mem_nil
  | [.awake] | [.flushing] | [.waiting _ false] | [.waiting _ true] =>
    unfold notifyOne
    simp [notifyOne]
  | _ :: _ :: _ => simp at alone

/-! ## The invariant -/

namespace Scheduler
variable {mayFail : Prop} {scheduler after : Scheduler}

/-- What holds in every state of a run: there is one thread at most, a worker that waits
does so for the deadline, the deadline is the earliest time asked for, and a deadline
without a thread was left by a failed start. -/
structure Sound (mayFail : Prop) (scheduler : Scheduler) : Prop where
  one : scheduler.workers.length + scheduler.starts.length = if scheduler.workerRunning then 1 else 0
  timely : ∀ timeout, .waiting timeout false ∈ scheduler.workers →
    scheduler.deadline = some timeout
  earliest : scheduler.deadline = scheduler.requested.min?
  started : scheduler.workers ≠ [] → scheduler.lastStart = some true
  failed : .failed ∈ scheduler.starts → scheduler.lastStart = some false
  abandoned : scheduler.deadline ≠ none → scheduler.workerRunning = false →
    scheduler.lastStart = some false
  faultless : scheduler.lastStart = some false → mayFail

theorem sound_default (now : Nat) : Sound mayFail (.default now) where
  one := rfl
  timely _ absurd := by cases absurd
  earliest := rfl
  started absurd := (absurd rfl).elim
  failed absurd := by cases absurd
  abandoned absurd := (absurd rfl).elim
  faultless absurd := by cases absurd

theorem Sound.alone (sound : Sound mayFail scheduler) : scheduler.workers.length ≤ 1 := by
  have one := sound.one
  split at one <;> omega

theorem sound_advance {newDeadline : Nat} (sound : Sound mayFail scheduler)
    (earliest : (newDeadline :: scheduler.requested).min? = some newDeadline) :
    Sound mayFail ({ scheduler with
      requested := newDeadline :: scheduler.requested }.advance newDeadline) := by
  have one := sound.one
  unfold advance
  dsimp only
  cases running : scheduler.workerRunning with
  | true =>
    rw [running] at one
    exact {
      one := by simpa [running] using one
      timely := fun _ waits => absurd waits (not_waiting_notifyOne sound.alone)
      earliest := earliest.symm
      started := fun some => sound.started (notifyOne_ne_nil.mp some)
      failed := sound.failed
      abandoned := fun _ absurd => by simp at absurd
      faultless := sound.faultless }
  | false =>
    rw [running] at one
    have none : scheduler.starts = [] := List.length_eq_zero_iff.mp (Nat.add_eq_zero_iff.mp one).2
    exact {
      one := by simpa [none] using one
      timely := fun _ waits => absurd waits (not_waiting_notifyOne sound.alone)
      earliest := earliest.symm
      started := fun some => sound.started (notifyOne_ne_nil.mp some)
      failed := fun absurd => by simp [none] at absurd
      abandoned := fun _ absurd => by cases absurd
      faultless := sound.faultless }

theorem sound_scheduleFlush (delay : Nat) (sound : Sound mayFail scheduler) :
    Sound mayFail (scheduler.scheduleFlush delay) := by
  have earliest := sound.earliest
  unfold scheduleFlush
  dsimp only
  split
  · rename_i existing set
    rw [set] at earliest
    split
    · rename_i earlier
      refine sound_advance sound ?_
      rw [List.min?_cons, ← earliest]
      simp only [Option.elim_some, Option.some.injEq]
      omega
    · rename_i later
      refine { sound with earliest := ?_ }
      rw [List.min?_cons, ← earliest, set]
      simp only [Option.elim_some, Option.some.injEq]
      omega
  · rename_i unset
    refine sound_advance sound ?_
    rw [List.min?_cons, ← earliest, unset]
    rfl

/-- A worker that is there is the only thread. -/
theorem Sound.of_worker {left right : List Worker} {worker : Worker}
    (sound : Sound mayFail scheduler) (here : scheduler.workers = left ++ worker :: right) :
    left = [] ∧ right = [] ∧ scheduler.starts = [] ∧ scheduler.workerRunning = true := by
  have one := sound.one
  rw [here, List.length_append, List.length_cons] at one
  split at one
  · rename_i running
    refine ⟨?_, ?_, ?_, running⟩ <;> refine List.length_eq_zero_iff.mp ?_ <;> omega
  · omega

/-- So is a thread start. -/
theorem Sound.of_start {left right : List ThreadStart} {start : ThreadStart}
    (sound : Sound mayFail scheduler) (here : scheduler.starts = left ++ start :: right) :
    scheduler.workers = [] ∧ left = [] ∧ right = [] ∧ scheduler.workerRunning = true := by
  have one := sound.one
  rw [here, List.length_append, List.length_cons] at one
  split at one
  · rename_i running
    refine ⟨?_, ?_, ?_, running⟩ <;> refine List.length_eq_zero_iff.mp ?_ <;> omega
  · omega

theorem sound_turn {left right : List Worker} (sound : Sound mayFail scheduler)
    (here : scheduler.workers = left ++ .awake :: right) :
    Sound mayFail (scheduler.turn left right) := by
  have started := sound.started (by simp [here])
  obtain ⟨rfl, rfl, none, running⟩ := sound.of_worker here
  unfold turn
  split
  · rename_i unset
    exact {
      one := by simp [none]
      timely := fun _ absurd => by cases absurd
      earliest := sound.earliest
      started := fun absurd => (absurd rfl).elim
      failed := sound.failed
      abandoned := fun absurd => (absurd unset).elim
      faultless := sound.faultless }
  · rename_i deadline set
    split
    · refine { sound with one := ?_, timely := ?_, started := fun _ => started }
      · simp [none, running]
      · intro timeout waits
        cases List.mem_singleton.mp waits
        exact set
    · exact {
        one := by simp [none, running]
        timely := fun _ absurd => by cases List.mem_singleton.mp absurd
        earliest := rfl
        started := fun _ => started
        failed := sound.failed
        abandoned := fun absurd => (absurd rfl).elim
        faultless := sound.faultless }

/-- A worker that goes back to the head of the loop. -/
theorem sound_awake {left right : List Worker} {worker : Worker} (sound : Sound mayFail scheduler)
    (here : scheduler.workers = left ++ worker :: right) :
    Sound mayFail { scheduler with workers := left ++ .awake :: right } := by
  refine { sound with one := ?_, timely := ?_, started := ?_ }
  · have one := sound.one
    rw [here] at one
    simpa using one
  · intro timeout waits
    refine sound.timely timeout ?_
    rw [here]
    rcases List.mem_append.mp waits with before | later
    · exact List.mem_append_left _ before
    · cases later with
      | tail _ later => exact List.mem_append_right _ (List.mem_cons_of_mem _ later)
  · exact fun _ => sound.started (by simp [here])

theorem sound_threadStep (sound : Sound mayFail scheduler) (step : ThreadStep mayFail scheduler after) :
    Sound mayFail after := by
  cases step with
  | start here =>
    obtain ⟨none, rfl, rfl, running⟩ := sound.of_start here
    exact {
      one := by simp [none, running]
      timely := fun _ absurd => by simp [none] at absurd
      earliest := sound.earliest
      started := fun _ => rfl
      failed := fun absurd => by cases absurd
      abandoned := fun _ absurd => by simp [running] at absurd
      faultless := fun absurd => by cases absurd }
  | fail may here =>
    obtain ⟨none, rfl, rfl, running⟩ := sound.of_start here
    exact {
      one := by simp [none, running]
      timely := sound.timely
      earliest := sound.earliest
      started := fun absurd => (absurd none).elim
      failed := fun _ => rfl
      abandoned := fun _ _ => rfl
      faultless := fun _ => may }
  | giveUp here =>
    have failed := sound.failed (by simp [here])
    obtain ⟨none, rfl, rfl, _⟩ := sound.of_start here
    refine { sound with one := ?_, failed := fun _ => failed, abandoned := fun _ _ => failed }
    simp [none]
  | wake here => exact sound_awake sound here

theorem sound_step (sound : Sound mayFail scheduler) (step : Step mayFail scheduler after) :
    Sound mayFail after := by
  cases step with
  | tick => exact { sound with }
  | schedule delay => exact sound_scheduleFlush delay sound
  | thread step => exact sound_threadStep sound step
  | turn here => exact sound_turn sound here
  | flushed here => exact sound_awake sound here

theorem sound_of_reachable (reached : (schedulers mayFail).Reachable scheduler) :
    Sound mayFail scheduler :=
  reached.invariant (Sound mayFail)
    (fun _ ⟨now, initial⟩ => initial ▸ sound_default now)
    fun _ _ _ sound step => sound_step sound step

/-! ## Serving the deadline -/

end Scheduler

/-- A worker whose wait, if nothing interrupts it, ends by the deadline; one that is awake
looks at the deadline next. -/
def Worker.serves (deadline : Nat) : Worker → Bool
  | .waiting timeout false => timeout ≤ deadline
  | _ => true

namespace Scheduler

/-- A worker is running that will serve the deadline. -/
def Served (scheduler : Scheduler) (deadline : Nat) : Prop :=
  ∃ worker ∈ scheduler.workers, worker.serves deadline = true

theorem Sound.served {deadline : Nat} (sound : Sound mayFail scheduler)
    (set : scheduler.deadline = some deadline) :
    scheduler.Served deadline ↔ scheduler.workers ≠ [] := by
  constructor
  · rintro ⟨worker, held, _⟩
    exact List.ne_nil_of_mem held
  · intro some
    obtain ⟨worker, held⟩ := List.exists_mem_of_ne_nil _ some
    refine ⟨worker, held, ?_⟩
    match worker with
    | .awake | .flushing | .waiting _ true => rfl
    | .waiting timeout false =>
      have same := set.symm.trans (sound.timely timeout held)
      cases same
      exact decide_eq_true (le_refl _)

/-- A call of `schedule_flush` at a later time, up to its end, the thread starting if it
is to start one. -/
def call (scheduler : Scheduler) (now delay : Nat) : Scheduler :=
  let after := { scheduler with now }.scheduleFlush delay
  match after.starts with
  | .underWay :: starts => { after with
      starts
      workers := .awake :: after.workers
      lastStart := some true }
  | _ => after

/-- Without a worker only a call for an earlier time starts one. -/
theorem Sound.workers_call (sound : Sound mayFail scheduler) {deadline : Nat}
    (set : scheduler.deadline = some deadline) (quiet : scheduler.starts = []) (now delay : Nat) :
    (scheduler.call now delay).workers ≠ [] ↔
      scheduler.workers ≠ [] ∨ now + delay < deadline := by
  have one := sound.one
  unfold call scheduleFlush
  dsimp only
  rw [set]
  dsimp only
  by_cases earlier : deadline > now + delay
  · rw [if_pos earlier]
    unfold advance
    dsimp only
    cases running : scheduler.workerRunning with
    | true =>
      have some : scheduler.workers ≠ [] := by
        intro none
        simp [none, quiet, running] at one
      simp [quiet, some, notifyOne_ne_nil]
    | false => simp [earlier]
  · rw [if_neg earlier, quiet]
    simp [show ¬ now + delay < deadline from earlier]

/-- No flush is stranded: with a deadline set and no call in progress, a worker will serve
it, or any later call whose thread starts leaves a worker running, for whatever delay it
asks. -/
def Unstranded (scheduler : Scheduler) : Prop :=
  ∀ deadline, scheduler.deadline = some deadline → scheduler.starts = [] →
    scheduler.Served deadline ∨
      ∀ now delay, scheduler.now ≤ now → (scheduler.call now delay).workers ≠ []

/-- A flush is stranded exactly when the latest start of a thread has failed while its
deadline stands: later calls for a later time find a deadline, and start no worker. -/
theorem unstranded_iff_started (reached : (schedulers True).Reachable scheduler) :
    scheduler.Unstranded ↔
      (scheduler.deadline ≠ none → scheduler.starts = [] → scheduler.lastStart = some true) := by
  have sound := sound_of_reachable reached
  constructor
  · intro unstranded set quiet
    obtain ⟨deadline, set⟩ := Option.ne_none_iff_exists'.mp set
    refine sound.started ?_
    rcases unstranded deadline set quiet with served | restarts
    · exact (sound.served set).mp served
    · -- a call at the deadline itself asks for no earlier time
      have later := restarts (scheduler.now + deadline) 0 (Nat.le_add_right _ _)
      rcases (sound.workers_call set quiet _ _).mp later with some | earlier
      · exact some
      · omega
  · intro started deadline set quiet
    have last := started (by simp [set]) quiet
    refine .inl ((sound.served set).mpr ?_)
    intro none
    have idle : scheduler.workerRunning = false := by
      have one := sound.one
      by_contra running
      simp [none, quiet, running] at one
    rw [sound.abandoned (by simp [set]) idle] at last
    cases last

/-- A worker that was started in a run with a failed start before, by a call for an earlier
time. -/
theorem restarted_unstranded :
    ∃ scheduler, (schedulers True).Reachable scheduler ∧ scheduler.deadline = some 2 ∧
      scheduler.starts = [] ∧ scheduler.Unstranded := by
  have first : (schedulers True).Reachable (.default 0) := .start ⟨0, rfl⟩
  have set := first.next (.schedule 5)
  have failed := set.next (.thread (@ThreadStep.fail _ _ [] [] trivial rfl))
  have abandoned := failed.next (.thread (@ThreadStep.giveUp _ _ [] [] rfl))
  have again := abandoned.next (.schedule 2)
  have started := again.next (.thread (@ThreadStep.start _ _ [] [] rfl))
  exact ⟨_, started, rfl, rfl, (unstranded_iff_started started).mpr fun _ _ => rfl⟩

/-- A first request whose thread did not start. -/
def neverStarted : Scheduler where
  now := 0
  deadline := some 10
  workerRunning := false
  starts := []
  workers := []
  lastStart := some false
  requested := [10]

theorem reachable_neverStarted : (schedulers True).Reachable neverStarted := by
  have first : (schedulers True).Reachable (.default 0) := .start ⟨0, rfl⟩
  have set := first.next (.schedule 10)
  have failed := set.next (.thread (@ThreadStep.fail _ _ [] [] trivial rfl))
  exact failed.next (.thread (@ThreadStep.giveUp _ _ [] [] rfl))

/-- After one failed start every later call for the usual delay returns without a worker,
since it finds an earlier deadline. -/
theorem failed_start_strands :
    (schedulers True).Reachable neverStarted ∧ ¬ neverStarted.Unstranded ∧
      ∀ now, (neverStarted.call now 10).workers = [] := by
  have idle : ∀ now, (neverStarted.call now 10).workers = [] := by
    intro now
    by_contra some
    rcases ((sound_of_reachable reachable_neverStarted).workers_call rfl rfl now 10).mp some with
      absurd | earlier
    · exact absurd rfl
    · omega
  refine ⟨reachable_neverStarted, ?_, idle⟩
  intro unstranded
  rcases unstranded 10 rfl rfl with ⟨worker, absurd, _⟩ | restarts
  · cases absurd
  · exact restarts 10 10 (Nat.zero_le 10) (idle 10)

/-! ## The earliest request -/

/-- Where every thread starts, there is one worker at most, a deadline has its worker or the
start of one, and the deadline is the earliest time asked for since it was cleared, so that
no request is put off. -/
theorem earliest_request_in_force (reached : (schedulers False).Reachable scheduler) :
    scheduler.workers.length ≤ 1 ∧
      (∀ deadline, scheduler.deadline = some deadline →
        scheduler.Served deadline ∨ scheduler.starts = [.underWay]) ∧
      scheduler.deadline = scheduler.requested.min? ∧
      ∀ time ∈ scheduler.requested, ∃ deadline ≤ time, scheduler.deadline = some deadline := by
  have sound := sound_of_reachable reached
  refine ⟨sound.alone, ?_, sound.earliest, ?_⟩
  · intro deadline set
    by_cases none : scheduler.workers = []
    · right
      have one := sound.one
      have running : scheduler.workerRunning = true := by
        by_contra idle
        rw [Bool.not_eq_true] at idle
        exact sound.faultless (sound.abandoned (by simp [set]) idle)
      rw [none, running] at one
      obtain ⟨start, alone⟩ := List.length_eq_one_iff.mp ((Nat.zero_add _).symm.trans one)
      cases start with
      | underWay => exact alone
      | failed => exact (sound.faultless (sound.failed (by simp [alone]))).elim
    · exact .inl ((sound.served set).mpr none)
  · intro time asked
    rw [sound.earliest]
    cases least : scheduler.requested.min? with
    | none =>
      rw [List.min?_eq_none_iff.mp least] at asked
      cases asked
    | some deadline => exact ⟨deadline, (List.min?_eq_some_iff.mp least).2 time asked, rfl⟩

/-- An immediate flush asked for while a worker waits for a later one: the deadline is moved
forward, and the worker woken. -/
theorem immediate_request_in_force :
    ∃ scheduler, (schedulers False).Reachable scheduler ∧ scheduler.deadline = some 3 ∧
      scheduler.requested = [13, 3, 10] ∧ scheduler.workers = [.waiting 10 true] ∧
      ∀ time ∈ scheduler.requested, ∃ deadline ≤ time, scheduler.deadline = some deadline := by
  have first : (schedulers False).Reachable (.default 0) := .start ⟨0, rfl⟩
  have set := first.next (.schedule 10)
  have started := set.next (.thread (@ThreadStep.start _ _ [] [] rfl))
  have waiting := started.next (@Step.turn _ _ [] [] rfl)
  have later := waiting.next (.tick 3 (Nat.zero_le 3))
  have manual := later.next (.schedule 0)
  have automatic := manual.next (.schedule 10)
  exact ⟨_, automatic, rfl, rfl, rfl, (earliest_request_in_force automatic).2.2.2⟩

/-- Until the thread starts, the deadline has no worker; the lock is free in between. -/
theorem deadline_before_worker :
    ∃ scheduler, (schedulers False).Reachable scheduler ∧ scheduler.deadline = some 10 ∧
      scheduler.workers = [] := by
  have first : (schedulers False).Reachable (.default 0) := .start ⟨0, rfl⟩
  exact ⟨_, first.next (.schedule 10), rfl, rfl⟩

end Scheduler
end FluxBar
