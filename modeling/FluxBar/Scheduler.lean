import FluxBar.Library.TransitionSystem
import Mathlib.Data.List.MinMax

/-! The scheduler of the background flush: callers of `schedule_flush`, and the worker
threads of `run_scheduler`. What happens under the lock of `ScheduleState` is one step,
the start of a thread is another, and the clock may advance between any two. -/
namespace FluxBar
open Transition

/-- A call of `schedule_flush` that has left the lock to start a worker, and may fail at it.
-/
inductive ThreadStart where
  | underWay
  | failed
  deriving DecidableEq, Repr

/-- Where a worker stands in the loop of `run_scheduler`. A wait keeps the deadline it was
begun for, and whether `changed` has been notified since. -/
inductive Worker where
  | awake
  | waiting (timeout : Nat) (notified : Bool)
  | flushing
  deriving DecidableEq, Repr

/-- `notify_one`: one of the workers waiting on `changed` looks at the deadline again, if
there is any. -/
def notifyOne : List Worker → List Worker
  | [] => []
  | .waiting timeout false :: workers => .waiting timeout true :: workers
  | worker :: workers => worker :: notifyOne workers

/-- `ScheduleState`, the clock, and the threads around the lock. The last two fields are
history: how the latest start of a thread ended, and the times asked for since the deadline
was last cleared. -/
structure Scheduler where
  now : Nat
  deadline : Option Nat
  workerRunning : Bool
  starts : List ThreadStart
  workers : List Worker
  lastStart : Option Bool
  requested : List Nat
  deriving DecidableEq, Repr

namespace Scheduler
variable (scheduler : Scheduler)

/-- `schedule_flush` once it has set the deadline: a worker is woken, and where none runs
the start of one is begun, which counts as running from here on. -/
def advance (newDeadline : Nat) : Scheduler :=
  let scheduler := { scheduler with
    deadline := some newDeadline
    workers := notifyOne scheduler.workers }
  if scheduler.workerRunning then scheduler
  else { scheduler with workerRunning := true, starts := .underWay :: scheduler.starts }

/-- `schedule_flush`, under the lock: an earlier deadline that is set stays, and a later one
is moved forward. -/
def scheduleFlush (delay : Nat) : Scheduler :=
  let newDeadline := scheduler.now + delay
  let scheduler := { scheduler with requested := newDeadline :: scheduler.requested }
  match scheduler.deadline with
  | some existing =>
    if existing > newDeadline then scheduler.advance newDeadline
    else scheduler
  | none => scheduler.advance newDeadline

/-- One turn of the loop of `run_scheduler`, under the lock, by a worker between two others. -/
def turn (left right : List Worker) : Scheduler :=
  match scheduler.deadline with
  | none => { scheduler with workerRunning := false, workers := left ++ right }
  | some deadline =>
    if scheduler.now < deadline then
      { scheduler with workers := left ++ .waiting deadline false :: right }
    else { scheduler with
      deadline := none
      workers := left ++ .flushing :: right
      requested := [] }

/-- The moves of a thread that leave the deadline alone. Whether the start of a thread may
fail is a parameter. -/
inductive ThreadStep (mayFail : Prop) : Scheduler → Scheduler → Prop where
  | start {scheduler : Scheduler} {left right : List ThreadStart} :
      scheduler.starts = left ++ .underWay :: right →
      ThreadStep mayFail scheduler { scheduler with
        starts := left ++ right
        workers := .awake :: scheduler.workers
        lastStart := some true }
  | fail {scheduler : Scheduler} {left right : List ThreadStart} : mayFail →
      scheduler.starts = left ++ .underWay :: right →
      ThreadStep mayFail scheduler { scheduler with
        starts := left ++ .failed :: right
        lastStart := some false }
  -- the last statement of `schedule_flush`
  | giveUp {scheduler : Scheduler} {left right : List ThreadStart} :
      scheduler.starts = left ++ .failed :: right →
      ThreadStep mayFail scheduler { scheduler with
        workerRunning := false
        starts := left ++ right }
  -- notified, timed out, or neither
  | wake {scheduler : Scheduler} {left right : List Worker} {timeout : Nat} {notified : Bool} :
      scheduler.workers = left ++ .waiting timeout notified :: right →
      ThreadStep mayFail scheduler { scheduler with workers := left ++ .awake :: right }

/-- The moves of the threads, and of the clock, in any order. -/
inductive Step (mayFail : Prop) : Scheduler → Scheduler → Prop where
  | tick {scheduler : Scheduler} (now : Nat) : scheduler.now ≤ now →
      Step mayFail scheduler { scheduler with now }
  | schedule {scheduler : Scheduler} (delay : Nat) :
      Step mayFail scheduler (scheduler.scheduleFlush delay)
  | thread {scheduler after : Scheduler} : ThreadStep mayFail scheduler after →
      Step mayFail scheduler after
  | turn {scheduler : Scheduler} {left right : List Worker} :
      scheduler.workers = left ++ .awake :: right →
      Step mayFail scheduler (scheduler.turn left right)
  | flushed {scheduler : Scheduler} {left right : List Worker} :
      scheduler.workers = left ++ .flushing :: right →
      Step mayFail scheduler { scheduler with workers := left ++ .awake :: right }

end Scheduler

/-- `Scheduler::default`: no deadline, no worker, nothing asked for. -/
def Scheduler.default (now : Nat) : Scheduler where
  now := now
  deadline := none
  workerRunning := false
  starts := []
  workers := []
  lastStart := none
  requested := []

/-- The runs of a scheduler. -/
def schedulers (mayFail : Prop) : System Scheduler where
  initial scheduler := ∃ now, scheduler = .default now
  step := Scheduler.Step mayFail

end FluxBar
