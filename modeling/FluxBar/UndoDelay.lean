import FluxBar.BulkReads
import FluxBar.RuntimeProofs
import FluxBar.SchedulerProofs

/-! Automatic reads and the worker that delivers them. `mark_read` records its changes and
asks for a flush under the lock of the store, and a flush takes the pending changes under
the same lock; one timer stands for all that is recorded while it runs. -/
namespace FluxBar
open Transition

/-! ## The parties -/

/-- An automatic `mark_read` that holds the store: before and after `schedule_flush`, which
takes another lock. -/
inductive Marking where
  | recorded
  | scheduled
  deriving DecidableEq, Repr

/-- The flush of the worker: the deadline it was started at, the changes it still has to
deliver once it has read them, each with the time it was recorded, and the one it has sent
and not acknowledged. -/
structure Flush where
  started : Nat
  remaining : Option (List (PendingMutation × Option Nat))
  sent : Option PendingMutation
  deriving DecidableEq, Repr

/-- A change on its way to the server, with the times it was recorded and its flush was
started at. -/
structure SentChange where
  mutation : PendingMutation
  recorded : Option Nat
  started : Nat
  deriving DecidableEq, Repr

/-- The scheduler with the store behind it. The last two fields are history: when the read
change of an entry was recorded last, and what has been sent. -/
structure AutomaticReads where
  scheduler : Scheduler
  store : Store
  marking : Option Marking
  flush : Option Flush
  recordedAt : Int → Option Nat
  delivered : List SentChange

/-- The pending row of an entry's read state. -/
def Store.pendingRead (store : Store) (accountId : String) (entryId : Int) : Option PendingRow :=
  store.pendingMutations.find? (accountId, entryId, .read)

namespace AutomaticReads
variable (state : AutomaticReads) (accountId : String) (scan : Scan) (delay : Nat)

/-- The recording times after a call has changed the store: those of the rows it wrote. -/
def record (after : Store) (entryId : Int) : Option Nat :=
  if after.pendingRead accountId entryId = state.store.pendingRead accountId entryId then
    state.recordedAt entryId
  else some state.scheduler.now

/-- The pending changes, each with the time it was recorded. -/
def pending : List (PendingMutation × Option Nat) :=
  (state.store.pending scan accountId).map fun mutation =>
    (mutation, if mutation.field = .read then state.recordedAt mutation.entryId else none)

/-- The moves of automatic reads and of the worker. When a call may record is a parameter. -/
inductive Step (admitted : AutomaticReads → Prop) : AutomaticReads → AutomaticReads → Prop where
  | tick {state : AutomaticReads} (now : Nat) : state.scheduler.now ≤ now →
      Step admitted state { state with scheduler := { state.scheduler with now } }
  -- `set_read`, undoable
  | record {state : AutomaticReads} {after : Store} {receipt : Option MutationReceipt}
      (clock : Nat → String) (receiptId : String) (ids : List Int) (read : Bool) :
      state.marking = none → admitted state →
      state.store.setRead clock receiptId accountId ids read true = .ok (after, receipt) →
      Step admitted state { state with
        store := after
        marking := some .recorded
        recordedAt := state.record accountId after }
  | schedule {state : AutomaticReads} : state.marking = some .recorded →
      Step admitted state { state with
        scheduler := state.scheduler.scheduleFlush delay
        marking := some .scheduled }
  | thread {state : AutomaticReads} {scheduler : Scheduler} :
      Scheduler.ThreadStep True state.scheduler scheduler →
      Step admitted state { state with scheduler }
  -- `mark_read` returns
  | release {state : AutomaticReads} : state.marking = some .scheduled →
      state.scheduler.starts = [] → Step admitted state { state with marking := none }
  | turn {state : AutomaticReads} {left right : List Worker} :
      state.scheduler.workers = left ++ .awake :: right →
      (∀ deadline, state.scheduler.deadline = some deadline → state.scheduler.now < deadline) →
      Step admitted state { state with scheduler := state.scheduler.turn left right }
  -- the timer fires
  | fire {state : AutomaticReads} {left right : List Worker} {deadline : Nat} :
      state.scheduler.workers = left ++ .awake :: right →
      state.scheduler.deadline = some deadline → deadline ≤ state.scheduler.now →
      Step admitted state { state with
        scheduler := state.scheduler.turn left right
        flush := some ⟨state.scheduler.now, none, none⟩ }
  -- `flush_pending` reads what is pending
  | read {state : AutomaticReads} {started : Nat} : state.marking = none →
      state.flush = some ⟨started, none, none⟩ →
      Step admitted state { state with
        flush := some ⟨started, some (state.pending accountId scan), none⟩ }
  | send {state : AutomaticReads} {started : Nat} {mutation : PendingMutation}
      {recorded : Option Nat} {rest : List (PendingMutation × Option Nat)} :
      state.flush = some ⟨started, some ((mutation, recorded) :: rest), none⟩ →
      Step admitted state { state with
        flush := some ⟨started, some rest, some mutation⟩
        delivered := ⟨mutation, recorded, started⟩ :: state.delivered }
  | acknowledge {state : AutomaticReads} {started : Nat} {mutation : PendingMutation}
      {remaining : List (PendingMutation × Option Nat)} {after : Store} :
      state.marking = none → state.flush = some ⟨started, some remaining, some mutation⟩ →
      state.store.acknowledge accountId mutation = .ok after →
      Step admitted state { state with
        store := after
        flush := some ⟨started, some remaining, none⟩ }
  -- completed or failed
  | flushed {state : AutomaticReads} {left right : List Worker} :
      state.scheduler.workers = left ++ .flushing :: right →
      Step admitted state { state with
        scheduler := { state.scheduler with workers := left ++ .awake :: right }
        flush := none }

end AutomaticReads

/-- The runs of automatic reads on any store. -/
def automaticReads (accountId : String) (scan : Scan) (delay : Nat)
    (admitted : AutomaticReads → Prop) : System AutomaticReads where
  initial state := ∃ now store, state = ⟨.default now, store, none, none, fun _ => none, []⟩
  step := AutomaticReads.Step accountId scan delay admitted

/-- An automatic `mark_read` of the service is a recording, followed by a call of
`schedule_flush` with the delay it asked for. -/
theorem SyncService.steps_markRead {σ : Type} {service : SyncService σ} {selection : Selection}
    {ids retainIds : List Int} {read : Bool} {world after : World σ} {snapshot : SnapshotData}
    {receipt : Option MutationReceipt} {state : AutomaticReads} {admitted : AutomaticReads → Prop}
    (ran : Procedure.Returns (service.markRead selection ids retainIds read true) world
      (snapshot, receipt) after)
    (held : state.store = world.store) (idle : state.marking = none) (admits : admitted state) :
    ∃ delay later, after.requested = delay :: world.requested ∧
      Relation.ReflTransGen (AutomaticReads.Step service.accountId service.scan delay admitted)
        state later ∧
      later.store = after.store ∧ later.scheduler = state.scheduler.scheduleFlush delay := by
  obtain ⟨changed, _, asked⟩ := committed_markRead ran
  rw [← held] at changed
  exact ⟨automaticFlushDelay, _, asked,
    .tail (.single (.record _ _ _ _ idle admits changed)) (.schedule rfl), rfl, rfl⟩

/-! ## The delay -/

namespace Scheduler
variable {scheduler after : Scheduler}

@[simp] theorem now_scheduleFlush (delay : Nat) :
    (scheduler.scheduleFlush delay).now = scheduler.now := by
  unfold scheduleFlush advance
  dsimp only
  split <;> split_ifs <;> rfl

theorem deadline_scheduleFlush {delay deadline : Nat}
    (set : (scheduler.scheduleFlush delay).deadline = some deadline) :
    scheduler.deadline = some deadline ∨ deadline = scheduler.now + delay := by
  have advanced : ∀ moved : Scheduler, (moved.advance (scheduler.now + delay)).deadline =
      some (scheduler.now + delay) := by
    intro moved
    unfold advance
    dsimp only
    split_ifs <;> rfl
  unfold scheduleFlush at set
  dsimp only at set
  split at set
  · rename_i existing found
    split_ifs at set
    · rw [advanced] at set
      exact .inr (Option.some.inj set).symm
    · exact .inl set
  · rw [advanced] at set
    exact .inr (Option.some.inj set).symm

theorem ThreadStep.keeps {mayFail : Prop} (step : ThreadStep mayFail scheduler after) :
    after.now = scheduler.now ∧ after.deadline = scheduler.deadline := by
  cases step <;> exact ⟨rfl, rfl⟩

theorem turn_keeps {left right : List Worker}
    (early : ∀ deadline, scheduler.deadline = some deadline → scheduler.now < deadline) :
    (scheduler.turn left right).now = scheduler.now ∧
      (scheduler.turn left right).deadline = scheduler.deadline := by
  unfold turn
  split
  · exact ⟨rfl, rfl⟩
  · rename_i deadline set
    rw [if_pos (early deadline set)]
    exact ⟨rfl, rfl⟩

theorem turn_fires {left right : List Worker} {deadline : Nat}
    (set : scheduler.deadline = some deadline) (due : deadline ≤ scheduler.now) :
    (scheduler.turn left right).now = scheduler.now ∧
      (scheduler.turn left right).deadline = none := by
  unfold turn
  rw [set]
  dsimp only
  rw [if_neg (Nat.not_lt.mpr due)]
  exact ⟨rfl, rfl⟩

end Scheduler

namespace AutomaticReads
variable {accountId : String} {scan : Scan} {delay : Nat} {state after : AutomaticReads}

/-- No timer runs that would fire before the delay is over, and no flush has started that
has not read what is pending. It is asked of the state in which an automatic read is
recorded. -/
def Unhurried (delay : Nat) (state : AutomaticReads) : Prop :=
  (∀ deadline, state.scheduler.deadline = some deadline →
    state.scheduler.now + delay ≤ deadline) ∧
  ∀ flush, state.flush = some flush → flush.remaining ≠ none

/-- A time at which a change was recorded leaves its delay to a later one. -/
def Spared (delay started : Nat) (recorded : Option Nat) : Prop :=
  ∀ time, recorded = some time → time + delay ≤ started

/-- What was recorded is spared by the timer, by the flush and by what was delivered; each
step of the run keeps this, and the last part is the claim. -/
structure Kept (delay : Nat) (state : AutomaticReads) : Prop where
  past : ∀ entryId, Spared 0 state.scheduler.now (state.recordedAt entryId)
  timer : ∀ entryId deadline, state.scheduler.deadline = some deadline →
    Spared delay deadline (state.recordedAt entryId)
  started : ∀ flush, state.flush = some flush → flush.remaining = none →
    ∀ entryId, Spared delay flush.started (state.recordedAt entryId)
  listed : ∀ flush remaining, state.flush = some flush → flush.remaining = some remaining →
    ∀ item ∈ remaining, Spared delay flush.started item.2
  delivered : ∀ delivery ∈ state.delivered, Spared delay delivery.started delivery.recorded

theorem kept_record (kept : Kept delay state) (unhurried : Unhurried delay state) (after : Store) :
    Kept delay { state with
      store := after
      marking := some .recorded
      recordedAt := state.record accountId after } := by
  obtain ⟨ahead, read⟩ := unhurried
  have recorded : ∀ (started : Nat) (span : Nat),
      (∀ entryId, Spared span started (state.recordedAt entryId)) →
      state.scheduler.now + span ≤ started →
      ∀ entryId, Spared span started (state.record accountId after entryId) := by
    intro started span before now entryId
    unfold record
    split
    · exact before entryId
    · rintro time same
      cases same
      exact now
  exact {
    past := recorded _ 0 kept.past (le_refl _)
    timer := fun entryId deadline set =>
      recorded _ delay (fun entryId => kept.timer entryId deadline set) (ahead deadline set) entryId
    started := fun flush here unread => absurd unread (read flush here)
    listed := kept.listed
    delivered := kept.delivered }

/-- A step of the scheduler that only spares more: the clock moves on, and no timer is set
that would fire too early. -/
theorem Kept.reschedule (kept : Kept delay state) {scheduler : Scheduler}
    (now : state.scheduler.now ≤ scheduler.now)
    (timer : ∀ deadline, scheduler.deadline = some deadline →
      state.scheduler.deadline = some deadline ∨ state.scheduler.now + delay ≤ deadline) :
    Kept delay { state with scheduler } := by
  refine { kept with past := ?_, timer := ?_ }
  · intro entryId time recorded
    exact (kept.past entryId time recorded).trans now
  · intro entryId deadline set time recorded
    rcases timer deadline set with same | later
    · exact kept.timer entryId deadline same time recorded
    · have past := kept.past entryId time recorded
      omega

theorem kept_step (kept : Kept delay state)
    (step : Step accountId scan delay (Unhurried delay) state after) : Kept delay after := by
  cases step with
  | tick now later => exact kept.reschedule later fun _ set => .inl set
  | record clock receiptId ids read free unhurried ran => exact kept_record kept unhurried _
  | schedule held =>
    have moved : Kept delay { state with scheduler := state.scheduler.scheduleFlush delay } :=
      kept.reschedule (Scheduler.now_scheduleFlush delay).ge fun deadline set =>
        (Scheduler.deadline_scheduleFlush set).imp_right fun same => same.ge
    exact { moved with }
  | thread step =>
    obtain ⟨now, deadline⟩ := step.keeps
    exact kept.reschedule now.ge fun _ set => .inl (deadline ▸ set)
  | release held free => exact { kept with }
  | turn here early =>
    obtain ⟨now, deadline⟩ := Scheduler.turn_keeps early
    exact kept.reschedule now.ge fun _ set => .inl (deadline ▸ set)
  | @fire left right deadline here set due =>
    obtain ⟨now, cleared⟩ := @Scheduler.turn_fires _ left right _ set due
    have moved : Kept delay { state with scheduler := state.scheduler.turn left right } :=
      kept.reschedule now.ge fun _ set => by simp [cleared] at set
    refine { moved with started := ?_, listed := ?_ }
    · intro flush same _ entryId time recorded
      cases same
      exact (kept.timer entryId deadline set time recorded).trans due
    · intro flush remaining same read
      cases same
      cases read
  | @read started free here =>
    refine { kept with started := ?_, listed := ?_ }
    · intro flush same unread
      cases same
      cases unread
    · intro flush remaining same read item listed
      cases same
      cases read
      obtain ⟨mutation, _, rfl⟩ := List.mem_map.mp listed
      dsimp only
      split
      · exact kept.started _ here rfl mutation.entryId
      · exact fun _ absurd => by cases absurd
  | @send started mutation recorded rest here =>
    have listed := kept.listed _ _ here rfl
    refine { kept with started := ?_, listed := ?_, delivered := ?_ }
    · intro flush same unread
      cases same
      cases unread
    · intro flush remaining same read item later
      cases same
      cases read
      exact listed item (List.mem_cons_of_mem _ later)
    · intro delivery sent
      rcases List.mem_cons.mp sent with rfl | before
      · exact listed _ List.mem_cons_self
      · exact kept.delivered delivery before
  | @acknowledge started mutation remaining after free here ran =>
    refine { kept with started := ?_, listed := ?_ }
    · intro flush same unread
      cases same
      cases unread
    · intro flush remaining same read item later
      cases same
      cases read
      exact kept.listed _ _ here rfl item later
  | flushed here =>
    exact { kept with
      started := fun _ absurd => by cases absurd
      listed := fun _ _ absurd => by cases absurd }

/-- Where every automatic read is recorded with no earlier timer running and no flush about
to read, each keeps its delay: the flush that delivers it has started no sooner than the
delay after it was recorded. -/
theorem automatic_reads_keep_delay
    (reached : (automaticReads accountId scan delay (Unhurried delay)).Reachable state) :
    ∀ delivery ∈ state.delivered, ∀ recorded, delivery.recorded = some recorded →
      recorded + delay ≤ delivery.started :=
  (reached.invariant (Kept delay)
    (fun _ ⟨_, _, initial⟩ => initial ▸ {
      past := fun _ _ absurd => by cases absurd
      timer := fun _ _ absurd => by cases absurd
      started := fun _ absurd => by cases absurd
      listed := fun _ _ absurd => by cases absurd
      delivered := fun _ absurd => by cases absurd })
    fun _ _ _ kept step => kept_step kept step).delivered

/-! ## Two batches -/

end AutomaticReads

/-- The store after an automatic read of one article, at a time given as text. -/
def Store.autoRead (store : Store) (now receiptId : String) (id : Int) : Store :=
  store.commit ((store.setRead (fun _ => now) receiptId "account" [id] true true).map Prod.fst)

def firstRead : Store := twoUnread.autoRead "00" "first" 1

def bothRead : Store := firstRead.autoRead "09" "second" 2

theorem setRead_twoUnread : twoUnread.setRead (fun _ => "00") "first" "account" [1] true true =
    .ok (firstRead, some ⟨"first", 1⟩) := rfl

theorem setRead_firstRead : firstRead.setRead (fun _ => "09") "second" "account" [2] true true =
    .ok (bothRead, some ⟨"second", 1⟩) := rfl

/-- The rows of an account that are stored in the order of their times. -/
theorem Store.pending_ordered {store : Store} {rows : List PendingRow}
    (stored : store.pendingMutations.select (fun row => row.accountId = "account") = rows)
    (ordered : rows.Pairwise fun left right => decide (left.updatedAt ≤ right.updatedAt) = true) :
    store.pending .storage "account" = rows.map fun row =>
      { entryId := row.entryId, field := row.field, desired := row.desired
        revision := row.revision } := by
  unfold Store.pending Scan.storage
  dsimp only
  rw [stored, List.mergeSort_of_pairwise ordered]

theorem pending_firstRead : firstRead.pending .storage "account" = [⟨1, .read, true, 1⟩] :=
  @Store.pending_ordered _ [⟨"account", 1, .read, true, 1, "00"⟩] (by decide) (by decide)

theorem pending_bothRead : bothRead.pending .storage "account" =
    [⟨1, .read, true, 1⟩, ⟨2, .read, true, 1⟩] :=
  @Store.pending_ordered _
    [⟨"account", 1, .read, true, 1, "00"⟩, ⟨"account", 2, .read, true, 1, "09"⟩]
    (by decide) (by decide)

def firstDelivered : Store :=
  bothRead.commit (bothRead.acknowledge "account" ⟨1, .read, true, 1⟩)

theorem acknowledge_bothRead :
    bothRead.acknowledge "account" ⟨1, .read, true, 1⟩ = .ok firstDelivered := rfl

namespace AutomaticReads

theorem pending_of_pending {state : AutomaticReads} {store : Store}
    {mutations : List PendingMutation} (here : state.store = store)
    (pending : store.pending .storage "account" = mutations)
    (reads : ∀ mutation ∈ mutations, mutation.field = .read) :
    state.pending "account" .storage =
      mutations.map fun mutation => (mutation, state.recordedAt mutation.entryId) := by
  unfold AutomaticReads.pending
  rw [here, pending]
  apply List.map_congr_left
  intro mutation listed
  rw [if_pos (reads mutation listed)]

/-- One batch, delivered when its timer fires, ten seconds after it was read. -/
theorem lone_batch_keeps_delay :
    ∃ state, (automaticReads "account" .storage 10 (Unhurried 10)).Reachable state ∧
      ∃ delivery ∈ state.delivered, delivery.recorded = some 0 ∧ 0 + 10 ≤ delivery.started := by
  have idle : (automaticReads "account" .storage 10 (Unhurried 10)).Reachable
      ⟨.default 0, twoUnread, none, none, fun _ => none, []⟩ := .start ⟨0, twoUnread, rfl⟩
  have first := idle.next (.record _ _ _ _ rfl
    ⟨fun _ absurd => (by cases absurd), fun _ absurd => (by cases absurd)⟩ setRead_twoUnread)
  have timed := first.next (.schedule rfl)
  have started := timed.next (.thread (@Scheduler.ThreadStep.start _ _ [] [] rfl))
  have free := started.next (.release rfl rfl)
  have due := free.next (.tick 10 (Nat.zero_le 10))
  have fired := due.next (@Step.fire _ _ _ _ _ [] [] 10 rfl rfl (le_refl 10))
  have read := fired.next (.read rfl rfl)
  have sent := read.next (@Step.send _ _ _ _ _ 10 ⟨1, .read, true, 1⟩ (some 0) []
    (congrArg (fun items => some (Flush.mk 10 (some items) none))
      (@pending_of_pending _ _ [⟨1, .read, true, 1⟩] rfl pending_firstRead (by decide))))
  exact ⟨_, sent, _, List.mem_cons_self, rfl,
    automatic_reads_keep_delay sent _ List.mem_cons_self 0 rfl⟩

/-- The second article is delivered with the first, one second after it was read, because
`schedule_flush` keeps the earlier deadline. -/
theorem kept_timer_delivers_early :
    ∃ state, (automaticReads "account" .storage 10 fun _ => True).Reachable state ∧
      ∃ delivery ∈ state.delivered, delivery.recorded = some 9 ∧ delivery.started < 9 + 10 := by
  have idle : (automaticReads "account" .storage 10 fun _ => True).Reachable
      ⟨.default 0, twoUnread, none, none, fun _ => none, []⟩ := .start ⟨0, twoUnread, rfl⟩
  have first := idle.next (.record _ _ _ _ rfl trivial setRead_twoUnread)
  have timed := first.next (.schedule rfl)
  have started := timed.next (.thread (@Scheduler.ThreadStep.start _ _ [] [] rfl))
  have free := started.next (.release rfl rfl)
  have later := free.next (.tick 9 (Nat.zero_le 9))
  have second := later.next (.record _ _ _ _ rfl trivial setRead_firstRead)
  have kept := second.next (.schedule rfl)
  have again := kept.next (.release rfl rfl)
  have due := again.next (.tick 10 (Nat.le_succ 9))
  have fired := due.next (@Step.fire _ _ _ _ _ [] [] 10 rfl rfl (le_refl 10))
  have read := fired.next (.read rfl rfl)
  have sent := read.next (@Step.send _ _ _ _ _ 10 ⟨1, .read, true, 1⟩ (some 0)
    [(⟨2, .read, true, 1⟩, some 9)]
    (congrArg (fun items => some (Flush.mk 10 (some items) none))
      (@pending_of_pending _ _ [⟨1, .read, true, 1⟩, ⟨2, .read, true, 1⟩] rfl pending_bothRead
        (by decide))))
  have acknowledged := sent.next (.acknowledge rfl rfl acknowledge_bothRead)
  have ended := acknowledged.next (.send rfl)
  exact ⟨_, ended, _, List.mem_cons_self, rfl, Nat.lt_add_of_pos_left (by decide)⟩

end AutomaticReads
end FluxBar
