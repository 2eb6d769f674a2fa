import FluxBar.Library.Dictionary
import FluxBar.Library.TransitionSystem

/-! The icons of feeds, loaded once and kept in memory: the calls of
`feed_icon_with_deadline` around the locks of `IconService`. What a call does under one lock
is one step, what it does between two locks is another, and the clock may advance between
any two. A panic unwinds through the guard of the load, and a poisoned lock is taken all the
same. -/
namespace FluxBar
open Transition Relational

/-- In-memory cache entry for one feed icon. -/
structure CachedIcon where
  regular : List UInt8
  dark : List UInt8
  deriving DecidableEq, Repr

/-- `CachedIcon::default`. -/
def CachedIcon.default : CachedIcon := ⟨[], []⟩

/-- One load, shared between the call that runs it and the calls that wait for it. -/
structure LoadSlot where
  ready : Bool
  waiters : Nat
  deriving DecidableEq, Repr

/-- Where a call stands. A slot is given by its place among all slots made; a result is the
icon returned, or none for a panic. -/
inductive IconPhase where
  | entering
  -- no icon in `cache`
  | missed
  -- and no slot in `loads`
  | unled
  | joining (slot : Nat)
  | waiting (slot : Nat)
  | woken
  | reading
  -- under a `LoadGuard`
  | guarded (slot : Nat)
  | requesting (slot : Nat)
  | processing (slot : Nat)
  | loaded (slot : Nat) (icon : CachedIcon)
  | dropping (slot : Nat) (result : Option CachedIcon)
  -- the guard has left `loads`
  | announcing (slot : Nat) (result : Option CachedIcon)
  | ended (result : Option CachedIcon)
  deriving DecidableEq, Repr

/-- A call of `feed_icon_with_deadline`, and where it stands between the locks it takes. -/
structure IconCall where
  feedId : Int
  deadline : Option Nat
  phase : IconPhase
  deriving DecidableEq, Repr

/-- Whether the deadline of the call has passed. -/
def IconCall.expired (call : IconCall) (now : Nat) : Bool :=
  call.deadline.any fun deadline => deadline ≤ now

/-- `IconService`, with the slots that its calls hold, which outlive their place in `loads`.
-/
structure IconService where
  cache : Dictionary Int CachedIcon
  loads : Dictionary Int Nat
  slots : List LoadSlot

namespace IconService
variable (service : IconService) (feedId : Int) (slot : Nat) (expired : Bool)

/-- `IconService::new`. -/
def new : IconService := ⟨.empty, .empty, []⟩

/-- Whether the load of a slot is over. -/
def isReady : Bool := (service.slots[slot]?).any LoadSlot.ready

def changeSlot (change : LoadSlot → LoadSlot) : IconService :=
  { service with slots := service.slots.modify slot change }

/-- The first lock of a turn: `cache`, which is released before `loads` is looked at. -/
def lookCache : IconPhase :=
  match service.cache.get? feedId with
  | some icon => .ended (some icon)
  | none => .missed

/-- The second: `loads`, where a call finds the load of another one, or none. -/
def lookLoads : IconPhase :=
  match service.loads.get? feedId with
  | some slot => .joining slot
  | none => .unled

/-- The lock of the slot found, up to the first wait: a load that is over is not waited for,
nor is one by a call whose time is over. -/
def join : IconService × IconPhase :=
  if service.isReady slot then (service, .woken)
  else if expired then (service, .ended (some .default))
  else (service.changeSlot slot fun held => { held with waiters := held.waiters + 1 }, .waiting slot)

/-- A turn of the loop of waits: over, late, or to be waited for once more. -/
def wake : IconService × IconPhase :=
  let left := service.changeSlot slot fun held => { held with waiters := held.waiters - 1 }
  if service.isReady slot then (left, .woken)
  else if expired then (left, .ended (some .default))
  else (service, .waiting slot)

/-- The lock of `loads` under which a call becomes the leader; one that finds a load by now
begins again. -/
def lead : IconService × IconPhase :=
  if (service.loads.get? feedId).isSome then (service, .entering)
  else
    let fresh := service.slots.length
    ({ service with
        loads := service.loads.revise feedId fun _ => some fresh
        slots := service.slots ++ [⟨false, 0⟩] }, .guarded fresh)

def store (icon : CachedIcon) : IconService :=
  { service with cache := service.cache.revise feedId fun _ => some icon }

/-- The first statement of `LoadGuard::drop`: the load is taken out of `loads`, and waiters
still hold its slot. -/
def removeLoad : IconService :=
  { service with loads := service.loads.filterKeys fun other => other ≠ feedId }

/-- The rest of it. -/
def announce : IconService := service.changeSlot slot fun held => { held with ready := true }

end IconService

/-- The steps of a call that neither begin a request nor take a load away. What the remote
side answers, and what comes of its image, is left open; either may panic. -/
inductive IconCall.Step (service : IconService) (feedId : Int) (expired : Bool) :
    IconPhase → IconService → IconPhase → Prop where
  | lookCache : Step service feedId expired .entering service (service.lookCache feedId)
  | lookLoads : Step service feedId expired .missed service (service.lookLoads feedId)
  | join (slot : Nat) : Step service feedId expired (.joining slot)
      (service.join slot expired).1 (service.join slot expired).2
  | wake (slot : Nat) : Step service feedId expired (.waiting slot)
      (service.wake slot expired).1 (service.wake slot expired).2
  | check : Step service feedId expired .woken service
      (if expired then .ended (some .default) else .reading)
  | read : Step service feedId expired .reading service
      (.ended (some ((service.cache.get? feedId).getD .default)))
  | lead : Step service feedId expired .unled
      (service.lead feedId).1 (service.lead feedId).2
  | answered (slot : Nat) : Step service feedId expired (.requesting slot) service (.processing slot)
  | unanswered (slot : Nat) (panicked : Bool) : Step service feedId expired (.requesting slot)
      service (.dropping slot (if panicked then none else some .default))
  | processed (slot : Nat) (icon : CachedIcon) : expired = false →
      Step service feedId expired (.processing slot) service (.loaded slot icon)
  | unprocessed (slot : Nat) (panicked : Bool) : Step service feedId expired (.processing slot)
      service (.dropping slot (if panicked then none else some .default))
  | store (slot : Nat) (icon : CachedIcon) : Step service feedId expired (.loaded slot icon)
      (service.store feedId icon) (.dropping slot (some icon))
  | announce (slot : Nat) (result : Option CachedIcon) :
      Step service feedId expired (.announcing slot result)
        (service.announce slot) (.ended result)

/-- The service, its calls and the clock. The last field is history: the feeds whose icon
was requested while the cache held one. -/
structure IconCalls where
  service : IconService
  now : Nat
  calls : List IconCall
  refetched : List Int

namespace IconCalls

/-- When the guard of a load may take it out of `loads`, beside which other calls. -/
abbrev Admission := IconService → List IconCall → Int → Prop

/-- The steps of the calls, each under one lock, in any order; a request may also bring no
icon. -/
inductive Step (admits : Admission) : IconCalls → IconCalls → Prop where
  | tick {state : IconCalls} (now : Nat) : state.now ≤ now → Step admits state { state with now }
  | call {state : IconCalls} (feedId : Int) (deadline : Option Nat) :
      Step admits state { state with calls := ⟨feedId, deadline, .entering⟩ :: state.calls }
  | move {state : IconCalls} {left right : List IconCall} {call : IconCall}
      {service : IconService} {phase : IconPhase} :
      state.calls = left ++ call :: right →
      IconCall.Step state.service call.feedId (call.expired state.now) call.phase service phase →
      Step admits state { state with
        service
        calls := left ++ { call with phase } :: right }
  | request {state : IconCalls} {left right : List IconCall} {feedId : Int}
      {deadline : Option Nat} {slot : Nat} :
      state.calls = left ++ ⟨feedId, deadline, .guarded slot⟩ :: right →
      Step admits state { state with
        calls := left ++ ⟨feedId, deadline, .requesting slot⟩ :: right
        refetched :=
          if (state.service.cache.get? feedId).isSome then feedId :: state.refetched
          else state.refetched }
  | remove {state : IconCalls} {left right : List IconCall} {feedId : Int}
      {deadline : Option Nat} {slot : Nat} {result : Option CachedIcon} :
      state.calls = left ++ ⟨feedId, deadline, .dropping slot result⟩ :: right →
      admits state.service (left ++ right) feedId →
      Step admits state { state with
        service := state.service.removeLoad feedId
        calls := left ++ ⟨feedId, deadline, .announcing slot result⟩ :: right }

end IconCalls

/-- The runs of the calls of one service. -/
def iconCalls (admits : IconCalls.Admission) : System IconCalls where
  initial state := ∃ now, state = ⟨.new, now, [], []⟩
  step := IconCalls.Step admits

end FluxBar
