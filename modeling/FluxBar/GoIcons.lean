import FluxBar.IconService
import FluxBar.Library.SingleFlight

/-! The icons of feeds in the Go core: the calls of `icon` around `iconMu`. Unlike its
successor it looks at the cache and at the loads under one lock. What a call does under the
lock is one step; a context may be cancelled at any wait. -/
namespace FluxBar.GoIcons
open Transition Relational

/-- Where a call stands. A channel of `iconLoads` is given by its place among all made. -/
inductive Phase where
  | entering
  | waiting (loaded : Nat)
  | woken (loaded : Nat)
  -- from here to `closing` the call holds the load
  | fetching (loaded : Nat)
  | normalizing (loaded : Nat)
  | storing (loaded : Nat) (icon : CachedIcon)
  | closing (loaded : Nat) (icon : CachedIcon)
  -- the results of `icon`
  | returned (icon : CachedIcon) (cached : Bool)
  deriving DecidableEq, Repr

/-- A call of `icon`, and where it stands between the locks it takes. -/
structure Call where
  feedID : Int
  phase : Phase
  deriving DecidableEq, Repr

/-- `Service`, as far as icons go, and its calls. Of a channel of `iconLoads` it counts
whether it is closed. The last two fields are history: the feeds whose icon was requested,
and the loads that came to nothing. -/
structure Service where
  iconCache : Dictionary Int CachedIcon
  iconLoads : Dictionary Int Nat
  closed : List Bool
  calls : List Call
  requested : List Int
  failed : List (Int × Nat)

namespace Service
variable (service : Service) (feedID : Int)

/-- `newWithClient`. -/
def new : Service := ⟨.empty, .empty, [], [], [], []⟩

/-- Whether a channel has been closed. -/
def isClosed (loaded : Nat) : Bool := service.closed[loaded]? = some true

/-- What `icon` does under its first lock: an icon cached is returned, a load under way is
waited for, and otherwise the call begins one. -/
def enter : Service × Phase :=
  match service.iconCache.get? feedID with
  | some icon => (service, .returned icon true)
  | none =>
    match service.iconLoads.get? feedID with
    | some loaded => (service, .waiting loaded)
    | none =>
      let loaded := service.closed.length
      ({ service with
          iconLoads := service.iconLoads.revise feedID fun _ => some loaded
          closed := service.closed ++ [false]
          requested := feedID :: service.requested }, .fetching loaded)

/-- What a call whose channel was closed finds under the read lock: the icon, or none where
the load came to nothing. -/
def read : Phase :=
  .returned ((service.iconCache.get? feedID).getD .default) (service.iconCache.get? feedID).isSome

/-- `storeIcon`. -/
def storeIcon (icon : CachedIcon) : Service :=
  { service with iconCache := service.iconCache.revise feedID fun _ => some icon }

/-- A load that comes to nothing: the client answers with an error or with no icon, or the
image cannot be normalized. -/
def fail (loaded : Nat) : Service := { service with failed := (feedID, loaded) :: service.failed }

/-- The deferred function of a call that holds a load: the load is taken out, and its
channel closed for all that wait. -/
def close (loaded : Nat) : Service :=
  { service with
    iconLoads := service.iconLoads.filterKeys fun other => other ≠ feedID
    closed := service.closed.set loaded true }

end Service

/-- The steps of a call. What the client answers, and whether its image can be normalized, is
left open. -/
inductive Call.Step (service : Service) (feedID : Int) : Phase → Service → Phase → Prop where
  | enter : Step service feedID .entering (service.enter feedID).1 (service.enter feedID).2
  | wake (loaded : Nat) : service.isClosed loaded = true →
      Step service feedID (.waiting loaded) service (.woken loaded)
  | cancel (loaded : Nat) : Step service feedID (.waiting loaded) service (.returned .default false)
  | read (loaded : Nat) : Step service feedID (.woken loaded) service (service.read feedID)
  | answer (loaded : Nat) : Step service feedID (.fetching loaded) service (.normalizing loaded)
  | refuse (loaded : Nat) : Step service feedID (.fetching loaded)
      (service.fail feedID loaded) (.closing loaded .default)
  | normalize (loaded : Nat) (icon : CachedIcon) :
      Step service feedID (.normalizing loaded) service (.storing loaded icon)
  | reject (loaded : Nat) : Step service feedID (.normalizing loaded)
      (service.fail feedID loaded) (.closing loaded .default)
  | store (loaded : Nat) (icon : CachedIcon) : Step service feedID (.storing loaded icon)
      (service.storeIcon feedID icon) (.closing loaded icon)
  | close (loaded : Nat) (icon : CachedIcon) : Step service feedID (.closing loaded icon)
      (service.close feedID loaded) (.returned icon false)

namespace Service

/-- The steps of the service: a call comes, or one that is there moves on. -/
inductive Step : Service → Service → Prop where
  | call {service : Service} (feedID : Int) :
      Step service { service with calls := ⟨feedID, .entering⟩ :: service.calls }
  | move {service after : Service} {left right : List Call} {call : Call} {phase : Phase} :
      service.calls = left ++ call :: right →
      Call.Step service call.feedID call.phase after phase →
      Step service { after with calls := left ++ ⟨call.feedID, phase⟩ :: right }

end Service

/-- The runs of the calls of one service. -/
def icons : System Service where
  initial service := service = .new
  step := Service.Step

/-! ## Who holds a load -/

namespace Phase

/-- The channel of the load that a call holds. -/
def holds : Phase → Option Nat
  | .fetching loaded | .normalizing loaded | .storing loaded _ | .closing loaded _ => some loaded
  | _ => none

/-- A call that has neither stored an icon nor given up. -/
def fetches : Phase → Bool
  | .fetching _ | .normalizing _ | .storing _ _ => true
  | _ => false

theorem holds_of_fetches {phase : Phase} (fetching : phase.fetches = true) :
    phase.holds.isSome = true := by
  cases phase <;> first | rfl | cases fetching

end Phase

namespace Call

def holds (feedID : Int) (call : Call) : Bool := call.feedID = feedID && call.phase.holds.isSome

def fetches (feedID : Int) (call : Call) : Bool := call.feedID = feedID && call.phase.fetches

end Call

end FluxBar.GoIcons
