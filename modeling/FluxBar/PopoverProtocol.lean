import FluxBar.RuntimeProofs
import FluxBar.StoreRuns
import FluxBar.Library.AnsweredView

/-! The popover and the core as two parties. Triggers create tasks, each task sends
its request when it starts, the core executes the requests one at a time, and each
response is handled on its own; which task is next is open at every step. -/
namespace FluxBar
open Client Transition AnsweredView

/-- The values each article of a snapshot is listed with: its id, whether it is read, and
its star. -/
def Client.BrowseSnapshot.listed (snapshot : BrowseSnapshot) : List (Int × Option (Bool × Bool)) :=
  snapshot.entries.map fun article => (article.id, some (article.isRead, article.starred))

/-! ## The parties -/

/-- Where a task stands. With its outcome an answered one keeps the core's store from
before and after the execution. -/
inductive Phase where
  | created
  | sent (request : CoreRequest)
  | answered (outcome : Except GoCoreError CoreResponse) (before after : Store)

/-- What becomes of a response: it is applied, or the list is loaded again, or nothing comes
of it. -/
inductive Verdict where
  | apply
  | reload
  | drop
  deriving DecidableEq, Repr

/-- The guards at the end of each task, which compare the generations it captured with those
of the store. -/
def Client.CoreTask.verdict (store : BrowserStore) : CoreTask → Verdict
  | .loadLocalThenRefresh route _ | .reloadLocal route _ =>
    if route = store.routeGeneration then .apply else .drop
  | .refresh route generation _ _ =>
    if route = store.routeGeneration ∧ generation = store.refreshGeneration then .apply else .drop
  | .mutate route mutation _ | .markReadAutomatically route mutation _ =>
    if route = store.routeGeneration then
      if mutation = store.mutationGeneration then .apply else .reload
    else .drop
  | .undoAutomaticRead route mutation _ =>
    if route = store.routeGeneration ∧ mutation = store.mutationGeneration then .apply else .drop
  | .discardUndo _ => .drop

/-- Whether a refresh follows the response, as it does after a load while the popover is
closed. -/
def Client.CoreTask.refreshesNext (store : BrowserStore) : CoreTask → Bool
  | .loadLocalThenRefresh _ _ => !store.isPopoverVisible
  | _ => false

/-- The client and the core: the store of the popover, the world of the core, and the tasks
under way, each with how far it is. -/
structure Popover (σ : Type) where
  browser : BrowserStore
  world : World σ
  tasks : List (CoreTask × Phase)

/-- Tasks just created. -/
def created (tasks : List CoreTask) : List (CoreTask × Phase) := tasks.map fun task => (task, .created)

/-- A response about to be handled: its task and outcome, the core's store before and after
the request, and the tasks beside it. -/
structure Handling where
  task : CoreTask
  outcome : Except GoCoreError CoreResponse
  before : Store
  after : Store
  others : List (CoreTask × Phase)

section Protocol
variable {σ : Type} (engine : SyncService σ) (errors : JsonErrors)

/-- The steps without errors of the core, under a condition on what is handled: a trigger, a
task that sends its request, the core that executes one, and a response that is handled.
They come in any order. -/
inductive Popover.Step (admitted : Popover σ → Handling → Prop) : Popover σ → Popover σ → Prop where
  | trigger {state : Popover σ} (trigger : Trigger) :
      Step admitted state { state with
        browser := (state.browser.perform trigger).1
        tasks := state.tasks ++ created (state.browser.perform trigger).2 }
  | start {state : Popover σ} {left right : List (CoreTask × Phase)} {task : CoreTask} :
      state.tasks = left ++ (task, .created) :: right →
      Step admitted state { state with
        tasks := left ++ (task, .sent (state.browser.request task)) :: right }
  | execute {state : Popover σ} {left right : List (CoreTask × Phase)} {task : CoreTask}
      {request : CoreRequest} {response : CoreResponse} {world : World σ} :
      state.tasks = left ++ (task, .sent request) :: right →
      GoCore.request engine errors request state.world = (.ok response, world) →
      response.error = none →
      Step admitted state { state with
        world
        tasks := left ++ (task, .answered (.ok response) state.world.store world.store) :: right }
  | handle {state : Popover σ} {left right : List (CoreTask × Phase)} {task : CoreTask}
      {outcome : Except GoCoreError CoreResponse} {before after : Store} :
      state.tasks = left ++ (task, .answered outcome before after) :: right →
      admitted state ⟨task, outcome, before, after, left ++ right⟩ →
      Step admitted state { state with
        browser := (state.browser.finish task outcome).1
        tasks := left ++ right ++ created (state.browser.finish task outcome).2 }
  -- a scheduled flush
  | flush {state : Popover σ} :
      Step admitted state { state with world := (engine.flush state.world).2 }
  -- the server, and the other clients it has
  | remote {state : Popover σ} (remote : σ) :
      Step admitted state { state with world := { state.world with remote } }

/-- The runs of a client that has just started, on a store that sessions have left. -/
def popovers (admitted : Popover σ → Handling → Prop) : System (Popover σ) where
  initial state := (∃ enabled preferences, state.browser = .start enabled preferences) ∧
    state.tasks = [] ∧ ∃ listed, sessions.Reachable ⟨state.world.store, listed⟩
  step := Popover.Step engine errors admitted

end Protocol

/-! ## The popover as a view of the core -/

/-- A task as a request under way. A response that will only have the popover load
again is as good as one still to come. -/
def underWay (accountId : String) (browser : BrowserStore) (entry : CoreTask × Phase) :
    Request Int (Option (Bool × Bool)) where
  shown := entry.1.verdict browser ≠ .drop
  answer := match entry.2 with
    | .created | .sent _ => none
    | .answered _ before after =>
      if entry.1.verdict browser = .reload then none
      else some (before.effectiveValues accountId, after.effectiveValues accountId)

/-- The popover, the core and the tasks between them as a view of the core. -/
def Popover.view {σ : Type} (accountId : String) (state : Popover σ) :
    State Int (Option (Bool × Bool)) where
  view := state.browser.snapshot.listed
  source := state.world.store.effectiveValues accountId
  requests := state.tasks.map (underWay accountId state.browser)

/-- The values the articles of a response are listed with. -/
def Handling.listed (handling : Handling) : List (Int × Option (Bool × Bool)) :=
  match handling.outcome with
  | .ok response => response.snapshot.elim [] BrowseSnapshot.listed
  | .error _ => []

/-- No response is handled too late: one that is applied lists no article the core has
changed since, and one that is dropped, with no new load, did not bring about a value the
core still has and the popover does not show, unless for that article another task will. It
is read of the state before the step. -/
def Handling.InTime {σ : Type} (accountId : String) (state : Popover σ) (handling : Handling) : Prop :=
  let others := handling.others.map (underWay accountId state.browser)
  let core := state.world.store.effectiveValues accountId
  let before := handling.before.effectiveValues accountId
  let after := handling.after.effectiveValues accountId
  match handling.task.verdict state.browser with
  | .apply =>
    handling.task.refreshesNext state.browser ∨ AppliedInTime core after others handling.listed
  | .drop => DroppedInTime core before after others state.browser.snapshot.listed
  | .reload => True

/-- With every response handled and no navigation in progress, each article on screen shows
the values the core holds of it, its read state and its star. -/
def Popover.Current {σ : Type} (accountId : String) (state : Popover σ) : Prop :=
  state.tasks = [] → state.browser.isNavigating = false →
    ∀ article ∈ state.browser.snapshot.entries,
      state.world.store.effectiveValues accountId article.id =
        some (article.isRead, article.starred)

end FluxBar
