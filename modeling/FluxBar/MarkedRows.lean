import FluxBar.PopoverProtocol
import FluxBar.SnapshotProofs

/-! Articles marked read, watched from the mark to the end of the presentation. The
popover runs as before. Beside it stand the articles watched and, for each task, those
that were watched when its request was put together and the rows from which the core
then chose its list. -/
namespace FluxBar
open Client Transport Transition

/-! ## What is watched -/

namespace Client

/-- Whether a trigger ends the presentation: a refresh by hand, another list or filter,
or a configuration. -/
def Trigger.endsPresentation (store : BrowserStore) : Trigger → Bool
  | .refresh | .resumeAfterConfiguration => true
  | .route (.article _ _) => false
  | .route _ => true
  | .setUnreadOnly _ => store.selection.supportsUnreadFilter
  | _ => false

/-- The articles a trigger marks read, as the store itself decides it from the list shown.
-/
def Trigger.marks (store : BrowserStore) : Trigger → List Int
  | .setRead article true => [article.id]
  | .openArticle article => if article.isRead then [] else [article.id]
  | .route (.article id _) =>
    match store.snapshot.entries.find? fun article => article.id = id with
    | some article => if article.isRead then [] else [article.id]
    | none => []
  | .markReadAutomatically entryIDs =>
    if store.markReadOnScrolloverEnabled then
      entryIDs.filter (· ∈ (store.snapshot.entries.filter fun article => !article.isRead).map Article.id)
    else []
  | _ => []

/-- The articles a trigger marks unread, by hand or by an undo; `batch` tells those of an
undo. -/
def Trigger.unmarks (store : BrowserStore) (batch : String → List Int) : Trigger → List Int
  | .setRead article false => [article.id]
  | .undoAutomaticRead => store.automaticReadUndo.elim [] fun undo => batch undo.id
  | _ => []

/-- What is watched after a trigger: a listed article from where it is marked read to
where it is marked unread or the presentation ends. -/
def Trigger.watch (trigger : Trigger) (store : BrowserStore) (batch : String → List Int)
    (watched : List Int) : List Int :=
  if trigger.endsPresentation store then []
  else watched.filter (· ∉ trigger.unmarks store batch) ++
    (trigger.marks store).filter (· ∈ store.snapshot.entries.map Article.id)

/-- The request a task carries from its creation; the other tasks put theirs together
when they start. -/
def CoreTask.carried : CoreTask → Option CoreRequest
  | .refresh _ _ request _ | .mutate _ _ request => some request
  | _ => none

/-- The ids a request has the core retain. -/
def CoreRequest.retained (request : CoreRequest) : List Int := request.retainEntryIDs.getD []

end Client

/-! ## The watched popover -/

/-- The rows the core chooses the list of a response from, where there is one. -/
def candidates {σ : Type} (engine : SyncService σ) (request : CoreRequest) (before after : Store) :
    List EntryRow :=
  match parseRequest request.encode with
  | none => []
  | some parsed =>
    match parsed.intoOperation with
    | .error _ => []
    | .ok operation =>
      match operation.listing engine before with
      | none => []
      | some (selection, retained) =>
        after.qualifying engine.accountId (normalizeSelection selection.toDomain) retained

/-- A task of the popover. `marked` are the articles watched when its request was put
together. -/
structure Errand where
  task : CoreTask
  phase : Phase
  marked : List Int
  candidates : List EntryRow

/-- Errands just created. -/
def Errand.created (marked : List Int) (tasks : List CoreTask) : List Errand :=
  tasks.map fun task => ⟨task, .created, marked, []⟩

/-- The client and the core, and beside them what the claim is about: which articles were
marked read in the list that is presented. -/
structure WatchedPopover (σ : Type) where
  browser : BrowserStore
  world : World σ
  errands : List Errand
  watched : List Int

namespace WatchedPopover
variable {σ : Type}

/-- The popover without what is watched. -/
def popover (state : WatchedPopover σ) : Popover σ :=
  ⟨state.browser, state.world, state.errands.map fun errand => (errand.task, errand.phase)⟩

/-- What is watched after a trigger. -/
def watch (engine : SyncService σ) (state : WatchedPopover σ) (trigger : Trigger) : List Int :=
  trigger.watch state.browser
    (fun id => (state.world.store.batchItems engine.scan engine.accountId id).map (·.entryId))
    state.watched

section Protocol
variable (engine : SyncService σ) (errors : JsonErrors)

/-- The steps of the popover, with fewer rows than a snapshot can list; what is watched is
moved along by the triggers, and no guard of the store reads it. -/
inductive Step (admitted : WatchedPopover σ → Errand → Prop) :
    WatchedPopover σ → WatchedPopover σ → Prop where
  | trigger {state : WatchedPopover σ} (trigger : Trigger) :
      Step admitted state { state with
        browser := (state.browser.perform trigger).1
        errands := state.errands ++
          Errand.created (state.watch engine trigger) (state.browser.perform trigger).2
        watched := state.watch engine trigger }
  | start {state : WatchedPopover σ} {left right : List Errand} {task : CoreTask}
      {marked : List Int} {rows : List EntryRow} :
      state.errands = left ++ ⟨task, .created, marked, rows⟩ :: right →
      Step admitted state { state with
        errands := left ++ ⟨task, .sent (state.browser.request task),
          if task.carried.isSome then marked else state.watched, rows⟩ :: right }
  | execute {state : WatchedPopover σ} {left right : List Errand} {task : CoreTask}
      {request : CoreRequest} {marked : List Int} {rows : List EntryRow} {response : CoreResponse}
      {world : World σ} :
      state.errands = left ++ ⟨task, .sent request, marked, rows⟩ :: right →
      GoCore.request engine errors request state.world = (.ok response, world) →
      response.error = none →
      (candidates engine request state.world.store world.store).length < snapshotLimit →
      Step admitted state { state with
        world
        errands := left ++ ⟨task, .answered (.ok response) state.world.store world.store, marked,
          candidates engine request state.world.store world.store⟩ :: right }
  | handle {state : WatchedPopover σ} {left right : List Errand} {errand : Errand}
      {outcome : Except GoCoreError CoreResponse} {before after : Store} :
      state.errands = left ++ errand :: right → errand.phase = .answered outcome before after →
      admitted state errand →
      Step admitted state { state with
        browser := (state.browser.finish errand.task outcome).1
        errands := left ++ right ++
          Errand.created state.watched (state.browser.finish errand.task outcome).2 }
  | flush {state : WatchedPopover σ} :
      Step admitted state { state with world := (engine.flush state.world).2 }
  | remote {state : WatchedPopover σ} (remote : σ) :
      Step admitted state { state with world := { state.world with remote } }

/-- The runs of a client that has just started, and watches nothing yet. -/
def runs (admitted : WatchedPopover σ → Errand → Prop) : System (WatchedPopover σ) where
  initial state := (popovers engine errors fun _ _ => True).initial state.popover ∧
    state.watched = []
  step := Step engine errors admitted

end Protocol

/-- Every article watched is listed. -/
def Listed (state : WatchedPopover σ) : Prop :=
  ∀ id ∈ state.watched, id ∈ state.browser.snapshot.entries.map Client.Article.id

/-- No response is applied whose request was put together before an article now watched was
marked, unless the core still chose its list from rows with that article among them. It is
read of the state before the response is handled. -/
def InTime (state : WatchedPopover σ) (errand : Errand) : Prop :=
  errand.task.verdict state.browser = .apply →
    ∀ id ∈ state.watched, id ∈ errand.marked ∨ id ∈ errand.candidates.map EntryRow.id

end WatchedPopover
end FluxBar
