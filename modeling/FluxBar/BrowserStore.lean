import FluxBar.ClientModels
import Mathlib.Logic.Function.Basic
import Mathlib.Data.List.Dedup

/-! `BrowserStore` of the macOS client, once the core is being configured. It runs on
the main actor; a task it creates starts later, waits for the core off the main
actor, and ends there again, so that each of the three is a step of its own. -/
namespace FluxBar.Client

/-! ## Values -/

/-- `AutomaticReadUndo`: the batch that the banner offers to undo. -/
structure AutomaticReadUndo where
  id : String
  count : Int
  deriving DecidableEq, Repr

/-- `ManualRefreshScrollRequest`: the list is to be scrolled to its first article, after a
refresh the user asked for. -/
structure ManualRefreshScrollRequest where
  id : UInt64
  presentationRevision : UInt64
  firstEntryID : Option Int
  deriving DecidableEq, Repr

/-- `RefreshOrigin`: what a refresh was asked for by, which decides what is done with its
response. -/
inductive RefreshOrigin where
  | manual
  | startup
  | background
  deriving DecidableEq, Repr

namespace ArticleSelection

def all (unreadOnly : Bool) : ArticleSelection := ⟨"all", none, some unreadOnly⟩

def starred : ArticleSelection := ⟨"starred", none, some false⟩

def category (id : Int) (unreadOnly : Bool) : ArticleSelection := ⟨"category", some id, some unreadOnly⟩

def feed (id : Int) (unreadOnly : Bool) : ArticleSelection := ⟨"feed", some id, some unreadOnly⟩

/-- `unreadPreferenceKey`. -/
def unreadPreferenceKey (selection : ArticleSelection) : String :=
  match selection.id with
  | some id =>
    if selection.kind = "category" then s!"FluxBar.unreadOnly.category.{id}"
    else if selection.kind = "feed" then s!"FluxBar.unreadOnly.feed.{id}"
    else "FluxBar.unreadOnly.all"
  | none => "FluxBar.unreadOnly.all"

/-- The selection of the same list with a filter, where the list may be filtered, and else
of all articles. -/
def filtered (selection : ArticleSelection) (unreadOnly : Bool) : ArticleSelection :=
  match selection.id with
  | some id =>
    if selection.kind = "category" then category id unreadOnly
    else if selection.kind = "feed" then feed id unreadOnly
    else all unreadOnly
  | none => all unreadOnly

end ArticleSelection

/-- `NavigationRoute`: what a link to the app leads to, a list or one article. -/
inductive NavigationRoute where
  | all
  | starred
  | category (id : Int)
  | feed (id : Int)
  | article (id : Int) (url : Option String)
  deriving DecidableEq, Repr

/-- `NavigationRoute.selection`: the list a route leads to, filtered until the stored
preference says otherwise. -/
def NavigationRoute.selection : NavigationRoute → Option ArticleSelection
  | .all => some (.all true)
  | .starred => some .starred
  | .category id => some (.category id true)
  | .feed id => some (.feed id true)
  | .article .. => none

/-- `BrowseSnapshot.empty`. -/
def BrowseSnapshot.empty : BrowseSnapshot where
  version := 1
  selection := .all true
  entries := []
  categories := []
  total := 0
  unreadTotal := 0
  starredTotal := 0

/-- `Article.isRead`. -/
def Article.isRead (article : Article) : Bool := article.status = "read"

/-! ## The store -/

/-- The `Task` closures, with what each captured: the generations it will be checked
against, and the request or what it is made of. -/
inductive CoreTask where
  | loadLocalThenRefresh (route : Nat) (selected : ArticleSelection)
  | refresh (route refresh : Nat) (request : CoreRequest) (origin : RefreshOrigin)
  | mutate (route mutation : Nat) (request : CoreRequest)
  | markReadAutomatically (route mutation : Nat) (ids : List Int)
  | undoAutomaticRead (route mutation : Nat) (undo : String)
  | reloadLocal (route : Nat) (selected : ArticleSelection)
  | discardUndo (id : String)
  deriving DecidableEq, Repr

/-- `BrowserStore`: what the popover shows and the generations that tell old responses from
new ones. A `Set` is a list without duplicates. -/
structure BrowserStore where
  snapshot : BrowseSnapshot := .empty
  selection : ArticleSelection := .all true
  isLoading : Bool := false
  listPresentationRevision : UInt64 := 0
  manualRefreshScrollRequest : Option ManualRefreshScrollRequest := none
  automaticReadUndo : Option AutomaticReadUndo := none
  markReadOnScrolloverEnabled : Bool
  isPopoverVisible : Bool := false
  isNavigating : Bool := false
  errorMessage : Option String := none
  routeGeneration : Nat := 0
  mutationGeneration : Nat := 0
  refreshGeneration : Nat := 0
  manualRefreshScrollRequestID : UInt64 := 0
  retainedEntryIDs : List Int := []
  coreConfigured : Bool := false
  pendingSelection : Option ArticleSelection := none
  refreshWhenConfigured : Bool := false
  /-- `defaults`, under the keys of the unread filters. -/
  unreadPreferences : String → Option Bool

namespace BrowserStore
variable (store : BrowserStore)

/-- `automaticReadUndoMinimumCount`. -/
def automaticReadUndoMinimumCount : Int := 3

/-- `resetListPresentation`: the list is presented anew, from its top. -/
def resetListPresentation : BrowserStore :=
  { store with listPresentationRevision := store.listPresentationRevision + 1 }

/-- `selectionWithStoredFilter`: the filter the user last chose for the list, where the list
may be filtered. -/
def selectionWithStoredFilter (selection : ArticleSelection) : ArticleSelection :=
  if selection.supportsUnreadFilter then
    selection.filtered ((store.unreadPreferences selection.unreadPreferenceKey).getD true)
  else selection

/-- `start`, with the preferences stored, up to the configuration of the core. -/
def start (markReadOnScrolloverEnabled : Bool) (unreadPreferences : String → Option Bool) :
    BrowserStore :=
  let store : BrowserStore := { markReadOnScrolloverEnabled, unreadPreferences }
  { store with selection := store.selectionWithStoredFilter (.all true), isLoading := true }

/-- `apply`: the snapshot of a response takes the place of the shown one, with its
selection; the error is shown in any case. -/
def apply (response : CoreResponse) (structural : Bool) : BrowserStore :=
  let store := match response.snapshot with
    | some snapshot =>
      { if structural then store.resetListPresentation else store with
        snapshot, selection := snapshot.selection, isNavigating := false }
    | none => store
  { store with errorMessage := response.error, isLoading := false }

/-! ### Requests -/

/-- `refresh(selection:route:retainEntryIDs:origin:)`: a new refresh generation, and the
task that is checked against it. -/
def refreshSelection (selection : ArticleSelection) (route : Nat) (retainEntryIDs : List Int)
    (origin : RefreshOrigin) : BrowserStore × List CoreTask :=
  let refresh := store.refreshGeneration + 1
  ({ store with refreshGeneration := refresh, isLoading := true },
    [.refresh route refresh { operation := "refresh", selection, retainEntryIDs } origin])

/-- `loadLocalThenRefresh`: a new route generation, which drops the responses of every task
before it. -/
def loadLocalThenRefresh : BrowserStore × List CoreTask :=
  let route := store.routeGeneration + 1
  ({ store with routeGeneration := route, isLoading := true },
    [.loadLocalThenRefresh route store.selection])

/-- `navigate`: another list, without the articles retained in the one before. -/
def navigate (selection : ArticleSelection) (resetPresentation : Bool) :
    BrowserStore × List CoreTask :=
  let store := if resetPresentation then store.resetListPresentation else store
  loadLocalThenRefresh { store with retainedEntryIDs := [], selection, isNavigating := true }

/-- `mutate`: a new mutation generation, so that of several changes under way only the last
is applied. -/
def mutate (request : CoreRequest) : BrowserStore × List CoreTask :=
  let mutation := store.mutationGeneration + 1
  ({ store with mutationGeneration := mutation }, [.mutate store.routeGeneration mutation request])

/-- `setRead`: an article marked read is retained in the list it is in, and one marked
unread is not any more. -/
def setRead (article : Article) (read : Bool) : BrowserStore × List CoreTask :=
  let store := { store with
    retainedEntryIDs :=
      if read then store.retainedEntryIDs.insert article.id
      else store.retainedEntryIDs.erase article.id }
  store.mutate {
    operation := "set_read"
    selection := store.selection
    entryIDs := some [article.id]
    retainEntryIDs := store.retainedEntryIDs
    read := read
    mutationSource := "manual" }

/-- `setStarred`: the star of one article, with what is retained so far. -/
def setStarred (article : Article) (starred : Bool) : BrowserStore × List CoreTask :=
  store.mutate {
    operation := "set_starred"
    selection := store.selection
    entryID := article.id
    retainEntryIDs := store.retainedEntryIDs
    desiredStarred := starred }

/-- `open`, of an article whose address is one: it is marked read, if it is not. -/
def openArticle (article : Article) : BrowserStore × List CoreTask :=
  if article.isRead then (store, []) else store.setRead article true

/-- `markReadAutomatically`: of the articles scrolled past those that are listed unread,
each once, are retained and marked. -/
def markReadAutomatically (entryIDs : List Int) : BrowserStore × List CoreTask :=
  if store.markReadOnScrolloverEnabled then
    let unreadIDs := (store.snapshot.entries.filter fun article => !article.isRead).map Article.id
    let ids := entryIDs.dedup.filter (· ∈ unreadIDs)
    if ids.isEmpty then (store, [])
    else
      let mutation := store.mutationGeneration + 1
      ({ store with
          retainedEntryIDs := ids ∪ store.retainedEntryIDs, mutationGeneration := mutation },
        [.markReadAutomatically store.routeGeneration mutation ids])
  else (store, [])

/-- `undoAutomaticRead`: the banner goes, and its batch is to be undone. -/
def undoAutomaticRead : BrowserStore × List CoreTask :=
  match store.automaticReadUndo with
  | none => (store, [])
  | some undo =>
    let mutation := store.mutationGeneration + 1
    ({ store with automaticReadUndo := none, mutationGeneration := mutation },
      [.undoAutomaticRead store.routeGeneration mutation undo.id])

/-- `showUndo`, its expiration aside: the banner is that of the new receipt, and the batch
of the one before is given up. -/
def showUndo (receipt : MutationReceipt) : BrowserStore × List CoreTask :=
  ({ store with automaticReadUndo := some ⟨receipt.id, receipt.count⟩ },
    match store.automaticReadUndo with
    | some previous => if previous.id ≠ receipt.id then [.discardUndo previous.id] else []
    | none => [])

/-- The task of `showUndo`, after eight seconds in which it was not cancelled. -/
def expireUndo : BrowserStore × List CoreTask :=
  match store.automaticReadUndo with
  | some undo => ({ store with automaticReadUndo := none }, [.discardUndo undo.id])
  | none => (store, [])

/-- `setMarkReadOnScrolloverEnabled`: the list is presented anew, and the banner expires
where the marking is turned off. -/
def setMarkReadOnScrolloverEnabled (enabled : Bool) : BrowserStore × List CoreTask :=
  if enabled = store.markReadOnScrolloverEnabled then (store, [])
  else
    let store := resetListPresentation { store with markReadOnScrolloverEnabled := enabled }
    if enabled then (store, []) else store.expireUndo

/-- `refresh()`: a refresh the user asks for retains nothing; before the core is configured
it is put off until then. -/
def refresh : BrowserStore × List CoreTask :=
  if store.coreConfigured then
    let store := { store with
      mutationGeneration := store.mutationGeneration + 1, retainedEntryIDs := [] }
    store.refreshSelection store.selection store.routeGeneration [] .manual
  else ({ store with refreshWhenConfigured := true }, [])

/-- `refreshInBackground`: only while the popover is closed, and with what is retained at
this moment. -/
def refreshInBackground : BrowserStore × List CoreTask :=
  if store.isPopoverVisible then (store, [])
  else store.refreshSelection store.selection store.routeGeneration store.retainedEntryIDs .background

/-- `refreshIfStale`; `stale` tells that the last refresh is over a minute ago. -/
def refreshIfStale (stale : Bool) : BrowserStore × List CoreTask :=
  let store := store.resetListPresentation
  if stale then store.refreshInBackground else (store, [])

/-- `route`: an article is opened where it is listed; a list is loaded, or put off until the
core is configured. -/
def route : NavigationRoute → BrowserStore × List CoreTask
  | .article id _ =>
    match store.snapshot.entries.find? fun article => article.id = id with
    | some article => store.openArticle article
    | none => (store, [])
  | route =>
    match route.selection with
    | none => (store, [])
    | some selection =>
      let resolved := store.selectionWithStoredFilter selection
      let store := { store.resetListPresentation with
        retainedEntryIDs := [], selection := resolved, isNavigating := true }
      if store.coreConfigured then store.navigate resolved false
      else ({ store with pendingSelection := some resolved }, [])

/-- `setUnreadOnly`: the choice is stored for the list, and the list loaded by it. -/
def setUnreadOnly (unreadOnly : Bool) : BrowserStore × List CoreTask :=
  if store.selection.supportsUnreadFilter then
    let store := { store with
      unreadPreferences := Function.update store.unreadPreferences
        store.selection.unreadPreferenceKey (some unreadOnly) }
    store.navigate (store.selection.filtered unreadOnly) true
  else (store, [])

/-- One call after another, with the tasks of both in the order they were created. -/
def followedBy (result : BrowserStore × List CoreTask)
    (next : BrowserStore → BrowserStore × List CoreTask) : BrowserStore × List CoreTask :=
  ((next result.1).1, result.2 ++ (next result.1).2)

/-- The end of `configure`: `coreConfigured` is set, and `resumeAfterConfiguration` begins
what was put off, the list and the refresh. -/
def resumeAfterConfiguration : BrowserStore × List CoreTask :=
  let store := { store with coreConfigured := true }
  followedBy
    (match store.pendingSelection with
    | some selection => navigate { store with pendingSelection := none } selection false
    | none => store.loadLocalThenRefresh)
    fun store =>
      if store.refreshWhenConfigured then refresh { store with refreshWhenConfigured := false }
      else (store, [])

/-! ### The tasks -/

/-- The request a task sends when it starts. What it did not capture it reads then. -/
def request : CoreTask → CoreRequest
  | .loadLocalThenRefresh _ selected | .reloadLocal _ selected => {
      operation := "local_snapshot"
      selection := selected
      retainEntryIDs := store.retainedEntryIDs }
  | .refresh _ _ request _ | .mutate _ _ request => request
  | .markReadAutomatically _ _ ids => {
      operation := "set_read"
      selection := store.selection
      entryIDs := ids
      retainEntryIDs := store.retainedEntryIDs
      read := true
      mutationSource := "automatic" }
  | .undoAutomaticRead _ _ undo => {
      operation := "undo_read"
      selection := store.selection
      retainEntryIDs := store.retainedEntryIDs
      mutationID := undo }
  | .discardUndo id => { operation := "discard_undo", mutationID := id }

/-- What a task does with the outcome of its request, by the generations it has captured: it
applies the response, drops it, or has the list loaded again. -/
def finish (task : CoreTask) (outcome : Except GoCoreError CoreResponse) :
    BrowserStore × List CoreTask :=
  match task with
  | .loadLocalThenRefresh route selected =>
    if route = store.routeGeneration then
      let store := match outcome with
        | .ok response => store.apply response false
        | .error failure =>
          { store with errorMessage := failure.errorDescription, isNavigating := false }
      if store.isPopoverVisible then (store, [])
      else store.refreshSelection selected route store.retainedEntryIDs .startup
    else (store, [])
  | .refresh route refresh _ origin =>
    if route = store.routeGeneration ∧ refresh = store.refreshGeneration then
      match outcome with
      | .ok response =>
        let store := store.apply response true
        if response.error.isNone ∧ origin = .manual ∧ store.isPopoverVisible then
          let id := store.manualRefreshScrollRequestID + 1
          ({ store with
              manualRefreshScrollRequestID := id
              manualRefreshScrollRequest := some ⟨id, store.listPresentationRevision,
                store.snapshot.entries.head?.map Article.id⟩ }, [])
        else (store, [])
      | .error failure =>
        ({ store with errorMessage := failure.errorDescription, isLoading := false }, [])
    else (store, [])
  | .mutate route mutation _ =>
    if route = store.routeGeneration ∧ mutation = store.mutationGeneration then
      match outcome with
      | .ok response => (store.apply response false, [])
      | .error failure => ({ store with errorMessage := failure.errorDescription }, [])
    else
      match outcome with
      | .ok _ =>
        (store, if route = store.routeGeneration then [.reloadLocal route store.selection] else [])
      | .error _ => (store, [])
  | .markReadAutomatically route mutation _ =>
    if route = store.routeGeneration ∧ mutation = store.mutationGeneration then
      match outcome with
      | .ok response =>
        let store := store.apply response false
        match response.receipt with
        | some receipt =>
          if automaticReadUndoMinimumCount ≤ receipt.count then store.showUndo receipt
          else (store, [.discardUndo receipt.id])
        | none => (store, [])
      | .error failure => ({ store with errorMessage := failure.errorDescription }, [])
    else
      match outcome with
      | .ok response =>
        (store, (response.receipt.toList.map fun receipt => .discardUndo receipt.id) ++
          if route = store.routeGeneration then [.reloadLocal route store.selection] else [])
      | .error _ => (store, [])
  | .undoAutomaticRead route mutation _ =>
    if route = store.routeGeneration ∧ mutation = store.mutationGeneration then
      match outcome with
      | .ok response => (store.apply response false, [])
      | .error failure => ({ store with errorMessage := failure.errorDescription }, [])
    else (store, [])
  | .reloadLocal route _ =>
    match outcome with
    | .ok response =>
      if route = store.routeGeneration then (store.apply response false, []) else (store, [])
    | .error _ => (store, [])
  | .discardUndo _ => (store, [])

end BrowserStore

/-- What the user, a timer or the app has the store do, each on the main actor and so in one
step. -/
inductive Trigger where
  | resumeAfterConfiguration
  | refresh
  | refreshInBackground
  | refreshIfStale (stale : Bool)
  | setPopoverVisible (visible : Bool)
  | setMarkReadOnScrolloverEnabled (enabled : Bool)
  | route (route : NavigationRoute)
  | setUnreadOnly (unreadOnly : Bool)
  | openArticle (article : Article)
  | setRead (article : Article) (read : Bool)
  | setStarred (article : Article) (starred : Bool)
  | markReadAutomatically (entryIDs : List Int)
  | undoAutomaticRead
  | expireUndo

/-- The store after a trigger, and the tasks created by it. -/
def BrowserStore.perform (store : BrowserStore) : Trigger → BrowserStore × List CoreTask
  | .resumeAfterConfiguration => store.resumeAfterConfiguration
  | .refresh => store.refresh
  | .refreshInBackground => store.refreshInBackground
  | .refreshIfStale stale => store.refreshIfStale stale
  | .setPopoverVisible visible => ({ store with isPopoverVisible := visible }, [])
  | .setMarkReadOnScrolloverEnabled enabled => store.setMarkReadOnScrolloverEnabled enabled
  | .route route => store.route route
  | .setUnreadOnly unreadOnly => store.setUnreadOnly unreadOnly
  | .openArticle article => store.openArticle article
  | .setRead article read => store.setRead article read
  | .setStarred article starred => store.setStarred article starred
  | .markReadAutomatically entryIDs => store.markReadAutomatically entryIDs
  | .undoAutomaticRead => store.undoAutomaticRead
  | .expireUndo => store.expireUndo

end FluxBar.Client
