import FluxBar.PopoverProtocol

/-! The macOS client from its launch on: actions that intents and searches ask for through
`AppRouter`, the store that carries them out, and the configuration of the core, which takes
a while and may be begun again with other credentials. Which call or task is next, and what the
core answers, is open at every step. -/
namespace FluxBar.Client
open Transition

/-! ## The router -/

/-- `AppRouter.Action`. -/
inductive RouterAction where
  | openRoute (route : NavigationRoute)
  | refresh
  deriving DecidableEq, Repr

/-- `AppRouter`, its catalog aside: actions that come before the launch wait. Both handlers
are set at once. -/
structure AppRouter where
  configured : Bool := false
  pendingActions : List RouterAction := []
  deriving DecidableEq, Repr

/-- The handlers `AppDelegate` sets; `showFluxBar` makes the popover visible. -/
def RouterAction.perform (store : BrowserStore) : RouterAction → BrowserStore × List CoreTask
  | .openRoute route =>
    ({ (store.route route).1 with isPopoverVisible := true }, (store.route route).2)
  | .refresh => BrowserStore.refresh { store with isPopoverVisible := true }

/-- The actions in turn, each on the store that the one before has left. -/
def performAll (store : BrowserStore) (actions : List RouterAction) :
    BrowserStore × List CoreTask :=
  actions.foldl (fun result action => BrowserStore.followedBy result action.perform) (store, [])

/-! ## The configuration of the core -/

/-- `MinifluxCredentials`: what the keychain holds, with the preferences that are optional
in it. -/
structure MinifluxCredentials where
  server : String
  apiKey : String
  showSplash : Option Bool
  newestFirst : Option Bool
  deriving DecidableEq, Repr

/-- A task of `configure` or `save`, with what it captured: the generation it will be
checked against, and the credentials. -/
structure Configuring where
  generation : Nat
  credentials : MinifluxCredentials
  /-- `save`, not `configure`. -/
  saves : Bool
  /-- What the core answered: nothing, or the error it refused with. -/
  answer : Option (Option String)
  deriving DecidableEq, Repr

/-- `configurationGeneration` of the configuration in the core's session, once there is one: a
configuration replaces those that are not newer. -/
def installed (session : Option Nat) (generation : Nat) : Option Nat :=
  some (session.elim generation (max · generation))

/-- Where a task of the store stands. With the outcome goes the session that the core ran the
request in. -/
inductive TaskPhase where
  | created
  | sent (request : CoreRequest)
  | answered (outcome : Except GoCoreError CoreResponse) (session : Option Nat)

/-! ## The app -/

/-- `AppRouter`, `BrowserStore` and the core's session. The last five fields are history: the
session whose snapshot was shown last since the core was configured, if any was; the actions the
router was asked for and those it carried out; the list asked for last and not loaded since; and
whether a refresh was asked for and none begun since. -/
structure App where
  router : AppRouter := {}
  browser : BrowserStore
  credentials : Option MinifluxCredentials := none
  showingSettings : Bool := false
  configurationGeneration : Nat := 0
  configuring : List Configuring := []
  tasks : List (CoreTask × TaskPhase) := []
  session : Option Nat := none
  shownBy : Option (Option Nat) := none
  asked : List RouterAction := []
  performed : List RouterAction := []
  wanted : Option ArticleSelection := none
  wantsRefresh : Bool := false

/-- The task loads the list. -/
def CoreTask.loads (wanted : ArticleSelection) : CoreTask → Bool
  | .loadLocalThenRefresh _ selected => selected.matchesRoute wanted
  | _ => false

/-- The task is a refresh somebody asked for. -/
def CoreTask.refreshes : CoreTask → Bool
  | .refresh _ _ _ .manual => true
  | _ => false

/-- The list an action asks for. -/
def RouterAction.wanted : RouterAction → Option ArticleSelection
  | .openRoute route => route.selection
  | .refresh => none

def RouterAction.wantsRefresh : RouterAction → Bool
  | .openRoute _ => false
  | .refresh => true

/-- The list a call of the store asks for. -/
def Trigger.wanted : Trigger → Option ArticleSelection
  | .route destination => destination.selection
  | _ => none

def Trigger.wantsRefresh : Trigger → Bool
  | .refresh => true
  | _ => false

/-- `init`. -/
def BrowserStore.init (markReadOnScrolloverEnabled : Bool)
    (unreadPreferences : String → Option Bool) : BrowserStore :=
  { markReadOnScrolloverEnabled, unreadPreferences }

namespace App
variable (app : App)

/-- What was asked for is remembered: the last list, and whether a refresh was among it. -/
def ask (list : Option ArticleSelection) (refresh : Bool) : App :=
  { app with wanted := list.or app.wanted, wantsRefresh := refresh || app.wantsRefresh }

/-- The result of a call of the store: its tasks are created, and what they load or refresh
is asked for no longer. -/
def proceed (result : BrowserStore × List CoreTask) : App :=
  { app with
    browser := result.1
    tasks := app.tasks ++ result.2.map fun task => (task, .created)
    wanted := app.wanted.filter fun list => !result.2.any (CoreTask.loads list)
    wantsRefresh := app.wantsRefresh && !result.2.any CoreTask.refreshes }

/-- `AppRouter.perform`: the action is carried out, or waits for the launch. -/
def act (action : RouterAction) : App :=
  let app := { app.ask action.wanted action.wantsRefresh with asked := app.asked ++ [action] }
  if app.router.configured then
    proceed { app with performed := app.performed ++ [action] } (action.perform app.browser)
  else
    { app with router := { app.router with
        pendingActions := app.router.pendingActions ++ [action] } }

/-- The start of a configuration of the core, by `configure` or `save`: a new generation,
and a call on its way to the core. -/
def beginConfiguring (credentials : MinifluxCredentials) (saves : Bool) : App :=
  let generation := app.configurationGeneration + 1
  { app with
    browser := { app.browser with isLoading := true }
    configurationGeneration := generation
    configuring := ⟨generation, credentials, saves, none⟩ :: app.configuring }

/-- `BrowserStore.start`, with what the keychain holds or the error it gives. -/
def start (stored : Except String (Option MinifluxCredentials)) : App :=
  let app := { app with
    browser := { app.browser with
      selection := app.browser.selectionWithStoredFilter (.all true) } }
  match stored with
  | .error message =>
    { app with browser := { app.browser with errorMessage := message }, showingSettings := true }
  | .ok none => { app with showingSettings := true }
  | .ok (some credentials) =>
    beginConfiguring { app with credentials := some credentials } credentials false

/-- `applicationDidFinishLaunching`: the router gets its handlers, carries out what has
waited, and the store starts. -/
def launch (stored : Except String (Option MinifluxCredentials)) : App :=
  let actions := app.router.pendingActions
  start (proceed { app with
    router := { configured := true, pendingActions := [] }
    performed := app.performed ++ actions } (performAll app.browser actions)) stored

/-- `save`: new credentials; until the core has taken them it does not count as configured.
-/
def save (credentials : MinifluxCredentials) : App :=
  beginConfiguring { app with
    browser := { app.browser.resetListPresentation with
      retainedEntryIDs := [], coreConfigured := false } } credentials true

/-- The end of a task of `configure` or `save` that is not superseded; `kept` is the error that
the login item or the keychain gives when a task of `save` keeps the credentials. -/
def configured (call : Configuring) (answer kept : Option String) : App :=
  match answer.or (if call.saves then kept else none) with
  | some message =>
    { app with browser := { app.browser with errorMessage := message, isLoading := false } }
  | none =>
    let app := if call.saves
      then { app with credentials := some call.credentials, showingSettings := false }
      else app
    { app.proceed app.browser.resumeAfterConfiguration with shownBy := none }

/-- The end of a task of the store; where its snapshot is shown, the session it was made in
is kept in mind. -/
def finish (task : CoreTask) (outcome : Except GoCoreError CoreResponse)
    (session : Option Nat) : App :=
  let shows := task.verdict app.browser = .apply ∧ outcome.toOption.bind (·.snapshot) ≠ none
  proceed { app with shownBy := if shows then some session else app.shownBy }
    (app.browser.finish task outcome)

/-- The steps of the app: actions from outside, the launch, triggers, `save`, the core that
takes a configuration, its answer, and the tasks of the store. -/
inductive Step : App → App → Prop where
  | act {app : App} (action : RouterAction) : Step app (app.act action)
  | launch {app : App} (stored : Except String (Option MinifluxCredentials)) :
      app.router.configured = false → Step app (app.launch stored)
  | trigger {app : App} (trigger : Trigger) : app.router.configured = true →
      trigger ≠ .resumeAfterConfiguration →
      Step app ((app.ask trigger.wanted trigger.wantsRefresh).proceed (app.browser.perform trigger))
  | save {app : App} (credentials : MinifluxCredentials) : app.router.configured = true →
      Step app (app.save credentials)
  -- `AppRuntime::configure` under the lock of its session
  | install {app : App} {left right : List Configuring} {call : Configuring} :
      app.configuring = left ++ call :: right → call.answer = none →
      Step app { app with
        configuring := left ++ { call with answer := some none } :: right
        session := installed app.session call.generation }
  | refuse {app : App} {left right : List Configuring} {call : Configuring} (message : String) :
      app.configuring = left ++ call :: right → call.answer = none →
      Step app { app with
        configuring := left ++ { call with answer := some (some message) } :: right }
  | configured {app : App} {left right : List Configuring} {call : Configuring}
      {answer : Option String} (kept : Option String) :
      app.configuring = left ++ call :: right → call.answer = some answer →
      Step app
        (if call.generation = app.configurationGeneration then
          configured { app with configuring := left ++ right } call answer kept
        else { app with configuring := left ++ right })
  | start {app : App} {left right : List (CoreTask × TaskPhase)} {task : CoreTask} :
      app.tasks = left ++ (task, .created) :: right →
      Step app { app with tasks := left ++ (task, .sent (app.browser.request task)) :: right }
  | execute {app : App} {left right : List (CoreTask × TaskPhase)} {task : CoreTask}
      {request : CoreRequest} (outcome : Except GoCoreError CoreResponse) :
      app.tasks = left ++ (task, .sent request) :: right →
      Step app { app with tasks := left ++ (task, .answered outcome app.session) :: right }
  | finish {app : App} {left right : List (CoreTask × TaskPhase)} {task : CoreTask}
      {outcome : Except GoCoreError CoreResponse} {session : Option Nat} :
      app.tasks = left ++ (task, .answered outcome session) :: right →
      Step app (App.finish { app with tasks := left ++ right } task outcome session)

end App

/-- The runs of the app, from before its launch. -/
def apps : System App where
  initial app := ∃ enabled preferences, app = { browser := .init enabled preferences }
  step := App.Step

end FluxBar.Client
