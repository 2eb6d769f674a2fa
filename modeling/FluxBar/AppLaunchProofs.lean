import FluxBar.AppLaunch
import FluxBar.BrowserStoreProofs
import FluxBar.Library.Places

/-! What the store shows once the core is configured comes from the newest configuration, and
nothing asked for on the way there is lost. -/
namespace FluxBar.Client
open Transition Places

/-! ## Calls of the store -/

/-- The generation a task was created under. -/
def CoreTask.route? : CoreTask → Option Nat
  | .loadLocalThenRefresh route _ | .refresh route _ _ _ | .mutate route _ _
  | .markReadAutomatically route _ _ | .undoAutomaticRead route _ _ | .reloadLocal route _ =>
    some route
  | .discardUndo _ => none

/-- A response is applied only to tasks of the newest generation. -/
theorem CoreTask.route?_of_apply {store : BrowserStore} {task : CoreTask}
    (applied : task.verdict store = .apply) : task.route? = some store.routeGeneration := by
  cases task with
  | discardUndo id => cases applied
  | mutate route mutation request | markReadAutomatically route mutation ids =>
    simp only [CoreTask.verdict] at applied
    split at applied
    · rename_i current
      exact congrArg some current
    · cases applied
  | loadLocalThenRefresh route selected | reloadLocal route selected =>
    simp only [CoreTask.verdict] at applied
    split at applied
    · rename_i current
      exact congrArg some current
    · cases applied
  | refresh route generation request origin =>
    simp only [CoreTask.verdict] at applied
    split at applied
    · rename_i current
      exact congrArg some current.1
    · cases applied
  | undoAutomaticRead route mutation undo =>
    simp only [CoreTask.verdict] at applied
    split at applied
    · rename_i current
      exact congrArg some current.1
    · cases applied

namespace BrowserStore

/-- A call that does not configure the core: generations only grow, and no task
it creates belongs to one to come. -/
structure Advances (store : BrowserStore) (result : BrowserStore × List CoreTask) : Prop where
  configured : result.1.coreConfigured = store.coreConfigured
  routes : store.routeGeneration ≤ result.1.routeGeneration
  created : ∀ task ∈ result.2, ∀ route, task.route? = some route →
    route ≤ result.1.routeGeneration

/-- A call that leaves alone what waits for the configuration: the list, the refresh, and
whether the core counts as configured. -/
structure Leaves (store : BrowserStore) (result : BrowserStore × List CoreTask) : Prop
    extends Advances store result where
  selection : result.1.pendingSelection = store.pendingSelection
  refresh : result.1.refreshWhenConfigured = store.refreshWhenConfigured

variable {store after : BrowserStore}

theorem leaves_none (configured : after.coreConfigured = store.coreConfigured)
    (routes : after.routeGeneration = store.routeGeneration)
    (selection : after.pendingSelection = store.pendingSelection)
    (refresh : after.refreshWhenConfigured = store.refreshWhenConfigured) :
    store.Leaves (after, []) :=
  ⟨⟨configured, Nat.le_of_eq routes.symm, fun _ absurd => (by cases absurd)⟩, selection, refresh⟩

theorem leaves_refreshSelection (selection : ArticleSelection) (retainEntryIDs : List Int)
    (origin : RefreshOrigin) : store.Leaves
      (store.refreshSelection selection store.routeGeneration retainEntryIDs origin) := by
  refine ⟨⟨rfl, Nat.le_refl _, fun task listed route created => ?_⟩, rfl, rfl⟩
  cases List.mem_singleton.mp listed
  exact Nat.le_of_eq (Option.some.inj created).symm

theorem leaves_navigate (selection : ArticleSelection) (resetPresentation : Bool) :
    store.Leaves (store.navigate selection resetPresentation) := by
  cases resetPresentation <;>
  · refine ⟨⟨rfl, Nat.le_succ _, fun task listed route created => ?_⟩, rfl, rfl⟩
    cases List.mem_singleton.mp listed
    exact Nat.le_of_eq (Option.some.inj created).symm

theorem leaves_mutate (request : CoreRequest) : store.Leaves (store.mutate request) := by
  refine ⟨⟨rfl, Nat.le_refl _, fun task listed route created => ?_⟩, rfl, rfl⟩
  cases List.mem_singleton.mp listed
  exact Nat.le_of_eq (Option.some.inj created).symm

/-- A change of other fields before the call. -/
theorem Leaves.frame {result : BrowserStore × List CoreTask} (leaves : after.Leaves result)
    (configured : after.coreConfigured = store.coreConfigured)
    (routes : after.routeGeneration = store.routeGeneration)
    (selection : after.pendingSelection = store.pendingSelection)
    (refresh : after.refreshWhenConfigured = store.refreshWhenConfigured) :
    store.Leaves result :=
  ⟨⟨leaves.configured.trans configured, routes ▸ leaves.routes, leaves.created⟩,
    leaves.selection.trans selection, leaves.refresh.trans refresh⟩

theorem leaves_setRead (article : Article) (read : Bool) :
    store.Leaves (store.setRead article read) :=
  (leaves_mutate _).frame rfl rfl rfl rfl

theorem leaves_openArticle (article : Article) : store.Leaves (store.openArticle article) := by
  unfold openArticle
  split
  · exact leaves_none rfl rfl rfl rfl
  · exact leaves_setRead article true

theorem leaves_markReadAutomatically (entryIDs : List Int) :
    store.Leaves (store.markReadAutomatically entryIDs) := by
  unfold markReadAutomatically
  split
  · dsimp only
    split
    · exact leaves_none rfl rfl rfl rfl
    · refine ⟨⟨rfl, Nat.le_refl _, fun task listed route created => ?_⟩, rfl, rfl⟩
      cases List.mem_singleton.mp listed
      exact Nat.le_of_eq (Option.some.inj created).symm
  · exact leaves_none rfl rfl rfl rfl

theorem leaves_undoAutomaticRead : store.Leaves store.undoAutomaticRead := by
  unfold undoAutomaticRead
  split
  · exact leaves_none rfl rfl rfl rfl
  · refine ⟨⟨rfl, Nat.le_refl _, fun task listed route created => ?_⟩, rfl, rfl⟩
    cases List.mem_singleton.mp listed
    exact Nat.le_of_eq (Option.some.inj created).symm

theorem leaves_expireUndo : store.Leaves store.expireUndo := by
  unfold expireUndo
  split
  · refine ⟨⟨rfl, Nat.le_refl _, fun task listed route created => ?_⟩, rfl, rfl⟩
    cases List.mem_singleton.mp listed
    cases created
  · exact leaves_none rfl rfl rfl rfl

theorem leaves_setMarkReadOnScrolloverEnabled (enabled : Bool) :
    store.Leaves (store.setMarkReadOnScrolloverEnabled enabled) := by
  unfold setMarkReadOnScrolloverEnabled
  split
  · exact leaves_none rfl rfl rfl rfl
  · dsimp only
    split
    · exact leaves_none rfl rfl rfl rfl
    · exact leaves_expireUndo.frame rfl rfl rfl rfl

theorem leaves_refreshInBackground : store.Leaves store.refreshInBackground := by
  unfold refreshInBackground
  split
  · exact leaves_none rfl rfl rfl rfl
  · exact leaves_refreshSelection ..

theorem leaves_refreshIfStale (stale : Bool) : store.Leaves (store.refreshIfStale stale) := by
  unfold refreshIfStale
  dsimp only
  split
  · exact leaves_refreshInBackground.frame rfl rfl rfl rfl
  · exact leaves_none rfl rfl rfl rfl

theorem leaves_setUnreadOnly (unreadOnly : Bool) : store.Leaves (store.setUnreadOnly unreadOnly) := by
  unfold setUnreadOnly
  split
  · exact (leaves_navigate ..).frame rfl rfl rfl rfl
  · exact leaves_none rfl rfl rfl rfl

/-! ### Routes and refreshes -/

/-- The filter of a list is no part of what is asked for. -/
theorem selectionWithStoredFilter_matches (route : NavigationRoute) {wanted : ArticleSelection}
    (asked : route.selection = some wanted) :
    (store.selectionWithStoredFilter wanted).matchesRoute wanted = true := by
  cases route with
  | article => cases asked
  | all | starred | category | feed =>
    cases asked
    simp [selectionWithStoredFilter, ArticleSelection.supportsUnreadFilter, ArticleSelection.all,
      ArticleSelection.starred, ArticleSelection.category, ArticleSelection.feed,
      ArticleSelection.filtered, ArticleSelection.matchesRoute]

/-- A call that is asked for a list or a refresh: it begins what it can and keeps the rest for
when the core is configured. -/
structure Takes (store : BrowserStore) (list : Option ArticleSelection) (refresh : Bool)
    (result : BrowserStore × List CoreTask) : Prop extends Advances store result where
  loads : ∀ wanted, list = some wanted → store.coreConfigured = true →
    result.2.any (CoreTask.loads wanted) = true
  selection : ∀ wanted, list = some wanted → store.coreConfigured = false →
    ∃ selection, result.1.pendingSelection = some selection ∧ selection.matchesRoute wanted = true
  waits : list = none → result.1.pendingSelection = store.pendingSelection
  refreshes : refresh = true → store.coreConfigured = true →
    result.2.any CoreTask.refreshes = true
  refresh : store.coreConfigured = false →
    result.1.refreshWhenConfigured = (refresh || store.refreshWhenConfigured)

theorem Leaves.takes {result : BrowserStore × List CoreTask} (leaves : store.Leaves result) :
    store.Takes none false result where
  toAdvances := leaves.toAdvances
  loads _ absurd := by cases absurd
  selection _ absurd := by cases absurd
  waits _ := leaves.selection
  refreshes absurd := by cases absurd
  refresh _ := by rw [leaves.refresh, Bool.false_or]

theorem takes_refresh : store.Takes none true store.refresh := by
  unfold refresh
  by_cases configured : store.coreConfigured = true
  · rw [if_pos configured]
    have leaves : store.Leaves _ := (@leaves_refreshSelection { store with
      mutationGeneration := store.mutationGeneration + 1, retainedEntryIDs := [] }
      store.selection [] .manual).frame rfl rfl rfl rfl
    refine ⟨leaves.toAdvances, fun _ absurd => (by cases absurd), fun _ absurd => (by cases absurd),
      fun _ => leaves.selection, fun _ _ => rfl, fun unconfigured => ?_⟩
    rw [configured] at unconfigured
    cases unconfigured
  · rw [if_neg configured]
    refine ⟨⟨rfl, Nat.le_refl _, fun _ absurd => (by cases absurd)⟩,
      fun _ absurd => (by cases absurd), fun _ absurd => (by cases absurd), fun _ => rfl,
      fun _ absurd => ?_, fun _ => rfl⟩
    exact False.elim (configured absurd)

theorem takes_route (route : NavigationRoute) :
    store.Takes route.selection false (store.route route) := by
  cases asked : route.selection with
  | none =>
    have leaves : store.Leaves (store.route route) := by
      cases route with
      | article id url =>
        unfold BrowserStore.route
        dsimp only
        split
        · exact leaves_openArticle _
        · exact leaves_none rfl rfl rfl rfl
      | all | starred | category | feed => cases asked
    exact leaves.takes
  | some wanted =>
    have shape : store.route route =
        let store' := { store.resetListPresentation with
          retainedEntryIDs := [], selection := store.selectionWithStoredFilter wanted,
          isNavigating := true }
        if store.coreConfigured then
          navigate store' (store.selectionWithStoredFilter wanted) false
        else ({ store' with pendingSelection := some (store.selectionWithStoredFilter wanted) }, []) := by
      cases route with
      | article id url => cases asked
      | all | starred | category | feed =>
        cases asked
        rfl
    have filtered := @selectionWithStoredFilter_matches store route _ asked
    rw [shape]
    dsimp only
    by_cases configured : store.coreConfigured = true
    · rw [if_pos configured]
      have leaves : store.Leaves _ := (@leaves_navigate { store.resetListPresentation with
        retainedEntryIDs := [], selection := store.selectionWithStoredFilter wanted,
        isNavigating := true } (store.selectionWithStoredFilter wanted) false).frame rfl rfl rfl rfl
      refine ⟨leaves.toAdvances, ?_, fun _ _ unconfigured => ?_, fun absurd => (by cases absurd),
        fun absurd => (by cases absurd), fun _ => ?_⟩
      · rintro _ ⟨⟩ _
        simpa [navigate, loadLocalThenRefresh, CoreTask.loads] using filtered
      · rw [configured] at unconfigured
        cases unconfigured
      · rw [leaves.refresh, Bool.false_or]
    · rw [if_neg configured]
      refine ⟨⟨rfl, Nat.le_refl _, fun _ absurd => (by cases absurd)⟩, fun _ _ absurd => ?_, ?_,
        fun absurd => (by cases absurd), fun absurd => (by cases absurd), fun _ => ?_⟩
      · exact False.elim (configured absurd)
      · rintro _ ⟨⟩ _
        exact ⟨_, rfl, filtered⟩
      · exact (Bool.false_or _).symm

theorem takes_perform {trigger : Trigger} (other : trigger ≠ .resumeAfterConfiguration) :
    store.Takes trigger.wanted trigger.wantsRefresh (store.perform trigger) := by
  cases trigger with
  | resumeAfterConfiguration => exact absurd rfl other
  | refresh => exact takes_refresh
  | refreshInBackground => exact leaves_refreshInBackground.takes
  | refreshIfStale stale => exact (leaves_refreshIfStale stale).takes
  | setPopoverVisible visible =>
    have leaves : store.Leaves ({ store with isPopoverVisible := visible }, []) :=
      leaves_none rfl rfl rfl rfl
    exact leaves.takes
  | setMarkReadOnScrolloverEnabled enabled =>
    exact (leaves_setMarkReadOnScrolloverEnabled enabled).takes
  | route route => exact takes_route route
  | setUnreadOnly unreadOnly => exact (leaves_setUnreadOnly unreadOnly).takes
  | openArticle article => exact (leaves_openArticle article).takes
  | setRead article read => exact (leaves_setRead article read).takes
  | setStarred article starred => exact (leaves_mutate _).takes
  | markReadAutomatically entryIDs => exact (leaves_markReadAutomatically entryIDs).takes
  | undoAutomaticRead => exact leaves_undoAutomaticRead.takes
  | expireUndo => exact leaves_expireUndo.takes

/-! ### The ends of tasks -/

theorem leaves_apply (response : CoreResponse) (structural : Bool) :
    store.Leaves (store.apply response structural, []) := by
  unfold BrowserStore.apply
  cases response.snapshot with
  | none => exact leaves_none rfl rfl rfl rfl
  | some snapshot => cases structural <;> exact leaves_none rfl rfl rfl rfl

theorem routeGeneration_apply (response : CoreResponse) (structural : Bool) :
    (store.apply response structural).routeGeneration = store.routeGeneration := by
  unfold BrowserStore.apply
  cases response.snapshot with
  | none => rfl
  | some snapshot => cases structural <;> rfl

/-- A call after one that creates no task. -/
theorem Leaves.next {result : BrowserStore × List CoreTask} (first : store.Leaves (after, []))
    (next : after.Leaves result) : store.Leaves result :=
  ⟨⟨next.configured.trans first.configured, Nat.le_trans first.routes next.routes, next.created⟩,
    next.selection.trans first.selection, next.refresh.trans first.refresh⟩

/-- One task created, under no generation to come. -/
theorem leaves_task {task : CoreTask} (newest : ∀ route, task.route? = some route →
    route ≤ store.routeGeneration) : store.Leaves (store, [task]) := by
  refine ⟨⟨rfl, Nat.le_refl _, fun other listed route created => ?_⟩, rfl, rfl⟩
  cases List.mem_singleton.mp listed
  exact newest route created

theorem leaves_showUndo (receipt : MutationReceipt) : store.Leaves (store.showUndo receipt) := by
  refine ⟨⟨rfl, Nat.le_refl _, fun task listed route created => ?_⟩, rfl, rfl⟩
  unfold showUndo at listed
  dsimp only at listed
  split at listed
  · split at listed
    · cases List.mem_singleton.mp listed
      cases created
    · cases listed
  · cases listed

theorem leaves_finish (task : CoreTask) (outcome : Except GoCoreError CoreResponse) :
    store.Leaves (store.finish task outcome) := by
  have none : store.Leaves (store, []) := leaves_none rfl rfl rfl rfl
  have failed : ∀ message, store.Leaves ({ store with errorMessage := message }, []) :=
    fun message => leaves_none rfl rfl rfl rfl
  cases task with
  | loadLocalThenRefresh route selected =>
    simp only [finish]
    split
    · rename_i current
      subst current
      cases outcome with
      | ok response =>
        have applied := @leaves_apply store response false
        dsimp only
        split
        · exact applied
        · refine applied.next ?_
          rw [← @routeGeneration_apply store response false]
          exact leaves_refreshSelection ..
      | error failure =>
        dsimp only
        split
        · exact leaves_none rfl rfl rfl rfl
        · exact (leaves_refreshSelection ..).frame rfl rfl rfl rfl
    · exact none
  | refresh route generation request origin =>
    simp only [finish]
    split
    · cases outcome with
      | ok response =>
        have applied := @leaves_apply store response true
        dsimp only
        split
        · exact applied.next (leaves_none rfl rfl rfl rfl)
        · exact applied
      | error failure => exact leaves_none rfl rfl rfl rfl
    · exact none
  | mutate route mutation request =>
    simp only [finish]
    split
    · cases outcome with
      | ok response => exact leaves_apply response false
      | error failure => exact failed _
    · cases outcome with
      | ok response =>
        dsimp only
        split
        · rename_i current
          exact leaves_task fun _ created => Nat.le_of_eq ((Option.some.inj created).symm.trans current)
        · exact none
      | error failure => exact none
  | markReadAutomatically route mutation ids =>
    simp only [finish]
    split
    · cases outcome with
      | ok response =>
        have applied := @leaves_apply store response false
        dsimp only
        split
        · split
          · exact applied.next (leaves_showUndo _)
          · exact applied.next (leaves_task fun _ created => (by cases created))
        · exact applied
      | error failure => exact failed _
    · cases outcome with
      | ok response =>
        refine ⟨⟨rfl, Nat.le_refl _, fun task listed generation created => ?_⟩, rfl, rfl⟩
        rcases List.mem_append.mp listed with discarded | reloaded
        · obtain ⟨receipt, _, rfl⟩ := List.mem_map.mp discarded
          cases created
        · split at reloaded
          · rename_i current
            cases List.mem_singleton.mp reloaded
            exact Nat.le_of_eq ((Option.some.inj created).symm.trans current)
          · cases reloaded
      | error failure => exact none
  | undoAutomaticRead route mutation undo =>
    simp only [finish]
    split
    · cases outcome with
      | ok response => exact leaves_apply response false
      | error failure => exact failed _
    · exact none
  | reloadLocal route selected =>
    cases outcome with
    | ok response =>
      simp only [finish]
      split
      · exact leaves_apply response false
      · exact none
    | error failure => exact none
  | discardUndo id => exact none

/-! ### The end of a configuration -/

/-- The core is configured: the tasks before belong to an older generation, and what waited is
begun. -/
structure Resumes (store : BrowserStore) (result : BrowserStore × List CoreTask) : Prop where
  configured : result.1.coreConfigured = true
  routes : store.routeGeneration < result.1.routeGeneration
  created : ∀ task ∈ result.2, ∀ route, task.route? = some route →
    route ≤ result.1.routeGeneration
  loads : ∀ selection, store.pendingSelection = some selection → ∀ wanted,
    selection.matchesRoute wanted = true → result.2.any (CoreTask.loads wanted) = true
  refreshes : store.refreshWhenConfigured = true → result.2.any CoreTask.refreshes = true

/-- The refresh that waited, after the list. -/
def refreshWaiting (store : BrowserStore) : BrowserStore × List CoreTask :=
  if store.refreshWhenConfigured then refresh { store with refreshWhenConfigured := false }
  else (store, [])

theorem refreshWaiting_spec (configured : store.coreConfigured = true) :
    store.refreshWaiting.1.coreConfigured = true ∧
    store.refreshWaiting.1.routeGeneration = store.routeGeneration ∧
    (∀ task ∈ store.refreshWaiting.2, ∀ route, task.route? = some route →
      route ≤ store.routeGeneration) ∧
    (store.refreshWhenConfigured = true → store.refreshWaiting.2.any CoreTask.refreshes = true) := by
  unfold refreshWaiting
  by_cases waits : store.refreshWhenConfigured = true
  · rw [if_pos waits]
    unfold refresh
    dsimp only
    rw [if_pos configured]
    refine ⟨configured, rfl, fun task listed route created => ?_, fun _ => rfl⟩
    cases List.mem_singleton.mp listed
    exact Nat.le_of_eq (Option.some.inj created).symm
  · rw [if_neg waits]
    exact ⟨configured, rfl, fun _ absurd => (by cases absurd), fun absurd => False.elim (waits absurd)⟩

/-- A list loaded under a new generation, and the refresh that waited; after both nothing
waits any more. -/
theorem resumes_followedBy {first : BrowserStore × List CoreTask} {selection : ArticleSelection}
    (configured : first.1.coreConfigured = true)
    (routes : first.1.routeGeneration = store.routeGeneration + 1)
    (waits : first.1.refreshWhenConfigured = store.refreshWhenConfigured)
    (created : first.2 = [.loadLocalThenRefresh (store.routeGeneration + 1) selection])
    (loads : ∀ waiting, store.pendingSelection = some waiting → waiting = selection) :
    store.Resumes (followedBy first refreshWaiting) := by
  obtain ⟨configured, same, tasks, refreshes⟩ := refreshWaiting_spec configured
  unfold followedBy
  refine ⟨configured, ?_, fun task listed route made => ?_, fun waiting pending wanted matched => ?_,
    fun waiting => ?_⟩
  · dsimp only
    omega
  · dsimp only
    rw [same]
    rcases List.mem_append.mp listed with before | last
    · rw [created] at before
      cases List.mem_singleton.mp before
      rw [routes]
      exact Nat.le_of_eq (Option.some.inj made).symm
    · exact tasks task last route made
  · obtain rfl := loads waiting pending
    rw [List.any_append, created]
    simp [CoreTask.loads, matched]
  · rw [List.any_append, refreshes (waits.trans waiting), Bool.or_true]

theorem resumes : store.Resumes store.resumeAfterConfiguration := by
  unfold resumeAfterConfiguration
  cases waiting : store.pendingSelection with
  | none =>
    exact resumes_followedBy rfl rfl rfl rfl fun _ absurd => (by rw [waiting] at absurd; cases absurd)
  | some selection =>
    refine resumes_followedBy rfl rfl rfl rfl fun _ pending => ?_
    rw [waiting] at pending
    exact (Option.some.inj pending).symm

/-! ### Actions of the router -/

theorem takes_action (action : RouterAction) :
    store.Takes action.wanted action.wantsRefresh (action.perform store) := by
  cases action with
  | openRoute route =>
    obtain ⟨⟨configured, routes, created⟩, loads, selection, waits, refreshes, refresh⟩ :=
      @takes_route store route
    exact ⟨⟨configured, routes, created⟩, loads, selection, waits, refreshes, refresh⟩
  | refresh =>
    obtain ⟨⟨configured, routes, created⟩, loads, selection, waits, refreshes, refresh⟩ :=
      @takes_refresh ({ store with isPopoverVisible := true })
    exact ⟨⟨configured, routes, created⟩, loads, selection, waits, refreshes, refresh⟩

theorem Advances.followedBy {result : BrowserStore × List CoreTask}
    {next : BrowserStore → BrowserStore × List CoreTask} (first : store.Advances result)
    (second : result.1.Advances (next result.1)) : store.Advances (followedBy result next) := by
  refine ⟨second.configured.trans first.configured, Nat.le_trans first.routes second.routes,
    fun task listed route made => ?_⟩
  rcases List.mem_append.mp listed with before | last
  · exact Nat.le_trans (first.created task before route made) second.routes
  · exact second.created task last route made

theorem performAll_concat (actions : List RouterAction) (action : RouterAction) :
    performAll store (actions ++ [action]) =
      followedBy (performAll store actions) action.perform := by
  unfold performAll
  rw [List.foldl_append]
  rfl

/-- The list that the last of the actions to ask for one asks for, which is the only one
that is still wanted. -/
def lastWanted (actions : List RouterAction) : Option ArticleSelection :=
  actions.foldl (fun last action => action.wanted.or last) none

theorem lastWanted_concat (actions : List RouterAction) (action : RouterAction) :
    lastWanted (actions ++ [action]) = action.wanted.or (lastWanted actions) := by
  unfold lastWanted
  rw [List.foldl_append]
  rfl

theorem advances_performAll (actions : List RouterAction) :
    store.Advances (performAll store actions) := by
  induction actions using List.reverseRecOn with
  | nil => exact (leaves_none rfl rfl rfl rfl).toAdvances
  | append_singleton actions action ih =>
    rw [performAll_concat]
    exact ih.followedBy (takes_action action).toAdvances

/-- Actions carried out before the core is configured: the last list and any refresh wait. -/
theorem performAll_waits (unconfigured : store.coreConfigured = false)
    (actions : List RouterAction) :
    (∀ list, lastWanted actions = some list → ∃ selection,
      (performAll store actions).1.pendingSelection = some selection ∧
        selection.matchesRoute list = true) ∧
    (actions.any RouterAction.wantsRefresh = true →
      (performAll store actions).1.refreshWhenConfigured = true) := by
  induction actions using List.reverseRecOn with
  | nil => exact ⟨fun _ absurd => (by cases absurd), fun absurd => (by cases absurd)⟩
  | append_singleton actions action ih =>
    have still := (advances_performAll actions).configured.trans unconfigured
    have takes := @takes_action ((performAll store actions).1) action
    rw [performAll_concat, lastWanted_concat]
    refine ⟨fun list wanted => ?_, fun asked => ?_⟩
    · cases asked : action.wanted with
      | none =>
        rw [asked] at wanted
        obtain ⟨selection, pending, matched⟩ := ih.1 list wanted
        exact ⟨selection, (takes.waits asked).trans pending, matched⟩
      | some other =>
        rw [asked] at wanted
        cases wanted
        exact takes.selection _ asked still
    · have refresh := takes.refresh still
      unfold followedBy
      dsimp only
      rw [refresh]
      rw [List.any_append] at asked
      rcases Bool.or_eq_true _ _ |>.mp asked with before | last
      · rw [ih.2 before, Bool.or_true]
      · simp only [List.any_cons, List.any_nil, Bool.or_false] at last
        rw [last, Bool.true_or]

end BrowserStore

/-! ## The newest configuration -/

namespace App

/-- The core's session is never newer than the client's last configuration; once the client
takes the core for configured the two are the same, and what it will show, or has shown since,
comes from there. -/
structure Current (app : App) : Prop where
  session : ∀ generation, app.session = some generation → generation ≤ app.configurationGeneration
  calls : ∀ call ∈ app.configuring, call.generation ≤ app.configurationGeneration ∧
    (call.answer = some none → ∃ generation, app.session = some generation ∧
      call.generation ≤ generation)
  newest : app.browser.coreConfigured = true → app.session = some app.configurationGeneration
  routes : ∀ entry ∈ app.tasks, ∀ route, entry.1.route? = some route →
    route ≤ app.browser.routeGeneration
  answered : app.browser.coreConfigured = true → ∀ task outcome session,
    (task, .answered outcome session) ∈ app.tasks →
    task.route? = some app.browser.routeGeneration → session = some app.configurationGeneration
  shown : app.browser.coreConfigured = true → ∀ session, app.shownBy = some session →
    session = some app.configurationGeneration

namespace Current
variable {app : App} {result : BrowserStore × List CoreTask}

theorem proceed (current : Current app) (advances : app.browser.Advances result) :
    Current (app.proceed result) := by
  obtain ⟨session, calls, newest, routes, answered, shown⟩ := current
  obtain ⟨configured, grown, created⟩ := advances
  refine ⟨session, calls, fun core => newest (configured.symm.trans core), ?_, ?_,
    fun core => shown (configured.symm.trans core)⟩
  · intro entry listed route made
    rcases List.mem_append.mp listed with before | fresh
    · exact Nat.le_trans (routes entry before route made) grown
    · obtain ⟨task, among, rfl⟩ := List.mem_map.mp fresh
      exact created task among route made
  · intro core task outcome session listed made
    rcases List.mem_append.mp listed with before | fresh
    · have old := routes _ before _ made
      have same : result.1.routeGeneration = app.browser.routeGeneration := Nat.le_antisymm old grown
      exact answered (configured.symm.trans core) task outcome session before (by rw [made]; exact congrArg some same)
    · obtain ⟨_, _, absurd⟩ := List.mem_map.mp fresh
      cases absurd

/-- A configuration begun while the client does not take the core for configured. -/
theorem beginConfiguring (current : Current app) (unconfigured : app.browser.coreConfigured = false)
    (credentials : MinifluxCredentials) (saves : Bool) :
    Current (app.beginConfiguring credentials saves) := by
  obtain ⟨session, calls, newest, routes, answered, shown⟩ := current
  have idle : ∀ {claim : Prop}, app.browser.coreConfigured = true → claim := fun configured => by
    rw [unconfigured] at configured
    cases configured
  refine ⟨fun generation held => Nat.le_succ_of_le (session generation held),
    List.forall_mem_cons.mpr ⟨⟨Nat.le_refl _, fun absurd => (by cases absurd)⟩, fun call listed => ?_⟩,
    idle, routes, fun configured => idle configured, fun configured => idle configured⟩
  exact ⟨Nat.le_succ_of_le (calls call listed).1, (calls call listed).2⟩

theorem start (current : Current app) (unconfigured : app.browser.coreConfigured = false)
    (stored : Except String (Option MinifluxCredentials)) : Current (app.start stored) := by
  obtain ⟨session, calls, newest, routes, answered, shown⟩ := current
  unfold App.start
  cases stored with
  | error message => exact ⟨session, calls, newest, routes, answered, shown⟩
  | ok stored =>
    cases stored with
    | none => exact ⟨session, calls, newest, routes, answered, shown⟩
    | some credentials =>
      dsimp only
      refine beginConfiguring ?_ ?_ credentials false
      · exact ⟨session, calls, newest, routes, answered, shown⟩
      · exact unconfigured

theorem act (current : Current app) (action : RouterAction) : Current (app.act action) := by
  obtain ⟨session, calls, newest, routes, answered, shown⟩ := current
  unfold App.act
  dsimp only
  split
  · refine proceed ?_ (BrowserStore.takes_action action).toAdvances
    exact ⟨session, calls, newest, routes, answered, shown⟩
  · exact ⟨session, calls, newest, routes, answered, shown⟩

/-- The core takes a configuration. -/
theorem install (current : Current app) {left right : List Configuring} {call : Configuring}
    (place : app.configuring = left ++ call :: right) :
    Current { app with
      configuring := left ++ { call with answer := some none } :: right
      session := installed app.session call.generation } := by
  obtain ⟨session, calls, newest, routes, answered, shown⟩ := current
  rw [place] at calls
  obtain ⟨own, others⟩ := forall_mem_place.mp calls
  have grows : ∀ generation, app.session = some generation →
      ∃ next, installed app.session call.generation = some next ∧ generation ≤ next := by
    intro generation held
    rw [held]
    exact ⟨_, rfl, Nat.le_max_left ..⟩
  have reaches : ∃ next, installed app.session call.generation = some next ∧
      call.generation ≤ next := by
    cases held : app.session with
    | none => exact ⟨_, rfl, Nat.le_refl _⟩
    | some generation => exact ⟨_, rfl, Nat.le_max_right ..⟩
  have bounded : ∀ next, installed app.session call.generation = some next →
      next ≤ app.configurationGeneration := by
    intro next held
    cases before : app.session with
    | none =>
      rw [before] at held
      cases held
      exact own.1
    | some generation =>
      rw [before] at held
      cases held
      exact Nat.max_le.mpr ⟨session generation before, own.1⟩
  have fixed : app.browser.coreConfigured = true →
      installed app.session call.generation = some app.configurationGeneration := by
    intro configured
    rw [newest configured]
    exact congrArg some (Nat.max_eq_left own.1)
  refine ⟨bounded, forall_mem_place.mpr ⟨⟨own.1, fun _ => reaches⟩, fun other listed => ?_⟩, fixed,
    routes, answered, shown⟩
  refine ⟨(others other listed).1, fun accepted => ?_⟩
  obtain ⟨generation, held, bound⟩ := (others other listed).2 accepted
  obtain ⟨next, holds, above⟩ := grows generation held
  exact ⟨next, holds, Nat.le_trans bound above⟩

/-- The client takes the core for configured. -/
theorem configured (current : Current app) {left right : List Configuring} {call : Configuring}
    {answer kept : Option String} (place : app.configuring = left ++ call :: right)
    (own : call.answer = some answer) (newest : call.generation = app.configurationGeneration) :
    Current (App.configured { app with configuring := left ++ right } call answer kept) := by
  obtain ⟨session, calls, configured, routes, answered, shown⟩ := current
  rw [place] at calls
  obtain ⟨call', others⟩ := forall_mem_place.mp calls
  unfold App.configured
  split
  · exact ⟨session, others, configured, routes, answered, shown⟩
  · rename_i none
    have accepted : answer = Option.none := by
      cases answer with
      | none => rfl
      | some message => cases none
    obtain ⟨generation, held, bound⟩ := call'.2 (by rw [own, accepted])
    have reached : app.session = some app.configurationGeneration := by
      rw [held]
      exact congrArg some (Nat.le_antisymm (session generation held) (newest ▸ bound))
    obtain ⟨-, grown, created, -, -⟩ := @BrowserStore.resumes app.browser
    have fresh : ∀ entry ∈ app.tasks ++ app.browser.resumeAfterConfiguration.2.map
        fun task => (task, TaskPhase.created), ∀ route, entry.1.route? = some route →
        route ≤ app.browser.resumeAfterConfiguration.1.routeGeneration := by
      intro entry listed route made
      rcases List.mem_append.mp listed with before | after
      · exact Nat.le_trans (routes entry before route made) (Nat.le_of_lt grown)
      · obtain ⟨task, among, rfl⟩ := List.mem_map.mp after
        exact created task among route made
    have old : ∀ task outcome by', (task, TaskPhase.answered outcome by') ∈ app.tasks ++
        app.browser.resumeAfterConfiguration.2.map (fun task => (task, TaskPhase.created)) →
        task.route? = some app.browser.resumeAfterConfiguration.1.routeGeneration →
        by' = some app.configurationGeneration := by
      intro task outcome by' listed made
      rcases List.mem_append.mp listed with before | after
      · exact absurd (routes _ before _ made) (Nat.not_le_of_lt grown)
      · obtain ⟨_, _, absurd⟩ := List.mem_map.mp after
        cases absurd
    dsimp only
    split <;>
    exact ⟨session, others, fun _ => reached, fresh, fun _ => old, fun _ _ absurd => (by cases absurd)⟩

end Current

theorem current_launch {app : App} (current : Current app)
    (unconfigured : app.browser.coreConfigured = false)
    (stored : Except String (Option MinifluxCredentials)) : Current (app.launch stored) := by
  obtain ⟨session, calls, newest, routes, answered, shown⟩ := current
  have advances := @BrowserStore.advances_performAll app.browser app.router.pendingActions
  unfold App.launch
  refine Current.start (Current.proceed ?_ ?_) ?_ stored
  · exact ⟨session, calls, newest, routes, answered, shown⟩
  · exact advances
  · exact advances.configured.trans unconfigured

theorem current_step {app after : App} (current : Current app)
    (launched : app.router.configured = false → app.browser.coreConfigured = false)
    (step : Step app after) : Current after := by
  cases step with
  | act action => exact current.act action
  | launch stored unlaunched => exact current_launch current (launched unlaunched) stored
  | trigger trigger _ other =>
    obtain ⟨session, calls, newest, routes, answered, shown⟩ := current
    refine Current.proceed ?_ (BrowserStore.takes_perform other).toAdvances
    exact ⟨session, calls, newest, routes, answered, shown⟩
  | save credentials =>
    obtain ⟨session, calls, newest, routes, answered, shown⟩ := current
    refine Current.beginConfiguring ?_ rfl credentials true
    exact ⟨session, calls, fun absurd => (by cases absurd), routes, fun absurd => (by cases absurd),
      fun absurd => (by cases absurd)⟩
  | install place _ => exact current.install place
  | @refuse left right call message place unanswered =>
    obtain ⟨session, calls, newest, routes, answered, shown⟩ := current
    rw [place] at calls
    obtain ⟨own, others⟩ := forall_mem_place.mp calls
    refine ⟨session, forall_mem_place.mpr ⟨⟨own.1, ?_⟩, others⟩, newest, routes, answered, shown⟩
    rintro ⟨⟩
  | @configured left right call answer kept place own =>
    split
    · rename_i newest
      exact current.configured place own newest
    · obtain ⟨session, calls, newest, routes, answered, shown⟩ := current
      rw [place] at calls
      obtain ⟨-, others⟩ := forall_mem_place.mp calls
      exact ⟨session, others, newest, routes, answered, shown⟩
  | @start left right task place =>
    obtain ⟨session, calls, newest, routes, answered, shown⟩ := current
    rw [place] at routes answered
    obtain ⟨own, others⟩ := forall_mem_place.mp routes
    refine ⟨session, calls, newest, forall_mem_place.mpr ⟨own, others⟩, ?_, shown⟩
    intro configured other outcome by' listed
    refine answered configured other outcome by' ?_
    simpa using listed
  | @execute left right task request outcome place =>
    obtain ⟨session, calls, newest, routes, answered, shown⟩ := current
    rw [place] at routes answered
    obtain ⟨own, others⟩ := forall_mem_place.mp routes
    refine ⟨session, calls, newest, forall_mem_place.mpr ⟨own, others⟩, ?_, shown⟩
    intro configured other result by' listed made
    rcases List.mem_append.mp listed with before | behind
    · exact answered configured other result by' (List.mem_append_left _ before) made
    · rcases List.mem_cons.mp behind with here | behind
      · cases here
        exact newest configured
      · exact answered configured other result by'
          (List.mem_append_right _ (List.mem_cons_of_mem _ behind)) made
  | @finish left right task outcome by' place =>
    obtain ⟨session, calls, newest, routes, answered, shown⟩ := current
    have among : (task, TaskPhase.answered outcome by') ∈ app.tasks := by
      rw [place]
      exact List.mem_append_right _ List.mem_cons_self
    have own := fun configured => answered configured task outcome by' among
    have rest : ∀ {entry : CoreTask × TaskPhase}, entry ∈ left ++ right → entry ∈ app.tasks := by
      intro entry listed
      rw [place]
      rcases List.mem_append.mp listed with before | behind
      · exact List.mem_append_left _ before
      · exact List.mem_append_right _ (List.mem_cons_of_mem _ behind)
    unfold App.finish
    refine Current.proceed ?_ (BrowserStore.leaves_finish task outcome).toAdvances
    refine ⟨session, calls, newest, fun entry listed => routes entry (rest listed), ?_, ?_⟩
    · exact fun configured other result by' listed => answered configured other result by' (rest listed)
    · intro configured shownBy
      dsimp only
      split
      · rename_i shows
        rintro ⟨⟩
        exact own configured (CoreTask.route?_of_apply shows.1)
      · exact shown configured shownBy

/-! ## Nothing asked for is lost -/

/-- Before the launch the router keeps every action; afterwards each is carried out at once, and
until the core is configured the store keeps the last list and any refresh asked for. -/
structure Kept (app : App) : Prop where
  actions : app.performed ++ app.router.pendingActions = app.asked
  unlaunched : app.router.configured = false → app.browser.coreConfigured = false ∧
    app.performed = [] ∧ app.wanted = BrowserStore.lastWanted app.router.pendingActions ∧
    app.wantsRefresh = app.router.pendingActions.any RouterAction.wantsRefresh
  launched : app.router.configured = true → app.router.pendingActions = []
  begun : app.browser.coreConfigured = true → app.wanted = none ∧ app.wantsRefresh = false
  waits : app.router.configured = true → app.browser.coreConfigured = false →
    (∀ list, app.wanted = some list → ∃ selection,
      app.browser.pendingSelection = some selection ∧ selection.matchesRoute list = true) ∧
    (app.wantsRefresh = true → app.browser.refreshWhenConfigured = true)

namespace Kept
variable {app other : App} {result : BrowserStore × List CoreTask}
  {list : Option ArticleSelection} {refresh : Bool}

/-- A call of the launched store that is asked for a list or a refresh. -/
theorem proceed (kept : Kept app) (launched : app.router.configured = true)
    (takes : app.browser.Takes list refresh result) (router : other.router = app.router)
    (actions : other.performed = other.asked) (wanted : other.wanted = list.or app.wanted)
    (wantsRefresh : other.wantsRefresh = (refresh || app.wantsRefresh)) :
    Kept (other.proceed result) := by
  obtain ⟨-, -, emptied, begun, waits⟩ := kept
  have pending : other.router.pendingActions = [] := by rw [router]; exact emptied launched
  refine ⟨?_, fun unlaunched => ?_, fun _ => pending, fun configured => ?_, fun _ unconfigured => ?_⟩
  · change other.performed ++ other.router.pendingActions = other.asked
    rw [pending, List.append_nil, actions]
  · change other.router.configured = false at unlaunched
    rw [router, launched] at unlaunched
    cases unlaunched
  · have configured := takes.configured.symm.trans configured
    obtain ⟨nothing, idle⟩ := begun configured
    constructor
    · change other.wanted.filter _ = none
      rw [wanted, nothing, Option.or_none]
      cases asked : list with
      | none => rfl
      | some wanted =>
        refine Option.filter_eq_none_iff.mpr fun _ same => ?_
        cases same
        rw [takes.loads wanted asked configured]
        simp
    · change (other.wantsRefresh && !result.2.any CoreTask.refreshes) = false
      rw [wantsRefresh, idle, Bool.or_false]
      cases asked : refresh with
      | false => rfl
      | true => simp [takes.refreshes asked configured]
  · have unconfigured := takes.configured.symm.trans unconfigured
    obtain ⟨waits, waitsRefresh⟩ := waits launched unconfigured
    constructor
    · intro still listed
      change other.wanted.filter _ = some still at listed
      obtain ⟨listed, -⟩ := Option.filter_eq_some_iff.mp listed
      rw [wanted] at listed
      cases asked : list with
      | none =>
        rw [asked] at listed
        obtain ⟨selection, pending, matched⟩ := waits still listed
        exact ⟨selection, (takes.waits asked).trans pending, matched⟩
      | some fresh =>
        rw [asked] at listed
        cases listed
        exact takes.selection _ asked unconfigured
    · intro still
      change (other.wantsRefresh && !result.2.any CoreTask.refreshes) = true at still
      rw [Bool.and_eq_true, wantsRefresh] at still
      change result.1.refreshWhenConfigured = true
      rw [takes.refresh unconfigured]
      rcases Bool.or_eq_true _ _ |>.mp still.1 with asked | before
      · rw [asked, Bool.true_or]
      · rw [waitsRefresh before, Bool.or_true]

/-- A change of nothing that waits. -/
theorem frame (kept : Kept app) (router : other.router = app.router)
    (configured : other.browser.coreConfigured = app.browser.coreConfigured)
    (selection : other.browser.pendingSelection = app.browser.pendingSelection)
    (refresh : other.browser.refreshWhenConfigured = app.browser.refreshWhenConfigured)
    (asked : other.asked = app.asked) (performed : other.performed = app.performed)
    (wanted : other.wanted = app.wanted) (wantsRefresh : other.wantsRefresh = app.wantsRefresh) :
    Kept other := by
  obtain ⟨actions, unlaunched, launched, begun, waits⟩ := kept
  constructor
  · rw [performed, router, asked]
    exact actions
  · rw [router, configured, performed, wanted, wantsRefresh]
    exact unlaunched
  · rw [router]
    exact launched
  · rw [configured, wanted, wantsRefresh]
    exact begun
  · rw [router, configured, wanted, wantsRefresh, selection, refresh]
    exact waits

theorem act (kept : Kept app) (action : RouterAction) : Kept (app.act action) := by
  unfold App.act
  dsimp only
  split
  · rename_i launched
    have performed : app.performed = app.asked := by
      rw [← kept.actions, kept.launched launched, List.append_nil]
    refine kept.proceed launched (BrowserStore.takes_action action) rfl ?_ rfl rfl
    exact congrArg (· ++ [action]) performed
  · rename_i unlaunched
    have unlaunched : app.router.configured = false := by simpa [ask] using unlaunched
    obtain ⟨unconfigured, none, wanted, refresh⟩ := kept.unlaunched unlaunched
    have actions := kept.actions
    refine ⟨?_, fun _ => ⟨unconfigured, none, ?_, ?_⟩, fun launched => ?_, fun configured => ?_,
      fun launched => ?_⟩
    · change app.performed ++ (app.router.pendingActions ++ [action]) = app.asked ++ [action]
      rw [← List.append_assoc, actions]
    · change action.wanted.or app.wanted = _
      rw [wanted]
      exact (BrowserStore.lastWanted_concat ..).symm
    · change (action.wantsRefresh || app.wantsRefresh) = _
      rw [refresh]
      change _ = (app.router.pendingActions ++ [action]).any RouterAction.wantsRefresh
      rw [List.any_append, Bool.or_comm]
      simp
    · exact absurd (unlaunched.symm.trans launched) (by simp)
    · exact absurd (unconfigured.symm.trans configured) (by simp)
    · exact absurd (unlaunched.symm.trans launched) (by simp)

theorem launch (kept : Kept app) (unlaunched : app.router.configured = false)
    (stored : Except String (Option MinifluxCredentials)) : Kept (app.launch stored) := by
  obtain ⟨unconfigured, none, wanted, refresh⟩ := kept.unlaunched unlaunched
  have performed : app.router.pendingActions = app.asked := by
    rw [← kept.actions, none, List.nil_append]
  have advances := @BrowserStore.advances_performAll app.browser app.router.pendingActions
  obtain ⟨waits, waitsRefresh⟩ := BrowserStore.performAll_waits unconfigured app.router.pendingActions
  have still := advances.configured.trans unconfigured
  have carried : Kept (App.proceed { app with
      router := { configured := true, pendingActions := [] }
      performed := app.performed ++ app.router.pendingActions }
      (performAll app.browser app.router.pendingActions)) := by
    refine ⟨?_, fun absurd => (by cases absurd), fun _ => rfl, fun configured => ?_, fun _ _ => ⟨?_, ?_⟩⟩
    · change (app.performed ++ app.router.pendingActions) ++ [] = app.asked
      rw [List.append_nil, none, List.nil_append, performed]
    · exact absurd (still.symm.trans configured) (by simp)
    · intro list listed
      change app.wanted.filter _ = some list at listed
      obtain ⟨listed, -⟩ := Option.filter_eq_some_iff.mp listed
      exact waits list (wanted.symm.trans listed)
    · intro asked
      change (app.wantsRefresh && _) = true at asked
      rw [Bool.and_eq_true, refresh] at asked
      exact waitsRefresh asked.1
  unfold App.launch App.start
  cases stored with
  | error message => exact carried.frame rfl rfl rfl rfl rfl rfl rfl rfl
  | ok stored =>
    cases stored with
    | none => exact carried.frame rfl rfl rfl rfl rfl rfl rfl rfl
    | some credentials => exact carried.frame rfl rfl rfl rfl rfl rfl rfl rfl

/-- The store takes the core for configured, and begins what waited. -/
theorem configured (kept : Kept app) (launched : app.router.configured = true) (call : Configuring)
    (answer saved : Option String) : Kept (app.configured call answer saved) := by
  unfold App.configured
  split
  · exact kept.frame rfl rfl rfl rfl rfl rfl rfl rfl
  · have performed : app.performed = app.asked := by
      rw [← kept.actions, kept.launched launched, List.append_nil]
    have resumes := @BrowserStore.resumes app.browser
    have carried : Kept (app.proceed app.browser.resumeAfterConfiguration) := by
      refine ⟨?_, fun unlaunched => ?_, fun _ => kept.launched launched, fun _ => ⟨?_, ?_⟩,
        fun _ unconfigured => ?_⟩
      · change app.performed ++ app.router.pendingActions = app.asked
        rw [kept.launched launched, List.append_nil, performed]
      · exact absurd (launched.symm.trans unlaunched) (by simp)
      · change app.wanted.filter _ = none
        refine Option.filter_eq_none_iff.mpr fun list wanted => ?_
        cases configured : app.browser.coreConfigured with
        | true => exact absurd wanted (by rw [(kept.begun configured).1]; simp)
        | false =>
          obtain ⟨selection, pending, matched⟩ := (kept.waits launched configured).1 list wanted
          simp [resumes.loads selection pending list matched]
      · change (app.wantsRefresh && !_) = false
        cases asked : app.wantsRefresh with
        | false => rfl
        | true =>
          cases configured : app.browser.coreConfigured with
          | true => exact absurd asked (by rw [(kept.begun configured).2]; simp)
          | false =>
            have waiting := (kept.waits launched configured).2 asked
            simp [resumes.refreshes waiting]
      · exact absurd (unconfigured.symm.trans resumes.configured) (by simp)
    dsimp only
    split <;> exact carried.frame rfl rfl rfl rfl rfl rfl rfl rfl

end Kept

theorem kept_step {app after : App} (kept : Kept app)
    (unlaunched : app.router.configured = false → app.configuring = [] ∧ app.tasks = [])
    (step : Step app after) : Kept after := by
  have launched_of : ∀ {α : Type} {items left right : List α} {item : α},
      items = left ++ item :: right → (app.router.configured = false → items = []) →
      app.router.configured = true := by
    intro α items left right item place empty
    refine Bool.eq_true_of_not_eq_false fun configured => ?_
    have none := empty configured
    rw [place] at none
    simp at none
  cases step with
  | act action => exact kept.act action
  | launch stored before => exact kept.launch before stored
  | trigger trigger launched other =>
    have performed : app.performed = app.asked := by
      rw [← kept.actions, kept.launched launched, List.append_nil]
    exact kept.proceed launched (BrowserStore.takes_perform other) rfl performed rfl rfl
  | save credentials launched =>
    obtain ⟨actions, _, emptied, begun, waits⟩ := kept
    refine ⟨actions, fun before => ?_, emptied, fun absurd => (by cases absurd), fun _ _ => ?_⟩
    · exact absurd (launched.symm.trans before) (by simp)
    · cases configured : app.browser.coreConfigured with
      | false => exact waits launched configured
      | true =>
        obtain ⟨nothing, idle⟩ := begun configured
        refine ⟨fun list wanted => ?_, fun asked => ?_⟩
        · exact absurd (nothing.symm.trans wanted) (by simp)
        · exact absurd (idle.symm.trans asked) (by simp)
  | install | refuse => exact kept.frame rfl rfl rfl rfl rfl rfl rfl rfl
  | @configured left right call answer saved place own =>
    split
    · have launched := launched_of place fun before => (unlaunched before).1
      have framed : Kept { app with configuring := left ++ right } :=
        kept.frame rfl rfl rfl rfl rfl rfl rfl rfl
      exact framed.configured launched call answer saved
    · exact kept.frame rfl rfl rfl rfl rfl rfl rfl rfl
  | start | execute => exact kept.frame rfl rfl rfl rfl rfl rfl rfl rfl
  | @finish left right task outcome by' place =>
    have launched := launched_of place fun before => (unlaunched before).2
    have performed : app.performed = app.asked := by
      rw [← kept.actions, kept.launched launched, List.append_nil]
    exact kept.proceed launched (BrowserStore.leaves_finish task outcome).takes rfl performed rfl rfl

/-- Before the launch nothing is under way. -/
def Idle (app : App) : Prop :=
  app.router.configured = false → app.configuring = [] ∧ app.tasks = []

theorem idle_step {app after : App} (idle : Idle app) (step : Step app after) : Idle after := by
  have empty : ∀ {α : Type} {left right : List α} {item : α}, [] = left ++ item :: right → False :=
    fun place => by simp at place
  intro before
  cases step with
  | act action =>
    unfold App.act at before ⊢
    dsimp only at before ⊢
    split
    · rename_i launched
      rw [if_pos launched] at before
      exact absurd (launched.symm.trans before) (by simp)
    · rename_i unlaunched
      rw [if_neg unlaunched] at before
      exact idle before
  | launch stored =>
    have launched : (app.launch stored).router.configured = true := by
      unfold App.launch App.start
      cases stored with
      | error message => rfl
      | ok stored => cases stored <;> rfl
    exact absurd (launched.symm.trans before) (by simp)
  | trigger trigger launched | save credentials launched =>
    exact absurd (launched.symm.trans before) (by simp)
  | install place | refuse message place =>
    have none := (idle before).1
    rw [place] at none
    simp at none
  | @configured left right call answer saved place =>
    have same : app.router.configured = false := by
      split at before
      · unfold App.configured at before
        split at before
        · exact before
        · dsimp only at before
          split at before <;> exact before
      · exact before
    have none := (idle same).1
    rw [place] at none
    simp at none
  | start place | execute _ place | finish place =>
    have none := (idle before).2
    rw [place] at none
    simp at none

theorem current_and_kept {app : App} (reached : apps.Reachable app) :
    Current app ∧ Kept app ∧ Idle app := by
  refine reached.invariant (fun app => Current app ∧ Kept app ∧ Idle app) ?_ ?_
  · rintro _ ⟨enabled, preferences, rfl⟩
    refine ⟨⟨fun _ absurd => (by cases absurd), fun _ absurd => (by cases absurd),
        fun absurd => (by cases absurd), fun _ absurd => (by cases absurd),
        fun absurd => (by cases absurd), fun absurd => (by cases absurd)⟩,
      ⟨rfl, fun _ => ⟨rfl, rfl, rfl, rfl⟩, fun absurd => (by cases absurd),
        fun absurd => (by cases absurd), fun absurd => (by cases absurd)⟩, fun _ => ⟨rfl, rfl⟩⟩
  · rintro app after _ ⟨current, kept, idle⟩ step
    exact ⟨current_step current (fun before => (kept.unlaunched before).1) step,
      kept_step kept idle step, idle_step idle step⟩

end App

/-- Once the client takes the core for configured, the core's session is that of the client's
last configuration, whatever configurations overtook each other; every snapshot shown since was
made in that session, and so will be every response under way that is still to be applied. -/
theorem shown_by_newest_configuration {app : App} (reached : apps.Reachable app)
    (configured : app.browser.coreConfigured = true) :
    app.session = some app.configurationGeneration ∧
    (∀ session, app.shownBy = some session → session = some app.configurationGeneration) ∧
    ∀ task outcome session, (task, .answered outcome session) ∈ app.tasks →
      task.verdict app.browser = .apply → session = some app.configurationGeneration := by
  obtain ⟨current, -, -⟩ := App.current_and_kept reached
  refine ⟨current.newest configured, current.shown configured, ?_⟩
  intro task outcome session listed applied
  exact current.answered configured task outcome session listed (CoreTask.route?_of_apply applied)

/-- No action is lost, whenever it is asked for: the router carries out each once and in order,
at once or at the launch. A list or a refresh asked for before the core is configured waits in the
store, the last list for all; once it is configured none is left that has not been begun. -/
theorem asked_for_is_begun {app : App} (reached : apps.Reachable app) :
    app.performed ++ app.router.pendingActions = app.asked ∧
    (app.router.configured = true → app.router.pendingActions = []) ∧
    (app.browser.coreConfigured = true → app.wanted = none ∧ app.wantsRefresh = false) ∧
    (app.router.configured = true → app.browser.coreConfigured = false →
      (∀ list, app.wanted = some list → ∃ selection,
        app.browser.pendingSelection = some selection ∧ selection.matchesRoute list = true) ∧
      (app.wantsRefresh = true → app.browser.refreshWhenConfigured = true)) := by
  obtain ⟨-, kept, -⟩ := App.current_and_kept reached
  exact ⟨kept.actions, kept.launched, kept.begun, kept.waits⟩

/-- An intent opens the starred list while the app is still launching. -/
theorem starred_at_launch : ∃ app, apps.Reachable app ∧ app.browser.coreConfigured = true ∧
    app.asked = [.openRoute .starred] := by
  have begun : apps.Reachable { browser := .init true fun _ => none } := .start ⟨_, _, rfl⟩
  have asked := begun.next (.act (.openRoute .starred))
  have launched := asked.next (.launch (.ok (some ⟨"https://example.org", "key", none, none⟩)) rfl)
  have installed := launched.next (@App.Step.install _ [] [] _ rfl rfl)
  have configured := installed.next (@App.Step.configured _ [] [] _ _ none rfl rfl)
  exact ⟨_, configured, rfl, rfl⟩

theorem shown_by_newest_configuration_at_launch : ∃ app, apps.Reachable app ∧
    app.browser.coreConfigured = true ∧ app.session = some app.configurationGeneration := by
  obtain ⟨app, reached, configured, -⟩ := starred_at_launch
  exact ⟨app, reached, configured, (shown_by_newest_configuration reached configured).1⟩

theorem asked_for_is_begun_at_launch : ∃ app, apps.Reachable app ∧
    app.asked = [.openRoute .starred] ∧ app.wanted = none := by
  obtain ⟨app, reached, configured, asked⟩ := starred_at_launch
  exact ⟨app, reached, asked, ((asked_for_is_begun reached).2.2.1 configured).1⟩

end FluxBar.Client
