import FluxBar.PopoverProtocol

/-! What the calls of `BrowserStore` and the ends of its tasks do to the screen: a call
that supersedes tasks creates one whose response will be applied, and a response is
applied, dropped or answered with a new load. -/
namespace FluxBar
open Client Transport

/-! ## Calls on the main actor -/

namespace Client

/-- The request is none to discard an undo, unless that is the task. -/
def CoreTask.Genuine : CoreTask → Prop
  | .refresh _ _ request _ | .mutate _ _ request => request.operation ≠ "discard_undo"
  | _ => True

namespace BrowserStore
variable {store after : BrowserStore}

/-- The same screen, and no task superseded, since the three generations are what they were.
-/
structure Same (store after : BrowserStore) : Prop where
  snapshot : after.snapshot = store.snapshot
  route : after.routeGeneration = store.routeGeneration
  mutation : after.mutationGeneration = store.mutationGeneration
  refresh : after.refreshGeneration = store.refreshGeneration

theorem Same.trans {last : BrowserStore} (first : store.Same after) (second : after.Same last) :
    store.Same last :=
  ⟨second.snapshot.trans first.snapshot, second.route.trans first.route,
    second.mutation.trans first.mutation, second.refresh.trans first.refresh⟩

theorem Same.verdict (same : store.Same after) (task : CoreTask) :
    task.verdict after = task.verdict store := by
  cases task <;> simp [CoreTask.verdict, same.route, same.mutation, same.refresh]

/-- A call leaves the screen as it is, and where it supersedes tasks, the response to
one of its own will be applied. -/
structure Renews (store : BrowserStore) (result : BrowserStore × List CoreTask) : Prop where
  snapshot : result.1.snapshot = store.snapshot
  renewed : store.Same result.1 ∨ ∃ task ∈ result.2, task.verdict result.1 = .apply
  genuine : ∀ task ∈ result.2, task.Genuine

theorem renews_of_same {tasks : List CoreTask} (same : store.Same after)
    (genuine : ∀ task ∈ tasks, task.Genuine) : store.Renews (after, tasks) :=
  ⟨same.snapshot, .inl same, genuine⟩

theorem renews_refl : store.Renews (store, []) :=
  renews_of_same ⟨rfl, rfl, rfl, rfl⟩ (by simp)

theorem renews_of_task {result : BrowserStore × List CoreTask} {task : CoreTask}
    (snapshot : result.1.snapshot = store.snapshot) (created : result.2 = [task])
    (current : task.verdict result.1 = .apply) (genuine : task.Genuine) : store.Renews result := by
  refine ⟨snapshot, .inr ⟨task, ?_, current⟩, ?_⟩
  · rw [created]
    exact List.mem_cons_self
  · intro other listed
    rw [created, List.mem_singleton] at listed
    exact listed ▸ genuine

theorem Renews.of_same {result : BrowserStore × List CoreTask} (renews : after.Renews result)
    (same : store.Same after) : store.Renews result := by
  exact ⟨renews.snapshot.trans same.snapshot, renews.renewed.imp_left same.trans, renews.genuine⟩

theorem Renews.followedBy {result : BrowserStore × List CoreTask}
    {next : BrowserStore → BrowserStore × List CoreTask} (first : store.Renews result)
    (second : result.1.Renews (next result.1)) : store.Renews (followedBy result next) := by
  refine ⟨second.snapshot.trans first.snapshot, ?_, ?_⟩
  · rcases second.renewed with same | ⟨task, listed, current⟩
    · rcases first.renewed with before | ⟨task, listed, current⟩
      · exact .inl (before.trans same)
      · exact .inr ⟨task, List.mem_append_left _ listed, (same.verdict task).trans current⟩
    · exact .inr ⟨task, List.mem_append_right _ listed, current⟩
  · intro task listed
    rcases List.mem_append.mp listed with listed | listed
    · exact first.genuine task listed
    · exact second.genuine task listed

/-! ### The calls -/

theorem renews_refreshSelection (selection : ArticleSelection) (retainEntryIDs : List Int)
    (origin : RefreshOrigin) :
    store.Renews
      (store.refreshSelection selection store.routeGeneration retainEntryIDs origin) := by
  refine renews_of_task rfl rfl ?_ ?_
  · simp [refreshSelection, CoreTask.verdict]
  · simp [CoreTask.Genuine]

theorem renews_loadLocalThenRefresh : store.Renews store.loadLocalThenRefresh := by
  refine renews_of_task rfl rfl ?_ trivial
  simp [loadLocalThenRefresh, CoreTask.verdict]

theorem renews_navigate (selection : ArticleSelection) (resetPresentation : Bool) :
    store.Renews (store.navigate selection resetPresentation) := by
  unfold navigate
  cases resetPresentation
  · exact renews_loadLocalThenRefresh.of_same ⟨rfl, rfl, rfl, rfl⟩
  · exact renews_loadLocalThenRefresh.of_same ⟨rfl, rfl, rfl, rfl⟩

theorem renews_mutate {request : CoreRequest} (genuine : request.operation ≠ "discard_undo") :
    store.Renews (store.mutate request) := by
  refine renews_of_task rfl rfl ?_ genuine
  simp [mutate, CoreTask.verdict]

theorem renews_setRead (article : Article) (read : Bool) : store.Renews (store.setRead article read) :=
  (renews_mutate (by simp)).of_same ⟨rfl, rfl, rfl, rfl⟩

theorem renews_openArticle (article : Article) : store.Renews (store.openArticle article) := by
  unfold openArticle
  split
  · exact renews_refl
  · exact renews_setRead article true

theorem renews_markReadAutomatically (entryIDs : List Int) :
    store.Renews (store.markReadAutomatically entryIDs) := by
  unfold markReadAutomatically
  dsimp only
  split_ifs
  · exact renews_refl
  · refine renews_of_task rfl rfl ?_ trivial
    simp [CoreTask.verdict]
  · exact renews_refl

theorem renews_undoAutomaticRead : store.Renews store.undoAutomaticRead := by
  unfold undoAutomaticRead
  split
  · exact renews_refl
  · refine renews_of_task rfl rfl ?_ trivial
    simp [CoreTask.verdict]

theorem renews_expireUndo : store.Renews store.expireUndo := by
  unfold expireUndo
  split
  · exact renews_of_same ⟨rfl, rfl, rfl, rfl⟩ (by simp [CoreTask.Genuine])
  · exact renews_refl

theorem renews_setMarkReadOnScrolloverEnabled (enabled : Bool) :
    store.Renews (store.setMarkReadOnScrolloverEnabled enabled) := by
  unfold setMarkReadOnScrolloverEnabled
  dsimp only
  split_ifs
  · exact renews_refl
  · exact renews_of_same ⟨rfl, rfl, rfl, rfl⟩ (by simp)
  · exact renews_expireUndo.of_same ⟨rfl, rfl, rfl, rfl⟩

/-- A refresh by hand supersedes mutations too. -/
theorem renews_refresh : store.Renews store.refresh := by
  unfold refresh
  split
  · refine renews_of_task rfl rfl ?_ ?_
    · simp [refreshSelection, CoreTask.verdict]
    · simp [CoreTask.Genuine]
  · exact renews_of_same ⟨rfl, rfl, rfl, rfl⟩ (by simp)

theorem renews_refreshInBackground : store.Renews store.refreshInBackground := by
  unfold refreshInBackground
  split
  · exact renews_refl
  · exact renews_refreshSelection _ _ _

theorem renews_refreshIfStale (stale : Bool) : store.Renews (store.refreshIfStale stale) := by
  have same : store.Same store.resetListPresentation := ⟨rfl, rfl, rfl, rfl⟩
  cases stale
  · exact renews_of_same same (by simp)
  · exact renews_refreshInBackground.of_same same

theorem renews_route (route : NavigationRoute) : store.Renews (store.route route) := by
  unfold BrowserStore.route
  split
  · split
    · exact renews_openArticle _
    · exact renews_refl
  · split
    · exact renews_refl
    · dsimp only
      split
      · exact (renews_navigate _ _).of_same ⟨rfl, rfl, rfl, rfl⟩
      · exact renews_of_same ⟨rfl, rfl, rfl, rfl⟩ (by simp)

theorem renews_setUnreadOnly (unreadOnly : Bool) : store.Renews (store.setUnreadOnly unreadOnly) := by
  unfold setUnreadOnly
  split
  · exact (renews_navigate _ _).of_same ⟨rfl, rfl, rfl, rfl⟩
  · exact renews_refl

theorem renews_resumeAfterConfiguration : store.Renews store.resumeAfterConfiguration := by
  have asked : ∀ store : BrowserStore, store.Renews (if store.refreshWhenConfigured then
      refresh { store with refreshWhenConfigured := false } else (store, [])) := by
    intro store
    split
    · exact renews_refresh.of_same ⟨rfl, rfl, rfl, rfl⟩
    · exact renews_refl
  unfold resumeAfterConfiguration
  refine Renews.followedBy ?_ (asked _)
  dsimp only
  split
  · exact (renews_navigate _ _).of_same ⟨rfl, rfl, rfl, rfl⟩
  · exact renews_loadLocalThenRefresh.of_same ⟨rfl, rfl, rfl, rfl⟩

theorem renews_perform (trigger : Trigger) : store.Renews (store.perform trigger) := by
  cases trigger with
  | resumeAfterConfiguration => exact renews_resumeAfterConfiguration
  | refresh => exact renews_refresh
  | refreshInBackground => exact renews_refreshInBackground
  | refreshIfStale stale => exact renews_refreshIfStale stale
  | setPopoverVisible visible => exact renews_of_same ⟨rfl, rfl, rfl, rfl⟩ (by simp)
  | setMarkReadOnScrolloverEnabled enabled => exact renews_setMarkReadOnScrolloverEnabled enabled
  | route route => exact renews_route route
  | setUnreadOnly unreadOnly => exact renews_setUnreadOnly unreadOnly
  | openArticle article => exact renews_openArticle article
  | setRead article read => exact renews_setRead article read
  | setStarred article starred => exact renews_mutate (by simp)
  | markReadAutomatically entryIDs => exact renews_markReadAutomatically entryIDs
  | undoAutomaticRead => exact renews_undoAutomaticRead
  | expireUndo => exact renews_expireUndo

/-! ### The ends of the tasks -/

section Finish
variable {task : CoreTask} (response : CoreResponse) {snapshot : BrowseSnapshot}

theorem same_apply (structural : Bool) (received : response.snapshot = some snapshot) :
    Same { store with snapshot } (store.apply response structural) := by
  unfold BrowserStore.apply
  rw [received]
  cases structural <;> exact ⟨rfl, rfl, rfl, rfl⟩

theorem isPopoverVisible_apply (structural : Bool) :
    (store.apply response structural).isPopoverVisible = store.isPopoverVisible := by
  unfold BrowserStore.apply
  cases response.snapshot with
  | none => rfl
  | some snapshot => cases structural <;> rfl

theorem genuine_showUndo {receipt : MutationReceipt} :
    ∀ other ∈ (store.showUndo receipt).2, other.Genuine := by
  unfold showUndo
  dsimp only
  split
  · split <;> simp [CoreTask.Genuine]
  · simp

/-- A response that is dropped changes nothing. -/
theorem finish_drop (dropped : task.verdict store = .drop) :
    (store.finish task (.ok response)).1 = store ∧
      ∀ other ∈ (store.finish task (.ok response)).2, other.Genuine := by
  cases task with
  | loadLocalThenRefresh route | reloadLocal route | refresh route | undoAutomaticRead route =>
    simp only [CoreTask.verdict, ite_eq_right_iff, reduceCtorEq, imp_false] at dropped
    simp [finish, dropped]
  | mutate route mutation request =>
    have left : route ≠ store.routeGeneration := by
      rintro rfl
      simp only [CoreTask.verdict, if_true] at dropped
      split at dropped <;> cases dropped
    simp [finish, left]
  | markReadAutomatically route mutation ids =>
    have left : route ≠ store.routeGeneration := by
      rintro rfl
      simp only [CoreTask.verdict, if_true] at dropped
      split at dropped <;> cases dropped
    simp [finish, left, CoreTask.Genuine]
  | discardUndo id => simp [finish]

/-- A superseded change has the popover load again, and the response of that load will be
applied. -/
theorem finish_reload (superseded : task.verdict store = .reload) :
    (store.finish task (.ok response)).1 = store ∧
      (∃ other ∈ (store.finish task (.ok response)).2, other.verdict store = .apply) ∧
      ∀ other ∈ (store.finish task (.ok response)).2, other.Genuine := by
  cases task with
  | loadLocalThenRefresh route | reloadLocal route | refresh route | undoAutomaticRead route =>
    simp only [CoreTask.verdict] at superseded
    split at superseded <;> cases superseded
  | mutate route mutation request =>
    simp only [CoreTask.verdict] at superseded
    split_ifs at superseded with current mutated
    subst current
    simp [finish, mutated, CoreTask.verdict, CoreTask.Genuine]
  | markReadAutomatically route mutation ids =>
    simp only [CoreTask.verdict] at superseded
    split_ifs at superseded with current mutated
    subst current
    refine ⟨by simp [finish, mutated], by simp [finish, mutated, CoreTask.verdict], ?_⟩
    intro other listed
    simp only [finish, mutated, and_false, if_false, if_true, List.mem_append, List.mem_map,
      List.mem_singleton] at listed
    rcases listed with ⟨receipt, _, rfl⟩ | rfl <;> trivial
  | discardUndo id => cases superseded

/-- A response that is applied puts its snapshot on screen, and supersedes no other task. -/
theorem finish_apply (current : task.verdict store = .apply)
    (received : response.snapshot = some snapshot) (last : task.refreshesNext store = false) :
    Same { store with snapshot } (store.finish task (.ok response)).1 ∧
      ∀ other ∈ (store.finish task (.ok response)).2, other.Genuine := by
  have applied : ∀ structural, Same { store with snapshot } (store.apply response structural) :=
    fun structural => same_apply response structural received
  cases task with
  | loadLocalThenRefresh route selected =>
    simp only [CoreTask.verdict, ite_eq_left_iff, reduceCtorEq, imp_false, not_not] at current
    have visible : store.isPopoverVisible = true := by simpa [CoreTask.refreshesNext] using last
    have ends : store.finish (.loadLocalThenRefresh route selected) (.ok response) =
        (store.apply response false, []) := by
      simp [finish, current, isPopoverVisible_apply, visible]
    rw [ends]
    exact ⟨applied false, by simp⟩
  | refresh route generation request origin =>
    simp only [CoreTask.verdict, ite_eq_left_iff, reduceCtorEq, imp_false, not_not] at current
    simp only [finish, if_pos current]
    split_ifs
    · exact ⟨⟨(applied true).snapshot, (applied true).route, (applied true).mutation,
        (applied true).refresh⟩, by simp⟩
    · exact ⟨applied true, by simp⟩
  | mutate route mutation request =>
    simp only [CoreTask.verdict] at current
    split_ifs at current with route mutated
    simp only [finish, if_pos (And.intro route mutated)]
    exact ⟨applied false, by simp⟩
  | markReadAutomatically route mutation ids =>
    simp only [CoreTask.verdict] at current
    split_ifs at current with route mutated
    simp only [finish, if_pos (And.intro route mutated)]
    cases response.receipt with
    | none => exact ⟨applied false, by simp⟩
    | some receipt =>
      dsimp only
      split
      · exact ⟨(applied false).trans ⟨rfl, rfl, rfl, rfl⟩, genuine_showUndo⟩
      · exact ⟨applied false, by simp [CoreTask.Genuine]⟩
  | undoAutomaticRead route mutation undo =>
    simp only [CoreTask.verdict, ite_eq_left_iff, reduceCtorEq, imp_false, not_not] at current
    simp only [finish, if_pos current]
    exact ⟨applied false, by simp⟩
  | reloadLocal route selected =>
    simp only [CoreTask.verdict, ite_eq_left_iff, reduceCtorEq, imp_false, not_not] at current
    simp only [finish, if_pos current]
    exact ⟨applied false, by simp⟩
  | discardUndo id => cases current

/-- Where a refresh follows, its response will be applied in turn. -/
theorem finish_apply_refreshes (current : task.verdict store = .apply)
    (received : response.snapshot = some snapshot) (next : task.refreshesNext store = true) :
    (store.finish task (.ok response)).1.snapshot = snapshot ∧
      (∃ other ∈ (store.finish task (.ok response)).2,
        other.verdict (store.finish task (.ok response)).1 = .apply) ∧
      ∀ other ∈ (store.finish task (.ok response)).2, other.Genuine := by
  have applied : Same { store with snapshot } (store.apply response false) :=
    same_apply response false received
  cases task with
  | loadLocalThenRefresh route selected =>
    simp only [CoreTask.verdict, ite_eq_left_iff, reduceCtorEq, imp_false, not_not] at current
    have hidden : store.isPopoverVisible = false := by simpa [CoreTask.refreshesNext] using next
    simp only [finish, if_pos current, isPopoverVisible_apply, hidden]
    refine ⟨applied.snapshot, ⟨_, List.mem_cons_self, ?_⟩, ?_⟩
    · simp [refreshSelection, CoreTask.verdict, applied.route, current]
    · simp [refreshSelection, CoreTask.Genuine]
  | refresh | mutate | markReadAutomatically | undoAutomaticRead | reloadLocal | discardUndo =>
    cases next

/-- The tasks a response leads to. -/
theorem genuine_finish
    (answered : (∃ id, task = .discardUndo id) ∨ response.snapshot = some snapshot) :
    ∀ other ∈ (store.finish task (.ok response)).2, other.Genuine := by
  cases verdict : task.verdict store with
  | drop => exact (finish_drop response verdict).2
  | reload => exact (finish_reload response verdict).2.2
  | apply =>
    rcases answered with ⟨id, rfl⟩ | received
    · cases verdict
    · cases next : task.refreshesNext store with
      | true => exact (finish_apply_refreshes response verdict received next).2.2
      | false => exact (finish_apply response verdict received next).2

end Finish

theorem discardUndo_of_request {task : CoreTask} (genuine : task.Genuine)
    (asked : (store.request task).operation = "discard_undo") : ∃ id, task = .discardUndo id := by
  cases task with
  | refresh route generation request origin => exact absurd asked genuine
  | mutate route mutation request => exact absurd asked genuine
  | discardUndo id => exact ⟨id, rfl⟩
  | loadLocalThenRefresh | reloadLocal | markReadAutomatically | undoAutomaticRead =>
    simp [BrowserStore.request] at asked

end BrowserStore
end Client

end FluxBar
