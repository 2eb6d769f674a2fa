import FluxBar.BrowserStoreProofs
import FluxBar.ListStability

/-! The popover keeps up with the core in every run that handles no response too
late. -/
namespace FluxBar
open Client Transport Transition Procedure AnsweredView

/-! ## The tasks under way -/

section Popovers
variable {σ : Type} {engine : SyncService σ} {errors : JsonErrors} {accountId : String}
  {admitted : Popover σ → Handling → Prop} {state after : Popover σ}

/-- Only a discarded undo is answered without a snapshot, and every snapshot lists the
values of the store it was made from. -/
def Phase.Sound (accountId : String) (task : CoreTask) : Phase → Prop
  | .created => True
  | .sent request => request.operation = "discard_undo" → ∃ id, task = .discardUndo id
  | .answered outcome _ after => ∃ response, outcome = .ok response ∧ ((∃ id, task = .discardUndo id) ∨
      ∃ snapshot, response.snapshot = some snapshot ∧
        ∀ entry ∈ snapshot.listed, after.effectiveValues accountId entry.1 = entry.2)

def Popover.Sound (accountId : String) (state : Popover σ) : Prop :=
  ∀ entry ∈ state.tasks, entry.1.Genuine ∧ entry.2.Sound accountId entry.1

theorem sound_created {tasks : List CoreTask} (genuine : ∀ task ∈ tasks, task.Genuine) :
    ∀ entry ∈ created tasks, entry.1.Genuine ∧ entry.2.Sound accountId entry.1 := by
  intro entry listed
  obtain ⟨task, member, rfl⟩ := List.mem_map.mp listed
  exact ⟨genuine task member, trivial⟩

/-- What a sound response comes to: it has a snapshot, and this lists the values the core
held after the request. -/
theorem snapshot_of_sound {task : CoreTask} {outcome : Except GoCoreError CoreResponse}
    {before after : Store} {store : BrowserStore} (kept : task.verdict store ≠ .drop)
    (sound : (Phase.answered outcome before after).Sound accountId task) :
    ∃ response snapshot, outcome = .ok response ∧ response.snapshot = some snapshot ∧
      ∀ entry ∈ snapshot.listed, after.effectiveValues accountId entry.1 = entry.2 := by
  obtain ⟨response, rfl, ⟨id, rfl⟩ | ⟨snapshot, received, shows⟩⟩ := sound
  · exact absurd rfl kept
  · exact ⟨response, snapshot, rfl, received, shows⟩

theorem genuine_finish {task : CoreTask} {outcome : Except GoCoreError CoreResponse}
    {before after : Store} {store : BrowserStore}
    (sound : (Phase.answered outcome before after).Sound accountId task) :
    ∀ other ∈ (store.finish task outcome).2, other.Genuine := by
  obtain ⟨response, rfl, discards | ⟨snapshot, received, _⟩⟩ := sound
  · exact @BrowserStore.genuine_finish store task response .empty (.inl discards)
  · exact BrowserStore.genuine_finish response (.inr received)

theorem sound_step (sound : state.Sound engine.accountId)
    (step : Popover.Step engine errors admitted state after) : after.Sound engine.accountId := by
  unfold Popover.Sound at sound ⊢
  cases step with
  | trigger trigger =>
    rw [List.forall_mem_append]
    exact ⟨sound, sound_created (BrowserStore.renews_perform trigger).genuine⟩
  | start pending =>
    rw [pending, List.forall_mem_append, List.forall_mem_cons] at sound
    rw [List.forall_mem_append, List.forall_mem_cons]
    obtain ⟨left, ⟨genuine, _⟩, right⟩ := sound
    exact ⟨left, ⟨genuine, BrowserStore.discardUndo_of_request genuine⟩, right⟩
  | execute pending ran silent =>
    rw [pending, List.forall_mem_append, List.forall_mem_cons] at sound
    rw [List.forall_mem_append, List.forall_mem_cons]
    obtain ⟨left, ⟨genuine, sent⟩, right⟩ := sound
    refine ⟨left, ⟨genuine, _, rfl, ?_⟩, right⟩
    rcases snapshot_of_request ran with ⟨snapshot, received, shows⟩ | ⟨_, discards⟩
    · refine .inr ⟨snapshot, received, ?_⟩
      intro entry listed
      obtain ⟨article, member, rfl⟩ := List.mem_map.mp listed
      exact shows article member
    · exact .inl (sent discards)
  | handle pending _ =>
    rw [pending, List.forall_mem_append, List.forall_mem_cons] at sound
    rw [List.forall_mem_append, List.forall_mem_append]
    obtain ⟨left, ⟨_, answered⟩, right⟩ := sound
    exact ⟨⟨left, right⟩, sound_created (genuine_finish answered)⟩
  | flush => exact sound
  | remote remote => exact sound

theorem sound_of_popovers (reached : (popovers engine errors admitted).Reachable state) :
    state.Sound engine.accountId := by
  refine reached.invariant (Popover.Sound engine.accountId) ?_ fun _ _ _ => sound_step
  rintro state ⟨_, idle, _⟩ entry listed
  rw [idle] at listed
  cases listed

/-! ## The popover follows its view -/

theorem underWay_congr {store later : BrowserStore}
    (same : ∀ task : CoreTask, task.verdict later = task.verdict store)
    (entries : List (CoreTask × Phase)) :
    entries.map (underWay accountId later) = entries.map (underWay accountId store) := by
  refine List.map_congr_left fun entry _ => ?_
  unfold underWay
  rw [same]

/-- The response to a task just created is still to come. -/
theorem fresh_of_created (accountId : String) {tasks : List CoreTask} {store : BrowserStore}
    (current : ∃ task ∈ tasks, task.verdict store = .apply) :
    ∃ request ∈ (created tasks).map (underWay accountId store),
      request.shown = true ∧ request.answer = none := by
  obtain ⟨task, listed, current⟩ := current
  refine ⟨_, List.mem_map_of_mem (List.mem_map_of_mem listed), ?_, rfl⟩
  simp [underWay, current]

/-- Executing a request answers one of the view, or leaves one that will be shown. -/
theorem view_execute {left right : List (CoreTask × Phase)} {task : CoreTask} {request : CoreRequest}
    {response : CoreResponse} {world : World σ}
    (pending : state.tasks = left ++ (task, .sent request) :: right) :
    Relation.ReflTransGen AnsweredView.Step (state.view accountId)
      (Popover.view accountId { state with
        world
        tasks := left ++ (task, .answered (.ok response) state.world.store world.store) :: right }) := by
  have asked : (state.view accountId).requests = left.map (underWay accountId state.browser) ++
      ⟨task.verdict state.browser ≠ .drop, none⟩ :: right.map (underWay accountId state.browser) := by
    simp only [Popover.view, pending, List.map_append, List.map_cons]
    rfl
  refine .head (.execute (world.store.effectiveValues accountId) asked) ?_
  unfold Popover.view
  simp only [List.map_append, List.map_cons]
  by_cases superseded : task.verdict state.browser = .reload
  · refine .single (.ask ⟨_, List.mem_append_right _ List.mem_cons_self, ?_⟩)
    simp [underWay, superseded]
  · have answered : underWay accountId state.browser
        (task, .answered (.ok response) state.world.store world.store) =
        ⟨task.verdict state.browser ≠ .drop, some (state.world.store.effectiveValues accountId,
          world.store.effectiveValues accountId)⟩ := by
      simp [underWay, superseded]
    rw [answered]

/-- Handling a response in time applies or drops one of the view, or asks again. -/
theorem view_handle {left right : List (CoreTask × Phase)} {task : CoreTask}
    {outcome : Except GoCoreError CoreResponse} {before later : Store}
    (pending : state.tasks = left ++ (task, .answered outcome before later) :: right)
    (sound : (Phase.answered outcome before later).Sound accountId task)
    (inTime : Handling.InTime accountId state ⟨task, outcome, before, later, left ++ right⟩) :
    Relation.ReflTransGen AnsweredView.Step (state.view accountId)
      (Popover.view accountId { state with
        browser := (state.browser.finish task outcome).1
        tasks := left ++ right ++ created (state.browser.finish task outcome).2 }) := by
  have answered : (state.view accountId).requests = left.map (underWay accountId state.browser) ++
      underWay accountId state.browser (task, .answered outcome before later) ::
        right.map (underWay accountId state.browser) := by
    simp only [Popover.view, pending, List.map_append, List.map_cons]
  unfold Handling.InTime at inTime
  dsimp only at inTime
  cases verdict : task.verdict state.browser with
  | reload =>
    obtain ⟨response, rfl, _⟩ := sound
    obtain ⟨same, fresh, _⟩ := BrowserStore.finish_reload response verdict
    unfold Popover.view
    dsimp only
    rw [same, List.map_append]
    obtain ⟨request, listed, fresh⟩ := fresh_of_created accountId fresh
    exact .single (.ask ⟨request, List.mem_append_right _ listed, fresh⟩)
  | drop =>
    obtain ⟨response, rfl, _⟩ := sound
    obtain ⟨same, _⟩ := BrowserStore.finish_drop response verdict
    have dropped : underWay accountId state.browser (task, .answered (.ok response) before later) =
        ⟨false, some (before.effectiveValues accountId, later.effectiveValues accountId)⟩ := by
      simp [underWay, verdict]
    rw [dropped] at answered
    rw [verdict, List.map_append] at inTime
    refine .head (.drop answered inTime) (.single ?_)
    unfold Popover.view
    dsimp only
    rw [same, List.map_append, List.map_append]
    exact .keep (List.subset_append_left _ _)
  | apply =>
    obtain ⟨response, snapshot, rfl, received, shows⟩ :=
      snapshot_of_sound (by rw [verdict]; exact Verdict.noConfusion) sound
    have applied : underWay accountId state.browser (task, .answered (.ok response) before later) =
        ⟨true, some (before.effectiveValues accountId, later.effectiveValues accountId)⟩ := by
      simp [underWay, verdict]
    rw [applied] at answered
    rw [verdict, List.map_append] at inTime
    cases next : task.refreshesNext state.browser with
    | true =>
      obtain ⟨shown, fresh, _⟩ := BrowserStore.finish_apply_refreshes response verdict received next
      have fresh := fresh_of_created accountId fresh
      unfold Popover.view
      dsimp only
      rw [shown]
      generalize (state.browser.finish task (.ok response)).1 = browser at fresh ⊢
      generalize created (state.browser.finish task (.ok response)).2 = refreshes at fresh ⊢
      obtain ⟨request, listed, fresh⟩ := fresh
      -- the refresh is asked for first, and makes up for whatever the snapshot lacks
      let middle : State Int (Option (Bool × Bool)) := { state.view accountId with
        requests := left.map (underWay accountId browser) ++
          ⟨true, some (before.effectiveValues accountId, later.effectiveValues accountId)⟩ ::
            (right ++ refreshes).map (underWay accountId browser) }
      have last : request ∈ (right ++ refreshes).map (underWay accountId browser) := by
        rw [List.map_append]
        exact List.mem_append_right _ listed
      have asked : AnsweredView.Step (state.view accountId) middle :=
        .ask ⟨request, List.mem_append_right _ (List.mem_cons_of_mem _ last), fresh⟩
      have pending : middle.requests = left.map (underWay accountId browser) ++
          ⟨true, some (before.effectiveValues accountId, later.effectiveValues accountId)⟩ ::
            (right ++ refreshes).map (underWay accountId browser) := rfl
      refine .head asked (.single ?_)
      rw [List.append_assoc, List.map_append]
      exact .apply pending shows fun entry _ =>
        .inr (madeUp_of_fresh ⟨request, List.mem_append_right _ last, fresh⟩)
    | false =>
      have appliedInTime : AppliedInTime (state.world.store.effectiveValues accountId)
          (later.effectiveValues accountId) (left.map (underWay accountId state.browser) ++
            right.map (underWay accountId state.browser)) snapshot.listed := by
        rcases inTime with absurd | inTime
        · rw [next] at absurd
          cases absurd
        · simpa only [Handling.listed, received, Option.elim_some] using inTime
      obtain ⟨same, _⟩ := BrowserStore.finish_apply response verdict received next
      refine .head (.apply answered shows appliedInTime) (.single ?_)
      unfold Popover.view
      dsimp only
      rw [same.snapshot, List.map_append, List.map_append]
      rw [underWay_congr fun task => (same.verdict task).trans (by cases task <;> rfl),
        underWay_congr fun task => (same.verdict task).trans (by cases task <;> rfl)]
      exact .keep (List.subset_append_left _ _)

/-- One step of the popover is at most two of its view. The view knows of the screen, the
core and the requests under way only, and what is shown of it is shown there. -/
theorem view_step (sound : state.Sound engine.accountId)
    (step : Popover.Step engine errors (fun state handling => handling.InTime engine.accountId state)
      state after) :
    Relation.ReflTransGen AnsweredView.Step (state.view engine.accountId)
      (after.view engine.accountId) := by
  cases step with
  | trigger trigger =>
    have renews : state.browser.Renews (state.browser.perform trigger) :=
      BrowserStore.renews_perform trigger
    refine .single ?_
    unfold Popover.view
    dsimp only
    rw [renews.snapshot, List.map_append]
    rcases renews.renewed with same | fresh
    · rw [underWay_congr same.verdict]
      exact .keep (List.subset_append_left _ _)
    · obtain ⟨request, listed, fresh⟩ := fresh_of_created engine.accountId fresh
      exact .ask ⟨request, List.mem_append_right _ listed, fresh⟩
  | start pending =>
    unfold Popover.view
    dsimp only
    rw [pending]
    simp only [List.map_append, List.map_cons]
    exact .refl
  | execute pending ran silent => exact view_execute pending
  | handle pending inTime =>
    have member : _ ∈ state.tasks := pending ▸ List.mem_append_right _ List.mem_cons_self
    exact view_handle pending (sound _ member).2 inTime
  | flush =>
    unfold Popover.view
    dsimp only
    rw [SyncService.effectiveValues_flush]
  | remote remote => exact .refl

theorem updates_of_popovers (reached : (popovers engine errors
    (fun state handling => handling.InTime engine.accountId state)).Reachable state) :
    updates.Reachable (state.view engine.accountId) := by
  refine reached.abstracts (Popover.view engine.accountId) ?_ ?_
  · rintro state ⟨⟨enabled, preferences, started⟩, _, _⟩
    refine .start fun entry listed => ?_
    change entry ∈ state.browser.snapshot.listed at listed
    rw [started] at listed
    cases listed
  · intro state after reached step
    exact view_step (sound_of_popovers reached) step

/-! ## Runs -/

/-- A task is created, starts, and is executed. -/
theorem launched {browser later : BrowserStore} {world next : World σ}
    {tasks : List (CoreTask × Phase)} {task : CoreTask} {response : CoreResponse}
    (reached : (popovers engine errors admitted).Reachable ⟨browser, world, tasks⟩)
    (trigger : Trigger) (created : browser.perform trigger = (later, [task]))
    (ran : GoCore.request engine errors (later.request task) world = (.ok response, next))
    (silent : response.error = none) :
    (popovers engine errors admitted).Reachable
      ⟨later, next, tasks ++ [(task, .answered (.ok response) world.store next.store)]⟩ := by
  have triggered := reached.next (.trigger trigger)
  rw [created] at triggered
  have pending : tasks ++ FluxBar.created [task] = tasks ++ (task, .created) :: [] := rfl
  have started := triggered.next (.start pending)
  exact started.next (.execute rfl ran silent)

/-- What is applied before the core executes anything else is in time, because its snapshot
is of the store as it is. -/
theorem Handling.inTime_of_current {state : Popover σ} {handling : Handling}
    (applied : handling.task.verdict state.browser = .apply)
    (current : handling.after = state.world.store) : handling.InTime accountId state := by
  unfold Handling.InTime
  rw [applied, current]
  exact .inr fun _ _ => .inl rfl

/-- A response is handled, and nothing follows. -/
theorem handled {browser later : BrowserStore} {world : World σ}
    {left right : List (CoreTask × Phase)} {task : CoreTask}
    {outcome : Except GoCoreError CoreResponse} {before after : Store}
    (reached : (popovers engine errors admitted).Reachable
      ⟨browser, world, left ++ (task, .answered outcome before after) :: right⟩)
    (allowed : admitted ⟨browser, world, left ++ (task, .answered outcome before after) :: right⟩
      ⟨task, outcome, before, after, left ++ right⟩)
    (ended : browser.finish task outcome = (later, [])) :
    (popovers engine errors admitted).Reachable ⟨later, world, left ++ right⟩ := by
  have next := reached.next (.handle rfl allowed)
  rw [ended] at next
  simpa [FluxBar.created] using next

end Popovers

/-! ## A popover on one article -/

section OneArticle
variable {errors : JsonErrors} {world : World RemoteAccount}

/-- The response the client receives with a snapshot. -/
def listing (data : SnapshotData) : CoreResponse where
  ok := true
  error := none
  text := none
  snapshot := some (receivedSnapshot data)
  receipt := none

/-- What a load asks for. -/
def loadRequest : CoreRequest where
  operation := "local_snapshot"
  selection := some (.all true)
  retainEntryIDs := some []

/-- What marking the article read asks for. -/
def readRequest : CoreRequest where
  operation := "set_read"
  selection := some (.all true)
  entryIDs := some [1]
  retainEntryIDs := some [1]
  read := some true
  mutationSource := some "manual"

theorem request_load (stored : world.store = filedStore) :
    GoCore.request timelyService errors loadRequest world = (.ok (listing filedSnapshot),
      { world with transactions := world.transactions + 1, checks := world.checks + 2 }) := by
  have read : parseRequest loadRequest.encode =
      some { operation := "local_snapshot", selection := ⟨"all", 0, true⟩ } := by decide
  have ran : Returns (timelyService.localSnapshotUntil (.all 0 true) []) world filedSnapshot
      { world with transactions := world.transactions + 1, checks := world.checks + 2 } := by
    refine returns_bind.mpr ⟨(), _, SyncService.returns_lockUntil.mpr ⟨rfl, rfl⟩, ?_⟩
    refine returns_bind.mpr ⟨filedSnapshot, _, SyncService.returns_consult.mpr ⟨?_, rfl⟩, ?_⟩
    · rw [stored]
      exact snapshot_filed []
    · refine returns_bind.mpr ⟨(), _, SyncService.returns_ensureBefore.mpr ⟨rfl, rfl⟩, ?_⟩
      exact returns_pure.mpr ⟨rfl, rfl⟩
  exact request_of_dispatch read rfl (respond_of_returns ran) (by decide)

theorem request_read (stored : world.store = filedStore) :
    GoCore.request timelyService errors readRequest world = (.ok (listing retainedSnapshot),
      { world with
        store := retainedStore, transactions := world.transactions + 2
        checks := world.checks + 3, requested := 0 :: world.requested }) := by
  have read : parseRequest readRequest.encode = some {
      operation := "set_read", selection := ⟨"all", 0, true⟩, entryIds := [1]
      retainEntryIds := [1], read := true, mutationSource := "manual" } := by decide
  exact request_of_dispatch read rfl (respond_of_returns (returns_read stored)) (by decide)

end OneArticle
/-! ### Its run -/

/-- The article as it is listed unread. -/
def unreadArticle : Client.Article := receivedArticle loneEntry

/-- The popover opened before the core is configured. -/
def visible : BrowserStore :=
  ((BrowserStore.start false fun _ => none).perform (.setPopoverVisible true)).1

/-- The popover once it has loaded. -/
def opened : BrowserStore :=
  (visible.resumeAfterConfiguration.1.finish (.loadLocalThenRefresh 1 (.all true))
    (.ok (listing filedSnapshot))).1

/-- The popover after the article is marked read. -/
def markedRead : BrowserStore :=
  ((opened.setRead unreadArticle true).1.finish (.mutate 1 1 readRequest)
    (.ok (listing retainedSnapshot))).1

/-- The list is loaded again, and the article marked read before the load is answered. -/
def overtaken : BrowserStore :=
  (((opened.route .all).1.setRead unreadArticle true).1.finish (.mutate 2 1 readRequest)
    (.ok (listing retainedSnapshot))).1

/-- The answer to the load comes last. -/
def reverted : BrowserStore :=
  (overtaken.finish (.loadLocalThenRefresh 2 (.all true)) (.ok (listing filedSnapshot))).1

/-- The core once it has loaded the list. -/
def World.loaded (world : World RemoteAccount) : World RemoteAccount :=
  { world with transactions := world.transactions + 1, checks := world.checks + 2 }

/-- The core once the article is marked read. -/
def World.marked (world : World RemoteAccount) : World RemoteAccount :=
  { world with
    store := retainedStore, transactions := world.transactions + 2
    checks := world.checks + 3, requested := 0 :: world.requested }

section Opened
variable {errors : JsonErrors} {world : World RemoteAccount}
  {admitted : Popover RemoteAccount → Handling → Prop}

/-- Nothing has changed in the core since the first load. -/
theorem reachable_opened (stored : world.store = filedStore)
    (allowed : ∀ state handling, handling.InTime "account" state → admitted state handling) :
    (popovers timelyService errors admitted).Reachable ⟨opened, world.loaded, []⟩ := by
  have filed : sessions.Reachable ⟨filedStore, fun _ => []⟩ :=
    reachable_write reachable_freshStore (.applySnapshot "t" "account" filedSnapshot) trivial
  have started : (popovers timelyService errors admitted).Reachable
      ⟨.start false fun _ => none, world, []⟩ :=
    .start ⟨⟨false, fun _ => none, rfl⟩, rfl, fun _ => [], stored ▸ filed⟩
  have shown : (popovers timelyService errors admitted).Reachable ⟨visible, world, []⟩ :=
    started.next (.trigger (.setPopoverVisible true))
  have created : visible.perform .resumeAfterConfiguration =
      (visible.resumeAfterConfiguration.1, [.loadLocalThenRefresh 1 (.all true)]) := rfl
  have loaded := launched shown .resumeAfterConfiguration created (request_load stored) rfl
  exact handled loaded (allowed _ _ (Handling.inTime_of_current rfl rfl)) rfl

theorem reachable_markedRead (stored : world.store = filedStore) :
    (popovers timelyService errors fun state handling => handling.InTime "account" state).Reachable
      ⟨markedRead, world.loaded.marked, []⟩ := by
  have loaded : (popovers timelyService errors fun state handling =>
      handling.InTime "account" state).Reachable ⟨opened, world.loaded, []⟩ :=
    reachable_opened stored fun _ _ inTime => inTime
  have created : opened.perform (.setRead unreadArticle true) =
      ((opened.setRead unreadArticle true).1, [.mutate 1 1 readRequest]) := rfl
  have marked := launched loaded (.setRead unreadArticle true) created (request_read stored) rfl
  exact handled marked (Handling.inTime_of_current rfl rfl) rfl

theorem reachable_reverted (stored : world.store = filedStore) :
    (popovers timelyService errors fun _ _ => True).Reachable
      ⟨reverted, world.loaded.loaded.marked, []⟩ := by
  have loaded : (popovers timelyService errors fun _ _ => True).Reachable
      ⟨opened, world.loaded, []⟩ :=
    reachable_opened stored fun _ _ _ => trivial
  have routed : opened.perform (.route .all) =
      ((opened.route .all).1, [.loadLocalThenRefresh 2 (.all true)]) := rfl
  have asked := launched loaded (.route .all) routed (request_load stored) rfl
  have created : (opened.route .all).1.perform (.setRead unreadArticle true) =
      (((opened.route .all).1.setRead unreadArticle true).1, [.mutate 2 1 readRequest]) := rfl
  have marked := launched asked (.setRead unreadArticle true) created (request_read stored) rfl
  have answered := handled marked trivial rfl
  have last : (popovers timelyService errors fun _ _ => True).Reachable
      ⟨overtaken, world.loaded.loaded.marked, [] ++ (.loadLocalThenRefresh 2 (.all true),
        .answered (.ok (listing filedSnapshot)) world.loaded.store world.loaded.loaded.store) :: []⟩ :=
    answered
  exact handled last trivial rfl

end Opened

/-! ## The popover keeps up -/

/-- In every run that handles no response too late, the popover shows what the core holds
whenever nothing is under way. Triggers, requests and responses may interleave in any other
way. -/
theorem current_of_inTime {σ : Type} {engine : SyncService σ} {errors : JsonErrors}
    {state : Popover σ} (reached : (popovers engine errors
      (fun state handling => handling.InTime engine.accountId state)).Reachable state) :
    state.Current engine.accountId := by
  intro idle _ article listed
  have idle : (state.view engine.accountId).requests = [] := by
    simp [Popover.view, idle]
  exact current_of_reachable (updates_of_popovers reached) idle
    (article.id, some (article.isRead, article.starred)) (List.mem_map_of_mem listed)

/-- The list is loaded and its article marked read, with both responses in time. -/
theorem markedRead_current : Popover.Current "account" ⟨markedRead, filedWorld.loaded.marked, []⟩ :=
  have shown := @reachable_markedRead ⟨"", ""⟩ filedWorld store_filedWorld
  current_of_inTime shown

/-- The list is loaded again, the article marked read before the load is answered, and the
answer handled last: the article ends up unread on screen and read in the core, since a load
is not checked against the changes made since. -/
theorem late_load_shows_unread : ¬ ∀ (errors : JsonErrors) (state : Popover RemoteAccount),
    (popovers timelyService errors fun _ _ => True).Reachable state →
      state.Current timelyService.accountId := by
  intro current
  have current : Popover.Current "account" ⟨reverted, filedWorld.loaded.loaded.marked, []⟩ :=
    current ⟨"", ""⟩ _ (reachable_reverted store_filedWorld)
  have listed : unreadArticle ∈ reverted.snapshot.entries := by decide
  have held : retainedStore.effectiveValues "account" 1 = some (true, false) := by decide
  have shown : retainedStore.effectiveValues "account" 1 = some (false, false) :=
    current rfl rfl unreadArticle listed
  rw [held] at shown
  exact absurd shown (by decide)

end FluxBar
