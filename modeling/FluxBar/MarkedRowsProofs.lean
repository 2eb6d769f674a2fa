import FluxBar.MarkedRows
import FluxBar.BrowserStoreProofs
import FluxBar.PopoverProofs

/-! Articles marked read stay listed as long as no response comes too late. -/
namespace FluxBar
open Client Transport Transition Relational Procedure

/-! ## What the calls retain -/

namespace Client.BrowserStore
variable {store : BrowserStore} {watched : List Int}

/-- The watched articles are retained, by the store and by the requests of new tasks. -/
structure Retains (watched : List Int) (result : BrowserStore × List CoreTask) : Prop where
  retained : ∀ id ∈ watched, id ∈ result.1.retainedEntryIDs
  carried : ∀ task ∈ result.2, ∀ request, task.carried = some request →
    ∀ id ∈ watched, id ∈ request.retained

theorem Retains.fewer {result : BrowserStore × List CoreTask} {others : List Int}
    (retains : Retains watched result) (fewer : ∀ id ∈ others, id ∈ watched) :
    Retains others result :=
  ⟨fun id held => retains.retained id (fewer id held),
    fun task listed request carried id held =>
      retains.carried task listed request carried id (fewer id held)⟩

theorem retains_nil (result : BrowserStore × List CoreTask) : Retains [] result :=
  ⟨fun _ listed => (by cases listed), fun _ _ _ _ _ listed => (by cases listed)⟩

/-- Tasks that carry no request. -/
theorem retains_of_uncarried {tasks : List CoreTask}
    (retained : ∀ id ∈ watched, id ∈ store.retainedEntryIDs)
    (uncarried : ∀ task ∈ tasks, task.carried = none) : Retains watched (store, tasks) := by
  refine ⟨retained, ?_⟩
  intro task listed request carried
  rw [uncarried task listed] at carried
  cases carried

theorem retains_refl (retained : ∀ id ∈ watched, id ∈ store.retainedEntryIDs) :
    Retains watched (store, []) :=
  retains_of_uncarried retained fun _ listed => (by cases listed)

theorem retains_refreshSelection {selection : ArticleSelection} {route : Nat} {origin : RefreshOrigin}
    (retained : ∀ id ∈ watched, id ∈ store.retainedEntryIDs) :
    Retains watched (store.refreshSelection selection route store.retainedEntryIDs origin) := by
  refine ⟨retained, ?_⟩
  intro task listed request carried
  cases List.mem_singleton.mp listed
  cases carried
  exact retained

theorem retains_mutate {request : CoreRequest}
    (retained : ∀ id ∈ watched, id ∈ store.retainedEntryIDs)
    (same : request.retainEntryIDs = some store.retainedEntryIDs) :
    Retains watched (store.mutate request) := by
  refine ⟨retained, ?_⟩
  intro task listed other carried id
  cases List.mem_singleton.mp listed
  cases carried
  rw [CoreRequest.retained, same]
  exact retained id

/-- Marking an article read adds it, and unread takes it away. -/
theorem retains_setRead {article : Article} {read : Bool}
    (retained : ∀ id ∈ watched, id ∈ store.retainedEntryIDs ∨ id = article.id)
    (left : read = false → article.id ∉ watched) :
    Retains watched (store.setRead article read) := by
  refine retains_mutate ?_ rfl
  intro id listed
  cases read with
  | true => exact List.mem_insert_iff.mpr (retained id listed).symm
  | false =>
    have other : id ≠ article.id := fun same => left rfl (same ▸ listed)
    exact (List.mem_erase_of_ne other).mpr ((retained id listed).resolve_right other)

theorem retains_openArticle {article : Article} {listed : List Int}
    (retained : ∀ id ∈ watched, id ∈ store.retainedEntryIDs) :
    Retains (watched ++ (if article.isRead then [] else [article.id]).filter (· ∈ listed))
      (store.openArticle article) := by
  unfold openArticle
  split
  · rw [List.filter_nil, List.append_nil]
    exact retains_refl retained
  · refine retains_setRead ?_ fun absurd => (by cases absurd)
    intro id held
    rcases List.mem_append.mp held with before | marked
    · exact .inl (retained id before)
    · exact .inr (List.mem_singleton.mp (List.mem_filter.mp marked).1)

theorem retains_markReadAutomatically {entryIDs listed : List Int}
    (retained : ∀ id ∈ watched, id ∈ store.retainedEntryIDs) :
    Retains (watched ++ (Trigger.marks store (.markReadAutomatically entryIDs)).filter (· ∈ listed))
      (store.markReadAutomatically entryIDs) := by
  unfold markReadAutomatically Trigger.marks
  dsimp only
  split
  · generalize (store.snapshot.entries.filter fun article => !article.isRead).map Article.id = unread
    have same : ∀ id, id ∈ entryIDs.filter (· ∈ unread) ↔ id ∈ entryIDs.dedup.filter (· ∈ unread) := by
      simp
    split
    · rename_i none
      refine retains_refl fun id held => ?_
      rcases List.mem_append.mp held with before | marked
      · exact retained id before
      · have absurd := (same id).mp (List.mem_filter.mp marked).1
        rw [List.isEmpty_iff.mp none] at absurd
        cases absurd
    · refine retains_of_uncarried ?_ fun task listed => ?_
      · intro id held
        rcases List.mem_append.mp held with before | marked
        · exact List.mem_union_iff.mpr (.inr (retained id before))
        · exact List.mem_union_iff.mpr (.inl ((same id).mp (List.mem_filter.mp marked).1))
      · cases List.mem_singleton.mp listed
        rfl
  · rw [List.filter_nil, List.append_nil]
    exact retains_refl retained

theorem retains_refreshInBackground (retained : ∀ id ∈ watched, id ∈ store.retainedEntryIDs) :
    Retains watched store.refreshInBackground := by
  unfold refreshInBackground
  split
  · exact retains_refl retained
  · exact retains_refreshSelection retained

theorem retains_expireUndo (retained : ∀ id ∈ watched, id ∈ store.retainedEntryIDs) :
    Retains watched store.expireUndo := by
  unfold expireUndo
  split
  · refine retains_of_uncarried retained fun task listed => ?_
    cases List.mem_singleton.mp listed
    rfl
  · exact retains_refl retained

theorem retains_setMarkReadOnScrolloverEnabled {enabled : Bool}
    (retained : ∀ id ∈ watched, id ∈ store.retainedEntryIDs) :
    Retains watched (store.setMarkReadOnScrolloverEnabled enabled) := by
  unfold setMarkReadOnScrolloverEnabled
  dsimp only
  split
  · exact retains_refl retained
  · split
    · exact retains_refl retained
    · exact retains_expireUndo retained

theorem retains_undoAutomaticRead (retained : ∀ id ∈ watched, id ∈ store.retainedEntryIDs) :
    Retains watched store.undoAutomaticRead := by
  unfold undoAutomaticRead
  split
  · exact retains_refl retained
  · refine retains_of_uncarried retained fun task listed => ?_
    cases List.mem_singleton.mp listed
    rfl

/-- What is watched after a trigger is retained, and so are the requests of the tasks that
it creates. -/
theorem retains_perform {batch : String → List Int} (trigger : Trigger)
    (retained : ∀ id ∈ watched, id ∈ store.retainedEntryIDs) :
    Retains (trigger.watch store batch watched) (store.perform trigger) := by
  unfold Trigger.watch
  split
  · exact retains_nil _
  · rename_i lasting
    have kept : ∀ gone : List Int, ∀ id ∈ watched.filter (· ∉ gone), id ∈ store.retainedEntryIDs :=
      fun gone id held => retained id (List.mem_filter.mp held).1
    have quiet : trigger.marks store = [] → ∀ id ∈ watched.filter (· ∉ trigger.unmarks store batch) ++
        (trigger.marks store).filter (· ∈ store.snapshot.entries.map Article.id), id ∈ watched := by
      intro none id held
      rw [none, List.filter_nil, List.append_nil] at held
      exact (List.mem_filter.mp held).1
    cases trigger with
    | resumeAfterConfiguration | refresh => exact absurd rfl lasting
    | refreshInBackground => exact (retains_refreshInBackground retained).fewer (quiet rfl)
    | refreshIfStale stale =>
      refine Retains.fewer ?_ (quiet rfl)
      cases stale
      · exact retains_refl retained
      · exact retains_refreshInBackground retained
    | setPopoverVisible visible =>
      exact (@retains_refl { store with isPopoverVisible := visible } watched retained).fewer
        (quiet rfl)
    | setMarkReadOnScrolloverEnabled enabled =>
      exact (retains_setMarkReadOnScrolloverEnabled retained).fewer (quiet rfl)
    | route route =>
      cases route with
      | all | starred | category | feed => exact absurd rfl lasting
      | article id url =>
        change Retains _ (store.route (.article id url))
        unfold BrowserStore.route Trigger.marks
        dsimp only
        cases store.snapshot.entries.find? fun article => article.id = id with
        | some article => exact retains_openArticle (kept _)
        | none =>
          rw [List.filter_nil, List.append_nil]
          exact retains_refl (kept _)
    | setUnreadOnly unreadOnly =>
      refine Retains.fewer ?_ (quiet rfl)
      have unfiltered : ¬ store.selection.supportsUnreadFilter = true := lasting
      change Retains watched (store.setUnreadOnly unreadOnly)
      unfold setUnreadOnly
      rw [if_neg unfiltered]
      exact retains_refl retained
    | openArticle article => exact retains_openArticle (kept _)
    | setRead article read =>
      cases read with
      | true =>
        refine retains_setRead ?_ fun absurd => (by cases absurd)
        intro id held
        rcases List.mem_append.mp held with before | marked
        · exact .inl (kept _ id before)
        · exact .inr (List.mem_singleton.mp (List.mem_filter.mp marked).1)
      | false =>
        refine retains_setRead (fun id held => .inl (retained id (quiet rfl id held))) ?_
        intro _ held
        rw [Trigger.marks, List.filter_nil, List.append_nil] at held
        · simp [Trigger.unmarks] at held
        all_goals simp
    | setStarred article starred => exact (retains_mutate retained rfl).fewer (quiet rfl)
    | markReadAutomatically entryIDs => exact retains_markReadAutomatically (kept _)
    | undoAutomaticRead => exact (retains_undoAutomaticRead retained).fewer (quiet rfl)
    | expireUndo => exact (retains_expireUndo retained).fewer (quiet rfl)

/-! ## What the ends of the tasks retain -/

theorem retained_apply (response : CoreResponse) (structural : Bool) :
    (store.apply response structural).retainedEntryIDs = store.retainedEntryIDs := by
  unfold BrowserStore.apply
  cases response.snapshot with
  | none => rfl
  | some snapshot => cases structural <;> rfl

theorem retains_showUndo {receipt : MutationReceipt}
    (retained : ∀ id ∈ watched, id ∈ store.retainedEntryIDs) :
    Retains watched (store.showUndo receipt) := by
  refine retains_of_uncarried retained ?_
  intro task listed
  split at listed
  · split at listed
    · cases List.mem_singleton.mp listed
      rfl
    · cases listed
  · cases listed

theorem retains_finish (task : CoreTask) (response : CoreResponse)
    (retained : ∀ id ∈ watched, id ∈ store.retainedEntryIDs) :
    Retains watched (store.finish task (.ok response)) := by
  have applied : ∀ structural, ∀ id ∈ watched,
      id ∈ (store.apply response structural).retainedEntryIDs := by
    intro structural
    rw [retained_apply]
    exact retained
  cases task with
  | loadLocalThenRefresh route selected =>
    simp only [finish]
    split
    · split
      · exact retains_refl (applied false)
      · exact retains_refreshSelection (applied false)
    · exact retains_refl retained
  | refresh route generation request origin =>
    simp only [finish]
    split
    · split
      · exact retains_refl (applied true)
      · exact retains_refl (applied true)
    · exact retains_refl retained
  | mutate route mutation request =>
    simp only [finish]
    split
    · exact retains_refl (applied false)
    · refine retains_of_uncarried retained ?_
      intro other listed
      split at listed
      · cases List.mem_singleton.mp listed
        rfl
      · cases listed
  | markReadAutomatically route mutation ids =>
    simp only [finish]
    split
    · split
      · split
        · exact retains_showUndo (applied false)
        · refine retains_of_uncarried (applied false) fun other listed => ?_
          cases List.mem_singleton.mp listed
          rfl
      · exact retains_refl (applied false)
    · refine retains_of_uncarried retained ?_
      intro other listed
      rcases List.mem_append.mp listed with discarded | reloaded
      · obtain ⟨receipt, _, rfl⟩ := List.mem_map.mp discarded
        rfl
      · split at reloaded
        · cases List.mem_singleton.mp reloaded
          rfl
        · cases reloaded
  | undoAutomaticRead route mutation undo =>
    simp only [finish]
    split
    · exact retains_refl (applied false)
    · exact retains_refl retained
  | reloadLocal route selected =>
    simp only [finish]
    split
    · exact retains_refl (applied false)
    · exact retains_refl retained
  | discardUndo id => exact retains_refl retained

/-- What a response leaves on screen: its own snapshot where it is applied, and else what
was there. -/
theorem snapshot_finish {task : CoreTask} {response : CoreResponse} {snapshot : BrowseSnapshot}
    (received : response.snapshot = some snapshot) :
    (store.finish task (.ok response)).1.snapshot =
      if task.verdict store = .apply then snapshot else store.snapshot := by
  cases verdict : task.verdict store with
  | apply =>
    rw [if_pos rfl]
    cases next : task.refreshesNext store with
    | true => exact (finish_apply_refreshes response verdict received next).1
    | false => exact (finish_apply response verdict received next).1.snapshot
  | reload =>
    rw [if_neg Verdict.noConfusion]
    exact congrArg _ (finish_reload response verdict).1
  | drop =>
    rw [if_neg Verdict.noConfusion]
    exact congrArg _ (finish_drop response verdict).1

/-- A task that carries no request has the core retain what the store does. -/
theorem retained_request {task : CoreTask} (uncarried : task.carried = none) :
    (∃ id, task = .discardUndo id) ∨ (store.request task).retained = store.retainedEntryIDs := by
  cases task with
  | refresh | mutate => cases uncarried
  | discardUndo id => exact .inl ⟨id, rfl⟩
  | loadLocalThenRefresh | markReadAutomatically | undoAutomaticRead | reloadLocal =>
    exact .inr rfl

theorem request_of_carried {task : CoreTask} {request : CoreRequest}
    (carried : task.carried = some request) : store.request task = request := by
  cases task with
  | refresh | mutate =>
    cases carried
    rfl
  | discardUndo | loadLocalThenRefresh | markReadAutomatically | undoAutomaticRead | reloadLocal =>
    cases carried

end Client.BrowserStore

/-! ## What the core lists -/

/-- The entry is stored for the account. -/
def Store.Holds (store : Store) (accountId : String) (id : Int) : Prop :=
  (store.entries.find? (accountId, id)).isSome

namespace Store
variable {store : Store} {accountId : String} {selection : Selection} {retainIds : List Int}

theorem holds_of_qualifying {row : EntryRow}
    (held : row ∈ store.qualifying accountId selection retainIds) : store.Holds accountId row.id := by
  obtain ⟨listed, chosen⟩ := List.mem_filter.mp held
  have own := accountId_of_qualifies chosen
  have found := Table.find?_of_mem listed
  rw [show EntryRow.key row = (accountId, row.id) from Prod.ext own rfl] at found
  exact Option.isSome_iff_exists.mpr ⟨row, found⟩

/-- A stored entry that is retained is chosen. -/
theorem qualifying_of_retained {id : Int} (held : store.Holds accountId id) (retained : id ∈ retainIds) :
    id ∈ (store.qualifying accountId selection retainIds).map EntryRow.id := by
  obtain ⟨row, found⟩ := Option.isSome_iff_exists.mp held
  have key := Table.key_of_find? found
  simp only [EntryRow.key, Prod.mk.injEq] at key
  refine List.mem_map.mpr ⟨row, List.mem_filter.mpr ⟨Table.mem_of_find? found, ?_⟩, key.2⟩
  simp [qualifies, key.1, key.2, retained]

/-- Rows that all fit are all listed, the retained ones among them. -/
theorem mem_ids_snapshotEntries {scan : Scan} {newestFirst : Bool} {id : Int}
    (room : (store.qualifying accountId selection retainIds).length < snapshotLimit) :
    id ∈ (store.snapshotEntries scan accountId selection newestFirst retainIds).map Entry.id ↔
      id ∈ (store.qualifying accountId selection retainIds).map EntryRow.id := by
  obtain ⟨ordered, perm, _, same⟩ :=
    store.snapshotEntries_ordered scan accountId selection newestFirst retainIds
  rw [← perm.length_eq] at room
  rw [same, List.take_of_length_le (Nat.le_of_lt room), List.map_map]
  exact (perm.map EntryRow.id).mem_iff

end Store

section Requests
variable {σ : Type} {engine : SyncService σ} {errors : JsonErrors} {world after : World σ}

/-- What an answered request tells of its list, and of what is left of the store. -/
structure ListsCandidates (engine : SyncService σ) (request : CoreRequest) (before after : Store)
    (snapshot : Client.BrowseSnapshot) : Prop where
  listed : ∀ id, id ∈ snapshot.entries.map Client.Article.id ↔
    id ∈ (candidates engine request before after).map EntryRow.id
  held : ∀ id ∈ (candidates engine request before after).map EntryRow.id,
    after.Holds engine.accountId id
  retained : ∀ id ∈ request.retained, after.Holds engine.accountId id →
    id ∈ (candidates engine request before after).map EntryRow.id

theorem retained_listing {parsed : Request} {operation : Transport.Operation}
    {selection : WireSelection} {retained : List Int} {store : Store}
    (into : parsed.intoOperation = .ok operation)
    (listing : operation.listing engine store = some (selection, retained)) :
    ∀ id ∈ parsed.retainEntryIds, id ∈ retained := by
  unfold Request.intoOperation at into
  split at into <;> cases into <;> cases listing <;> intro id named <;>
    first | exact named | exact List.mem_append_left _ named

/-- A request with room for its rows lists them. -/
theorem listsCandidates_of_request {request : CoreRequest} {response : CoreResponse}
    (ran : GoCore.request engine errors request world = (.ok response, after))
    (room : (candidates engine request world.store after.store).length < snapshotLimit) :
    world.store.KeepsEntries after.store ∧ (request.operation = "discard_undo" ∨
      ∃ snapshot, response.snapshot = some snapshot ∧
        ListsCandidates engine request world.store after.store snapshot) := by
  obtain ⟨answer, handled, ok, decoded⟩ := received_request ran
  obtain ⟨parsed, operation, read, into, ran⟩ := dispatched_of_handleJson handled ok
  rcases presents_dispatch ran ok with
    ⟨selection, retained, data, error, receipt, listing, ⟨shown, kept⟩, rfl⟩ |
    ⟨rfl, ⟨mutationId, rfl⟩, kept⟩
  · have chosen : candidates engine request world.store after.store =
        after.store.qualifying engine.accountId (normalizeSelection selection.toDomain) retained := by
      unfold candidates
      simp only [read, into, listing]
    rw [chosen] at room
    rw [decode_snapshotResponse] at decoded
    split at decoded
    · cases decoded
    · cases decoded
      refine ⟨kept, .inr ⟨receivedSnapshot data, rfl, ?_, ?_, ?_⟩⟩
      · intro id
        rw [chosen, ← Store.mem_ids_snapshotEntries room, ← Store.entries_localSnapshot shown]
        change id ∈ (data.entries.map receivedArticle).map Client.Article.id ↔ _
        rw [List.map_map]
        rfl
      · intro id named
        rw [chosen] at named
        obtain ⟨row, held, rfl⟩ := List.mem_map.mp named
        exact Store.holds_of_qualifying held
      · intro id named held
        rw [chosen]
        refine Store.qualifying_of_retained held (retained_listing into listing id ?_)
        rw [retainEntryIds_of_parseRequest read]
        exact named
  · exact ⟨kept, .inl (operation_of_parseRequest read ▸ discardUndo_of_intoOperation into)⟩

end Requests

/-! ## The errands -/

/-- The articles an errand is to have listed are stored, and retained by its request. -/
def Errand.Sound (accountId : String) (store : Store) (errand : Errand) : Prop :=
  errand.task.Genuine ∧ match errand.phase with
  | .created => (∀ id ∈ errand.marked, store.Holds accountId id) ∧
      ∀ request, errand.task.carried = some request → ∀ id ∈ errand.marked, id ∈ request.retained
  | .sent request => (∀ id ∈ errand.marked, store.Holds accountId id) ∧
      (request.operation = "discard_undo" → ∃ id, errand.task = .discardUndo id) ∧
      ((∃ id, errand.task = .discardUndo id) ∨ ∀ id ∈ errand.marked, id ∈ request.retained)
  | .answered outcome _ _ => ∃ response, outcome = .ok response ∧
      ((∃ id, errand.task = .discardUndo id) ∨ ∃ snapshot, response.snapshot = some snapshot ∧
        (∀ id, id ∈ snapshot.entries.map Client.Article.id ↔
          id ∈ errand.candidates.map EntryRow.id) ∧
        (∀ id ∈ errand.candidates.map EntryRow.id, store.Holds accountId id) ∧
        ∀ id ∈ errand.marked, id ∈ errand.candidates.map EntryRow.id)

/-- It stays sound while the core keeps its entries, as every operation does. -/
theorem Errand.Sound.keep {accountId : String} {store after : Store} {errand : Errand}
    (sound : errand.Sound accountId store) (kept : store.KeepsEntries after) :
    errand.Sound accountId after := by
  obtain ⟨genuine, sound⟩ := sound
  refine ⟨genuine, ?_⟩
  cases phase : errand.phase with
  | created =>
    rw [phase] at sound
    obtain ⟨held, carried⟩ := sound
    exact ⟨fun id listed => kept _ (held id listed), carried⟩
  | sent request =>
    rw [phase] at sound
    obtain ⟨held, retained⟩ := sound
    exact ⟨fun id listed => kept _ (held id listed), retained⟩
  | answered outcome before later =>
    rw [phase] at sound
    obtain ⟨response, same, discards | ⟨snapshot, received, listed, held, marked⟩⟩ := sound
    · exact ⟨response, same, .inl discards⟩
    · exact ⟨response, same, .inr ⟨snapshot, received, listed,
        fun id chosen => kept _ (held id chosen), marked⟩⟩

namespace WatchedPopover
variable {σ : Type} {engine : SyncService σ} {errors : JsonErrors}
  {admitted : WatchedPopover σ → Errand → Prop} {state after : WatchedPopover σ}

/-- Every article watched is stored, and retained by the popover, and every article on
screen is stored. -/
structure Sound (accountId : String) (state : WatchedPopover σ) : Prop where
  errands : ∀ errand ∈ state.errands, errand.Sound accountId state.world.store
  retained : ∀ id ∈ state.watched, id ∈ state.browser.retainedEntryIDs
  held : ∀ id ∈ state.watched, state.world.store.Holds accountId id
  shown : ∀ id ∈ state.browser.snapshot.entries.map Client.Article.id,
    state.world.store.Holds accountId id

/-- A trigger watches listed articles only, because it marks no others. -/
theorem mem_watch {trigger : Trigger} {id : Int} (listed : id ∈ state.watch engine trigger) :
    id ∈ state.watched ∨ id ∈ state.browser.snapshot.entries.map Client.Article.id := by
  unfold watch Trigger.watch at listed
  split at listed
  · cases listed
  · rcases List.mem_append.mp listed with before | marked
    · exact .inl (List.mem_filter.mp before).1
    · exact .inr (of_decide_eq_true (List.mem_filter.mp marked).2)

theorem sound_created {accountId : String} {store : Store} {watched : List Int}
    {result : BrowserStore × List CoreTask} (genuine : ∀ task ∈ result.2, task.Genuine)
    (retains : BrowserStore.Retains watched result) (held : ∀ id ∈ watched, store.Holds accountId id) :
    ∀ errand ∈ Errand.created watched result.2, errand.Sound accountId store := by
  intro errand listed
  obtain ⟨task, member, rfl⟩ := List.mem_map.mp listed
  exact ⟨genuine task member, held, retains.carried task member⟩

theorem sound_trigger (sound : state.Sound engine.accountId) (trigger : Trigger) :
    Sound engine.accountId { state with
      browser := (state.browser.perform trigger).1
      errands := state.errands ++
        Errand.created (state.watch engine trigger) (state.browser.perform trigger).2
      watched := state.watch engine trigger } := by
  have renews := @BrowserStore.renews_perform state.browser trigger
  have retains : BrowserStore.Retains (state.watch engine trigger) (state.browser.perform trigger) :=
    BrowserStore.retains_perform trigger sound.retained
  have held : ∀ id ∈ state.watch engine trigger, state.world.store.Holds engine.accountId id := by
    intro id listed
    rcases mem_watch listed with before | shown
    · exact sound.held id before
    · exact sound.shown id shown
  refine ⟨?_, retains.retained, held, ?_⟩
  · rw [List.forall_mem_append]
    exact ⟨sound.errands, sound_created renews.genuine retains held⟩
  · dsimp only
    rw [renews.snapshot]
    exact sound.shown

theorem sound_start {left right : List Errand} {task : CoreTask} {marked : List Int}
    {rows : List EntryRow} (sound : state.Sound engine.accountId)
    (pending : state.errands = left ++ ⟨task, .created, marked, rows⟩ :: right) :
    Sound engine.accountId { state with
      errands := left ++ ⟨task, .sent (state.browser.request task),
        if task.carried.isSome then marked else state.watched, rows⟩ :: right } := by
  refine ⟨?_, sound.retained, sound.held, sound.shown⟩
  have errands := sound.errands
  rw [pending, List.forall_mem_append, List.forall_mem_cons] at errands
  obtain ⟨before, ⟨genuine, held, carried⟩, later⟩ := errands
  rw [List.forall_mem_append, List.forall_mem_cons]
  refine ⟨before, ⟨genuine, ?_, BrowserStore.discardUndo_of_request genuine, ?_⟩, later⟩
  · dsimp only
    split
    · exact held
    · exact sound.held
  · cases request : task.carried with
    | none =>
      rcases @BrowserStore.retained_request state.browser task request with discards | same
      · exact .inl discards
      · exact .inr fun id listed => same ▸ sound.retained id listed
    | some request' =>
      rw [BrowserStore.request_of_carried request]
      exact .inr (carried request' request)

theorem sound_execute {left right : List Errand} {task : CoreTask} {request : CoreRequest}
    {marked : List Int} {rows : List EntryRow} {response : CoreResponse} {world : World σ}
    (sound : state.Sound engine.accountId)
    (pending : state.errands = left ++ ⟨task, .sent request, marked, rows⟩ :: right)
    (ran : GoCore.request engine errors request state.world = (.ok response, world))
    (room : (candidates engine request state.world.store world.store).length < snapshotLimit) :
    Sound engine.accountId { state with
      world
      errands := left ++ ⟨task, .answered (.ok response) state.world.store world.store, marked,
        candidates engine request state.world.store world.store⟩ :: right } := by
  obtain ⟨kept, answered⟩ := listsCandidates_of_request ran room
  have errands := sound.errands
  rw [pending, List.forall_mem_append, List.forall_mem_cons] at errands
  obtain ⟨before, ⟨genuine, held, discards, retained⟩, later⟩ := errands
  refine ⟨?_, sound.retained, fun id listed => kept _ (sound.held id listed),
    fun id listed => kept _ (sound.shown id listed)⟩
  rw [List.forall_mem_append, List.forall_mem_cons]
  refine ⟨fun errand listed => (before errand listed).keep kept, ⟨genuine, response, rfl, ?_⟩,
    fun errand listed => (later errand listed).keep kept⟩
  rcases answered with discarded | ⟨snapshot, received, lists⟩
  · exact .inl (discards discarded)
  · refine retained.imp_right fun retained => ⟨snapshot, received, lists.listed, lists.held, ?_⟩
    exact fun id listed => lists.retained id (retained id listed) (kept _ (held id listed))

/-- What an answered errand comes to. -/
theorem snapshot_finish_of_sound {store : Store} {accountId : String} {errand : Errand}
    {browser : BrowserStore} {outcome : Except GoCoreError CoreResponse} {before later : Store}
    (sound : errand.Sound accountId store) (answered : errand.phase = .answered outcome before later) :
    (errand.task.verdict browser = .apply ∧
      (∀ id, id ∈ (browser.finish errand.task outcome).1.snapshot.entries.map Client.Article.id ↔
        id ∈ errand.candidates.map EntryRow.id) ∧
      (∀ id ∈ errand.candidates.map EntryRow.id, store.Holds accountId id) ∧
      ∀ id ∈ errand.marked, id ∈ errand.candidates.map EntryRow.id) ∨
    errand.task.verdict browser ≠ .apply ∧
      (browser.finish errand.task outcome).1.snapshot = browser.snapshot := by
  obtain ⟨_, sound⟩ := sound
  rw [answered] at sound
  obtain ⟨response, rfl, ⟨id, discards⟩ | ⟨snapshot, received, listed, held, marked⟩⟩ := sound
  · rw [discards]
    exact .inr ⟨Verdict.noConfusion, rfl⟩
  · rw [BrowserStore.snapshot_finish received]
    by_cases applied : errand.task.verdict browser = .apply
    · rw [if_pos applied]
      exact .inl ⟨applied, listed, held, marked⟩
    · rw [if_neg applied]
      exact .inr ⟨applied, rfl⟩

theorem sound_handle {left right : List Errand} {errand : Errand}
    {outcome : Except GoCoreError CoreResponse} {before later : Store}
    (sound : state.Sound engine.accountId) (pending : state.errands = left ++ errand :: right)
    (answered : errand.phase = .answered outcome before later) :
    Sound engine.accountId { state with
      browser := (state.browser.finish errand.task outcome).1
      errands := left ++ right ++
        Errand.created state.watched (state.browser.finish errand.task outcome).2 } := by
  have errands := sound.errands
  rw [pending, List.forall_mem_append, List.forall_mem_cons] at errands
  obtain ⟨others, own, rest⟩ := errands
  obtain ⟨retains, genuine⟩ :
      BrowserStore.Retains state.watched (state.browser.finish errand.task outcome) ∧
      ∀ other ∈ (state.browser.finish errand.task outcome).2, other.Genuine := by
    obtain ⟨_, ended⟩ := own
    rw [answered] at ended
    obtain ⟨response, rfl, ended⟩ := ended
    refine ⟨BrowserStore.retains_finish errand.task response sound.retained, ?_⟩
    rcases ended with discards | ⟨snapshot, received, _⟩
    · exact @BrowserStore.genuine_finish state.browser errand.task response .empty (.inl discards)
    · exact BrowserStore.genuine_finish response (.inr received)
  refine ⟨?_, retains.retained, sound.held, ?_⟩
  · rw [List.forall_mem_append, List.forall_mem_append]
    exact ⟨⟨others, rest⟩, sound_created genuine retains sound.held⟩
  · rcases @snapshot_finish_of_sound _ _ _ state.browser _ _ _ own answered with
      ⟨_, listed, held, _⟩ | ⟨_, same⟩
    · exact fun id shown => held id ((listed id).mp shown)
    · dsimp only
      rw [same]
      exact sound.shown

theorem sound_step (sound : state.Sound engine.accountId) (step : Step engine errors admitted state after) :
    after.Sound engine.accountId := by
  cases step with
  | trigger trigger => exact sound_trigger sound trigger
  | start pending => exact sound_start sound pending
  | execute pending ran _ room => exact sound_execute sound pending ran room
  | handle pending answered _ => exact sound_handle sound pending answered
  | flush =>
    have kept := @SyncService.keepsEntries_flush σ engine state.world
    exact ⟨fun errand listed => (sound.errands errand listed).keep kept, sound.retained,
      fun id listed => kept _ (sound.held id listed), fun id listed => kept _ (sound.shown id listed)⟩
  | remote remote => exact ⟨sound.errands, sound.retained, sound.held, sound.shown⟩

theorem sound_of_runs (reached : (runs engine errors admitted).Reachable state) :
    state.Sound engine.accountId := by
  refine reached.invariant (Sound engine.accountId) ?_ fun _ _ _ => sound_step
  rintro state ⟨⟨⟨enabled, preferences, started⟩, idle, _⟩, none⟩
  have idle : state.errands = [] := List.map_eq_nil_iff.mp idle
  have started : state.browser = .start enabled preferences := started
  refine ⟨?_, ?_, ?_, ?_⟩
  · rw [idle]
    exact fun _ listed => (by cases listed)
  · rw [none]
    exact fun _ listed => (by cases listed)
  · rw [none]
    exact fun _ listed => (by cases listed)
  · rw [started]
    exact fun _ listed => (by cases listed)

/-! ## The popover itself -/

theorem map_created (watched : List Int) (tasks : List CoreTask) :
    (Errand.created watched tasks).map (fun errand => (errand.task, errand.phase)) =
      created tasks := by
  rw [Errand.created, List.map_map]
  rfl

/-- Without what is watched, every step is one of the popover; watching changes nothing of
what it does. -/
theorem popover_step (step : Step engine errors admitted state after) :
    Popover.Step engine errors (fun _ _ => True) state.popover after.popover := by
  have forget : ∀ {left right : List Errand} {errand : Errand},
      state.errands = left ++ errand :: right → state.popover.tasks =
        left.map (fun errand => (errand.task, errand.phase)) ++
          (errand.task, errand.phase) :: right.map fun errand => (errand.task, errand.phase) := by
    intro left right errand pending
    unfold popover
    rw [pending, List.map_append, List.map_cons]
  cases step with
  | trigger trigger =>
    have next : Popover.Step engine errors (fun _ _ => True) state.popover _ := .trigger trigger
    simp only [popover, List.map_append, map_created] at next ⊢
    exact next
  | start pending =>
    have next : Popover.Step engine errors (fun _ _ => True) state.popover _ :=
      .start (forget pending)
    simp only [popover, List.map_append, List.map_cons] at next ⊢
    exact next
  | execute pending ran silent _ =>
    have next : Popover.Step engine errors (fun _ _ => True) state.popover _ :=
      .execute (forget pending) ran silent
    simp only [popover, List.map_append, List.map_cons] at next ⊢
    exact next
  | @handle left right errand outcome before later pending answered _ =>
    have pending := forget pending
    rw [answered] at pending
    have next : Popover.Step engine errors (fun _ _ => True) state.popover _ :=
      .handle pending trivial
    simp only [popover, List.map_append, map_created] at next ⊢
    exact next
  | flush => exact .flush
  | remote remote => exact .remote remote

/-- So what is watched is watched in a run of the popover. -/
theorem popover_of_runs (reached : (runs engine errors admitted).Reachable state) :
    (popovers engine errors fun _ _ => True).Reachable state.popover :=
  reached.abstracts popover (fun _ initial => .start initial.1)
    fun _ _ _ step => .single (popover_step step)

/-- Every step of the popover can be watched, where the core has room for its rows. -/
theorem step_of_popover {next : Popover σ}
    (step : Popover.Step engine errors (fun _ _ => True) state.popover next)
    (room : ∀ request response world,
      GoCore.request engine errors request state.world = (.ok response, world) →
      (candidates engine request state.world.store world.store).length < snapshotLimit) :
    ∃ after, Step engine errors (fun _ _ => True) state after ∧ after.popover = next := by
  have entry : ∀ {left right : List (CoreTask × Phase)} {task : CoreTask} {phase : Phase},
      state.popover.tasks = left ++ (task, phase) :: right →
      ∃ before marked rows later, state.errands = before ++ ⟨task, phase, marked, rows⟩ :: later ∧
        before.map (fun errand => (errand.task, errand.phase)) = left ∧
        later.map (fun errand => (errand.task, errand.phase)) = right := by
    intro left right task phase pending
    obtain ⟨before, rest, same, rfl, taken⟩ := List.map_eq_append_iff.mp pending
    obtain ⟨⟨task, phase, marked, rows⟩, later, rfl, here, rfl⟩ := List.map_eq_cons_iff.mp taken
    cases here
    exact ⟨before, marked, rows, later, same, rfl, rfl⟩
  cases step with
  | trigger trigger =>
    refine ⟨_, .trigger trigger, ?_⟩
    simp only [popover, List.map_append, map_created]
  | start pending =>
    obtain ⟨before, marked, rows, later, same, rfl, rfl⟩ := entry pending
    refine ⟨_, .start same, ?_⟩
    simp only [popover, List.map_append, List.map_cons]
  | execute pending ran silent =>
    obtain ⟨before, marked, rows, later, same, rfl, rfl⟩ := entry pending
    refine ⟨_, .execute same ran silent (room _ _ _ ran), ?_⟩
    simp only [popover, List.map_append, List.map_cons]
  | handle pending _ =>
    obtain ⟨before, marked, rows, later, same, rfl, rfl⟩ := entry pending
    refine ⟨_, .handle same rfl trivial, ?_⟩
    simp only [popover, List.map_append, map_created]
  | flush => exact ⟨_, .flush, rfl⟩
  | remote remote => exact ⟨_, .remote remote, rfl⟩

/-! ## What stays listed -/

/-- A response leaves every article watched on screen exactly when it comes in time. This is
where the condition of the run is used, and why no weaker one would do for a single step. -/
theorem listed_handle_iff {errand : Errand} {outcome : Except GoCoreError CoreResponse}
    {before later : Store} (listed : state.Listed)
    (sound : errand.Sound engine.accountId state.world.store)
    (answered : errand.phase = .answered outcome before later) :
    (∀ id ∈ state.watched, id ∈ (state.browser.finish errand.task outcome).1.snapshot.entries.map
      Client.Article.id) ↔ state.InTime errand := by
  unfold InTime
  rcases @snapshot_finish_of_sound _ _ _ state.browser _ _ _ sound answered with
    ⟨applied, shown, _, marked⟩ | ⟨left, same⟩
  · constructor
    · intro stays _ id watched
      exact .inr ((shown id).mp (stays id watched))
    · intro inTime id watched
      refine (shown id).mpr ?_
      rcases inTime applied id watched with before | chosen
      · exact marked id before
      · exact chosen
  · rw [same]
    exact iff_of_true listed fun applied => absurd applied left

theorem listed_step (sound : state.Sound engine.accountId) (listed : state.Listed)
    (step : Step engine errors InTime state after) : after.Listed := by
  cases step with
  | trigger trigger =>
    intro id watched
    dsimp only at watched ⊢
    rw [(@BrowserStore.renews_perform state.browser trigger).snapshot]
    rcases mem_watch watched with before | shown
    · exact listed id before
    · exact shown
  | start | execute | flush | remote => exact listed
  | @handle left right errand outcome before later pending answered inTime =>
    have member : errand ∈ state.errands := pending ▸ List.mem_append_right _ List.mem_cons_self
    exact (listed_handle_iff listed (sound.errands errand member) answered).mpr inTime

theorem listed_of_inTime (reached : (runs engine errors InTime).Reachable state) : state.Listed := by
  refine reached.invariant Listed ?_ fun _ _ reached => listed_step (sound_of_runs reached)
  rintro state ⟨_, none⟩ id watched
  rw [none] at watched
  cases watched

end WatchedPopover

/-! ## A refresh in the background -/

section Background
variable {σ : Type} {engine : SyncService σ} {errors : JsonErrors}
  {admitted : WatchedPopover σ → Errand → Prop} {browser later : BrowserStore} {world next : World σ}
  {errands left right : List Errand} {watched marked : List Int} {task : CoreTask}
  {request : CoreRequest} {response : CoreResponse}

/-- A task is created and starts. -/
theorem errand_sent
    (reached : (WatchedPopover.runs engine errors admitted).Reachable
      ⟨browser, world, errands, watched⟩)
    (trigger : Trigger) (created : browser.perform trigger = (later, [task]))
    (still : WatchedPopover.watch engine ⟨browser, world, errands, watched⟩ trigger = marked) :
    (WatchedPopover.runs engine errors admitted).Reachable
      ⟨later, world, errands ++ [⟨task, .sent (later.request task), marked, []⟩], marked⟩ := by
  have triggered := reached.next (.trigger trigger)
  rw [still, created] at triggered
  have pending : errands ++ Errand.created marked [task] =
      errands ++ ⟨task, .created, marked, []⟩ :: [] := rfl
  have started := triggered.next (.start pending)
  dsimp only at started
  rwa [ite_self] at started

theorem errand_executed {rows : List EntryRow}
    (reached : (WatchedPopover.runs engine errors admitted).Reachable
      ⟨browser, world, left ++ ⟨task, .sent request, marked, []⟩ :: right, watched⟩)
    (ran : GoCore.request engine errors request world = (.ok response, next))
    (silent : response.error = none)
    (chosen : candidates engine request world.store next.store = rows)
    (room : rows.length < snapshotLimit) :
    (WatchedPopover.runs engine errors admitted).Reachable ⟨browser, next,
      left ++ ⟨task, .answered (.ok response) world.store next.store, marked, rows⟩ :: right,
      watched⟩ := by
  have executed := reached.next (.execute rfl ran silent (chosen ▸ room))
  rwa [chosen] at executed

/-- A response is handled, and nothing follows. -/
theorem errand_handled {rows : List EntryRow} {outcome : Except GoCoreError CoreResponse}
    {before after : Store}
    (reached : (WatchedPopover.runs engine errors admitted).Reachable
      ⟨browser, world, left ++ ⟨task, .answered outcome before after, marked, rows⟩ :: right, watched⟩)
    (allowed : admitted
      ⟨browser, world, left ++ ⟨task, .answered outcome before after, marked, rows⟩ :: right, watched⟩
      ⟨task, .answered outcome before after, marked, rows⟩)
    (ended : browser.finish task outcome = (later, [])) :
    (WatchedPopover.runs engine errors admitted).Reachable ⟨later, world, left ++ right, watched⟩ := by
  have handled := reached.next (.handle rfl rfl allowed)
  rw [ended] at handled
  simpa [Errand.created] using handled

end Background

/-- The account of the article, with a category. -/
def filedAccount : RemoteAccount := { loneUnread with categories := [⟨1, ""⟩] }

/-- The change on its way to the server. -/
def readMark : PendingMutation := ⟨1, .read, true, 1⟩

/-- The store once the server has it. -/
def deliveredStore : Store := retainedStore.commit (retainedStore.acknowledge "account" readMark)

/-- The list without the article. -/
def emptiedSnapshot : SnapshotData := { filedSnapshot with entries := [], total := 0 }

/-- The store after the refresh. -/
def emptiedStore : Store :=
  deliveredStore.commit (deliveredStore.applySnapshot "t" "account" emptiedSnapshot)

theorem navigation_filedAccount : (filedAccount.setRead [1] true).navigation bareHost =
    ([⟨1, "", 0, []⟩], 0) := by
  have categories : (filedAccount.setRead [1] true).categories = [⟨1, ""⟩] := rfl
  have feeds : (filedAccount.setRead [1] true).feeds = [] := rfl
  unfold RemoteAccount.navigation
  rw [categories, feeds]
  simp [dtoMappingInputs, buildNavigation, sortByTitle]

theorem browsed_filedAccount :
    (filedAccount.setRead [1] true).browsed bareHost (.all 0 true) = emptiedSnapshot := by
  unfold RemoteAccount.browsed
  rw [navigation_filedAccount]
  decide

theorem pending_retainedStore : retainedStore.pending .storage "account" = [readMark] := by
  have rows : retainedStore.pendingMutations.select (fun row => row.accountId = "account") =
      [⟨"account", 1, .read, true, 1, "t"⟩] := by decide
  simp only [Store.pending, rows, Scan.storage, List.mergeSort_singleton]
  rfl

theorem acknowledged_retainedStore :
    retainedStore.acknowledge "account" readMark = .ok deliveredStore :=
  @Store.commit_of_isOk retainedStore (retainedStore.acknowledge "account" readMark) (by decide)

theorem applied_deliveredStore :
    deliveredStore.applySnapshot "t" "account" emptiedSnapshot = .ok emptiedStore :=
  @Store.commit_of_isOk deliveredStore (deliveredStore.applySnapshot "t" "account" emptiedSnapshot)
    (by decide)

theorem snapshot_emptied :
    emptiedStore.localSnapshot .storage "account" (.all 0 true) true [] = .ok emptiedSnapshot := by
  have navigation := @navigation_filed emptiedStore (by decide) (by decide)
  have rows : emptiedStore.entries.select (fun row =>
      Store.selectionClause "account" (.all 0 true) row ||
        (row.accountId = "account" && row.id ∈ ([] : List Int))) = [] := by decide
  have listed : emptiedStore.snapshotEntries .storage "account" (.all 0 true) true [] = [] := by
    simp only [Store.snapshotEntries, rows, Scan.storage, List.mergeSort_nil]
    rfl
  have shown := @Store.localSnapshot_parts emptiedStore "account" .storage (.all 0 true) true []
    _ _ _ 0 0 0 0 rfl navigation listed (by decide) (by decide) (by decide) (by decide)
  exact shown.trans (by decide)

/-- What a refresh in the background asks for, with nothing to retain. -/
def backgroundRequest : CoreRequest where
  operation := "refresh"
  selection := some (.all true)
  retainEntryIDs := some []

/-- The refresh first delivers the change. -/
theorem flushed_retained {world : World RemoteAccount} (stored : world.store = retainedStore)
    (account : world.remote = filedAccount) : timelyService.flushed world = { world with
      store := deliveredStore
      remote := filedAccount.setRead [1] true
      transactions := world.transactions + 2
      checks := world.checks + 5 } := by
  refine SyncService.flushed_of_returns (SyncService.returns_flushPending_one (fun _ => rfl) ?_ ?_
    (stored ▸ acknowledged_retainedStore))
  · exact stored ▸ pending_retainedStore
  · exact account ▸ rfl

theorem request_background {errors : JsonErrors} {world : World RemoteAccount}
    (stored : world.store = retainedStore) (account : world.remote = filedAccount) :
    ∃ after, GoCore.request timelyService errors backgroundRequest world =
      (.ok (listing emptiedSnapshot), after) ∧ after.store = emptiedStore := by
  have read : parseRequest backgroundRequest.encode =
      some { operation := "refresh", selection := ⟨"all", 0, true⟩ } := by decide
  have flushed := flushed_retained stored account
  have browsed : Returns (browse timelyService.host timelyService.remote (.all 0 true))
      (timelyService.flushed world).remote emptiedSnapshot (filedAccount.setRead [1] true) := by
    have browsable : (filedAccount.setRead [1] true).Browsable (.all 0 true) :=
      ⟨by decide, by decide⟩
    rw [flushed]
    exact returns_browse.mpr ⟨browsable, browsed_filedAccount.symm, rfl⟩
  have applied : (timelyService.flushed world).store.applySnapshot "t" "account" emptiedSnapshot =
      .ok emptiedStore := by
    rw [flushed]
    exact applied_deliveredStore
  have ran := SyncService.returns_sync.mpr ⟨rfl, emptiedSnapshot, filedAccount.setRead [1] true,
    emptiedStore, browsed, applied, snapshot_emptied, fun _ _ => rfl, rfl⟩
  refine ⟨_, request_of_dispatch read rfl (respond_of_returns ran) (by decide), ?_⟩
  dsimp only

/-- The popover is closed, and a refresh asked for. -/
def refreshing : BrowserStore :=
  ({ opened with isPopoverVisible := false } : BrowserStore).refreshInBackground.1

/-- It is opened again, and the article marked read before the refresh is answered. -/
def reopened : BrowserStore := { refreshing with isPopoverVisible := true }

/-- The mark is answered. -/
def keptRow : BrowserStore :=
  ((reopened.setRead unreadArticle true).1.finish (.mutate 1 1 readRequest)
    (.ok (listing retainedSnapshot))).1

/-- The refresh is answered. -/
def lostRow : BrowserStore :=
  (keptRow.finish (.refresh 1 1 backgroundRequest .background) (.ok (listing emptiedSnapshot))).1

/-- The errand of the refresh, before and after the core answers. -/
def backgroundErrand (phase : Phase) : Errand :=
  ⟨.refresh 1 1 backgroundRequest .background, phase, [], []⟩

section Refreshed
variable {errors : JsonErrors} {world : World RemoteAccount}
  {admitted : WatchedPopover RemoteAccount → Errand → Prop}

/-- The mark is answered before the core executes the refresh. -/
theorem reachable_keptRow (stored : world.store = filedStore)
    (allowed : ∀ state errand, WatchedPopover.InTime state errand → admitted state errand) :
    (WatchedPopover.runs timelyService errors admitted).Reachable
      ⟨keptRow, world.loaded.marked, [backgroundErrand (.sent backgroundRequest)], [1]⟩ := by
  have filed : sessions.Reachable ⟨filedStore, fun _ => []⟩ :=
    reachable_write reachable_freshStore (.applySnapshot "t" "account" filedSnapshot) trivial
  have chosen : candidates timelyService loadRequest world.store world.loaded.store =
      [Store.entryRow "account" loneEntry] := by
    change candidates timelyService loadRequest world.store world.store = _
    rw [stored]
    decide
  have chosenLater : candidates timelyService readRequest world.loaded.store
      world.loaded.marked.store = [{ Store.entryRow "account" loneEntry with status := "read" }] := by
    change candidates timelyService readRequest world.store retainedStore = _
    rw [stored]
    decide
  have started : (WatchedPopover.runs timelyService errors admitted).Reachable
      ⟨.start false fun _ => none, world, [], []⟩ :=
    .start ⟨⟨⟨false, fun _ => none, rfl⟩, rfl, fun _ => [], stored ▸ filed⟩, rfl⟩
  have shown : (WatchedPopover.runs timelyService errors admitted).Reachable
      ⟨visible, world, [], []⟩ := started.next (.trigger (.setPopoverVisible true))
  have created : visible.perform .resumeAfterConfiguration =
      (visible.resumeAfterConfiguration.1, [.loadLocalThenRefresh 1 (.all true)]) := rfl
  have sent := errand_sent shown .resumeAfterConfiguration created rfl
  have executed := errand_executed sent (request_load stored) rfl chosen (by decide)
  have loaded : (WatchedPopover.runs timelyService errors admitted).Reachable
      ⟨opened, world.loaded, [], []⟩ :=
    errand_handled executed (allowed _ _ fun _ _ absurd => (by cases absurd)) rfl
  have closed : (WatchedPopover.runs timelyService errors admitted).Reachable
      ⟨{ opened with isPopoverVisible := false }, world.loaded, [], []⟩ :=
    loaded.next (.trigger (.setPopoverVisible false))
  have refreshed : ({ opened with isPopoverVisible := false } : BrowserStore).perform
      .refreshInBackground =
        (refreshing, [.refresh 1 1 backgroundRequest .background]) := rfl
  have asked := errand_sent closed .refreshInBackground refreshed rfl
  have again : (WatchedPopover.runs timelyService errors admitted).Reachable
      ⟨reopened, world.loaded, [backgroundErrand (.sent backgroundRequest)], []⟩ :=
    asked.next (.trigger (.setPopoverVisible true))
  have marking : reopened.perform (.setRead unreadArticle true) =
      ((reopened.setRead unreadArticle true).1, [.mutate 1 1 readRequest]) := rfl
  have watched : WatchedPopover.watch timelyService ⟨reopened, world.loaded,
      [backgroundErrand (.sent backgroundRequest)], []⟩ (.setRead unreadArticle true) = [1] := rfl
  have marked := errand_sent again (.setRead unreadArticle true) marking watched
  have answered := errand_executed marked (request_read stored) rfl chosenLater (by decide)
  exact errand_handled answered (allowed _ _ fun _ _ listed => .inl listed) rfl

end Refreshed

/-- The core as the app finds it, with the account of the article. -/
def backgroundWorld : World RemoteAccount := { filedWorld with remote := filedAccount }

theorem store_backgroundWorld : backgroundWorld.store = filedStore := by
  dsimp only [backgroundWorld, filedWorld]

/-! ## Rows marked read stay -/

/-- In every run that applies no response too late, an article marked read stays listed to
the end of the presentation; a response that is too late takes one away. -/
theorem marked_rows_stay {σ : Type} {engine : SyncService σ} {errors : JsonErrors}
    {state : WatchedPopover σ}
    (reached : (WatchedPopover.runs engine errors WatchedPopover.InTime).Reachable state) :
    state.Listed ∧ ∀ errand ∈ state.errands, ∀ outcome before after,
      errand.phase = .answered outcome before after →
      ((∀ id ∈ state.watched, id ∈ (state.browser.finish errand.task outcome).1.snapshot.entries.map
        Client.Article.id) ↔ state.InTime errand) := by
  have listed := WatchedPopover.listed_of_inTime reached
  refine ⟨listed, ?_⟩
  intro errand member outcome before after answered
  have sound := (WatchedPopover.sound_of_runs reached).errands errand member
  exact WatchedPopover.listed_handle_iff listed sound answered

/-- The article is marked read while a refresh waits, and is still listed. -/
theorem keptRow_listed : WatchedPopover.Listed ⟨keptRow, backgroundWorld.loaded.marked,
    [backgroundErrand (.sent backgroundRequest)], [1]⟩ := by
  have reached := @reachable_keptRow ⟨"", ""⟩ backgroundWorld WatchedPopover.InTime
    store_backgroundWorld fun _ _ inTime => inTime
  exact (marked_rows_stay reached).1

/-- A refresh asked for before the article is marked read, and executed after it, takes the
article out of the list: the request does not retain it, and the core has it read. -/
theorem background_refresh_removes_row : ¬ ∀ (errors : JsonErrors)
    (state : WatchedPopover RemoteAccount),
    (WatchedPopover.runs timelyService errors fun _ _ => True).Reachable state → state.Listed := by
  intro stays
  have kept := @reachable_keptRow ⟨"", ""⟩ backgroundWorld (fun _ _ => True)
    store_backgroundWorld fun _ _ _ => trivial
  obtain ⟨after, ran, left⟩ := @request_background ⟨"", ""⟩ backgroundWorld.loaded.marked rfl rfl
  have chosen : candidates timelyService backgroundRequest backgroundWorld.loaded.marked.store
      after.store = [] := by
    rw [left]
    decide
  have answered := @errand_executed _ _ _ _ _ _ _ [] [] _ _ _ _ _ _ kept ran rfl chosen (by decide)
  have lost : (WatchedPopover.runs timelyService ⟨"", ""⟩ fun _ _ => True).Reachable
      ⟨lostRow, after, [], [1]⟩ := errand_handled answered trivial rfl
  have listed : (1 : Int) ∈ lostRow.snapshot.entries.map Client.Article.id :=
    stays ⟨"", ""⟩ _ lost 1 List.mem_cons_self
  exact absurd listed (by decide)

end FluxBar
