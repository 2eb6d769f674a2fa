import FluxBar.EntryBodies
import FluxBar.ListStability

/-! Refreshes from answers with missing members. What a fetch takes for a complete result the
store takes for evidence of absence. -/
namespace FluxBar
open Procedure JsonFormat

variable {σ : Type}

/-! ## The fetch of a browse -/

/-- The requests `browse` makes before it fetches the selection, none of which is answered
with entries. -/
def browseStart (remote : RemoteInbox σ) (selection : Selection) : ExceptT String (StateM σ) Int := do
  let _ ← describe "Miniflux-Zähler laden" remote.unreadCounters
  if selection.isStarred then pure 0
  else describe "markierte Miniflux-Einträge zählen" remote.starredTotal

/-- A browse fails with its fetch, in the words of the step that fetches the entries. -/
theorem browse_fails {host : Host} {remote : RemoteInbox σ} {selection : Selection} {counted : Int}
    {before state after : σ} {failure : RemoteError}
    (begun : Returns (browseStart remote selection) before counted state)
    (failed : Fails (remote.fetchCompleteSelection (browseFilter selection)) state failure after) :
    Fails (browse host remote selection) before
      s!"Miniflux-Einträge laden: {failure.display}" after := by
  obtain ⟨counters, middle, first, second⟩ := returns_bind.mp begun
  have fetch : Fails (describe "Miniflux-Einträge laden"
      (remote.fetchCompleteSelection (browseFilter selection))) state
      s!"Miniflux-Einträge laden: {failure.display}" after := fails_adapt.mpr ⟨failure, failed, rfl⟩
  unfold browse
  refine fails_bind.mpr (.inr ⟨counters, middle, first, ?_⟩)
  dsimp only
  split
  · rename_i starred
    rw [if_pos starred] at second
    exact fails_bind.mpr (.inr ⟨counted, state, second, bind_of_fails fetch⟩)
  · rename_i other
    rw [if_neg other] at second
    exact fails_bind.mpr (.inr ⟨counted, state, second, bind_of_fails fetch⟩)

/-- The state columns of an entry. -/
def EntryRow.states (row : EntryRow) : String × String × Bool × Bool :=
  (row.status, row.remoteStatus, row.starred, row.remoteStarred)

namespace SyncService
variable (service : SyncService σ) {world : World σ} {selection : Selection} {retainIds : List Int}

/-- A sync whose fetch fails: it returns a partial result if it returns, and what the flush
before it left of the entries' states stays. -/
structure Refused (selection : Selection) (retainIds : List Int) (world : World σ) (state : σ) :
    Prop where
  fails : ∃ failure after,
    Fails (service.remote.fetchCompleteSelection (browseFilter selection)) state failure after
  partialResult : ∀ result after, Returns (service.sync selection retainIds) world result after →
    ∃ snapshot error, result = .partialResult snapshot error
  unchanged : ∀ key,
    ((service.sync selection retainIds world).2.store.entries.find? key).map EntryRow.states =
      ((service.flushed world).store.entries.find? key).map EntryRow.states

variable {service}

theorem store_localSnapshotUntil (world : World σ) :
    (service.localSnapshotUntil selection retainIds world).2.store = world.store := by
  unfold localSnapshotUntil localSnapshot
  refine holds_bind (fun after : World σ => after.store = world.store)
    (fun _ _ => store_ensureBefore service world) ?_
  intro _ locked lock
  obtain ⟨_, rfl⟩ := returns_lockUntil.mp lock
  have consulted : ∀ query : Store → Except StoreError SnapshotData, ∀ found : World σ,
      (consult query found : Except String SnapshotData × World σ).2.store = found.store := by
    intro query found
    unfold consult
    rw [store_transact]
    cases query found.store <;> rfl
  refine holds_bind (fun after : World σ => after.store = world.store)
    (fun _ _ => consulted _ _) ?_
  intro snapshot middle shown
  obtain ⟨_, rfl⟩ := returns_consult.mp shown
  refine holds_bind (fun after : World σ => after.store = world.store)
    (fun _ _ => store_ensureBefore service _) ?_
  intro _ middle checked
  obtain ⟨_, rfl⟩ := returns_ensureBefore.mp checked
  rfl

/-- A sync whose browse fails leaves the store to its flush, and shows what is stored, with
the error. -/
theorem sync_of_failed_browse {failure : String} {remote : σ}
    (timely : service.timely world.checks = true)
    (failed : Fails (browse service.host service.remote selection) (service.flushed world).remote
      failure remote) :
    (∀ result after, Returns (service.sync selection retainIds) world result after →
      ∃ snapshot, result = .partialResult snapshot failure) ∧
    (service.sync selection retainIds world).2.store = (service.flushed world).store := by
  have locked : Returns service.lockUntil world () { world with checks := world.checks + 1 } :=
    returns_lockUntil.mpr ⟨timely, rfl⟩
  have flushed : Returns (tryCatch service.flushPending fun _ => pure PUnit.unit)
      { world with checks := world.checks + 1 } () (service.flushed world) :=
    returns_attempt.mpr rfl
  have browsed : Returns (observing (request (browse service.host service.remote selection)))
      (service.flushed world) (.error failure) { service.flushed world with remote } :=
    returns_observing.mpr (fails_request.mpr ⟨remote, failed, rfl⟩)
  have ran : service.sync selection retainIds world =
      (do
        let snapshot ← service.localSnapshotUntil selection retainIds
        return .partialResult snapshot failure : SyncM σ SyncResult)
        { service.flushed world with remote } := by
    unfold sync syncSerialized
    rw [bind_of_returns locked, bind_of_returns flushed, bind_of_returns browsed]
  constructor
  · intro result after returned
    unfold Returns at returned
    rw [ran] at returned
    obtain ⟨snapshot, _, _, answered⟩ := returns_bind.mp returned
    exact ⟨snapshot, (returns_pure.mp answered).1.symm⟩
  · rw [ran]
    have kept : (service.localSnapshotUntil selection retainIds
        { service.flushed world with remote }).2.store = (service.flushed world).store :=
      store_localSnapshotUntil { service.flushed world with remote }
    refine holds_bind (fun after : World σ => after.store = (service.flushed world).store)
      (fun _ _ => kept) ?_
    intro snapshot middle shown
    rw [show service.localSnapshotUntil selection retainIds { service.flushed world with remote } =
      (.ok snapshot, middle) from shown] at kept
    exact kept

/-- What the entries requests of a sync's fetch are answered, from where its first two
requests have brought the server. -/
structure FetchAnswered (service : SyncService σ) (http : MinifluxHttp σ) (selection : Selection)
    (world : World σ) (state : σ) (bodies : List Json) : Prop where
  timely : service.timely world.checks = true
  begun : ∃ counted, Returns (browseStart service.remote selection) (service.flushed world).remote
    counted state
  answers : Bodies http (browseFilter selection) .start state bodies

/-- A sync that is given a malformed answer is refused exactly when that answer is not
overlooked. Overlooked is a single body that names no total other than 0 and no entry: it is
taken for a complete empty result. -/
theorem refused_iff_not_overlooked {http : MinifluxHttp σ} {state : σ} {bodies : List Json}
    (remote : service.remote = http.api.inbox)
    (answered : FetchAnswered service http selection world state bodies)
    (malformed : ∃ body ∈ bodies, Malformed body) :
    service.Refused selection retainIds world state ↔ ¬ Overlooked bodies := by
  have unseen : ∀ id ∈ FetchProgress.start.seen, id ≤ FetchProgress.start.afterEntryId :=
    fun _ absurd => by simp [FetchProgress.start] at absurd
  have returned := returns_fetchFrom_iff answered.answers unseen
  rw [lists_iff_overlooked malformed] at returned
  have fetch : service.remote.fetchCompleteSelection (browseFilter selection) =
      fetchFrom http.api (browseFilter selection) .start := by
    rw [remote]
    rfl
  rw [← returned, ← fetch]
  constructor
  · rintro ⟨⟨failure, after, failed⟩, _, _⟩ ⟨found, went⟩
    rw [show service.remote.fetchCompleteSelection (browseFilter selection) state =
      (.error failure, after) from failed] at went
    cases went
  · intro fails
    rcases ends (service.remote.fetchCompleteSelection (browseFilter selection)) state with
      ⟨found, after, went⟩ | ⟨failure, after, failed⟩
    · exact absurd ⟨found, congrArg Prod.fst went⟩ fails
    · obtain ⟨counted, begun⟩ := answered.begun
      obtain ⟨partially, kept⟩ := @sync_of_failed_browse σ service world selection retainIds _ _
        answered.timely (browse_fails begun failed)
      refine ⟨⟨failure, after, failed⟩, ?_, fun key => by rw [kept]⟩
      intro result after ran
      obtain ⟨snapshot, same⟩ := partially result after ran
      exact ⟨snapshot, _, same⟩

end SyncService

/-! ## A server of one body -/

/-- A server that answers every entries request with one body, and lists one category. -/
def httpOf (body : Json) : MinifluxHttp Unit where
  requests := {
    entries := fun _ => throw .notFound
    entry := fun _ => throw .notFound
    categories := pure [⟨1, ""⟩]
    feeds := pure []
    counters := pure ⟨[]⟩
    updateEntries := fun _ _ => pure ()
    toggleStarred := fun _ => pure () }
  body _ := pure body
  complaint _ := ""

/-- A service that is never late, on this server. -/
def serviceOf (body : Json) : SyncService Unit where
  accountId := "account"
  newestFirst := true
  remote := (httpOf body).api.inbox
  host := bareHost
  scan := .storage
  clock _ _ := "t"
  randomId _ := ""
  timely _ := true

/-- An unread article is stored. -/
def articleWorld : World Unit where
  store := filedStore
  remote := ()
  transactions := 0
  checks := 0
  requested := []

/-- A total without entries. -/
def totalOnly : Json := .object [("total", .int 3)]

theorem malformed_totalOnly : Malformed totalOnly :=
  .inr ⟨_, rfl, by simp⟩

theorem answered_totalOnly :
    (serviceOf totalOnly).FetchAnswered (httpOf totalOnly) (.all 0 true) articleWorld ()
      [totalOnly] where
  timely := rfl
  begun := ⟨3, rfl⟩
  answers := .last rfl fun result next decoded turn => by
    cases decoded
    cases turn

/-- A total without entries is refused: three articles are announced and none is listed. -/
theorem totalOnly_refused :
    (serviceOf totalOnly).Refused (.all 0 true) [] articleWorld () := by
  refine (SyncService.refused_iff_not_overlooked rfl answered_totalOnly
    ⟨totalOnly, List.mem_cons_self, malformed_totalOnly⟩).mpr ?_
  rintro (⟨body, same, blank⟩ | ⟨_, _, _, _, absurd, _⟩)
  · cases same
    rcases blank.total with absurd | absurd
    · cases absurd
    · cases absurd
  · cases absurd

/-- An empty object. -/
def emptyBody : Json := .object []

/-- What a browse makes of it. -/
def blankSnapshot : SnapshotData := { filedSnapshot with entries := [], total := 0 }

/-- The store after the refresh. -/
def blankedStore : Store :=
  filedStore.commit (filedStore.applySnapshot "t" "account" blankSnapshot)

theorem fetch_emptyBody (base : EntriesFilter) :
    Returns (fetchCompleteSelection (httpOf emptyBody).api base) () ([], 0) () := by
  unfold Returns fetchCompleteSelection
  rw [fetchFrom_turn]
  rfl

theorem browse_emptyBody :
    Returns (browse bareHost (httpOf emptyBody).api.inbox (.all 0 true)) () blankSnapshot () := by
  have navigation : buildNavigation bareHost.toLowercase
      (dtoMappingInputs [⟨1, ""⟩] []).1 (dtoMappingInputs [⟨1, ""⟩] []).2
      (FeedCountersDto.counter ⟨[]⟩) = ([⟨1, "", 0, []⟩], 0) := by
    simp [dtoMappingInputs, buildNavigation, sortByTitle]
  unfold browse
  refine returns_bind.mpr ⟨⟨[]⟩, (), rfl, ?_⟩
  refine returns_bind.mpr ⟨0, (), rfl, ?_⟩
  refine returns_bind.mpr ⟨([], 0), (), returns_adapt.mpr (fetch_emptyBody _), ?_⟩
  refine returns_bind.mpr ⟨[⟨1, ""⟩], (), rfl, ?_⟩
  refine returns_bind.mpr ⟨[], (), rfl, ?_⟩
  dsimp only
  rw [navigation]
  rfl

theorem applySnapshot_filed :
    filedStore.applySnapshot "t" "account" blankSnapshot = .ok blankedStore :=
  Store.commit_of_isOk (by decide)

theorem snapshot_blanked :
    blankedStore.localSnapshot .storage "account" (.all 0 true) true [] = .ok blankSnapshot := by
  have navigation := @navigation_filed blankedStore (by decide) (by decide)
  have rows : blankedStore.entries.select (fun row =>
      Store.selectionClause "account" (.all 0 true) row ||
        (row.accountId = "account" && row.id ∈ ([] : List Int))) = [] := by decide
  have listed : blankedStore.snapshotEntries .storage "account" (.all 0 true) true [] = [] := by
    simp only [Store.snapshotEntries, rows, Scan.storage, List.mergeSort_nil]
    rfl
  have shown := @Store.localSnapshot_parts blankedStore "account" .storage (.all 0 true) true []
    _ _ _ 0 0 0 0 rfl navigation listed (by decide) (by decide) (by decide) (by decide)
  exact shown.trans (by decide)

theorem store_articleWorld : articleWorld.store = filedStore := by
  dsimp only [articleWorld]

theorem flushed_articleWorld (body : Json) :
    ((serviceOf body).flushed articleWorld).store = filedStore := by
  have idle : articleWorld.store.pending (serviceOf body).scan (serviceOf body).accountId = [] := by
    rw [store_articleWorld]
    refine List.eq_nil_iff_forall_not_mem.mpr fun mutation listed => ?_
    obtain ⟨row, found, _⟩ := Store.mem_pending.mp listed
    cases found
  rw [(SyncService.flushed_idle idle).1, store_articleWorld]

/-- An empty object is synced as an empty inbox: the stored article is no longer unread, for
the server's side as well, though the server was never heard on it. -/
theorem emptyBody_empties_inbox :
    Malformed emptyBody ∧
    (serviceOf emptyBody).FetchAnswered (httpOf emptyBody) (.all 0 true) articleWorld () [emptyBody] ∧
    (∃ snapshot after,
      Returns ((serviceOf emptyBody).sync (.all 0 true) []) articleWorld (.success snapshot) after ∧
      (articleWorld.store.entries.find? ("account", 1)).map EntryRow.states =
        some ("unread", "unread", false, false) ∧
      (after.store.entries.find? ("account", 1)).map EntryRow.states =
        some ("read", "read", false, false)) ∧
    ¬ (serviceOf emptyBody).Refused (.all 0 true) [] articleWorld () := by
  refine ⟨.inl ⟨[], rfl, by simp⟩, ⟨rfl, ⟨0, rfl⟩, .last rfl fun result next decoded turn => ?_⟩,
    ⟨blankSnapshot, _, SyncService.returns_sync.mpr ⟨rfl, blankSnapshot, (), blankedStore,
      browse_emptyBody, ?_, snapshot_blanked, fun _ _ => rfl, rfl⟩, by decide, by decide⟩, ?_⟩
  · cases decoded
    cases turn
  · rw [flushed_articleWorld]
    exact applySnapshot_filed
  · rintro ⟨⟨failure, after, failed⟩, _, _⟩
    cases (fetch_emptyBody _).symm.trans failed

end FluxBar
