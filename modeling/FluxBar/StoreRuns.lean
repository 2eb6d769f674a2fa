import FluxBar.StoreRefresh

/-! Runs of the store. Whatever order the writes of `fluxbar_core` come in, an
effective value is the pending one where a pending row stands and the remote one
elsewhere, and the queue of pending mutations drains. Both rest on each write
being moves of cells. -/
namespace FluxBar
open Relational WriteBehind Relation Transition

/-! ## Operations -/

/-- The writes of the store, acknowledgements aside, with everything each reads from outside
it. -/
inductive Operation where
  | ensureAccount (accountId server : String)
  | applySnapshot (now accountId : String) (snapshot : SnapshotData)
  | setRead (clock : Nat → String) (receiptId accountId : String) (entryIds : List Int)
      (read undoable : Bool)
  | setStarred (now accountId : String) (entryId : Int) (starred : Bool)
  | undo (scan : Scan) (clock : Nat → String) (accountId batchId : String)
  | discardUndo (accountId batchId : String)

/-- The transaction of an operation. -/
def Operation.run (store : Store) : Operation → Except StoreError Store
  | .ensureAccount accountId server => .ok (store.ensureAccount accountId server)
  | .applySnapshot now accountId snapshot => store.applySnapshot now accountId snapshot
  | .setRead clock receiptId accountId entryIds read undoable =>
    (store.setRead clock receiptId accountId entryIds read undoable).map Prod.fst
  | .setStarred now accountId entryId starred => .ok (store.setStarred now accountId entryId starred)
  | .undo scan clock accountId batchId => .ok (store.undo scan clock accountId batchId).1
  | .discardUndo accountId batchId => .ok (store.discardUndo accountId batchId)

/-- The store after a transaction, which is the old one when it failed. -/
def Store.commit (store : Store) : Except StoreError Store → Store
  | .ok after => after
  | .error _ => store

theorem Store.commit_of_isOk {store : Store} {result : Except StoreError Store}
    (done : result.isOk) : result = .ok (store.commit result) := by
  cases result with
  | ok after => rfl
  | error failure => cases done

/-- Stars go to stored entries, which `set_starred` itself does not check. -/
def Operation.OnStored (store : Store) : Operation → Prop
  | .setStarred _ accountId entryId _ => (store.entries.find? (accountId, entryId)).isSome
  | _ => True

namespace Store
variable {store after : Store} {accountId : String} {operation : Operation}

/-- The values a write may take over from the server: what a refresh shows, and nothing for
a local change. -/
def operationEvidence (store : Store) : Operation → Evidence
  | .applySnapshot _ accountId snapshot => RefreshEvidence store accountId snapshot
  | _ => fun _ _ _ _ => False

theorem changed_operation (stored : store.UndoStored) (onStored : operation.OnStored store)
    (ran : operation.run store = .ok after) :
    Changed (store.operationEvidence operation) store after := by
  cases operation with
  | ensureAccount accountId server =>
    simp only [Operation.run, Except.ok.injEq] at ran
    subst ran
    exact changed_ensureAccount
  | applySnapshot now accountId snapshot =>
    simp only [Operation.run] at ran
    exact changed_applySnapshot ran
  | setRead clock receiptId accountId entryIds read undoable =>
    simp only [Operation.run] at ran
    cases result : store.setRead clock receiptId accountId entryIds read undoable with
    | error failure => simp [result, Except.map] at ran
    | ok pair =>
      rw [result] at ran
      cases ran
      exact changed_setRead result
  | setStarred now accountId entryId starred =>
    cases ran
    exact changed_setStarred onStored
  | undo scan clock accountId batchId =>
    cases ran
    exact changed_undo stored
  | discardUndo accountId batchId =>
    cases ran
    exact changed_discardUndo

theorem changed_commit (stored : store.UndoStored) (onStored : operation.OnStored store) :
    Changed (store.operationEvidence operation) store (store.commit (operation.run store)) := by
  cases ran : operation.run store with
  | ok after => exact changed_operation stored onStored ran
  | error failure => exact .refl

/-! ## The queue -/

section Queue
variable {scan : Scan} {mutation : PendingMutation}

/-- `pending` lists the rows of the account, whatever order they are read in, and nothing
else. -/
theorem mem_pending : mutation ∈ store.pending scan accountId ↔
    ∃ row, store.pendingMutations.find? (accountId, mutation.entryId, mutation.field) = some row ∧
      mutation.desired = row.desired ∧ mutation.revision = row.revision := by
  simp only [pending, List.mem_map, List.mem_mergeSort, (scan.perm _).mem_iff, Table.select,
    List.mem_filter, decide_eq_true_eq, Table.find?_eq_some]
  constructor
  · rintro ⟨row, ⟨held, rfl⟩, rfl⟩
    exact ⟨row, ⟨held, rfl⟩, rfl, rfl⟩
  · rintro ⟨row, ⟨held, key⟩, desired, revision⟩
    simp only [Prod.mk.injEq] at key
    refine ⟨row, ⟨held, key.1⟩, ?_⟩
    cases mutation
    simp_all

/-- A listed mutation is the standing intent of its cell, with the revision it has at that
moment. -/
theorem ticket_of_mem_pending (listed : mutation ∈ store.pending scan accountId) :
    (store.cell accountId mutation.entryId mutation.field).intent = some mutation.ticket := by
  obtain ⟨row, found, desired, revision⟩ := mem_pending.mp listed
  simp only [cell, found, Option.map_some, PendingMutation.ticket, desired, revision]

/-- No field of an entry is listed twice. -/
theorem nodup_pending (store : Store) (scan : Scan) (accountId : String) :
    ((store.pending scan accountId).map fun mutation => (mutation.entryId, mutation.field)).Nodup := by
  let rows := store.pendingMutations.select fun row => row.accountId = accountId
  have keys : (rows.map PendingRow.key).Nodup :=
    (List.Sublist.map _ List.filter_sublist).nodup store.pendingMutations.unique
  have places : (rows.map fun row => (row.entryId, row.field)).Nodup := by
    refine (List.nodup_map_iff_inj_on (List.Nodup.of_map _ keys)).mpr ?_
    intro left leftHeld right rightHeld same
    have leftAccount : left.accountId = accountId := by
      simpa using (List.mem_filter.mp leftHeld).2
    have rightAccount : right.accountId = accountId := by
      simpa using (List.mem_filter.mp rightHeld).2
    refine List.inj_on_of_nodup_map keys leftHeld rightHeld ?_
    simp only [Prod.mk.injEq] at same
    simp [leftAccount, rightAccount, same]
  unfold pending
  rw [List.map_map]
  exact ((((List.mergeSort_perm _ _).trans (scan.perm rows)).map _).nodup_iff).mpr places

end Queue

/-! ## Founded stores -/

/-- Every pending row and every undo item names an entry that is stored. Runs keep this
where stars go to stored entries, and it is what lets a queue drain. -/
structure Founded (store : Store) : Prop where
  pending : ∀ accountId entryId field,
    (store.cell accountId entryId field).intent.isSome →
      (store.cell accountId entryId field).copy.isSome
  undoStored : store.UndoStored

theorem Founded.changed {seen : Evidence} (founded : store.Founded)
    (changed : Changed seen store after) : after.Founded :=
  ⟨fun accountId entryId field => Cell.founded_moves (founded.pending accountId entryId field)
    (changed.moved accountId entryId field), changed.undoStored founded.undoStored⟩

theorem Founded.acknowledge {mutation : PendingMutation} (founded : store.Founded)
    (done : store.acknowledge accountId mutation = .ok after) : after.Founded := by
  constructor
  · intro otherAccount otherEntry otherField
    by_cases here : (otherAccount, otherEntry, otherField) =
        (accountId, mutation.entryId, mutation.field)
    · simp only [Prod.mk.injEq] at here
      obtain ⟨rfl, rfl, rfl⟩ := here
      rw [cell_acknowledge done]
      intro intended
      have before : (store.cell otherAccount mutation.entryId mutation.field).intent.isSome := by
        obtain ⟨intent, stands⟩ := Option.isSome_iff_exists.mp intended
        exact Option.isSome_iff_exists.mpr ⟨intent, (Option.filter_eq_some_iff.mp stands).1⟩
      simpa [Cell.acknowledge] using founded.pending _ _ _ before
    · rw [cell_acknowledge_other done here]
      exact founded.pending _ _ _
  · intro item held
    rw [(acknowledge_parts done).2.1] at held
    have stored := founded.undoStored item held
    rw [find?_acknowledge done]
    simpa using stored

/-- Every pending row names a stored entry. -/
theorem Founded.stored (founded : store.Founded) {row : PendingRow}
    (held : row ∈ store.pendingMutations.rows) :
    (store.entries.find? (row.accountId, row.entryId)).isSome := by
  refine cell_known.mp (founded.pending row.accountId row.entryId row.field ?_)
  rw [cell_pending]
  exact Table.has_iff.mpr ⟨row, Table.find?_of_mem held⟩

/-- Acknowledging any mutations of stored entries, one after the other, succeeds; by
induction on them, since no acknowledgement drops an entry. -/
theorem acknowledge_all {mutations : List PendingMutation}
    (stored : ∀ mutation ∈ mutations, (store.entries.find? (accountId, mutation.entryId)).isSome) :
    (mutations.foldlM (fun (store : Store) mutation => store.acknowledge accountId mutation)
      store).isOk := by
  induction mutations generalizing store with
  | nil => rfl
  | cons mutation rest ih =>
    rw [List.foldlM_cons]
    cases first : store.acknowledge accountId mutation with
    | error failure =>
      have done := acknowledge_isOk_iff.mpr (stored mutation List.mem_cons_self)
      simp [first, Except.isOk, Except.toBool] at done
    | ok middle =>
      refine ih fun other listed => ?_
      rw [find?_acknowledge first]
      simpa using stored other (List.mem_cons_of_mem mutation listed)

end Store

/-- Runs of public operations from an empty store, under a condition on the
operations; any mutation may be acknowledged at any time. -/
def storeRuns (admitted : Store → Operation → Prop) : System Store where
  initial store := store = .empty
  step store after :=
    (∃ operation, admitted store operation ∧ after = store.commit (operation.run store)) ∨
    (∃ accountId mutation, after = store.commit (store.acknowledge accountId mutation))

theorem founded_of_reachable {store : Store}
    (reached : (storeRuns fun store operation => operation.OnStored store).Reachable store) :
    store.Founded := by
  refine reached.invariant Store.Founded ?_ ?_
  · rintro store rfl
    refine ⟨fun _ _ _ intended => ?_, fun _ held => by cases held⟩
    simp [Store.cell, Store.empty] at intended
  · rintro store after _ founded (⟨operation, onStored, rfl⟩ | ⟨accountId, mutation, rfl⟩)
    · exact founded.changed (Store.changed_commit founded.undoStored onStored)
    · cases done : store.acknowledge accountId mutation with
      | ok after => exact founded.acknowledge done
      | error failure => exact founded

/-- Every pending row names a stored entry, each listed mutation can be
acknowledged, and so can the whole queue in turn. -/
def Store.QueueDrains (store : Store) : Prop :=
  (∀ row ∈ store.pendingMutations.rows,
    (store.entries.find? (row.accountId, row.entryId)).isSome) ∧
  ∀ scan accountId,
    (∀ mutation ∈ store.pending scan accountId, (store.acknowledge accountId mutation).isOk) ∧
    ((store.pending scan accountId).foldlM
      (fun (store : Store) mutation => store.acknowledge accountId mutation) store).isOk

/-- Where stars only go to stored entries, nothing blocks the queue: every pending row has
its entry, so that each listed mutation can be acknowledged, and so can the whole queue in
turn. -/
theorem queue_drains {store : Store}
    (reached : (storeRuns fun store operation => operation.OnStored store).Reachable store) :
    store.QueueDrains := by
  have founded := founded_of_reachable reached
  have stored : ∀ scan accountId, ∀ mutation ∈ store.pending scan accountId,
      (store.entries.find? (accountId, mutation.entryId)).isSome := by
    intro scan accountId mutation listed
    refine Store.cell_known.mp (founded.pending accountId mutation.entryId mutation.field ?_)
    rw [Store.ticket_of_mem_pending listed]
    rfl
  refine ⟨fun row held => founded.stored held, fun scan accountId => ⟨?_, ?_⟩⟩
  · intro mutation listed
    exact Store.acknowledge_isOk_iff.mpr (stored scan accountId mutation listed)
  · exact Store.acknowledge_all (stored scan accountId)

/-- One unread article. -/
def oneUnread : SnapshotData where
  version := 1
  selection := .all 0 true
  entries := [{
    id := 1, title := "", url := "", commentsUrl := "", feedId := 1, feedName := ""
    categoryId := 1, publishedAtRfc3339 := "", preview := "", imageUrl := ""
    status := .unread, starred := false }]
  categories := []
  total := 1
  unreadTotal := 1
  starredTotal := 0

/-- The article is stored. -/
def storedStore : Store :=
  Store.empty.commit (Operation.run .empty (.applySnapshot "t" "account" oneUnread))

/-- It is starred. -/
def starredStore : Store :=
  storedStore.commit (Operation.run storedStore (.setStarred "t" "account" 1 true))

/-- The star of a stored article, listed and acknowledged. -/
theorem starred_article_drains : starredStore.QueueDrains := by
  have start : (storeRuns fun store operation => operation.OnStored store).Reachable .empty :=
    .start rfl
  have stored : (storeRuns fun store operation => operation.OnStored store).Reachable storedStore :=
    start.next (Or.inl ⟨.applySnapshot "t" "account" oneUnread, trivial, rfl⟩)
  have held : (storedStore.entries.find? ("account", 1)).isSome := by decide
  exact queue_drains (stored.next (Or.inl ⟨.setStarred "t" "account" 1 true, held, rfl⟩))

/-- A store in which an article was starred before any refresh stored it. -/
def strayStar : Store := Store.empty.setStarred "now" "account" 7 true

/-- `set_starred` queues a mutation for any id, and one for an entry that is not stored is
never acknowledged. -/
theorem stray_star_blocks_queue :
    ¬ ∀ store, (storeRuns fun _ _ => True).Reachable store → store.QueueDrains := by
  intro drains
  have reached : (storeRuns fun _ _ => True).Reachable strayStar :=
    .next (.start rfl) (Or.inl ⟨.setStarred "now" "account" 7 true, trivial, rfl⟩)
  have stored := (drains strayStar reached).1
    { accountId := "account", entryId := 7, field := .starred, desired := true, revision := 1,
      updatedAt := "now" } (by decide)
  exact absurd stored (by decide)

/-! ## Sessions -/

/-- The store, and of the latest `pending` call of each account the mutations not
acknowledged yet. -/
structure Session where
  store : Store
  listed : String → List PendingMutation

/-- The moves of a session. A flush holds the sync gate, so what it acknowledges
is what the latest call listed, each mutation once. -/
inductive Session.Step : Session → Session → Prop where
  | write {session : Session} (operation : Operation) : operation.OnStored session.store →
      Step session { session with store := session.store.commit (operation.run session.store) }
  | list {session : Session} (scan : Scan) (accountId : String) :
      Step session { session with
        listed := Function.update session.listed accountId (session.store.pending scan accountId) }
  | acknowledge {session : Session} (accountId : String) (mutation : PendingMutation) :
      mutation ∈ session.listed accountId →
      Step session {
        store := session.store.commit (session.store.acknowledge accountId mutation)
        listed := Function.update session.listed accountId
          ((session.listed accountId).erase mutation) }

def sessions : System Session where
  initial session := session.store = .empty ∧ ∀ accountId, session.listed accountId = []
  step := Session.Step

/-- Mutations that still speak for the cells they came from, one for each, so that settling
one leaves the others standing. -/
structure Store.Stand (store : Store) (accountId : String) (mutations : List PendingMutation) :
    Prop where
  standing : ∀ mutation ∈ mutations,
    mutation.ticket.Standing (store.cell accountId mutation.entryId mutation.field)
  distinct : (mutations.map fun mutation => (mutation.entryId, mutation.field)).Nodup

theorem Store.stand_pending (store : Store) (scan : Scan) (accountId : String) :
    store.Stand accountId (store.pending scan accountId) :=
  ⟨fun _ listed => Intent.standing_self (ticket_of_mem_pending listed),
    nodup_pending store scan accountId⟩

/-- Once a mutation is settled the others listed with it concern other cells. -/
theorem Store.Stand.erase {store after : Store} {accountId : String} {mutation : PendingMutation}
    {mutations : List PendingMutation} (stand : store.Stand accountId mutations)
    (listed : mutation ∈ mutations)
    (elsewhere : ∀ entryId field, (entryId, field) ≠ (mutation.entryId, mutation.field) →
      after.cell accountId entryId field = store.cell accountId entryId field) :
    after.Stand accountId (mutations.erase mutation) := by
  refine ⟨fun other held => ?_, (List.erase_sublist.map _).nodup stand.distinct⟩
  obtain ⟨unlike, member⟩ := (List.Nodup.of_map _ stand.distinct).mem_erase_iff.mp held
  rw [elsewhere]
  · exact stand.standing other member
  · exact fun same => unlike (List.inj_on_of_nodup_map stand.distinct member listed same)

/-- The effective values follow the pending rows and the baselines, and every
mutation still to be acknowledged stands. -/
structure Session.Sound (session : Session) : Prop where
  coherent : ∀ accountId entryId field, (session.store.cell accountId entryId field).Coherent
  undoStored : session.store.UndoStored
  stand : ∀ accountId, session.store.Stand accountId (session.listed accountId)

theorem Session.sound_step {session after : Session} (sound : session.Sound)
    (step : Session.Step session after) : after.Sound := by
  obtain ⟨coherent, undoStored, stand⟩ := sound
  cases step with
  | write operation onStored =>
    have changed := Store.changed_commit undoStored onStored
    refine ⟨fun accountId entryId field => ?_, changed.undoStored undoStored, fun accountId => ?_⟩
    · exact Cell.coherent_moves (coherent accountId entryId field)
        (changed.moved accountId entryId field)
    · refine ⟨fun mutation listed => ?_, (stand accountId).distinct⟩
      exact Intent.standing_moves ((stand accountId).standing mutation listed)
        (changed.moved accountId mutation.entryId mutation.field)
  | list scan accountId =>
    refine ⟨coherent, undoStored, (Function.forall_update_iff session.listed fun account =>
      session.store.Stand account).mpr ⟨?_, fun other _ => stand other⟩⟩
    exact Store.stand_pending session.store scan accountId
  | acknowledge accountId mutation listed =>
    cases done : session.store.acknowledge accountId mutation with
    | error failure =>
      refine ⟨coherent, undoStored, (Function.forall_update_iff session.listed fun account =>
        session.store.Stand account).mpr ⟨?_, fun other _ => stand other⟩⟩
      exact (stand accountId).erase listed fun _ _ _ => rfl
    | ok store =>
      refine ⟨?_, ?_, (Function.forall_update_iff session.listed fun account =>
        store.Stand account).mpr ⟨?_, ?_⟩⟩
      · intro other entryId field
        by_cases here : (other, entryId, field) = (accountId, mutation.entryId, mutation.field)
        · simp only [Prod.mk.injEq] at here
          obtain ⟨rfl, rfl, rfl⟩ := here
          exact Store.cell_acknowledge done ▸
            Cell.coherent_acknowledge (coherent _ _ _) ((stand other).standing mutation listed)
        · exact Store.cell_acknowledge_other done here ▸ coherent other entryId field
      · intro item held
        have stored := undoStored item ((Store.acknowledge_parts done).2.1 ▸ held)
        show (store.entries.find? _).isSome
        rw [Store.find?_acknowledge done]
        simpa using stored
      · refine (stand accountId).erase listed fun entryId field apart => ?_
        exact Store.cell_acknowledge_other done fun same => apart (Prod.mk.inj same).2
      · intro other apart
        refine ⟨fun left held => ?_, (stand other).distinct⟩
        have elsewhere : (other, left.entryId, left.field) ≠
            (accountId, mutation.entryId, mutation.field) :=
          fun same => apart (Prod.mk.inj same).1
        exact Store.cell_acknowledge_other done elsewhere ▸ (stand other).standing left held

theorem reachable_write {store : Store} {listed : String → List PendingMutation}
    (reached : sessions.Reachable ⟨store, listed⟩) (operation : Operation)
    (onStored : operation.OnStored store) :
    sessions.Reachable ⟨store.commit (operation.run store), listed⟩ :=
  reached.next (.write operation onStored)

theorem sound_of_reachable {session : Session} (reached : sessions.Reachable session) :
    session.Sound := by
  refine reached.invariant Session.Sound ?_ fun _ _ _ sound step => Session.sound_step sound step
  rintro session ⟨empty, unlisted⟩
  refine ⟨fun accountId entryId field => ?_, ?_, fun accountId => ?_⟩
  · have unknown : session.store.cell accountId entryId field = ⟨none, none⟩ := by
      rw [empty]
      rfl
    exact unknown ▸ Cell.coherent_unknown
  · rw [empty]
    exact fun _ held => by cases held
  · rw [unlisted]
    exact ⟨fun _ listed => (by cases listed), List.nodup_nil⟩

/-- In every state a session reaches, whatever operations, lists and acknowledgements have
interleaved: an effective value is the desired one of its pending row, whose entry is
stored, or with no pending row the remote one. -/
theorem effective_values_of_reachable {session : Session} (reached : sessions.Reachable session)
    (accountId : String) (entryId : Int) (field : MutationField) :
    (∀ pending,
      session.store.pendingMutations.find? (accountId, entryId, field) = some pending →
      ∃ row, session.store.entries.find? (accountId, entryId) = some row ∧
        field.effective row = field.value pending.desired) ∧
    (session.store.pendingMutations.find? (accountId, entryId, field) = none →
      ∀ row, session.store.entries.find? (accountId, entryId) = some row →
        field.effective row = field.baseline row) := by
  have coherent := (sound_of_reachable reached).coherent accountId entryId field
  constructor
  · intro pending found
    obtain ⟨copy, held, shown⟩ := coherent.intended
      ⟨field.value pending.desired, pending.revision⟩ (by simp [Store.cell, found])
    simp only [Store.cell, Option.map_eq_some_iff] at held
    obtain ⟨row, stored, rfl⟩ := held
    exact ⟨row, stored, shown⟩
  · intro absent row stored
    exact coherent.settled (by simp [Store.cell, absent]) (field.copy row)
      (by simp [Store.cell, stored])

/-- It is marked read. -/
def markedStore : Store :=
  storedStore.commit
    (Operation.run storedStore (.setRead (fun _ => "t") "id" "account" [1] true false))

/-- It is marked unread again. -/
def supersededStore : Store :=
  markedStore.commit
    (Operation.run markedStore (.setRead (fun _ => "t") "id" "account" [1] false false))

/-- The delivery of the first change, listed before the second one. -/
def firstMark : PendingMutation := ⟨1, .read, true, 1⟩

theorem firstMark_listed : firstMark ∈ markedStore.pending .storage "account" :=
  Store.mem_pending.mpr ⟨⟨"account", 1, .read, true, 1, "t"⟩, by decide, rfl, rfl⟩

/-- A change made between listing and acknowledgement keeps its pending row and its
effective value: the acknowledgement deletes the revision that was listed, and no later one.
-/
theorem superseded_change_survives : ∃ session, sessions.Reachable session ∧
    ∃ row, session.store.entries.find? ("account", 1) = some row ∧ row.status = "unread" := by
  have start : sessions.Reachable ⟨.empty, fun _ => []⟩ := .start ⟨rfl, fun _ => rfl⟩
  have stored : sessions.Reachable ⟨storedStore, fun _ => []⟩ :=
    reachable_write start (.applySnapshot "t" "account" oneUnread) trivial
  have marked : sessions.Reachable ⟨markedStore, fun _ => []⟩ :=
    reachable_write stored (.setRead (fun _ => "t") "id" "account" [1] true false) trivial
  have listed := marked.next (.list .storage "account")
  have superseded : sessions.Reachable ⟨supersededStore, Function.update (fun _ => []) "account"
      (markedStore.pending .storage "account")⟩ :=
    reachable_write listed (.setRead (fun _ => "t") "id" "account" [1] false false) trivial
  have member : firstMark ∈ Function.update (fun _ => []) "account"
      (markedStore.pending .storage "account") "account" := by
    rw [Function.update_self]
    exact firstMark_listed
  have acknowledged := superseded.next (.acknowledge "account" firstMark member)
  obtain ⟨row, found, shown⟩ := (effective_values_of_reachable acknowledged "account" 1 .read).1
    ⟨"account", 1, .read, false, 2, "t"⟩ (by decide)
  exact ⟨_, acknowledged, row, found, shown⟩

end FluxBar
