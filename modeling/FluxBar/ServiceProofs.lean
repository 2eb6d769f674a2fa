import FluxBar.Sync
import FluxBar.StoreRuns
import FluxBar.Library.Procedure

/-! What the operations of the sync service do to the store. Each is made of
transactions, so a session follows it step by step, however it ends. -/
namespace FluxBar.SyncService
open Procedure Transition Relational

variable {σ α : Type} {service : SyncService σ} {world after : World σ}

/-! ## Steps -/

@[simp] theorem returns_ensureBefore {done : Unit} : Returns service.ensureBefore world done after ↔
    service.timely world.checks = true ∧ after = { world with checks := world.checks + 1 } := by
  unfold ensureBefore
  rw [returns_bind]
  simp only [returns_get, returns_bind, returns_set]
  constructor
  · rintro ⟨_, _, ⟨rfl, rfl⟩, _, _, rfl, ran⟩
    split at ran
    · rename_i timely
      exact ⟨timely, (returns_pure.mp ran).2.symm⟩
    · exact absurd ran not_returns_throw
  · rintro ⟨timely, rfl⟩
    refine ⟨_, _, ⟨rfl, rfl⟩, (), _, rfl, ?_⟩
    rw [if_pos timely]
    exact returns_pure.mpr ⟨rfl, rfl⟩

@[simp] theorem returns_lockUntil {done : Unit} : Returns service.lockUntil world done after ↔
    service.timely world.checks = true ∧ after = { world with checks := world.checks + 1 } :=
  returns_ensureBefore

@[simp] theorem returns_transact {change : Nat → Store → Except StoreError (Store × α)} {value : α} :
    Returns (transact change : SyncM σ α) world value after ↔
      ∃ store, change world.transactions world.store = .ok (store, value) ∧
        after = { world with store, transactions := world.transactions + 1 } := by
  unfold transact
  rw [returns_bind]
  simp only [returns_get]
  constructor
  · rintro ⟨world, _, ⟨rfl, rfl⟩, ran⟩
    cases changed : change world.transactions world.store with
    | error failure =>
      rw [changed] at ran
      obtain ⟨_, _, _, thrown⟩ := returns_bind.mp ran
      exact absurd thrown not_returns_throw
    | ok result =>
      rw [changed] at ran
      obtain ⟨_, _, put, returned⟩ := returns_bind.mp ran
      cases returns_set.mp put
      obtain ⟨rfl, rfl⟩ := returns_pure.mp returned
      exact ⟨result.1, rfl, rfl⟩
  · rintro ⟨store, changed, rfl⟩
    refine ⟨_, _, ⟨rfl, rfl⟩, ?_⟩
    rw [changed]
    exact returns_bind.mpr ⟨(), _, returns_set.mpr rfl, returns_pure.mpr ⟨rfl, rfl⟩⟩

@[simp] theorem returns_consult {query : Store → Except StoreError α} {value : α} :
    Returns (consult query : SyncM σ α) world value after ↔
      query world.store = .ok value ∧ after = { world with transactions := world.transactions + 1 } := by
  unfold consult
  rw [returns_transact]
  cases query world.store with
  | error failure => simp [Except.map]
  | ok found => simp [Except.map, and_assoc, eq_comm]

@[simp] theorem returns_request {call : ExceptT String (StateM σ) α} {value : α} :
    Returns (request call : SyncM σ α) world value after ↔
      ∃ remote, Returns call world.remote value remote ∧ after = { world with remote } := by
  unfold Returns request
  rcases call world.remote with ⟨outcome, remote⟩
  constructor
  · intro ran
    cases ran
    exact ⟨remote, rfl, rfl⟩
  · rintro ⟨_, ran, rfl⟩
    cases ran
    rfl

/-! ## Failures -/

section Failing
variable {failure : String}

@[simp] theorem fails_ensureBefore : Fails service.ensureBefore world failure after ↔
    service.timely world.checks = false ∧ failure = "context deadline exceeded" ∧
      after = { world with checks := world.checks + 1 } := by
  unfold ensureBefore
  simp only [fails_bind, not_fails_get, false_or, returns_get, not_fails_set, returns_set]
  constructor
  · rintro ⟨_, _, ⟨rfl, rfl⟩, _, _, rfl, ran⟩
    split at ran
    · exact absurd ran not_fails_pure
    · rename_i late
      obtain ⟨rfl, rfl⟩ := fails_throw.mp ran
      exact ⟨Bool.eq_false_iff.mpr late, rfl, rfl⟩
  · rintro ⟨late, rfl, rfl⟩
    refine ⟨_, _, ⟨rfl, rfl⟩, (), _, rfl, ?_⟩
    rw [if_neg (Bool.eq_false_iff.mp late)]
    exact fails_throw.mpr ⟨rfl, rfl⟩

@[simp] theorem fails_lockUntil : Fails service.lockUntil world failure after ↔
    service.timely world.checks = false ∧ failure = "context deadline exceeded" ∧
      after = { world with checks := world.checks + 1 } :=
  fails_ensureBefore

@[simp] theorem fails_transact {change : Nat → Store → Except StoreError (Store × α)} :
    Fails (transact change : SyncM σ α) world failure after ↔
      ∃ reason, change world.transactions world.store = .error reason ∧ failure = reason.message ∧
        after = { world with transactions := world.transactions + 1 } := by
  unfold transact
  simp only [fails_bind, not_fails_get, false_or, returns_get]
  constructor
  · rintro ⟨world, _, ⟨rfl, rfl⟩, ran⟩
    cases changed : change world.transactions world.store with
    | error reason =>
      rw [changed] at ran
      cases ran
      exact ⟨reason, rfl, rfl, rfl⟩
    | ok result =>
      rw [changed] at ran
      cases ran
  · rintro ⟨reason, changed, rfl, rfl⟩
    refine ⟨_, _, ⟨rfl, rfl⟩, ?_⟩
    rw [changed]
    rfl

@[simp] theorem fails_consult {query : Store → Except StoreError α} :
    Fails (consult query : SyncM σ α) world failure after ↔
      ∃ reason, query world.store = .error reason ∧ failure = reason.message ∧
        after = { world with transactions := world.transactions + 1 } := by
  unfold consult
  rw [fails_transact]
  cases query world.store with
  | error reason => simp [Except.map]
  | ok found => simp [Except.map]

@[simp] theorem fails_request {call : ExceptT String (StateM σ) α} :
    Fails (request call : SyncM σ α) world failure after ↔
      ∃ remote, Fails call world.remote failure remote ∧ after = { world with remote } := by
  unfold Fails request
  rcases call world.remote with ⟨outcome, remote⟩
  constructor
  · intro ran
    cases ran
    exact ⟨remote, rfl, rfl⟩
  · rintro ⟨_, ran, rfl⟩
    cases ran
    rfl

@[simp] theorem returns_scheduleFlush {delay : Nat} {done : PUnit} :
    Returns (scheduleFlush delay : SyncM σ PUnit) world done after ↔
      after = { world with requested := delay :: world.requested } := by
  unfold scheduleFlush
  rw [returns_modify, eq_comm]

@[simp] theorem not_fails_scheduleFlush {delay : Nat} :
    ¬ Fails (scheduleFlush delay : SyncM σ PUnit) world failure after :=
  not_fails_modify

end Failing

/-! ## What is left of the store -/

section Store
variable (service) (world)

/-- A check of the deadline counts, in time or not. -/
theorem ends_ensureBefore :
    (service.ensureBefore world).2 = { world with checks := world.checks + 1 } := by
  unfold ensureBefore
  refine holds_bind (fun after : World σ => after = _) (fun _ absurd => by cases absurd) ?_
  intro found middle got
  obtain ⟨rfl, rfl⟩ := returns_get.mp got
  refine holds_bind (fun after : World σ => after = _) (fun _ absurd => by cases absurd) ?_
  intro _ middle put
  cases returns_set.mp put
  split <;> rfl

theorem store_ensureBefore : (service.ensureBefore world).2.store = world.store := by
  rw [ends_ensureBefore]

theorem store_transact (change : Nat → Store → Except StoreError (Store × α)) :
    (transact change world : Except String α × World σ).2.store =
      world.store.commit ((change world.transactions world.store).map Prod.fst) := by
  unfold transact
  refine holds_bind (fun after : World σ => after.store = _) (fun _ absurd => by cases absurd) ?_
  intro found middle got
  obtain ⟨rfl, rfl⟩ := returns_get.mp got
  cases change found.transactions found.store <;> rfl

/-- Delivering a mutation leaves the store as it was, or acknowledges it there, whichever of
its parts fails. -/
theorem store_flushMutation (mutation : PendingMutation) :
    (service.flushMutation mutation world).2.store = world.store ∨
      (service.flushMutation mutation world).2.store =
        world.store.commit (world.store.acknowledge service.accountId mutation) := by
  have written : ∀ locked : World σ, locked.store = world.store →
      (transact (fun _ store => (store.acknowledge service.accountId mutation).map
        fun store => (store, ())) locked : Except String Unit × World σ).2.store =
        world.store.commit (world.store.acknowledge service.accountId mutation) := by
    intro locked same
    rw [store_transact, same]
    cases world.store.acknowledge service.accountId mutation <;> rfl
  unfold flushMutation
  refine holds_bind (fun after : World σ => after.store = _ ∨ after.store = _)
    (fun _ _ => Or.inl rfl) ?_
  intro _ delivered sent
  obtain ⟨remote, _, rfl⟩ := returns_request.mp sent
  refine holds_bind (fun after : World σ => after.store = _ ∨ after.store = _)
    (fun _ _ => Or.inl (store_ensureBefore service _)) ?_
  intro _ locked lock
  obtain ⟨_, rfl⟩ := returns_lockUntil.mp lock
  have acknowledged := written { world with remote, checks := world.checks + 1 } rfl
  refine holds_bind (fun after : World σ => after.store = _ ∨ after.store = _)
    (fun _ _ => Or.inr acknowledged) ?_
  intro _ middle ran
  refine Or.inr ((store_ensureBefore service middle).trans ?_)
  rw [← acknowledged]
  exact congrArg (fun result : Except String Unit × World σ => result.2.store) ran.symm

end Store

/-- A session follows the loop over listed mutations, wherever it stops; by induction on the
mutations still listed. -/
theorem reachable_flushMutations {mutations : List PendingMutation}
    {listed : String → List PendingMutation}
    (reached : sessions.Reachable ⟨world.store, listed⟩)
    (among : mutations.Sublist (listed service.accountId)) :
    ∃ left, sessions.Reachable ⟨(mutations.forM service.flushMutation world).2.store, left⟩ := by
  induction mutations generalizing world listed with
  | nil => exact ⟨listed, reached⟩
  | cons mutation rest ih =>
    have member : mutation ∈ listed service.accountId := among.subset List.mem_cons_self
    have acknowledged := reached.next (.acknowledge service.accountId mutation member)
    change ∃ left, sessions.Reachable ⟨((service.flushMutation mutation >>= fun _ =>
      rest.forM service.flushMutation) world).2.store, left⟩
    refine holds_bind (fun after : World σ => ∃ left, sessions.Reachable ⟨after.store, left⟩) ?_ ?_
    · intro _ _
      rcases store_flushMutation service world mutation with same | same
      · exact ⟨listed, same ▸ reached⟩
      · exact ⟨_, same ▸ acknowledged⟩
    · intro _ middle ran
      have ended : (service.flushMutation mutation world).2 = middle := congrArg Prod.snd ran
      rcases store_flushMutation service world mutation with same | same
      · rw [ended] at same
        exact ih (same ▸ reached) ((List.sublist_cons_self mutation rest).trans among)
      · rw [ended] at same
        refine ih (same ▸ acknowledged) ?_
        rw [Function.update_self]
        have shorter := among.erase mutation
        rwa [List.erase_cons_head] at shorter

/-- A session follows a flush. -/
theorem reachable_flushPending {listed : String → List PendingMutation}
    (reached : sessions.Reachable ⟨world.store, listed⟩) :
    ∃ left, sessions.Reachable ⟨(service.flushPending world).2.store, left⟩ := by
  unfold flushPending
  refine holds_bind (fun after : World σ => ∃ left, sessions.Reachable ⟨after.store, left⟩)
    (fun _ _ => ⟨listed, (store_ensureBefore service _).symm ▸ reached⟩) ?_
  intro _ locked lock
  obtain ⟨_, rfl⟩ := returns_lockUntil.mp lock
  refine holds_bind (fun after : World σ => ∃ left, sessions.Reachable ⟨after.store, left⟩)
    (fun _ _ => ⟨listed, reached⟩) ?_
  intro pending consulted asked
  obtain ⟨found, rfl⟩ := returns_consult.mp asked
  cases found
  refine holds_bind (fun after : World σ => ∃ left, sessions.Reachable ⟨after.store, left⟩)
    (fun _ _ => ⟨listed, (store_ensureBefore service _).symm ▸ reached⟩) ?_
  intro _ timed ensured
  obtain ⟨_, rfl⟩ := returns_ensureBefore.mp ensured
  refine reachable_flushMutations (reached.next (.list service.scan service.accountId)) ?_
  rw [Function.update_self]

/-- With nothing pending a flush changes neither side, and only the clock moves on. -/
theorem flushPending_idle (idle : world.store.pending service.scan service.accountId = []) :
    (service.flushPending world).2.store = world.store ∧
      (service.flushPending world).2.remote = world.remote := by
  unfold flushPending lockUntil
  refine holds_bind (fun after : World σ => after.store = _ ∧ after.remote = _)
    (fun _ _ => by rw [ends_ensureBefore]; exact ⟨rfl, rfl⟩) ?_
  intro _ locked lock
  obtain ⟨_, rfl⟩ := returns_ensureBefore.mp lock
  refine holds_bind (fun after : World σ => after.store = _ ∧ after.remote = _)
    (fun _ _ => ⟨rfl, rfl⟩) ?_
  intro pending consulted asked
  obtain ⟨found, rfl⟩ := returns_consult.mp asked
  cases found
  refine holds_bind (fun after : World σ => after.store = _ ∧ after.remote = _)
    (fun _ _ => by rw [ends_ensureBefore]; exact ⟨rfl, rfl⟩) ?_
  intro _ timed ensured
  obtain ⟨_, rfl⟩ := returns_ensureBefore.mp ensured
  dsimp only
  rw [idle]
  exact ⟨rfl, rfl⟩

theorem map_unit_ok {result : Except StoreError Store} {stored : Store} {done : Unit} :
    result.map (fun store => (store, ())) = .ok (stored, done) ↔ result = .ok stored := by
  cases result <;> simp [Except.map]

/-- Every pending row of the account is that of a mutation, at the revision the mutation
has. -/
def Awaits (store : Store) (accountId : String) (mutations : List PendingMutation) : Prop :=
  ∀ entryId field row, store.pendingMutations.find? (accountId, entryId, field) = some row →
    ∃ mutation ∈ mutations, mutation.entryId = entryId ∧ mutation.field = field ∧
      mutation.revision = row.revision

/-- An acknowledged mutation is no longer awaited. -/
theorem awaits_acknowledge {store acknowledged : Store} {accountId : String}
    {mutation : PendingMutation} {rest : List PendingMutation}
    (awaits : Awaits store accountId (mutation :: rest))
    (done : store.acknowledge accountId mutation = .ok acknowledged) :
    Awaits acknowledged accountId rest := by
  intro entryId field row found
  rw [(Store.acknowledge_parts done).1, Table.find?_delete,
    Option.filter_eq_some_iff] at found
  obtain ⟨other, listed, entry, kind, revision⟩ := awaits entryId field row found.1
  rcases List.mem_cons.mp listed with rfl | later
  · have key := Table.key_of_find? found.1
    simp only [PendingRow.key, Prod.mk.injEq] at key
    have kept := found.2
    simp [key, entry, kind, revision] at kept
  · exact ⟨other, later, entry, kind, revision⟩

/-- Mutations that are all delivered leave none awaited; by induction on them, one
acknowledgement at a time. -/
theorem settled_of_flushMutations {mutations : List PendingMutation} {done : Unit}
    (awaits : Awaits world.store service.accountId mutations)
    (ran : Returns (mutations.forM service.flushMutation) world done after) :
    Awaits after.store service.accountId [] := by
  induction mutations generalizing world with
  | nil =>
    obtain ⟨_, rfl⟩ := returns_pure.mp ran
    exact awaits
  | cons mutation rest ih =>
    obtain ⟨_, middle, first, rest⟩ := returns_bind.mp ran
    unfold flushMutation at first
    simp only [returns_bind, returns_request, returns_lockUntil, returns_transact,
      returns_ensureBefore] at first
    obtain ⟨_, _, ⟨remote, _, rfl⟩, _, _, ⟨_, rfl⟩, _, _, ⟨stored, acknowledged, rfl⟩, _, rfl⟩ := first
    refine ih ?_ rest
    exact awaits_acknowledge awaits (map_unit_ok.mp acknowledged)

/-- A flush that goes through delivers everything: nothing of the account is pending
afterwards. -/
theorem settled_of_flushPending {done : Unit} (ran : Returns service.flushPending world done after) :
    ∀ entryId field, after.store.hasPending service.accountId entryId field = false := by
  unfold flushPending at ran
  simp only [returns_bind, returns_lockUntil, returns_consult, returns_ensureBefore] at ran
  obtain ⟨_, _, ⟨_, rfl⟩, pending, _, ⟨listed, rfl⟩, _, _, ⟨_, rfl⟩, ran⟩ := ran
  cases listed
  intro entryId field
  have awaits := settled_of_flushMutations ?_ ran
  · unfold Store.hasPending Table.has
    cases found : after.store.pendingMutations.find? (service.accountId, entryId, field) with
    | none => rfl
    | some row =>
      obtain ⟨_, absurd, _⟩ := awaits entryId field row found
      cases absurd
  · intro entryId field row found
    exact ⟨⟨entryId, field, row.desired, row.revision⟩,
      Store.mem_pending.mpr ⟨row, found, rfl, rfl⟩, rfl, rfl, rfl⟩

/-- A timely flush of a single change delivers it. -/
theorem returns_flushPending_one {mutation : PendingMutation} {remote : σ} {store : Store}
    (timely : ∀ check, service.timely check = true)
    (listed : world.store.pending service.scan service.accountId = [mutation])
    (delivered : Returns (service.deliver mutation) world.remote () remote)
    (acknowledged : world.store.acknowledge service.accountId mutation = .ok store) :
    Returns service.flushPending world () { world with
      store, remote, transactions := world.transactions + 2, checks := world.checks + 4 } := by
  refine returns_bind.mpr ⟨(), _, returns_lockUntil.mpr ⟨timely _, rfl⟩, ?_⟩
  refine returns_bind.mpr ⟨[mutation], _, returns_consult.mpr ⟨congrArg Except.ok listed, rfl⟩, ?_⟩
  refine returns_bind.mpr ⟨(), _, returns_ensureBefore.mpr ⟨timely _, rfl⟩, ?_⟩
  refine returns_bind.mpr ⟨(), _, ?_, returns_pure.mpr ⟨rfl, rfl⟩⟩
  refine returns_bind.mpr ⟨(), _, returns_request.mpr ⟨remote, delivered, rfl⟩, ?_⟩
  refine returns_bind.mpr ⟨(), _, returns_lockUntil.mpr ⟨timely _, rfl⟩, ?_⟩
  refine returns_bind.mpr ⟨(), _, returns_transact.mpr
    ⟨store, map_unit_ok.mpr acknowledged, rfl⟩, ?_⟩
  exact returns_ensureBefore.mpr ⟨timely _, rfl⟩

/-! ## A sync -/

/-- What the flush before a refresh leaves behind. -/
def flushed (service : SyncService σ) (world : World σ) : World σ :=
  (service.flushPending { world with checks := world.checks + 1 }).2

theorem flushed_of_returns {done : Unit}
    (ran : Returns service.flushPending { world with checks := world.checks + 1 } done after) :
    service.flushed world = after :=
  congrArg Prod.snd ran

theorem flushed_idle (idle : world.store.pending service.scan service.accountId = []) :
    (service.flushed world).store = world.store ∧ (service.flushed world).remote = world.remote :=
  flushPending_idle idle

theorem reachable_flushed {listed : String → List PendingMutation}
    (reached : sessions.Reachable ⟨world.store, listed⟩) :
    ∃ left, sessions.Reachable ⟨(service.flushed world).store, left⟩ :=
  reachable_flushPending reached

/-- A sync succeeds when the browse, the refresh and the snapshot do, in time, on what the
flush before them has left. -/
theorem returns_sync {selection : Selection} {retainIds : List Int} {snapshot : SnapshotData} :
    Returns (service.sync selection retainIds) world (.success snapshot) after ↔
      service.timely world.checks = true ∧ ∃ browsed remote stored,
        Returns (browse service.host service.remote selection) (service.flushed world).remote
          browsed remote ∧
        (service.flushed world).store.applySnapshot (service.clock (service.flushed world).transactions 0)
          service.accountId browsed = .ok stored ∧
        stored.localSnapshot service.scan service.accountId selection service.newestFirst retainIds =
          .ok snapshot ∧
        (∀ check < 4, service.timely ((service.flushed world).checks + check) = true) ∧
        after = { service.flushed world with
          store := stored, remote
          transactions := (service.flushed world).transactions + 2
          checks := (service.flushed world).checks + 4 } := by
  unfold sync syncSerialized localSnapshotUntil localSnapshot
  simp only [returns_bind, returns_lockUntil, returns_attempt, returns_observing]
  constructor
  · rintro ⟨_, _, ⟨timely, rfl⟩, _, left, flush, outcome, middle, ran, rest⟩
    have flush : service.flushed world = left := flush
    rw [flush]
    refine ⟨timely, ?_⟩
    cases outcome with
    | error failure =>
      simp only [returns_bind, returns_lockUntil, returns_ensureBefore, returns_pure] at rest
      obtain ⟨_, _, _, absurd, _⟩ := rest
      cases absurd
    | ok browsed =>
      obtain ⟨remote, browse, rfl⟩ := returns_request.mp ran
      simp only [returns_bind, returns_lockUntil, returns_ensureBefore, returns_pure,
        returns_transact, returns_consult] at rest
      obtain ⟨_, _, ⟨first, rfl⟩, _, _, ⟨stored, applied, rfl⟩, _, _, ⟨second, rfl⟩, shown, _,
        ⟨_, _, ⟨third, rfl⟩, _, _, ⟨snapshot, rfl⟩, _, _, ⟨fourth, rfl⟩, rfl, rfl⟩, same, rfl⟩ := rest
      cases same
      refine ⟨browsed, remote, stored, browse, map_unit_ok.mp applied, snapshot, ?_, rfl⟩
      intro check below
      obtain rfl | rfl | rfl | rfl : check = 0 ∨ check = 1 ∨ check = 2 ∨ check = 3 := by omega
      exacts [first, second, third, fourth]
  · rintro ⟨timely, browsed, remote, stored, browse, applied, shown, punctual, rfl⟩
    refine ⟨(), _, ⟨timely, rfl⟩, (), service.flushed world, rfl, .ok browsed, _,
      returns_request.mpr ⟨remote, browse, rfl⟩, ?_⟩
    simp only [returns_bind, returns_lockUntil, returns_ensureBefore, returns_pure,
      returns_transact, returns_consult]
    refine ⟨(), _, ⟨punctual 0 (by omega), rfl⟩, (), _, ⟨stored, map_unit_ok.mpr applied, rfl⟩,
      (), _, ⟨punctual 1 (by omega), rfl⟩, snapshot, _, ⟨(), _, ⟨punctual 2 (by omega), rfl⟩,
      snapshot, _, ⟨shown, rfl⟩, (), _, ⟨punctual 3 (by omega), rfl⟩, rfl, rfl⟩, rfl, rfl⟩

end FluxBar.SyncService
