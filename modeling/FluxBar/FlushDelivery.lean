import FluxBar.ListStability

/-! How far a flush comes. The requests it sends are written down beside a
server that may fail any of them, and the database may refuse any transaction:
whatever goes wrong and when, a prefix of the listed mutations is acknowledged,
and of the others at most the next one has been sent. -/
namespace FluxBar
open Procedure Transition Relational

/-! ## What is sent -/

/-- A request of a flush, as it is written down when it is sent. -/
inductive ServerCall where
  | setReadBatch (entryIds : List Int) (read : Bool)
  | entryStarred (entryId : Int)
  | toggleStarred (entryId : Int)
  deriving DecidableEq, Repr

/-- A server, and the requests of flushes it has been sent, in order; those that failed are
among them. -/
abbrev Logged (σ : Type) := σ × List ServerCall

namespace RemoteInbox
variable {σ α : Type}

/-- A request that is written down as it is sent. -/
def sending (call : ServerCall) (request : Remote σ α) : Remote (Logged σ) α := fun state =>
  match request state.1 with
  | (outcome, after) => (outcome, (after, state.2 ++ [call]))

/-- A request no flush makes. -/
def beside (request : Remote σ α) : Remote (Logged σ) α := fun state =>
  match request state.1 with
  | (outcome, after) => (outcome, (after, state.2))

/-- The remote side with a log of its flushes; it answers as before. -/
def logged (remote : RemoteInbox σ) : RemoteInbox (Logged σ) where
  fetchCompleteSelection filter := beside (remote.fetchCompleteSelection filter)
  categories := beside remote.categories
  feeds := beside remote.feeds
  unreadCounters := beside remote.unreadCounters
  starredTotal := beside remote.starredTotal
  setReadBatch entryIds read := sending (.setReadBatch entryIds read) (remote.setReadBatch entryIds read)
  entryStarred entryId := sending (.entryStarred entryId) (remote.entryStarred entryId)
  toggleStarred entryId := sending (.toggleStarred entryId) (remote.toggleStarred entryId)

variable {call : ServerCall} {request : Remote σ α} {state after : Logged σ} {value : α}
  {failure : RemoteError}

@[simp] theorem returns_sending : Returns (sending call request) state value after ↔
    ∃ left, Returns request state.1 value left ∧ after = (left, state.2 ++ [call]) := by
  unfold Returns sending
  rcases request state.1 with ⟨outcome, left⟩
  constructor
  · intro ran
    cases ran
    exact ⟨left, rfl, rfl⟩
  · rintro ⟨_, ran, rfl⟩
    cases ran
    rfl

@[simp] theorem fails_sending : Fails (sending call request) state failure after ↔
    ∃ left, Fails request state.1 failure left ∧ after = (left, state.2 ++ [call]) := by
  unfold Fails sending
  rcases request state.1 with ⟨outcome, left⟩
  constructor
  · intro ran
    cases ran
    exact ⟨left, rfl, rfl⟩
  · rintro ⟨_, ran, rfl⟩
    cases ran
    rfl

end RemoteInbox

namespace PendingMutation
variable (mutation : PendingMutation)

/-- The field of the entry a mutation is about; no two listed ones share it. -/
def place : Int × MutationField := (mutation.entryId, mutation.field)

/-- The requests that deliver a mutation to a server that shows `current` for a
star. -/
def requests (current : Bool) : List ServerCall :=
  match mutation.field with
  | .read => [.setReadBatch [mutation.entryId] mutation.desired]
  | .starred => .entryStarred mutation.entryId ::
      if current ≠ mutation.desired then [.toggleStarred mutation.entryId] else []

/-- A delivery toggles its own entry only, once at most, and for a star only. -/
theorem count_requests (current : Bool) (entryId : Int) :
    (mutation.requests current).count (.toggleStarred entryId) ≤
      [mutation.place].count (entryId, .starred) := by
  obtain ⟨id, field, desired, revision⟩ := mutation
  cases field with
  | read => simp [requests]
  | starred =>
    by_cases same : id = entryId <;> by_cases shown : current = desired <;>
      simp [requests, place, same, shown]

end PendingMutation

/-- Deliveries of mutations in different places toggle no entry twice, whatever state the
server says it is in. -/
theorem count_toggles {mutations : List PendingMutation} (current : PendingMutation → Bool)
    (distinct : (mutations.map PendingMutation.place).Nodup) (entryId : Int) :
    (mutations.flatMap fun mutation => mutation.requests (current mutation)).count
      (.toggleStarred entryId) ≤ 1 := by
  have bounded : (mutations.flatMap fun mutation => mutation.requests (current mutation)).count
      (.toggleStarred entryId) ≤ (mutations.map PendingMutation.place).count (entryId, .starred) := by
    clear distinct
    induction mutations with
    | nil => simp
    | cons mutation rest ih =>
      have first := mutation.count_requests (current mutation) entryId
      rw [List.flatMap_cons, List.count_append, List.map_cons, ← List.singleton_append,
        List.count_append]
      omega
  exact bounded.trans (List.nodup_iff_count_le_one.mp distinct _)

/-! ## A database that may refuse -/

namespace SyncService
variable {σ α : Type}

/-- A transaction the database may refuse, whatever its statements, in which case nothing of
it is kept. -/
def refusable (fault : Nat → Option StoreError)
    (change : Nat → Store → Except StoreError (Store × α)) (turn : Nat) (store : Store) :
    Except StoreError (Store × α) :=
  match fault turn with
  | some reason => .error reason
  | none => change turn store

section Faults
variable (service : SyncService σ) (fault : Nat → Option StoreError)

/-- One turn of the loop of `flush_pending`, where the acknowledgement may be refused after
the delivery. -/
def flushMutationUnder (mutation : PendingMutation) : SyncM σ Unit := do
  request (service.deliver mutation)
  service.lockUntil
  transact (refusable fault fun _ store =>
    (store.acknowledge service.accountId mutation).map fun store => (store, ()))
  service.ensureBefore

/-- `flush_pending`, on a database that may refuse any of its transactions. -/
def flushPendingUnder : SyncM σ Unit := do
  service.lockUntil
  let pending ← transact (refusable fault fun _ store =>
    .ok (store, store.pending service.scan service.accountId))
  service.ensureBefore
  pending.forM (service.flushMutationUnder fault)

/-- A database that refuses nothing leaves `flush_pending` as it is. -/
theorem flushPendingUnder_none : service.flushPendingUnder (fun _ => none) = service.flushPending :=
  rfl

end Faults

theorem refusable_ok {fault : Nat → Option StoreError}
    {change : Nat → Store → Except StoreError (Store × α)} {turn : Nat} {store : Store}
    {result : Store × α} (ran : refusable fault change turn store = .ok result) :
    change turn store = .ok result := by
  unfold refusable at ran
  split at ran
  · cases ran
  · exact ran

/-! ## One delivery -/

section Delivery
variable {service : SyncService (Logged σ)} {remote : RemoteInbox σ} {mutation : PendingMutation}
  {state sent : Logged σ}

theorem returns_deliver (logged : service.remote = remote.logged) {done : Unit}
    (ran : Returns (service.deliver mutation) state done sent) :
    ∃ current, sent.2 = state.2 ++ mutation.requests current := by
  obtain ⟨entryId, field, desired, revision⟩ := mutation
  unfold deliver describe at ran
  rw [logged] at ran
  cases field with
  | read =>
    obtain ⟨left, _, rfl⟩ := RemoteInbox.returns_sending.mp (returns_adapt.mp ran)
    exact ⟨false, rfl⟩
  | starred =>
    obtain ⟨current, middle, asked, rest⟩ := returns_bind.mp ran
    obtain ⟨shown, _, rfl⟩ := RemoteInbox.returns_sending.mp (returns_adapt.mp asked)
    refine ⟨current, ?_⟩
    by_cases differs : current ≠ desired
    · rw [if_pos differs] at rest
      obtain ⟨left, _, rfl⟩ := RemoteInbox.returns_sending.mp (returns_adapt.mp rest)
      simp [PendingMutation.requests, differs]
    · rw [if_neg differs] at rest
      obtain ⟨_, rfl⟩ := returns_pure.mp rest
      simp [PendingMutation.requests, differs]

/-- A delivery that fails has sent a part of its requests, in their order, and perhaps all
of them. -/
theorem fails_deliver (logged : service.remote = remote.logged) {failure : String}
    (ran : Fails (service.deliver mutation) state failure sent) :
    ∃ current calls, calls <+: mutation.requests current ∧ sent.2 = state.2 ++ calls := by
  obtain ⟨entryId, field, desired, revision⟩ := mutation
  unfold deliver describe at ran
  rw [logged] at ran
  cases field with
  | read =>
    obtain ⟨_, failed, _⟩ := fails_adapt.mp ran
    obtain ⟨left, _, rfl⟩ := RemoteInbox.fails_sending.mp failed
    exact ⟨false, _, List.prefix_rfl, rfl⟩
  | starred =>
    rcases fails_bind.mp ran with asked | ⟨current, middle, asked, rest⟩
    · obtain ⟨_, failed, _⟩ := fails_adapt.mp asked
      obtain ⟨left, _, rfl⟩ := RemoteInbox.fails_sending.mp failed
      exact ⟨false, _, List.prefix_append [_] _, rfl⟩
    · obtain ⟨shown, _, rfl⟩ := RemoteInbox.returns_sending.mp (returns_adapt.mp asked)
      by_cases differs : current ≠ desired
      · rw [if_pos differs] at rest
        obtain ⟨_, failed, _⟩ := fails_adapt.mp rest
        obtain ⟨left, _, rfl⟩ := RemoteInbox.fails_sending.mp failed
        refine ⟨current, _, List.prefix_rfl, ?_⟩
        simp [PendingMutation.requests, differs]
      · rw [if_neg differs] at rest
        exact (not_fails_pure rest).elim

end Delivery

/-! ## The loop -/

section Loop
variable {service : SyncService (Logged σ)} {remote : RemoteInbox σ}
  {fault : Nat → Option StoreError} {mutation : PendingMutation} {world after : World (Logged σ)}

theorem returns_flushMutationUnder {done : Unit}
    (ran : Returns (service.flushMutationUnder fault mutation) world done after) :
    Returns (service.deliver mutation) world.remote () after.remote ∧
      world.store.acknowledge service.accountId mutation = .ok after.store := by
  unfold flushMutationUnder at ran
  obtain ⟨_, _, requested, ran⟩ := returns_bind.mp ran
  obtain ⟨sent, delivered, rfl⟩ := returns_request.mp requested
  obtain ⟨_, _, lock, ran⟩ := returns_bind.mp ran
  obtain ⟨_, rfl⟩ := returns_lockUntil.mp lock
  obtain ⟨_, _, wrote, ran⟩ := returns_bind.mp ran
  obtain ⟨stored, acknowledged, rfl⟩ := returns_transact.mp wrote
  obtain ⟨_, rfl⟩ := returns_ensureBefore.mp ran
  exact ⟨delivered, map_unit_ok.mp (refusable_ok acknowledged)⟩

/-- A turn that fails has not acknowledged its mutation, or has delivered it before; it
never acknowledges what was not sent. -/
theorem fails_flushMutationUnder (logged : service.remote = remote.logged) {failure : String}
    (ran : Fails (service.flushMutationUnder fault mutation) world failure after) :
    (after.store = world.store ∧ ∃ current calls, calls <+: mutation.requests current ∧
      after.remote.2 = world.remote.2 ++ calls) ∨
    (world.store.acknowledge service.accountId mutation = .ok after.store ∧
      ∃ current, after.remote.2 = world.remote.2 ++ mutation.requests current) := by
  unfold flushMutationUnder at ran
  rcases fails_bind.mp ran with undelivered | ⟨_, _, requested, ran⟩
  · obtain ⟨sent, failed, rfl⟩ := fails_request.mp undelivered
    exact .inl ⟨rfl, fails_deliver logged failed⟩
  obtain ⟨sent, delivered, rfl⟩ := returns_request.mp requested
  obtain ⟨current, requests⟩ := returns_deliver logged delivered
  rcases fails_bind.mp ran with late | ⟨_, _, lock, ran⟩
  · obtain ⟨_, rfl, rfl⟩ := fails_lockUntil.mp late
    exact .inl ⟨rfl, current, _, List.prefix_rfl, requests⟩
  obtain ⟨_, rfl⟩ := returns_lockUntil.mp lock
  rcases fails_bind.mp ran with refused | ⟨_, _, wrote, ran⟩
  · obtain ⟨_, _, rfl, rfl⟩ := fails_transact.mp refused
    exact .inl ⟨rfl, current, _, List.prefix_rfl, requests⟩
  obtain ⟨stored, acknowledged, rfl⟩ := returns_transact.mp wrote
  obtain ⟨_, rfl, rfl⟩ := fails_ensureBefore.mp ran
  exact .inr ⟨map_unit_ok.mp (refusable_ok acknowledged), current, requests⟩

variable (service) in
/-- A flush that has come to the end of `delivered`: those are acknowledged in
turn, and of the next mutation at most a part of its requests was sent. -/
structure FlushedTo (current : PendingMutation → Bool) (world after : World (Logged σ))
    (delivered remaining : List PendingMutation) (attempt : List ServerCall) : Prop where
  acknowledged : delivered.foldlM (fun store mutation =>
    store.acknowledge service.accountId mutation) world.store = .ok after.store
  sent : after.remote.2 = world.remote.2 ++
    (delivered.flatMap fun mutation => mutation.requests (current mutation)) ++ attempt
  attempted : attempt = [] ∨ ∃ next rest, remaining = next :: rest ∧
    attempt <+: next.requests (current next)

theorem FlushedTo.nothing {current : PendingMutation → Bool} {remaining : List PendingMutation}
    (store : after.store = world.store) (remote : after.remote.2 = world.remote.2) :
    FlushedTo service current world after [] remaining [] :=
  ⟨congrArg Except.ok store.symm, by simp [remote], .inl rfl⟩

/-- A mutation delivered before the others. The server's answers are by mutation,
so those to the others stay. -/
theorem FlushedTo.cons {current : PendingMutation → Bool} {middle : World (Logged σ)}
    {delivered remaining : List PendingMutation} {attempt : List ServerCall} {shown : Bool}
    (acknowledged : world.store.acknowledge service.accountId mutation = .ok middle.store)
    (sent : middle.remote.2 = world.remote.2 ++ mutation.requests shown)
    (fresh : mutation ∉ delivered ++ remaining)
    (rest : FlushedTo service current middle after delivered remaining attempt) :
    FlushedTo service (Function.update current mutation shown) world after (mutation :: delivered)
      remaining attempt := by
  have others : ∀ other ∈ delivered ++ remaining,
      Function.update current mutation shown other = current other := by
    intro other listed
    refine Function.update_of_ne ?_ _ _
    rintro rfl
    exact fresh listed
  constructor
  · rw [List.foldlM_cons, acknowledged]
    exact rest.acknowledged
  · have same : (delivered.flatMap fun other =>
        other.requests (Function.update current mutation shown other)) =
        delivered.flatMap fun other => other.requests (current other) := by
      refine List.flatMap_congr fun other listed => ?_
      rw [others other (List.mem_append_left _ listed)]
    rw [rest.sent, sent, List.flatMap_cons, Function.update_self, same]
    simp only [List.append_assoc]
  · rcases rest.attempted with none | ⟨next, later, same, part⟩
    · exact .inl none
    · refine .inr ⟨next, later, same, ?_⟩
      rw [others next (same ▸ List.mem_append_right _ List.mem_cons_self)]
      exact part

/-- Wherever the loop stops, a prefix of its list is done; one that ends well
does all of it. -/
theorem flushedTo_flushMutations (logged : service.remote = remote.logged)
    {mutations : List PendingMutation} (distinct : mutations.Nodup) {outcome : Except String Unit}
    (ran : @Eq (Except String Unit × World (Logged σ))
      (mutations.forM (service.flushMutationUnder fault) world) (outcome, after)) :
    ∃ delivered remaining current attempt, mutations = delivered ++ remaining ∧
      FlushedTo service current world after delivered remaining attempt ∧
      (outcome = .ok () → remaining = [] ∧ attempt = []) := by
  induction mutations generalizing world with
  | nil =>
    cases ran
    exact ⟨[], [], fun _ => false, [], rfl, .nothing rfl rfl, fun _ => ⟨rfl, rfl⟩⟩
  | cons mutation rest ih =>
    change @Eq (Except String Unit × World (Logged σ)) ((service.flushMutationUnder fault mutation >>=
      fun _ => rest.forM (service.flushMutationUnder fault)) world) (outcome, after) at ran
    obtain ⟨fresh, distinct⟩ := List.nodup_cons.mp distinct
    rcases ends (service.flushMutationUnder fault mutation) world with
      ⟨_, middle, turned⟩ | ⟨failure, middle, failed⟩
    · rw [bind_of_returns turned] at ran
      obtain ⟨deliveredOne, acknowledged⟩ := returns_flushMutationUnder turned
      obtain ⟨shown, sent⟩ := returns_deliver logged deliveredOne
      obtain ⟨delivered, remaining, current, attempt, rfl, came, whole⟩ := ih distinct ran
      exact ⟨mutation :: delivered, remaining, _, attempt, rfl, came.cons acknowledged sent fresh,
        whole⟩
    · cases (bind_of_fails failed).symm.trans ran
      rcases fails_flushMutationUnder logged failed with
        ⟨same, shown, calls, part, sent⟩ | ⟨acknowledged, shown, sent⟩
      · refine ⟨[], mutation :: rest, fun _ => shown, calls, rfl, ⟨?_, ?_, ?_⟩, ?_⟩
        · exact congrArg Except.ok same.symm
        · simpa using sent
        · exact .inr ⟨mutation, rest, rfl, part⟩
        · intro absurd
          cases absurd
      · refine ⟨[mutation], rest, Function.update (fun _ => shown) mutation shown, [], rfl,
          FlushedTo.cons acknowledged sent fresh (.nothing rfl rfl), ?_⟩
        intro absurd
        cases absurd

/-- What was sent is the beginning of what the whole list takes, so that nothing is sent out
of turn. -/
theorem FlushedTo.sent_prefix {current : PendingMutation → Bool}
    {delivered remaining : List PendingMutation} {attempt : List ServerCall}
    (came : FlushedTo service current world after delivered remaining attempt) :
    (delivered.flatMap fun mutation => mutation.requests (current mutation)) ++ attempt <+:
      (delivered ++ remaining).flatMap fun mutation => mutation.requests (current mutation) := by
  rw [List.flatMap_append, List.prefix_append_right_inj]
  rcases came.attempted with rfl | ⟨next, rest, rfl, part⟩
  · exact List.nil_prefix
  · rw [List.flatMap_cons]
    exact part.trans (List.prefix_append _ _)

/-- A flush stops before its loop, having changed nothing, or runs it over what it has
listed. -/
theorem flushPendingUnder_cases {outcome : Except String Unit}
    (ran : @Eq (Except String Unit × World (Logged σ)) (service.flushPendingUnder fault world)
      (outcome, after)) :
    (after.store = world.store ∧ after.remote = world.remote ∧ outcome ≠ .ok ()) ∨
    ∃ middle : World (Logged σ), middle.store = world.store ∧ middle.remote = world.remote ∧
      @Eq (Except String Unit × World (Logged σ))
        ((world.store.pending service.scan service.accountId).forM
          (service.flushMutationUnder fault) middle) (outcome, after) := by
  unfold flushPendingUnder at ran
  cases outcome with
  | error failure =>
    rcases fails_bind.mp ran with late | ⟨_, _, lock, ran⟩
    · obtain ⟨_, _, rfl⟩ := fails_lockUntil.mp late
      exact .inl ⟨rfl, rfl, fun absurd => by cases absurd⟩
    obtain ⟨_, rfl⟩ := returns_lockUntil.mp lock
    rcases fails_bind.mp ran with refused | ⟨pending, _, asked, ran⟩
    · obtain ⟨_, _, _, rfl⟩ := fails_transact.mp refused
      exact .inl ⟨rfl, rfl, fun absurd => by cases absurd⟩
    obtain ⟨stored, answered, rfl⟩ := returns_transact.mp asked
    cases refusable_ok answered
    rcases fails_bind.mp ran with late | ⟨_, middle, checked, ran⟩
    · obtain ⟨_, _, rfl⟩ := fails_ensureBefore.mp late
      exact .inl ⟨rfl, rfl, fun absurd => by cases absurd⟩
    · obtain ⟨_, same⟩ := returns_ensureBefore.mp checked
      exact .inr ⟨middle, by rw [same], by rw [same], ran⟩
  | ok done =>
    obtain ⟨_, _, lock, ran⟩ := returns_bind.mp ran
    obtain ⟨_, rfl⟩ := returns_lockUntil.mp lock
    obtain ⟨pending, _, asked, ran⟩ := returns_bind.mp ran
    obtain ⟨stored, answered, rfl⟩ := returns_transact.mp asked
    cases refusable_ok answered
    obtain ⟨_, middle, checked, ran⟩ := returns_bind.mp ran
    obtain ⟨_, same⟩ := returns_ensureBefore.mp checked
    exact .inr ⟨middle, by rw [same], by rw [same], ran⟩

/-- Acknowledging mutations leaves the cells in other places, whatever the mutations are. -/
theorem cell_acknowledgeAll {mutations : List PendingMutation} {store acknowledged : Store}
    {accountId : String} {entryId : Int} {field : MutationField}
    (elsewhere : (entryId, field) ∉ mutations.map PendingMutation.place)
    (done : mutations.foldlM (fun store mutation => store.acknowledge accountId mutation) store =
      .ok acknowledged) :
    acknowledged.cell accountId entryId field = store.cell accountId entryId field := by
  refine foldlM_invariant_mem
    (fun reached : Store => reached.cell accountId entryId field = store.cell accountId entryId field)
    ?_ rfl done
  intro reached mutation listed after same acknowledged
  rw [← same]
  refine Store.cell_acknowledge_other acknowledged ?_
  intro place
  refine elsewhere (List.mem_map.mpr ⟨mutation, listed, ?_⟩)
  simp only [Prod.mk.injEq] at place
  simp only [PendingMutation.place, place]

end Loop

/-! ## Stars -/

variable {σ : Type}

/-- A server whose stars are set by these requests only: it shows them as they
are, and flips the one it is asked to. -/
structure KeepsFlags (remote : RemoteInbox σ) (flag : σ → Int → Bool) : Prop where
  shows : ∀ {entryId state current after},
    Returns (remote.entryStarred entryId) state current after →
      current = flag state entryId ∧ flag after = flag state
  flips : ∀ {entryId state done after}, Returns (remote.toggleStarred entryId) state done after →
    flag after = Function.update (flag state) entryId (!flag state entryId)
  leaves : ∀ {entryIds read state done after},
    Returns (remote.setReadBatch entryIds read) state done after → flag after = flag state

section Stars
variable {service : SyncService (Logged σ)} {remote : RemoteInbox σ} {flag : σ → Int → Bool}
  {fault : Nat → Option StoreError} {mutation : PendingMutation}

theorem KeepsFlags.deliver (keeps : KeepsFlags remote flag) (logged : service.remote = remote.logged)
    {state sent : Logged σ} {done : Unit}
    (ran : Returns (service.deliver mutation) state done sent) :
    flag sent.1 = if mutation.field = .starred
      then Function.update (flag state.1) mutation.entryId mutation.desired else flag state.1 := by
  obtain ⟨entryId, field, desired, revision⟩ := mutation
  unfold SyncService.deliver describe at ran
  rw [logged] at ran
  cases field with
  | read =>
    obtain ⟨left, batch, rfl⟩ := RemoteInbox.returns_sending.mp (returns_adapt.mp ran)
    exact keeps.leaves batch
  | starred =>
    obtain ⟨current, middle, asked, rest⟩ := returns_bind.mp ran
    obtain ⟨shown, entry, rfl⟩ := RemoteInbox.returns_sending.mp (returns_adapt.mp asked)
    obtain ⟨rfl, same⟩ := keeps.shows entry
    rw [if_pos rfl]
    by_cases differs : flag state.1 entryId ≠ desired
    · rw [if_pos differs] at rest
      obtain ⟨left, toggled, rfl⟩ := RemoteInbox.returns_sending.mp (returns_adapt.mp rest)
      have flipped : (!flag state.1 entryId) = desired := by
        revert differs
        cases flag state.1 entryId <;> cases desired <;> simp
      rw [keeps.flips toggled, same, flipped]
    · rw [if_neg differs] at rest
      obtain ⟨_, rfl⟩ := returns_pure.mp rest
      rw [not_not] at differs
      rw [same, ← differs, Function.update_eq_self]

/-- A flush of its whole list leaves every star it names as desired, and the
others alone. -/
theorem KeepsFlags.flushMutations (keeps : KeepsFlags remote flag)
    (logged : service.remote = remote.logged) {mutations : List PendingMutation}
    (distinct : (mutations.map PendingMutation.place).Nodup) {world after : World (Logged σ)}
    {done : Unit} (ran : Returns (mutations.forM (service.flushMutationUnder fault)) world done after) :
    (∀ mutation ∈ mutations, mutation.field = .starred →
      flag after.remote.1 mutation.entryId = mutation.desired) ∧
    ∀ entryId, (entryId, .starred) ∉ mutations.map PendingMutation.place →
      flag after.remote.1 entryId = flag world.remote.1 entryId := by
  induction mutations generalizing world with
  | nil =>
    obtain ⟨_, rfl⟩ := returns_pure.mp ran
    refine ⟨fun mutation absurd => ?_, fun entryId _ => rfl⟩
    cases absurd
  | cons mutation rest ih =>
    obtain ⟨_, middle, first, ran⟩ := returns_bind.mp ran
    rw [List.map_cons, List.nodup_cons] at distinct
    obtain ⟨fresh, distinct⟩ := distinct
    obtain ⟨desired, others⟩ := ih distinct ran
    have flags := keeps.deliver logged (returns_flushMutationUnder first).1
    constructor
    · intro other listed starred
      rcases List.mem_cons.mp listed with rfl | later
      · have place : (other.entryId, MutationField.starred) = other.place := by
          rw [PendingMutation.place, starred]
        rw [others _ (place ▸ fresh), flags, if_pos starred, Function.update_self]
      · exact desired other later starred
    · intro entryId elsewhere
      rw [List.map_cons, List.mem_cons, not_or] at elsewhere
      rw [others _ elsewhere.2, flags]
      split_ifs with starred
      · refine Function.update_of_ne ?_ _ _
        rintro rfl
        exact elsewhere.1 (by rw [PendingMutation.place, starred])
      · rfl

end Stars

end SyncService
/-- Whether an account shows an article as starred. -/
def RemoteAccount.flag (account : RemoteAccount) (entryId : Int) : Bool :=
  (account.articles.find? entryId).any fun article => article.dto.starred

theorem RemoteAccount.flag_setRead (account : RemoteAccount) (entryIds : List Int) (read : Bool) :
    (account.setRead entryIds read).flag = account.flag := by
  funext entryId
  unfold flag setRead rewrite
  rw [Table.find?_update]
  cases account.articles.find? entryId with
  | none => rfl
  | some article =>
    simp only [Option.map_some, Option.any_some]
    split <;> rfl

theorem RemoteAccount.flag_toggleStarred {account : RemoteAccount} {entryId : Int}
    {article : Article} (found : account.articles.find? entryId = some article) :
    (account.toggleStarred entryId).flag =
      Function.update account.flag entryId (!account.flag entryId) := by
  funext other
  unfold flag toggleStarred rewrite
  rw [Table.find?_update]
  by_cases same : other = entryId
  · subst same
    have key := Table.key_of_find? found
    simp [found, key, Article.toggleStarred]
  · rw [Function.update_of_ne same]
    cases held : account.articles.find? other with
    | none => rfl
    | some article =>
      have key := Table.key_of_find? held
      simp [key, same]

/-- The account shows and flips its own stars. -/
theorem keepsFlags_account : SyncService.KeepsFlags accountApi.inbox RemoteAccount.flag := by
  constructor
  · intro entryId account current after ran
    obtain ⟨dto, middle, asked, returned⟩ := returns_bind.mp ran
    obtain ⟨rfl, rfl⟩ := returns_pure.mp returned
    unfold Returns accountApi at asked
    dsimp only at asked
    unfold RemoteAccount.flag
    cases found : account.articles.find? entryId with
    | none =>
      rw [found] at asked
      cases asked
    | some article =>
      rw [found] at asked
      cases asked
      exact ⟨rfl, rfl⟩
  · intro entryId account done after ran
    unfold Returns accountApi MinifluxApi.inbox at ran
    dsimp only at ran
    cases found : account.articles.find? entryId with
    | none =>
      rw [found] at ran
      cases ran
    | some article =>
      rw [found] at ran
      cases ran
      exact RemoteAccount.flag_toggleStarred found
  · intro entryIds read account done after ran
    unfold Returns accountApi MinifluxApi.inbox at ran
    dsimp only at ran
    cases read with
    | true =>
      cases ran
      exact account.flag_setRead entryIds true
    | false =>
      cases ran
      exact account.flag_setRead entryIds false

/-- Whatever fails and when, a flush acknowledges a prefix of what it listed, has sent
nothing beyond the next mutation, and leaves the rest as it stood. Nothing is toggled twice;
and one that ends well has delivered everything. -/
theorem flush_prefix_delivered {σ : Type} {service : SyncService (Logged σ)} {remote : RemoteInbox σ}
    (logged : service.remote = remote.logged) (fault : Nat → Option StoreError)
    {world after : World (Logged σ)} {outcome : Except String Unit}
    (ran : @Eq (Except String Unit × World (Logged σ)) (service.flushPendingUnder fault world)
      (outcome, after)) :
    ((world.store.pending service.scan service.accountId).map PendingMutation.place).Nodup ∧
    ∃ delivered remaining current attempt,
      world.store.pending service.scan service.accountId = delivered ++ remaining ∧
      service.FlushedTo current world after delivered remaining attempt ∧
      (∀ entryId, ((delivered.flatMap fun mutation => mutation.requests (current mutation)) ++
        attempt).count (.toggleStarred entryId) ≤ 1) ∧
      (∀ mutation ∈ remaining,
        after.store.cell service.accountId mutation.entryId mutation.field =
          world.store.cell service.accountId mutation.entryId mutation.field) ∧
      (outcome = .ok () → remaining = [] ∧ attempt = [] ∧
        ∀ flag, SyncService.KeepsFlags remote flag → ∀ mutation ∈ delivered,
          mutation.field = .starred →
            flag after.remote.1 mutation.entryId = mutation.desired) := by
  have distinct := Store.nodup_pending world.store service.scan service.accountId
  refine ⟨distinct, ?_⟩
  rcases SyncService.flushPendingUnder_cases ran with
    ⟨store, remote, stopped⟩ | ⟨middle, store, remote, looped⟩
  · refine ⟨[], _, fun _ => false, [], rfl, .nothing store (congrArg Prod.snd remote), ?_, ?_, ?_⟩
    · intro entryId
      simp
    · intro mutation _
      rw [store]
    · intro well
      exact (stopped well).elim
  · obtain ⟨delivered, remaining, current, attempt, split, came, whole⟩ :=
      SyncService.flushedTo_flushMutations logged (List.Nodup.of_map _ distinct) looped
    refine ⟨delivered, remaining, current, attempt, split, ?_, ?_, ?_, ?_⟩
    · obtain ⟨acknowledged, sent, attempted⟩ := came
      exact ⟨store ▸ acknowledged, remote ▸ sent, attempted⟩
    · intro entryId
      rw [split] at distinct
      exact (came.sent_prefix.sublist.count_le _).trans (count_toggles current distinct entryId)
    · intro mutation left
      rw [← store]
      refine SyncService.cell_acknowledgeAll ?_ came.acknowledged
      intro named
      rw [split, List.map_append] at distinct
      exact List.disjoint_of_nodup_append distinct named (List.mem_map_of_mem left)
    · rintro rfl
      obtain ⟨rfl, rfl⟩ := whole rfl
      refine ⟨rfl, rfl, fun flag keeps mutation listed starred => ?_⟩
      rw [List.append_nil] at split
      exact (keeps.flushMutations logged distinct looped).1 mutation (split ▸ listed) starred

/-! ## A star delivered -/

/-- A timely service on the account, with a log of its flushes. -/
def loggedService : SyncService (Logged RemoteAccount) where
  accountId := "account"
  newestFirst := true
  remote := accountApi.inbox.logged
  host := bareHost
  scan := .storage
  clock _ _ := "t"
  randomId _ := ""
  timely _ := true

/-- The star of the article. -/
def loneStar : PendingMutation := ⟨1, .starred, true, 1⟩

/-- The article starred locally, and not yet on the server. -/
def starredWorld : World (Logged RemoteAccount) where
  store := filedStore.setStarred "t" "account" 1 true
  remote := (loneUnread, [])
  transactions := 0
  checks := 0
  requested := []

theorem pending_starredWorld : starredWorld.store.pending .storage "account" = [loneStar] := by
  have rows : starredWorld.store.pendingMutations.select (fun row => row.accountId = "account") =
      [⟨"account", 1, .starred, true, 1, "t"⟩] := by decide
  simp only [Store.pending, rows, Scan.storage, List.mergeSort_singleton]
  rfl

theorem returns_loneStar : Returns (loggedService.deliver loneStar) (loneUnread, []) ()
    (loneUnread.toggleStarred 1, [.entryStarred 1, .toggleStarred 1]) := by
  rfl

theorem returns_starredWorld :
    ∃ after, Returns (loggedService.flushPendingUnder fun _ => none) starredWorld () after := by
  have stored : (starredWorld.store.acknowledge "account" loneStar).isOk := by decide
  obtain ⟨kept, acknowledged⟩ : ∃ kept,
      starredWorld.store.acknowledge "account" loneStar = .ok kept :=
    ⟨_, @Store.commit_of_isOk starredWorld.store _ stored⟩
  refine ⟨{
    store := kept
    remote := (loneUnread.toggleStarred 1, [.entryStarred 1, .toggleStarred 1])
    transactions := 2
    checks := 4
    requested := [] }, ?_⟩
  refine returns_bind.mpr ⟨(), _, SyncService.returns_lockUntil.mpr ⟨rfl, rfl⟩, ?_⟩
  refine returns_bind.mpr ⟨[loneStar], _, SyncService.returns_transact.mpr
    ⟨starredWorld.store, ?_, rfl⟩, ?_⟩
  · exact congrArg (fun listed => Except.ok (starredWorld.store, listed)) pending_starredWorld
  refine returns_bind.mpr ⟨(), _, SyncService.returns_ensureBefore.mpr ⟨rfl, rfl⟩, ?_⟩
  refine returns_bind.mpr ⟨(), _, ?_, returns_pure.mpr ⟨rfl, rfl⟩⟩
  refine returns_bind.mpr ⟨(), _, SyncService.returns_request.mpr ⟨_, returns_loneStar, rfl⟩, ?_⟩
  refine returns_bind.mpr ⟨(), _, SyncService.returns_lockUntil.mpr ⟨rfl, rfl⟩, ?_⟩
  refine returns_bind.mpr ⟨(), _, SyncService.returns_transact.mpr ⟨kept,
    SyncService.map_unit_ok.mpr acknowledged, rfl⟩, ?_⟩
  exact SyncService.returns_ensureBefore.mpr ⟨rfl, rfl⟩

/-- One star is asked for and put up, and the server shows it when the flush ends. -/
theorem star_delivered : ∃ after,
    Returns (loggedService.flushPendingUnder fun _ => none) starredWorld () after ∧
      after.remote.1.flag 1 = true := by
  obtain ⟨after, ran⟩ := returns_starredWorld
  obtain ⟨_, delivered, remaining, current, attempt, split, _, _, _, well⟩ :=
    @flush_prefix_delivered _ loggedService accountApi.inbox rfl _ _ _ _ ran
  obtain ⟨rfl, _, flags⟩ := well rfl
  have listed : loneStar ∈ delivered := by
    rw [← List.append_nil delivered, ← split]
    exact pending_starredWorld ▸ List.mem_cons_self
  exact ⟨after, ran, flags _ keepsFlags_account loneStar listed rfl⟩

end FluxBar
