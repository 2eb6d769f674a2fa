import FluxBar.GoService
import FluxBar.SnapshotAgreement

/-! Both sync services over one server, each with its own client library, article functions
and receipt ids. Where these agree, whatever calls the services receive, they send the
server the same requests, keep their stores in step and set the same flushes. -/
namespace FluxBar
open Relational Procedure

/-! ## Worlds in step -/

/-- How the calls of the two services fail alike: over the server, or over the same failure
of the store. -/
inductive SameFailing (words : RemoteError → String → Prop) : String → Inbox.Failure → Prop where
  | remote {message : String} {failure : GoMiniflux.Failure} :
    SameText words message failure → SameFailing words message (.remote failure)
  | store (failure : StoreError) : SameFailing words failure.message (.store failure)

section Services
variable {σ τ α α' β β' : Type} {moments : Inbox.Moments τ} {accountId : String}
  {words : RemoteError → String → Prop}

/-- The worlds of the two services: one server, stores in step, and the same flushes set. -/
structure WorldsInStep (moments : Inbox.Moments τ) (accountId : String) (rust : World σ)
    (go : Inbox.World σ) : Prop where
  stores : InStep (fun _ => True) rust.store go.store
  remotes : go.remote = rust.remote
  transactions : go.transactions = rust.transactions
  requested : go.requested = rust.requested
  kept : rust.store.Kept moments accountId

theorem SyncService.transact_apply (change : Nat → Store → Except StoreError (Store × α))
    (world : World σ) :
    SyncService.transact change world =
      (((change world.transactions world.store).map Prod.snd).mapError StoreError.message,
        { world with
          store := world.store.commit ((change world.transactions world.store).map Prod.fst)
          transactions := world.transactions + 1 }) := by
  have read : (get : SyncM σ (World σ)) world = (.ok world, world) := rfl
  unfold SyncService.transact
  simp only [bind, ExceptT.bind, ExceptT.mk, StateT.bind]
  rw [read]
  dsimp only [ExceptT.bindCont]
  cases change world.transactions world.store <;> rfl

theorem Inbox.transact_apply (change : Nat → Store → Except StoreError (Store × α))
    (world : Inbox.World σ) :
    Inbox.transact change world =
      (((change world.transactions world.store).map Prod.snd).mapError Inbox.Failure.store,
        { world with
          store := world.store.commit ((change world.transactions world.store).map Prod.fst)
          transactions := world.transactions + 1 }) := by
  have read : (get : Inbox.ServiceM σ (Inbox.World σ)) world = (.ok world, world) := rfl
  unfold Inbox.transact
  simp only [bind, ExceptT.bind, ExceptT.mk, StateT.bind]
  rw [read]
  dsimp only [ExceptT.bindCont]
  cases change world.transactions world.store <;> rfl

theorem SyncService.consult_apply (query : Store → Except StoreError α) (world : World σ) :
    SyncService.consult query world = ((query world.store).mapError StoreError.message,
      { world with transactions := world.transactions + 1 }) := by
  unfold SyncService.consult
  rw [SyncService.transact_apply]
  cases query world.store <;> rfl

theorem Inbox.consult_apply (query : Store → Except StoreError α) (world : Inbox.World σ) :
    Inbox.consult query world = ((query world.store).mapError Inbox.Failure.store,
      { world with transactions := world.transactions + 1 }) := by
  unfold Inbox.consult
  rw [Inbox.transact_apply]
  cases query world.store <;> rfl

/-- One transaction in both cores: from worlds in step it leaves worlds in step, done or
rolled back. -/
theorem tandem_transact {values : α → β → Prop}
    {change : Nat → Store → Except StoreError (Store × α)}
    {change' : Nat → Store → Except StoreError (Store × β)}
    (same : ∀ turn rust go, InStep (fun _ => True) rust go →
      Lockstep (fun result result' : Store × _ => InStep (fun _ => True) result.1 result'.1 ∧
        values result.2 result'.2) (change turn rust) (change' turn go))
    (keeps : ∀ turn store result, change turn store = .ok result → store.Kept moments accountId →
      result.1.Kept moments accountId) :
    Tandem (@WorldsInStep σ τ moments accountId) (SameFailing words) values (SyncService.transact change)
      (Inbox.transact change') := by
  intro rust go held
  have ran := same rust.transactions rust.store go.store held.stores
  have keeps := keeps rust.transactions rust.store
  rw [SyncService.transact_apply, Inbox.transact_apply, held.transactions]
  generalize change rust.transactions rust.store = outcome at ran keeps ⊢
  generalize change' rust.transactions go.store = outcome' at ran ⊢
  cases ran with
  | error failure => exact ⟨.error (.store failure), { held with transactions := rfl }⟩
  | @ok result result' both =>
    exact ⟨.ok both.2, { held with
      stores := both.1
      transactions := rfl
      kept := keeps result rfl held.kept }⟩

/-- One call of the remote side, in both cores, over the one server. -/
theorem tandem_request {values : α → β → Prop} {call : ExceptT String (StateM σ) α}
    {call' : ExceptT GoMiniflux.Failure (StateM σ) β}
    (same : Tandem Eq (SameText words) values call call') :
    Tandem (@WorldsInStep σ τ moments accountId)
      (fun message failure => ∃ remote, failure = .remote remote ∧ SameText words message remote)
      values (SyncService.request call) (Inbox.request call') := by
  intro rust go held
  obtain ⟨outcomes, left⟩ := same rust.remote go.remote held.remotes.symm
  unfold SyncService.request Inbox.request
  generalize call rust.remote = ran at outcomes left ⊢
  generalize call' go.remote = ran' at outcomes left ⊢
  obtain ⟨outcome, after⟩ := ran
  obtain ⟨outcome', after'⟩ := ran'
  cases left
  refine ⟨?_, { held with remotes := rfl }⟩
  cases outcomes with
  | @error message failure worded => exact .error ⟨failure, rfl, worded⟩
  | ok both => exact .ok both

/-- A deadline that is met is no step of the other core. -/
theorem beside_timely {service : SyncService σ} {outcomes : Except String α → Except Inbox.Failure β → Prop}
    {left : SyncM σ α} {right : Inbox.ServiceM σ β}
    (timely : ∀ check, service.timely check = true)
    (same : Beside (@WorldsInStep σ τ moments accountId) outcomes left right) :
    Beside (WorldsInStep moments accountId) outcomes (service.ensureBefore >>= fun _ => left) right := by
  intro rust go held
  have passed : Returns service.ensureBefore rust () { rust with checks := rust.checks + 1 } :=
    SyncService.returns_ensureBefore.mpr ⟨timely rust.checks, rfl⟩
  rw [bind_of_returns passed]
  exact same _ _ { held with }

/-- How a call with a snapshot ends in both cores. Alone this one fails only over a number
that does not fit. -/
inductive Answers (words : RemoteError → String → Prop) (values : α → β → Prop) :
    Except String α → Except Inbox.Failure β → Prop where
  | failed {message : String} {failure : Inbox.Failure} :
    SameFailing words message failure → Answers words values (.error message) (.error failure)
  | answered {value : α} {value' : β} :
    values value value' → Answers words values (.ok value) (.ok value')
  | unreadable {failure : StoreError} {value' : β} :
    Store.OutOfRange failure → Answers words values (.error failure.message) (.ok value')

/-- Snapshots of one selection that list the same entries, categories and feeds, at the
same moments. -/
structure SameList (moments : Inbox.Moments τ) (snapshot : SnapshotData)
    (listing : Inbox.Listing τ) : Prop where
  versions : snapshot.version = 1 ∧ listing.version = 1
  selection : Transport.selectionDto snapshot.selection =
    ⟨listing.selection.kind, listing.selection.id, listing.selection.unreadOnly⟩
  entries : listing.entries = snapshot.entries.map (Inbox.Entry.shown moments)
  written : ∀ entry ∈ snapshot.entries,
    moments.format (moments.parse entry.publishedAtRfc3339) = entry.publishedAtRfc3339
  categories : listing.categories.map Category.uncounted =
    snapshot.categories.map Category.uncounted

/-- What a read change answers in both cores: the same list, and the same receipt. -/
structure SameMarking (moments : Inbox.Moments τ) (rust : SnapshotData × Option MutationReceipt)
    (go : Inbox.Listing τ × Option MutationReceipt) : Prop where
  lists : SameList moments rust.1 go.1
  receipts : rust.2 = go.2

/-- Services of the two cores in the same surroundings: of one account and one order, with
stores that visit rows in the same order, clocks that read the same in each call of the
store, and the same id drawn for the receipt that a call leaves. -/
structure SameSurroundings (service : SyncService σ) (other : Inbox.Service σ τ) : Prop where
  account : other.accountID = service.accountId
  order : other.newestFirst = service.newestFirst
  scan : other.scan = service.scan
  clock : other.clock = service.clock
  receipts : other.randomID = service.randomId

/-- Both cores echo a selection alike. -/
theorem selectionDto_normalize (kind : String) (id : Int) (unreadOnly : Bool) :
    Transport.selectionDto (.normalize kind id unreadOnly) =
      ⟨(Inbox.Selection.mk kind id unreadOnly).normalized.kind,
        (Inbox.Selection.mk kind id unreadOnly).normalized.id,
        (Inbox.Selection.mk kind id unreadOnly).normalized.unreadOnly⟩ := by
  rcases normalize_normalized kind id unreadOnly with
    ⟨_, rust, go⟩ | ⟨_, rust, go⟩ | ⟨_, rust, go⟩ | ⟨_, rust, go⟩ | ⟨_, rust, go⟩ |
      ⟨_, _, _, rust, go⟩ <;>
    rw [rust, go] <;> rfl

section Snapshots
variable {service : SyncService σ} {other : Inbox.Service σ τ}
  (kind : String) (id : Int) (unreadOnly : Bool) (retainIds : List Int)

/-- Snapshots of stores in step: the other core always has one, and the same list. -/
theorem snapshots_alike {rust go : Store} {scan : Scan} {newestFirst : Bool}
    (stores : InStep (fun _ => True) rust go) (kept : rust.Kept moments accountId) :
    ∃ listing, Inbox.localSnapshot moments go scan accountId ⟨kind, id, unreadOnly⟩ newestFirst
        retainIds = .ok listing ∧
      Answers words (SameList moments)
        ((rust.localSnapshot scan accountId (.normalize kind id unreadOnly) newestFirst
          retainIds).mapError StoreError.message) (.ok listing) := by
  have known : (go.accounts.find? accountId).isSome := by
    cases stores with
    | other totals => exact kept.registered
  obtain ⟨listing, shown, version, selection, categories, entries⟩ := @Inbox.localSnapshot_ok τ
    moments go accountId known scan ⟨kind, id, unreadOnly⟩ newestFirst retainIds
  refine ⟨listing, shown, ?_⟩
  have fails := Store.failsOnly_localSnapshot kept.registered scan (.normalize kind id unreadOnly)
    newestFirst retainIds
  cases outcome : rust.localSnapshot scan accountId (.normalize kind id unreadOnly) newestFirst
      retainIds with
  | error failure => exact .unreadable (fails failure outcome)
  | ok snapshot =>
    have normal : normalizeSelection (.normalize kind id unreadOnly) = .normalize kind id unreadOnly :=
      normalizeSelection_of_normal (Selection.normalize_normal ..)
    obtain ⟨numbered, selected, navigation, navigated, filed⟩ := Store.head_localSnapshot outcome
    refine .answered ⟨⟨numbered, version⟩, ?_, ?_, ?_, ?_⟩
    · rw [selection, selected, normal]
      exact selectionDto_normalize kind id unreadOnly
    · rw [entries, Store.entries_localSnapshot outcome, normal]
      exact stores.snapshotEntries
    · intro entry listed
      rw [Store.entries_localSnapshot outcome] at listed
      obtain ⟨row, found, rfl⟩ := Store.stored_of_snapshotEntries listed
      exact kept.written _ row found
    · rw [categories, filed, uncounted_navigation navigated]
      cases stores with
      | other totals => rfl

theorem beside_localSnapshot (same : SameSurroundings service other) :
    Beside (WorldsInStep other.moments service.accountId) (Answers words (SameList other.moments))
      (service.localSnapshot (.normalize kind id unreadOnly) retainIds)
      (other.localSnapshot ⟨kind, id, unreadOnly⟩ retainIds) := by
  obtain ⟨_, _, _, moments, _, _, _⟩ := other
  obtain ⟨rfl, rfl, rfl, rfl, rfl⟩ := same
  intro rust go held
  obtain ⟨listing, shown, alike⟩ := @snapshots_alike τ moments service.accountId words kind id
    unreadOnly retainIds _ _ service.scan service.newestFirst held.stores held.kept
  unfold SyncService.localSnapshot Inbox.Service.localSnapshot
  rw [SyncService.consult_apply, Inbox.consult_apply]
  refine ⟨?_, { held with transactions := congrArg (· + 1) held.transactions }⟩
  dsimp only
  rw [shown]
  exact alike

/-- This core sets its flush before the snapshot, the other one after it, and both have set
it in the end: the snapshot of the other one does not fail, and that of this one comes too
late to matter. -/
theorem beside_scheduled (same : SameSurroundings service other) (delay : Nat) {middle : SyncM σ Unit}
    (passes : ∀ world, ∃ checks, Returns middle world () { world with checks }) :
    Beside (WorldsInStep other.moments service.accountId) (Answers words (SameList other.moments))
      (SyncService.scheduleFlush delay >>= fun _ => middle >>= fun _ =>
        service.localSnapshot (.normalize kind id unreadOnly) retainIds)
      (other.localSnapshot ⟨kind, id, unreadOnly⟩ retainIds >>= fun listing =>
        Inbox.scheduleFlush delay >>= fun _ => pure listing) := by
  obtain ⟨remote, account, order, moments, scan, clock, receipts⟩ := other
  obtain ⟨rfl, rfl, rfl, rfl, rfl⟩ := same
  intro rust go held
  obtain ⟨listing, shown, alike⟩ := @snapshots_alike τ moments service.accountId words kind id
    unreadOnly retainIds _ _ service.scan service.newestFirst held.stores held.kept
  have read : Returns (Inbox.Service.localSnapshot ⟨remote, service.accountId, service.newestFirst,
      moments, service.scan, service.clock, service.randomId⟩ ⟨kind, id, unreadOnly⟩ retainIds) go
      listing { go with transactions := go.transactions + 1 } := by
    unfold Returns Inbox.Service.localSnapshot
    rw [Inbox.consult_apply]
    dsimp only
    rw [shown]
    rfl
  have begun : Returns (SyncService.scheduleFlush delay) rust ()
      { rust with requested := delay :: rust.requested } := rfl
  obtain ⟨checks, passed⟩ := passes { rust with requested := delay :: rust.requested }
  rw [bind_of_returns read, bind_of_returns begun, bind_of_returns passed]
  unfold SyncService.localSnapshot
  rw [SyncService.consult_apply]
  exact ⟨alike, { held with
    transactions := congrArg (· + 1) held.transactions
    requested := congrArg (delay :: ·) held.requested }⟩

/-- What is returned of an answer. -/
theorem beside_followed {values : α → β → Prop} {followed : α' → β' → Prop} {left : SyncM σ α}
    {right : Inbox.ServiceM σ β} {next : α → SyncM σ α'} {change' : β → β'}
    (same : Beside (@WorldsInStep σ τ moments accountId) (Answers words values) left right)
    (rest : ∀ value value', values value value' →
      Beside (WorldsInStep moments accountId) (Answers words followed) (next value) (pure (change' value'))) :
    Beside (WorldsInStep moments accountId) (Answers words followed) (left >>= next)
      (right >>= fun value => pure (change' value)) := by
  intro rust go held
  obtain ⟨outcomes, kept⟩ := same rust go held
  simp only [bind, ExceptT.bind, ExceptT.mk, StateT.bind]
  generalize left rust = ran at outcomes kept ⊢
  generalize right go = ran' at outcomes kept ⊢
  obtain ⟨outcome, after⟩ := ran
  obtain ⟨outcome', after'⟩ := ran'
  dsimp only at outcomes kept
  cases outcomes with
  | failed failing => exact ⟨.failed failing, kept⟩
  | answered both => exact rest _ _ both after after' kept
  | unreadable failing => exact ⟨.unreadable failing, kept⟩

theorem beside_pure {values : α → β → Prop} {value : α} {value' : β} (same : values value value') :
    Beside (@WorldsInStep σ τ moments accountId) (Answers words values) (pure value) (pure value') :=
  fun _ _ held => ⟨.answered same, held⟩

/-- What is returned after the last check of a deadline. -/
theorem beside_ended {values : α → β → Prop} {ended : α' → β' → Prop} {left : SyncM σ α}
    {right : Inbox.ServiceM σ β} {change : α → α'} {change' : β → β'}
    (timely : ∀ check, service.timely check = true)
    (same : Beside (@WorldsInStep σ τ moments accountId) (Answers words values) left right)
    (rest : ∀ value value', values value value' → ended (change value) (change' value')) :
    Beside (WorldsInStep moments accountId) (Answers words ended)
      (left >>= fun value => service.ensureBefore >>= fun _ => pure (change value))
      (right >>= fun value => pure (change' value)) :=
  beside_followed same fun _ _ both => beside_timely timely (beside_pure (rest _ _ both))

end Snapshots

/-! ## Calls of the services -/

section Calls
variable {service : SyncService σ} {other : Inbox.Service σ τ}
  (timely : ∀ check, service.timely check = true) (same : SameSurroundings service other)
  (kind : String) (id : Int) (unreadOnly : Bool) (retainIds : List Int)

include timely

theorem passes_ensureBefore (world : World σ) :
    ∃ checks, Returns service.ensureBefore world () { world with checks } :=
  ⟨_, SyncService.returns_ensureBefore.mpr ⟨timely world.checks, rfl⟩⟩

include same

theorem beside_localSnapshotUntil :
    Beside (WorldsInStep other.moments service.accountId) (Answers words (SameList other.moments))
      (service.localSnapshotUntil (.normalize kind id unreadOnly) retainIds)
      (other.localSnapshot ⟨kind, id, unreadOnly⟩ retainIds) := by
  have shown := @beside_localSnapshot _ _ words service other kind id unreadOnly retainIds same
  have ended := beside_timely timely (beside_ended timely shown fun _ _ same => same)
  simp only [bind_pure] at ended
  exact ended

theorem beside_markRead (ids : List Int) (read automatic : Bool) :
    Beside (WorldsInStep other.moments service.accountId) (Answers words (SameMarking other.moments))
      (service.markRead (.normalize kind id unreadOnly) ids retainIds read automatic)
      (other.markRead ⟨kind, id, unreadOnly⟩ ids retainIds read automatic) := by
  unfold Inbox.Service.markRead
  rw [same.clock, same.receipts, same.account]
  refine beside_timely timely ?_
  refine Tandem.before (tandem_transact (fun turn rust go held => held.setRead)
    fun turn store result ran held => held.setRead ran)
    (fun _ _ failing => .failed failing) ?_
  rintro receipt _ rfl
  have shown := @beside_scheduled _ _ words service other kind id unreadOnly (retainIds ++ ids) same
    (if automatic then 10 else 0) _ (passes_ensureBefore timely)
  have ended := beside_ended timely shown fun snapshot listing same =>
    (⟨same, rfl⟩ : SameMarking other.moments (snapshot, receipt) (listing, receipt))
  simp only [bind_assoc, pure_bind] at ended
  exact ended

theorem beside_setStarred (entryId : Int) (starred : Bool) :
    Beside (WorldsInStep other.moments service.accountId) (Answers words (SameList other.moments))
      (service.setStarred (.normalize kind id unreadOnly) entryId starred retainIds)
      (other.setStarred ⟨kind, id, unreadOnly⟩ entryId starred retainIds) := by
  unfold Inbox.Service.setStarred
  rw [same.clock, same.account]
  refine beside_timely timely ?_
  have stored : Tandem (@WorldsInStep σ τ other.moments service.accountId) (SameFailing words) (fun _ _ => True)
      (SyncService.transact fun turn store =>
        .ok (store.setStarred (service.clock turn 0) service.accountId entryId starred, ()))
      (Inbox.transact fun turn store =>
        .ok (Inbox.setStarred store (service.clock turn 0) service.accountId entryId starred, ())) :=
    tandem_transact (fun _ _ _ held => .ok ⟨held.setStarred, trivial⟩) fun _ _ _ ran held => by
      cases ran
      exact held.setStarred
  refine stored.before (fun _ _ failing => .failed failing) ?_
  rintro _ _ -
  have shown := @beside_scheduled _ _ words service other kind id unreadOnly
    (retainIds ++ [entryId]) same 0 (pure ()) fun world => ⟨world.checks, rfl⟩
  have ended := beside_ended timely shown fun _ _ same => same
  simp only [bind_assoc, pure_bind] at ended
  exact ended

theorem beside_undo (receiptId : String) :
    Beside (WorldsInStep other.moments service.accountId) (Answers words (SameList other.moments))
      (service.undo (.normalize kind id unreadOnly) receiptId retainIds)
      (other.undo ⟨kind, id, unreadOnly⟩ receiptId retainIds) := by
  unfold Inbox.Service.undo
  rw [same.scan, same.clock, same.account]
  refine beside_timely timely ?_
  have reverted : Tandem (@WorldsInStep σ τ other.moments service.accountId) (SameFailing words) Eq
      (SyncService.transact fun turn store =>
        .ok (store.undo service.scan (service.clock turn) service.accountId receiptId))
      (Inbox.transact fun turn store =>
        .ok (Inbox.undo store service.scan (service.clock turn) service.accountId receiptId)) :=
    tandem_transact (fun _ _ _ held => .ok held.undo) fun _ _ _ ran held => by
      cases ran
      exact held.undo
  refine reverted.before (fun _ _ failing => .failed failing) ?_
  rintro ids _ rfl
  have shown := @beside_scheduled _ _ words service other kind id unreadOnly (retainIds ++ ids) same 0
    (pure ()) fun world => ⟨world.checks, rfl⟩
  have ended := beside_ended timely shown fun _ _ same => same
  simp only [bind_assoc, pure_bind] at ended
  exact ended

omit same in
/-- A call with no answer ends alike, and a check may follow it. -/
theorem tandem_checked {left : SyncM σ Unit} {right : Inbox.ServiceM σ Unit}
    (same : Tandem (@WorldsInStep σ τ moments accountId) (SameFailing words) (fun _ _ => True) left right) :
    Tandem (WorldsInStep moments accountId) (SameFailing words) (fun _ _ => True)
      (left >>= fun _ => service.ensureBefore) right := by
  have both : Tandem (WorldsInStep moments accountId) (SameFailing words) (fun _ _ => True)
      (left >>= fun _ => service.ensureBefore >>= fun _ => pure ()) (right >>= fun _ => pure ()) :=
    same.bind fun _ _ _ => beside_timely timely (Tandem.pure trivial)
  simp only [bind_pure_unit] at both
  exact both

theorem tandem_discardUndo (receiptId : String) :
    Tandem (@WorldsInStep σ τ other.moments service.accountId) (SameFailing words) (fun _ _ => True)
      (service.discardUndo receiptId) (other.discardUndo receiptId) := by
  unfold Inbox.Service.discardUndo
  rw [same.account]
  have discarded : Tandem (@WorldsInStep σ τ other.moments service.accountId) (SameFailing words) (fun _ _ => True)
      (SyncService.transact fun _ store => .ok (store.discardUndo service.accountId receiptId, ()))
      (Inbox.transact fun _ store =>
        .ok (Inbox.discardUndo store service.accountId receiptId, ())) :=
    tandem_transact (fun _ _ _ held => .ok ⟨held.discardUndo, trivial⟩) fun _ _ _ ran held => by
      cases ran
      exact held.discardUndo
  exact beside_timely timely (tandem_checked timely discarded)

end Calls

/-! ## Calls with requests -/

section Within
variable {capacity : Int} {listing : Inbox.Listing τ} (within : listing.Within moments capacity)
  (room : capacity ≤ 2147483647)
include within room

theorem Inbox.Listing.Within.fits : listing.Fits := by
  have length := within.length
  unfold Inbox.Listing.Fits
  omega

theorem Inbox.Listing.Within.inI32_total : InI32 listing.total := by
  have total := within.total
  unfold InI32
  omega

theorem Inbox.Listing.Within.inI32_starredTotal : InI32 listing.starredTotal := by
  have starredTotal := within.starredTotal
  unfold InI32
  omega

end Within

/-- Both services over one server. Each has its client library, beside the other's, and its
article functions, which agree on what is served; the server's answers are plain, with totals
that an `i32` holds; and the services are in the same surroundings, with no deadline of this
core's passed. -/
structure OneServer (service : SyncService σ) (other : Inbox.Service σ τ) (api : MinifluxApi σ)
    (client : GoMiniflux.Client σ τ) (goHost : Host) (capacity : Int)
    (words : RemoteError → String → Prop) : Prop where
  rust : service.remote = api.inbox
  go : other.remote = Inbox.minifluxRemote goHost capacity client
  serves : client.Beside other.moments api words
  hosts : HostsAgree other.moments api service.host goHost
  plain : api.Plain other.moments capacity
  room : capacity ≤ 2147483647
  surroundings : SameSurroundings service other
  timely : ∀ check, service.timely check = true

section Requests
variable {service : SyncService σ} {other : Inbox.Service σ τ} {api : MinifluxApi σ}
  {client : GoMiniflux.Client σ τ} {goHost : Host} {capacity : Int}
  (one : OneServer service other api client goHost capacity words)
include one

/-- Both cores send the same requests for a mutation, and fail at the same one. -/
theorem tandem_deliver (mutation : PendingMutation) :
    Tandem Eq (SameText words) (fun _ _ => True) (service.deliver mutation)
      (other.deliver mutation) := by
  unfold SyncService.deliver Inbox.Service.deliver
  rw [one.rust, one.go]
  cases mutation.field with
  | read =>
    have asked := tandem_asked (one.serves.updateEntries [mutation.entryId]
      (if mutation.desired then "read" else "unread")) (fun _ => True) fun _ _ _ _ => trivial
    exact (tandem_described _ asked).mono (fun _ _ same => same) fun _ _ _ => trivial
  | starred =>
    have loaded := tandem_present (one.serves.entry mutation.entryId) (fun _ => True)
      fun _ _ _ _ => trivial
    have state : describe "Miniflux-Eintrag laden" (api.inbox.entryStarred mutation.entryId) =
        describe "Miniflux-Eintrag laden" (api.entry mutation.entryId) >>= fun entry =>
          pure entry.starred := adapt_bind_pure ..
    dsimp only [Inbox.minifluxRemote, GoMiniflux.entryState]
    rw [state, bind_assoc, bind_assoc]
    refine Tandem.bind (tandem_described _ loaded) ?_
    rintro entry _ ⟨rfl, -⟩
    rw [pure_bind, pure_bind]
    by_cases differs : entry.starred ≠ mutation.desired
    · have toggled := tandem_asked (one.serves.toggleStarred mutation.entryId) (fun _ => True)
        fun _ _ _ _ => trivial
      rw [if_pos differs, if_pos (show (GoMiniflux.Entry.ofDto other.moments entry).starred ≠
        mutation.desired from differs)]
      exact (tandem_described _ toggled).mono (fun _ _ same => same) fun _ _ _ => trivial
    · rw [if_neg differs, if_neg (show ¬ (GoMiniflux.Entry.ofDto other.moments entry).starred ≠
        mutation.desired from differs)]
      exact .pure trivial

theorem tandem_flushMutation (mutation : PendingMutation) :
    Tandem (@WorldsInStep σ τ other.moments service.accountId) (SameFailing words) (fun _ _ => True)
      (service.flushMutation mutation) (other.flushMutation mutation) := by
  unfold Inbox.Service.flushMutation
  rw [one.surroundings.account]
  have acknowledged : Tandem (@WorldsInStep σ τ other.moments service.accountId) (SameFailing words)
      (fun _ _ => True)
      (SyncService.transact fun _ store =>
        (store.acknowledge service.accountId mutation).map fun store => (store, ()))
      (Inbox.transact fun _ store =>
        (Inbox.acknowledge store service.accountId mutation).map fun store => (store, ())) :=
    tandem_transact (fun _ _ _ held => held.acknowledge.map fun _ _ same => ⟨same, trivial⟩)
      fun _ _ _ ran held => by
        obtain ⟨after, done, rfl⟩ := map_eq_ok.mp ran
        exact held.acknowledge done
  have delivered := @tandem_request σ τ _ _ other.moments service.accountId words _ _ _
    (tandem_deliver one mutation)
  refine Tandem.bind (delivered.mono ?_ fun _ _ => id) fun _ _ _ => ?_
  · rintro message _ ⟨failure, rfl, worded⟩
    exact .remote worded
  · exact beside_timely one.timely (tandem_checked one.timely acknowledged)

theorem tandem_flushPending :
    Tandem (@WorldsInStep σ τ other.moments service.accountId) (SameFailing words) (fun _ _ => True)
      service.flushPending other.flushPending := by
  unfold Inbox.Service.flushPending
  rw [one.surroundings.scan, one.surroundings.account]
  have listed : Tandem (@WorldsInStep σ τ other.moments service.accountId) (SameFailing words) Eq
      (SyncService.consult fun store => .ok (store.pending service.scan service.accountId))
      (Inbox.consult fun store => .ok (Inbox.pending store service.scan service.accountId)) :=
    tandem_transact (fun _ _ _ held => .ok ⟨held, held.pending service.scan⟩) fun _ _ _ ran held => by
      cases ran
      exact held
  refine beside_timely one.timely (listed.bind ?_)
  rintro pending _ rfl
  exact beside_timely one.timely
    (Tandem.forM pending fun mutation _ => tandem_flushMutation one mutation)

theorem beside_flushAndSnapshot (kind : String) (id : Int) (unreadOnly : Bool)
    (retainIds : List Int) :
    Beside (WorldsInStep other.moments service.accountId) (Answers words (SameList other.moments))
      (service.flushAndSnapshot (.normalize kind id unreadOnly) retainIds)
      (other.flush >>= fun _ => other.localSnapshot ⟨kind, id, unreadOnly⟩ retainIds) :=
  beside_timely one.timely (Tandem.before (tandem_flushPending one)
    (fun _ _ failing => .failed failing) fun _ _ _ =>
      beside_localSnapshotUntil one.timely one.surroundings kind id unreadOnly retainIds)

/-- What a refresh answers in both cores: the same list, and words for one failure where it
was not reached. -/
inductive SameSync (words : RemoteError → String → Prop) (moments : Inbox.Moments τ) :
    SyncResult → Inbox.Listing τ × Option GoMiniflux.Failure → Prop where
  | success {snapshot : SnapshotData} {listing : Inbox.Listing τ} :
    SameList moments snapshot listing → SameSync words moments (.success snapshot) (listing, none)
  | partly {snapshot : SnapshotData} {listing : Inbox.Listing τ} {message : String}
    {failure : GoMiniflux.Failure} : SameText words message failure →
      SameList moments snapshot listing →
        SameSync words moments (.partialResult snapshot message) (listing, some failure)

/-- The flush before a refresh, whose failure neither core takes as a failure of the refresh.
What the other one fails with is no panic, so it is caught there too. -/
theorem tandem_flushCaught :
    Tandem (@WorldsInStep σ τ other.moments service.accountId) (SameFailing words) (fun _ _ => True)
      (tryCatch service.flushPending fun _ => return)
      (tryCatch other.flushPending fun failure =>
        if failure = .remote .panicked then throw failure else return) := by
  refine (tandem_flushPending one).rescue fun message failure same => ?_
  have caught : failure ≠ .remote .panicked := by
    rintro rfl
    cases same with
    | remote worded => cases worded
  rw [if_neg caught]
  exact .pure trivial

/-- Both cores store what they browsed. The counts cut here are the whole ones, since they are
within the room that both have. -/
theorem tandem_applySnapshot {listing : Inbox.Listing τ}
    (within : listing.Within other.moments capacity) :
    Tandem (@WorldsInStep σ τ other.moments service.accountId) (SameFailing words) (fun _ _ => True)
      (SyncService.transact fun turn store => (store.applySnapshot (service.clock turn 0)
        service.accountId (listing.rust other.moments).cut).map fun store => (store, ()))
      (Inbox.transact fun turn store => (Inbox.applySnapshot other.moments store
        (service.clock turn 0) service.accountId listing).map fun store => (store, ())) := by
  refine tandem_transact (fun turn rust go held => ?_) fun turn store _ ran held => ?_
  · rw [Store.applySnapshot_cut (within.inI32_total one.room)
      (within.inI32_starredTotal one.room)]
    exact (InStep.applySnapshot (within.fits one.room) trivial held).map
      fun _ _ same => ⟨same, trivial⟩
  · obtain ⟨after, done, rfl⟩ := map_eq_ok.mp ran
    refine held.applySnapshot (fun entry listed => ?_) done
    obtain ⟨browsed, there, rfl⟩ := List.mem_map.mp listed
    exact within.written browsed there

theorem beside_sync (kind : String) (id : Int) (unreadOnly : Bool) (retainIds : List Int) :
    Beside (WorldsInStep other.moments service.accountId) (Answers words (SameSync words other.moments))
      (service.sync (.normalize kind id unreadOnly) retainIds)
      (other.sync ⟨kind, id, unreadOnly⟩ retainIds) := by
  unfold Inbox.Service.sync
  rw [one.surroundings.clock, one.surroundings.account, one.go]
  refine beside_timely one.timely ?_
  refine Tandem.before (tandem_flushCaught one) (fun _ _ failing => .failed failing) fun _ _ _ => ?_
  have browsed := tandem_browse kind id unreadOnly one.serves one.plain one.hosts
  rw [← one.rust] at browsed
  have observed := (@tandem_request σ τ _ _ other.moments service.accountId words _ _ _ browsed).observe
  refine Tandem.before observed ?_ ?_
  · rintro message _ ⟨failure, rfl, worded⟩
    exact .failed (.remote worded)
  intro outcome outcome' same
  have shown := @beside_localSnapshotUntil _ _ words service other one.timely one.surroundings kind id
    unreadOnly retainIds
  cases same with
  | @error message _ same =>
    obtain ⟨failure, rfl, worded⟩ := same
    -- words for a failure are never a panic
    cases worded with
    | own => exact beside_followed shown fun _ _ same => beside_pure (.partly (.own _) same)
    | server label worded =>
      exact beside_followed shown fun _ _ same => beside_pure (.partly (.server label worded) same)
  | @ok snapshot listing both =>
    obtain ⟨rfl, within⟩ := both
    refine beside_timely one.timely
      ((tandem_applySnapshot one within).before (fun _ _ failing => .failed failing) fun _ _ _ => ?_)
    exact beside_timely one.timely (beside_followed shown fun _ _ same => beside_pure (.success same))

end Requests

/-! ## Runs of calls -/

/-- The calls of a sync service, as the API of either core makes them. -/
inductive Inbox.ServiceCall where
  | localSnapshot (selection : Inbox.Selection) (retainIDs : List Int)
  | sync (selection : Inbox.Selection) (retainIDs : List Int)
  | markRead (selection : Inbox.Selection) (ids retainIDs : List Int) (read automatic : Bool)
  | setStarred (selection : Inbox.Selection) (id : Int) (starred : Bool) (retainIDs : List Int)
  | undo (selection : Inbox.Selection) (receiptID : String) (retainIDs : List Int)
  | discardUndo (receiptID : String)
  | flush
  | flushAndSnapshot (selection : Inbox.Selection) (retainIDs : List Int)

/-- What a call answers. -/
inductive ServiceAnswer (snapshot failure : Type) where
  | done
  | shown (shown : snapshot)
  | marked (shown : snapshot) (receipt : Option MutationReceipt)
  | synced (shown : snapshot) (error : Option failure)

/-- A selection as this core decodes it. -/
abbrev Inbox.Selection.rust (selection : Inbox.Selection) : FluxBar.Selection :=
  .normalize selection.kind selection.id selection.unreadOnly

/-- A call in this core, with its answer in the shape that both have. -/
def SyncService.answer (service : SyncService σ) :
    Inbox.ServiceCall → SyncM σ (ServiceAnswer SnapshotData String)
  | .localSnapshot selection retainIds => do
    return .shown (← service.localSnapshotUntil selection.rust retainIds)
  | .sync selection retainIds => do
    match ← service.sync selection.rust retainIds with
    | .success snapshot => return .synced snapshot none
    | .partialResult snapshot error => return .synced snapshot (some error)
  | .markRead selection ids retainIds read automatic => do
    let (snapshot, receipt) ← service.markRead selection.rust ids retainIds read automatic
    return .marked snapshot receipt
  | .setStarred selection id starred retainIds => do
    return .shown (← service.setStarred selection.rust id starred retainIds)
  | .undo selection receiptId retainIds => do
    return .shown (← service.undo selection.rust receiptId retainIds)
  | .discardUndo receiptId => do
    service.discardUndo receiptId
    return .done
  | .flush => do
    service.flush
    return .done
  | .flushAndSnapshot selection retainIds => do
    return .shown (← service.flushAndSnapshot selection.rust retainIds)

/-- The same call in the other core. -/
def Inbox.Service.answer (service : Inbox.Service σ τ) :
    ServiceCall → ServiceM σ (ServiceAnswer (Listing τ) GoMiniflux.Failure)
  | .localSnapshot selection retainIDs => do
    return .shown (← service.localSnapshot selection retainIDs)
  | .sync selection retainIDs => do
    let (snapshot, error) ← service.sync selection retainIDs
    return .synced snapshot error
  | .markRead selection ids retainIDs read automatic => do
    let (snapshot, receipt) ← service.markRead selection ids retainIDs read automatic
    return .marked snapshot receipt
  | .setStarred selection id starred retainIDs => do
    return .shown (← service.setStarred selection id starred retainIDs)
  | .undo selection receiptID retainIDs => do
    return .shown (← service.undo selection receiptID retainIDs)
  | .discardUndo receiptID => do
    service.discardUndo receiptID
    return .done
  | .flush => do
    service.flush
    return .done
  | .flushAndSnapshot selection retainIDs => do
    service.flush
    return .shown (← service.localSnapshot selection retainIDs)

/-- Answers alike: the same list, the same receipt, and words for one failure beside a
snapshot. -/
inductive SameAnswer (words : RemoteError → String → Prop) (moments : Inbox.Moments τ) :
    ServiceAnswer SnapshotData String → ServiceAnswer (Inbox.Listing τ) GoMiniflux.Failure → Prop where
  | done : SameAnswer words moments .done .done
  | shown {snapshot : SnapshotData} {listing : Inbox.Listing τ} :
    SameList moments snapshot listing → SameAnswer words moments (.shown snapshot) (.shown listing)
  | marked {snapshot : SnapshotData} {listing : Inbox.Listing τ} (receipt : Option MutationReceipt) :
    SameList moments snapshot listing →
      SameAnswer words moments (.marked snapshot receipt) (.marked listing receipt)
  | synced {snapshot : SnapshotData} {listing : Inbox.Listing τ} :
    SameList moments snapshot listing →
      SameAnswer words moments (.synced snapshot none) (.synced listing none)
  | partly {snapshot : SnapshotData} {listing : Inbox.Listing τ} {message : String}
    {failure : GoMiniflux.Failure} : SameText words message failure →
      SameList moments snapshot listing → SameAnswer words moments (.synced snapshot (some message))
        (.synced listing (some failure))

section Runs
variable {service : SyncService σ} {other : Inbox.Service σ τ} {api : MinifluxApi σ}
  {client : GoMiniflux.Client σ τ} {goHost : Host} {capacity : Int}
  (one : OneServer service other api client goHost capacity words)
include one

/-- One call of both services, by cases on the call: both end alike, or this core fails
alone over a number. -/
theorem beside_answer (call : Inbox.ServiceCall) :
    Beside (WorldsInStep other.moments service.accountId) (Answers words (SameAnswer words other.moments))
      (service.answer call) (other.answer call) := by
  have timely := one.timely
  have same := one.surroundings
  cases call with
  | localSnapshot selection retainIds =>
    exact beside_followed (beside_localSnapshotUntil timely same selection.kind selection.id
      selection.unreadOnly retainIds) fun _ _ same => beside_pure (.shown same)
  | sync selection retainIds =>
    refine beside_followed (beside_sync one selection.kind selection.id selection.unreadOnly
      retainIds) ?_
    intro result answer same
    cases same with
    | success same => exact beside_pure (.synced same)
    | partly worded same => exact beside_pure (.partly worded same)
  | markRead selection ids retainIds read automatic =>
    refine beside_followed (beside_markRead timely same selection.kind selection.id
      selection.unreadOnly retainIds ids read automatic) ?_
    rintro ⟨snapshot, receipt⟩ ⟨listing, _⟩ ⟨same, rfl⟩
    exact beside_pure (.marked receipt same)
  | setStarred selection id starred retainIds =>
    exact beside_followed (beside_setStarred timely same selection.kind selection.id
      selection.unreadOnly retainIds id starred) fun _ _ same => beside_pure (.shown same)
  | undo selection receiptId retainIds =>
    exact beside_followed (beside_undo timely same selection.kind selection.id selection.unreadOnly
      retainIds receiptId) fun _ _ same => beside_pure (.shown same)
  | discardUndo receiptId =>
    exact (tandem_discardUndo timely same receiptId).before (fun _ _ failing => .failed failing)
      fun _ _ _ => beside_pure .done
  | flush =>
    exact Tandem.before (beside_timely timely (tandem_flushPending one))
      (fun _ _ failing => .failed failing) fun _ _ _ => beside_pure .done
  | flushAndSnapshot selection retainIds =>
    have both := beside_followed (beside_flushAndSnapshot one selection.kind selection.id
      selection.unreadOnly retainIds)
      fun _ _ same => beside_pure (.shown same : SameAnswer words other.moments (.shown _) (.shown _))
    simp only [bind_assoc] at both
    exact both

/-- The world of a service whose account is new. -/
def SyncService.fresh (service : SyncService σ) (url : String) (server : σ) : World σ where
  store := Store.empty.ensureAccount service.accountId url
  remote := server
  transactions := 0
  checks := 0
  requested := []

/-- The other core's. -/
def Inbox.Service.fresh (service : Inbox.Service σ τ) (url : String) (server : σ) : Inbox.World σ where
  store := Inbox.ensureAccount .empty service.accountID url
  remote := server
  transactions := 0
  requested := []

/-- The worlds of both services, begun on a new account over one server. -/
theorem worldsInStep_fresh (url : String) (server : σ) :
    WorldsInStep other.moments service.accountId (service.fresh url server)
      (other.fresh url server) := by
  unfold SyncService.fresh Inbox.Service.fresh
  rw [one.surroundings.account]
  exact ⟨InStep.empty.ensureAccount, rfl, rfl, rfl, Store.Kept.ensureAccount⟩

end Runs

end Services

/-- A service over the server of one marked article. -/
def markedService : SyncService (List EntriesFilter) where
  accountId := "account"
  newestFirst := true
  remote := oneMarked.inbox
  host := bareHost
  scan := .storage
  clock _ _ := "2024-01-02T00:00:00Z"
  randomId _ := "receipt"
  timely _ := true

/-- The other core's, with its own library and article functions. -/
def otherMarkedService : Inbox.Service (List EntriesFilter) Int where
  accountID := "account"
  newestFirst := true
  remote := Inbox.minifluxRemote otherHost 100 oneMarkedClient
  moments := newYear
  scan := .storage
  clock _ _ := "2024-01-02T00:00:00Z"
  randomID _ := "receipt"

theorem marked_oneServer : OneServer markedService otherMarkedService oneMarked oneMarkedClient
    otherHost 100 missingWords :=
  ⟨rfl, rfl, oneMarked_beside, oneMarked_hosts, oneMarked_plain, by decide,
    ⟨rfl, rfl, rfl, rfl, rfl⟩, fun _ => rfl⟩

end FluxBar
