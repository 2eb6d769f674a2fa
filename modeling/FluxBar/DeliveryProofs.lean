import FluxBar.DeliveryProtocol

/-! No local change is lost. Each field of each entry, seen together with the
server's value of it and with what the gate is held for, runs through an
exchange between a client and its server. -/
namespace FluxBar
open Relational WriteBehind Relation Transition Procedure

/-! ## What the gate is held for -/

/-- Mutations to be delivered: of stored entries, and one for each field, so that the order
of delivery does not matter to a field. -/
structure Queued (store : Store) (accountId : String) (todo : List PendingMutation) : Prop where
  stored : ∀ mutation ∈ todo, (store.entries.find? (accountId, mutation.entryId)).isSome
  distinct : (todo.map fun mutation => (mutation.entryId, mutation.field)).Nodup

/-- Every stored entry is on the server, filed as it is stored; a scope means the same on
both sides then. -/
def Filed (accountId : String) (store : Store) (server : RemoteAccount) : Prop :=
  ∀ entryId row, store.entries.find? (accountId, entryId) = some row →
    ∃ article, server.articles.find? entryId = some article ∧
      row.feedId = article.feedId ∧ row.categoryId = article.categoryId

theorem Queued.sameContent {store after : Store} {accountId : String} {todo : List PendingMutation}
    (queued : Queued store accountId todo) (same : store.SameContent after) :
    Queued after accountId todo :=
  ⟨fun mutation held => same.stored (queued.stored mutation held), queued.distinct⟩

theorem Queued.tail {store : Store} {accountId : String} {mutation : PendingMutation}
    {todo : List PendingMutation} (queued : Queued store accountId (mutation :: todo)) :
    Queued store accountId todo :=
  ⟨fun other held => queued.stored other (List.mem_cons_of_mem mutation held),
    (List.nodup_cons.mp queued.distinct).2⟩

theorem Filed.sameContent {store after : Store} {accountId : String} {server : RemoteAccount}
    (filed : Filed accountId store server) (same : store.SameContent after) :
    Filed accountId after server := by
  intro entryId row found
  have contents := same (accountId, entryId)
  rw [found, Option.map_some] at contents
  obtain ⟨old, held, content⟩ := Option.map_eq_some_iff.mp contents.symm
  obtain ⟨article, listed, feed, category⟩ := filed entryId old held
  have feeds : old.content.feedId = row.content.feedId := congrArg EntryRow.feedId content
  have categories : old.content.categoryId = row.content.categoryId :=
    congrArg EntryRow.categoryId content
  exact ⟨article, listed, feeds.symm.trans feed, categories.symm.trans category⟩

theorem Filed.samePlaces {store : Store} {accountId : String} {server after : RemoteAccount}
    (filed : Filed accountId store server) (same : server.SamePlaces after) :
    Filed accountId store after := by
  intro entryId row found
  obtain ⟨article, listed, feed, category⟩ := filed entryId row found
  have places := same entryId
  rw [listed, Option.map_some] at places
  obtain ⟨moved, held, place⟩ := Option.map_eq_some_iff.mp places
  obtain ⟨feedSame, categorySame⟩ := Prod.mk.inj place
  exact ⟨moved, held, feed.trans feedSame.symm, category.trans categorySame.symm⟩

theorem place_entryToDomain (host : Host) (entry : EntryDto) :
    ((entryToDomain host entry).feedId, (entryToDomain host entry).categoryId) = entry.place := by
  unfold entryToDomain EntryDto.place
  cases entry.feed <;> rfl

theorem Store.place_storedRow (store : Store) (accountId : String) (entry : Entry) :
    (store.storedRow accountId entry).feedId = entry.feedId ∧
      (store.storedRow accountId entry).categoryId = entry.categoryId := by
  unfold storedRow
  cases store.entries.find? (accountId, entry.id) <;> exact ⟨rfl, rfl⟩

theorem Store.content_dismissRow (store : Store) (selection : Selection) (row : EntryRow) :
    (store.dismissRow selection row).content = row.content := by
  unfold dismissRow
  split_ifs <;> rfl

/-- A refresh files what it stores as the server does. -/
theorem Filed.refresh {store after : Store} {accountId now : String} {host : Host}
    {selection : Selection} {server : RemoteAccount} (filed : Filed accountId store server)
    (normal : selection.Normal)
    (applied : store.applySnapshot now accountId (server.browsed host selection) = .ok after) :
    Filed accountId after server := by
  intro entryId row found
  obtain ⟨reconciled, navigated, refreshed⟩ := Store.refreshed_browsed normal applied
  by_cases listed : ∃ entry ∈ (server.browsed host selection).entries, entry.id = entryId
  · obtain ⟨entry, held, rfl⟩ := listed
    rw [refreshed.find?_listed (Store.distinct_browsed host selection server) held] at found
    cases found
    obtain ⟨article, matching, rfl⟩ := List.mem_map.mp held
    have place : ((entryToDomain host article.dto).feedId,
        (entryToDomain host article.dto).categoryId) = (article.feedId, article.categoryId) :=
      (place_entryToDomain host article.dto).trans article.placed
    obtain ⟨feed, category⟩ := Prod.mk.inj place
    obtain ⟨storedFeed, storedCategory⟩ :=
      Store.place_storedRow store accountId (entryToDomain host article.dto)
    exact ⟨article, Table.find?_of_mem (List.mem_of_mem_filter matching),
      storedFeed.trans feed, storedCategory.trans category⟩
  · push Not at listed
    have elsewhere : ∀ entry ∈ (server.browsed host selection).entries,
        (accountId, entryId) ≠ (accountId, entry.id) :=
      fun entry held same => listed entry held (Prod.mk.inj same).2.symm
    rw [refreshed.find?_unlisted elsewhere] at found
    obtain ⟨old, held, rfl⟩ := Option.map_eq_some_iff.mp found
    obtain ⟨article, kept, feed, category⟩ := filed entryId old held
    refine ⟨article, kept, ?_⟩
    split
    · have dismissed := Store.content_dismissRow store selection old
      exact ⟨(congrArg EntryRow.feedId dismissed).trans feed,
        (congrArg EntryRow.categoryId dismissed).trans category⟩
    · exact ⟨feed, category⟩

section Invariant
variable (accountId : String) (host : Host)

/-- What the gate is held for, as the holder relies on it: a queue that can be acknowledged,
the star that was last asked for, or the snapshot that was browsed. -/
def GateSound (state : Delivery) : Prop :=
  match state.gate with
  | .free => True
  | .flushing todo => Queued state.store accountId todo
  | .inspected mutation current todo => Queued state.store accountId (mutation :: todo) ∧
      mutation.field = .starred ∧ state.server.value mutation.entryId .starred = current
  | .delivered mutation todo => Queued state.store accountId (mutation :: todo)
  | .browsed selection snapshot =>
      selection.Normal ∧ snapshot = state.server.browsed host selection

/-- What every state of a run is like, whatever refreshes are admitted: the store is
founded, its entries are filed as on the server, and the gate's holder is right about what
it holds. -/
structure Regular (state : Delivery) : Prop where
  founded : state.store.Founded
  filed : Filed accountId state.store state.server
  gate : GateSound accountId host state

end Invariant

variable {accountId : String} {host : Host} {state after : Delivery}
  {admitted : Store → RemoteAccount → Selection → Prop}

theorem Operation.IsLocal.unrefreshed {operation : Operation} (isLocal : operation.IsLocal accountId) :
    ∀ now account snapshot, operation ≠ .applySnapshot now account snapshot := by
  rintro now account snapshot rfl
  exact isLocal

theorem sameContent_commit {store : Store} {operation : Operation}
    (isLocal : operation.IsLocal accountId) :
    store.SameContent (store.commit (operation.run store)) := by
  cases ran : operation.run store with
  | ok after => exact Store.sameContent_operation isLocal.unrefreshed ran
  | error failure => exact .refl

/-- A local write disturbs no one who holds the gate: entries stay stored, and what was
listed stays listed. -/
theorem GateSound.sameContent (sound : GateSound accountId host state) {store : Store}
    (same : state.store.SameContent store) : GateSound accountId host { state with store } := by
  unfold GateSound at sound ⊢
  cases held : state.gate with
  | free => trivial
  | flushing todo | delivered mutation todo =>
    rw [held] at sound
    exact sound.sameContent same
  | inspected mutation current todo =>
    rw [held] at sound
    exact ⟨sound.1.sameContent same, sound.2⟩
  | browsed selection snapshot =>
    rw [held] at sound
    exact sound

/-- The head of a queue is on the server, because its entry is stored and stored entries are
filed. -/
theorem Regular.onServer (regular : Regular accountId host state) {mutation : PendingMutation}
    {todo : List PendingMutation} (queued : Queued state.store accountId (mutation :: todo)) :
    (state.server.articles.find? mutation.entryId).isSome := by
  obtain ⟨row, found⟩ := Option.isSome_iff_exists.mp (queued.stored mutation List.mem_cons_self)
  obtain ⟨article, listed, _⟩ := regular.filed mutation.entryId row found
  rw [listed]
  rfl

theorem regular_step (regular : Regular accountId host state)
    (step : Delivery.Step accountId host admitted state after) : Regular accountId host after := by
  obtain ⟨founded, filed, gate⟩ := regular
  cases step with
  | write operation isLocal onStored =>
    have same : state.store.SameContent (state.store.commit (operation.run state.store)) :=
      sameContent_commit isLocal
    exact ⟨founded.changed (Store.changed_commit founded.undoStored onStored),
      filed.sameContent same, gate.sameContent same⟩
  | list scan idle =>
    refine ⟨founded, filed, ?_, Store.nodup_pending state.store scan accountId⟩
    intro mutation listed
    refine Store.cell_known.mp (founded.pending accountId mutation.entryId mutation.field ?_)
    rw [Store.ticket_of_mem_pending listed]
    rfl
  | @setRead mutation todo server arrives holds isRead asked =>
    cases returns_setReadBatch.mp asked
    refine ⟨founded, filed.samePlaces ?_, ?_⟩
    · exact RemoteAccount.samePlaces_rewrite fun _ => ⟨rfl, rfl⟩
    · cases arrives with
      | false => trivial
      | true => simpa [GateSound, holds] using gate
  | @inspect mutation todo current holds isStarred asked =>
    obtain ⟨article, found, rfl, _⟩ := returns_entryStarred.mp asked
    have queued : Queued state.store accountId (mutation :: todo) := by
      simpa [GateSound, holds] using gate
    refine ⟨founded, filed, queued, isStarred, ?_⟩
    simp only [RemoteAccount.value, found]
    rfl
  | @agree mutation todo holds =>
    simp only [GateSound, holds] at gate
    exact ⟨founded, filed, gate.1⟩
  | @toggle mutation current todo server arrives holds differs asked =>
    obtain ⟨_, rfl⟩ := returns_toggleStarred.mp asked
    refine ⟨founded, filed.samePlaces ?_, ?_⟩
    · exact RemoteAccount.samePlaces_rewrite fun _ => ⟨rfl, rfl⟩
    · cases arrives with
      | false => trivial
      | true =>
        simp only [GateSound, holds] at gate
        exact gate.1
  | @acknowledge mutation todo store holds done =>
    have same := Store.sameContent_acknowledge done
    have queued : Queued state.store accountId (mutation :: todo) := by
      simpa [GateSound, holds] using gate
    exact ⟨founded.acknowledge done, filed.sameContent same, queued.tail.sameContent same⟩
  | @browse selection snapshot idle normal browsed =>
    obtain ⟨_, rfl, _⟩ := returns_browse.mp browsed
    exact ⟨founded, filed, normal, rfl⟩
  | @refresh selection snapshot store now holds spared applied =>
    have browsed : selection.Normal ∧ snapshot = state.server.browsed host selection := by
      simpa [GateSound, holds] using gate
    obtain ⟨normal, rfl⟩ := browsed
    exact ⟨founded.changed (Store.changed_applySnapshot applied), filed.refresh normal applied,
      trivial⟩
  | abort => exact ⟨founded, filed, trivial⟩

theorem regular_of_reachable
    (reached : (deliveries accountId host admitted).Reachable state) :
    Regular accountId host state := by
  refine reached.invariant (Regular accountId host) ?_ fun _ _ _ regular step =>
    regular_step regular step
  rintro state ⟨⟨server, fresh⟩, idle⟩
  have empty : ∀ key, state.store.entries.find? key = none := by
    intro key
    rw [fresh]
    rfl
  refine ⟨⟨fun _ _ _ intended => ?_, ?_⟩, fun entryId row found => ?_, ?_⟩
  · simp [fresh, Store.cell, Store.ensureAccount, Store.empty] at intended
  · rw [fresh]
    exact fun _ held => by cases held
  · simp [empty] at found
  · simp [GateSound, idle]

/-! ## The exchange of one field -/

/-- What a queue holds for a field: the ticket of its one mutation, if it has one. -/
def listedPhase (todo : List PendingMutation) (entryId : Int) (field : MutationField) :
    Phase field.Value :=
  match todo.find? fun mutation => mutation.entryId = entryId && mutation.field = field with
  | some mutation => .listed ⟨field.value mutation.desired, mutation.revision⟩
  | none => .idle

/-- What the gate is held for, as far as a field goes. -/
def Delivery.phase (state : Delivery) (entryId : Int) (field : MutationField) : Phase field.Value :=
  match state.gate with
  | .free => .idle
  | .flushing todo => listedPhase todo entryId field
  | .inspected mutation _ todo => listedPhase (mutation :: todo) entryId field
  | .delivered mutation todo =>
    if mutation.entryId = entryId && mutation.field = field then
      .delivered ⟨field.value mutation.desired, mutation.revision⟩
    else listedPhase todo entryId field
  | .browsed _ _ => .browsed (state.server.value entryId field)

/-- A field of an entry on both sides, as one exchange between a server and a write-behind
cell. The two parties are simulated by one such exchange for each field. -/
def Delivery.link (state : Delivery) (accountId : String) (entryId : Int) (field : MutationField) :
    Link field.Value where
  server := state.server.value entryId field
  cell := state.store.cell accountId entryId field
  phase := state.phase entryId field

section Phases
variable {mutation : PendingMutation} {todo : List PendingMutation} {entryId : Int}
  {field : MutationField}

theorem listedPhase_head : listedPhase (mutation :: todo) mutation.entryId mutation.field =
    .listed mutation.ticket := by
  simp [listedPhase, PendingMutation.ticket]

theorem listedPhase_other (elsewhere : (entryId, field) ≠ (mutation.entryId, mutation.field)) :
    listedPhase (mutation :: todo) entryId field = listedPhase todo entryId field := by
  have apart : ¬ (mutation.entryId = entryId ∧ mutation.field = field) := by
    rintro ⟨rfl, rfl⟩
    exact elsewhere rfl
  unfold listedPhase
  rw [List.find?_cons_of_neg (by simpa using apart)]

theorem listedPhase_absent
    (absent : (entryId, field) ∉ todo.map fun mutation => (mutation.entryId, mutation.field)) :
    listedPhase todo entryId field = .idle := by
  have unfound : (todo.find? fun mutation =>
      mutation.entryId = entryId && mutation.field = field) = none := by
    refine List.find?_eq_none.mpr fun mutation listed => ?_
    simp only [Bool.and_eq_true, decide_eq_true_eq]
    rintro ⟨rfl, rfl⟩
    exact absent (List.mem_map_of_mem listed)
  unfold listedPhase
  rw [unfound]

end Phases

/-- A refresh of what is starred and unread finds every entry starred that is unread on the
server and has no read change pending. Any other refresh spares what is there by itself. -/
def Spares (accountId : String) (store : Store) (server : RemoteAccount) (selection : Selection) :
    Prop :=
  selection = .starred true → ∀ row, store.entries.find? (accountId, row.id) = some row →
    row.remoteStatus = "unread" → ¬ store.hasPending accountId row.id .read →
    ∀ article, server.articles.find? row.id = some article → article.dto.status = "unread" →
      article.dto.starred

theorem covers_of_inScope {selection : Selection} {row : EntryRow} {article : Article}
    (inside : Store.inScope selection row) (feed : row.feedId = article.feedId)
    (category : row.categoryId = article.categoryId) : selection.covers article := by
  cases selection with
  | category id unreadOnly =>
    exact category.symm.trans (by simpa [Store.inScope] using inside)
  | feed id unreadOnly => exact feed.symm.trans (by simpa [Store.inScope] using inside)
  | all _ _ | unread _ | starred _ => trivial

/-- What a refresh clears is absent on the server, unless a pending change stands over it.
This is where the condition on refreshes is used: it is the only step that learns from
absence. -/
theorem value_of_clears {store : Store} {server : RemoteAccount} {selection : Selection}
    {row : EntryRow} {entryId : Int} {field : MutationField}
    (filed : Filed accountId store server) (normal : selection.Normal)
    (spares : Spares accountId store server selection)
    (found : store.entries.find? (accountId, entryId) = some row)
    (cleared : selection.clears field row)
    (absent : ∀ article, server.articles.find? entryId = some article →
      ¬ (browseFilter selection).admits article) :
    server.value entryId field = field.absent ∨ store.hasPending accountId entryId field := by
  obtain ⟨article, listed, feed, category⟩ := filed entryId row found
  have held : server.value entryId field = field.held article := by
    simp only [RemoteAccount.value, listed, Option.elim_some]
  have refused := absent article listed
  rw [held]
  cases field with
  | starred =>
    refine Or.inl (Bool.eq_false_iff.mpr fun starred => ?_)
    exact refused (admits_of_clears cleared starred)
  | read =>
    rcases article.known with read | unread
    · exact Or.inl read
    · simp only [Selection.clears, Bool.and_eq_true, decide_eq_true_eq] at cleared
      obtain ⟨⟨restricted, inside⟩, wasUnread⟩ := cleared
      have covered := covers_of_inScope inside feed category
      have starless : selection.isStarred ∧ ¬ article.dto.starred := by
        by_contra kept
        refine refused ((admits_browseFilter normal article).mpr ⟨fun _ => unread, fun starred => ?_,
          covered⟩)
        by_contra starless
        exact kept ⟨starred, starless⟩
      have both : selection = .starred true := by
        cases selection <;> simp_all [Selection.isStarred, Selection.isUnreadOnly]
      have named : row.id = entryId := congrArg Prod.snd (Table.key_of_find? found)
      subst named
      by_contra settled
      exact starless.2 (spares both row found wasUnread (fun pending => settled (Or.inr pending))
        article listed unread)

/-- A refresh is a refresh of each field, or a misreading that a pending change
stands over. -/
theorem links_refresh {store after : Store} {server : RemoteAccount} {selection : Selection}
    {now : String} (filed : Filed accountId store server) (normal : selection.Normal)
    (spares : Spares accountId store server selection)
    (applied : store.applySnapshot now accountId (server.browsed host selection) = .ok after)
    (entryId : Int) (field : MutationField) :
    ReflTransGen Link.Step
      ⟨server.value entryId field, store.cell accountId entryId field,
        .browsed (server.value entryId field)⟩
      ⟨server.value entryId field, after.cell accountId entryId field, .idle⟩ := by
  by_cases listed : ∃ article, server.articles.find? entryId = some article ∧
      (browseFilter selection).admits article
  · obtain ⟨article, held, admitted⟩ := listed
    have value : server.value entryId field = field.held article := by
      simp only [RemoteAccount.value, held, Option.elim_some]
    rw [Store.cell_refresh_listed normal applied held admitted, value]
    exact .tail (.single (.refresh rfl)) .giveUp
  · have absent : ∀ article, server.articles.find? entryId = some article →
        ¬ (browseFilter selection).admits article :=
      fun article held admitted => listed ⟨article, held, admitted⟩
    by_cases cleared : ∃ row, store.entries.find? (accountId, entryId) = some row ∧
        selection.clears field row
    · obtain ⟨row, found, cleared⟩ := cleared
      rw [Store.cell_refresh_cleared normal applied absent found cleared]
      rcases value_of_clears filed normal spares found cleared absent with same | pending
      · rw [same]
        exact .tail (.single (.refresh rfl)) .giveUp
      · exact .tail (.single (.misread field.absent (Store.cell_pending.trans pending))) .giveUp
    · rw [Store.cell_refresh_kept normal applied absent fun row found clears =>
        cleared ⟨row, found, clears⟩]
      exact .single .giveUp

theorem links_write {operation : Operation} (isLocal : operation.IsLocal accountId)
    (onStored : operation.OnStored state.store) (founded : state.store.Founded)
    (entryId : Int) (field : MutationField) :
    ReflTransGen (Cell.Move fun _ => False) (state.store.cell accountId entryId field)
      ((state.store.commit (operation.run state.store)).cell accountId entryId field) := by
  have changed := Store.changed_commit founded.undoStored onStored
  have moved := changed.moved accountId entryId field
  cases operation with
  | applySnapshot now account snapshot => exact absurd rfl (isLocal.unrefreshed now account snapshot)
  | ensureAccount _ _ | setRead _ _ _ _ _ _ | setStarred _ _ _ _ | undo _ _ _ _ | discardUndo _ _ =>
    exact moved

/-- A delivery of the head of a queue, as every field sees it: the server takes
the desired value of the head's field and keeps the others. -/
theorem links_deliver {server : RemoteAccount} {mutation : PendingMutation}
    {todo : List PendingMutation} (arrives : Bool)
    (before : ∀ entryId field,
      state.phase entryId field = listedPhase (mutation :: todo) entryId field)
    (value : server.value mutation.entryId mutation.field = mutation.field.value mutation.desired)
    (others : ∀ entryId field, (entryId, field) ≠ (mutation.entryId, mutation.field) →
      server.value entryId field = state.server.value entryId field)
    (entryId : Int) (field : MutationField) :
    ReflTransGen Link.Step (state.link accountId entryId field)
      (Delivery.link { state with
        server, gate := if arrives then .delivered mutation todo else .free }
        accountId entryId field) := by
  by_cases here : (entryId, field) = (mutation.entryId, mutation.field)
  · simp only [Prod.mk.injEq] at here
    obtain ⟨rfl, rfl⟩ := here
    have listed : (state.link accountId mutation.entryId mutation.field).phase =
        .listed mutation.ticket :=
      (before mutation.entryId mutation.field).trans listedPhase_head
    have delivered := Link.Step.deliver listed
    cases arrives with
    | true =>
      have done : Delivery.link { state with server, gate := .delivered mutation todo } accountId
          mutation.entryId mutation.field =
          { state.link accountId mutation.entryId mutation.field with
            server := mutation.ticket.desired, phase := .delivered mutation.ticket } := by
        simp [Delivery.link, Delivery.phase, value, PendingMutation.ticket]
      exact done ▸ .single delivered
    | false =>
      have lost : Delivery.link { state with server, gate := .free } accountId
          mutation.entryId mutation.field =
          { state.link accountId mutation.entryId mutation.field with
            server := mutation.ticket.desired, phase := .idle } := by
        simp [Delivery.link, Delivery.phase, value, PendingMutation.ticket]
      exact lost ▸ .tail (.single delivered) .giveUp
  · have kept := others entryId field here
    cases arrives with
    | true =>
      have same : Delivery.link { state with server, gate := .delivered mutation todo } accountId
          entryId field = state.link accountId entryId field := by
        have apart : ¬ (mutation.entryId = entryId ∧ mutation.field = field) := by
          rintro ⟨rfl, rfl⟩
          exact here rfl
        have phase := (before entryId field).trans (listedPhase_other here)
        unfold Delivery.link
        rw [phase]
        simp [Delivery.phase, kept, apart]
      exact same ▸ .refl
    | false =>
      have given : Delivery.link { state with server, gate := .free } accountId entryId field =
          { state.link accountId entryId field with phase := .idle } := by
        simp [Delivery.link, Delivery.phase, kept]
      exact given ▸ .single .giveUp

/-- Every step of the two parties is a run of the exchange of each field: one step or more
where it concerns the field, and none otherwise. -/
theorem links_step (regular : Regular accountId host state)
    (step : Delivery.Step accountId host (Spares accountId) state after)
    (entryId : Int) (field : MutationField) :
    ReflTransGen Link.Step (state.link accountId entryId field)
      (after.link accountId entryId field) := by
  have gate := regular.gate
  cases step with
  | write operation isLocal onStored =>
    exact Link.steps_of_moves (links_write isLocal onStored regular.founded entryId field)
  | list scan idle =>
    cases found : (state.store.pending scan accountId).find? fun mutation =>
        mutation.entryId = entryId && mutation.field = field with
    | none =>
      have same : Delivery.link { state with gate := .flushing (state.store.pending scan accountId) }
          accountId entryId field = state.link accountId entryId field := by
        simp [Delivery.link, Delivery.phase, idle, listedPhase, found]
      exact same ▸ .refl
    | some mutation =>
      have listed := List.mem_of_find?_eq_some found
      have named := List.find?_some found
      simp only [Bool.and_eq_true, decide_eq_true_eq] at named
      obtain ⟨rfl, rfl⟩ := named
      have taken : Link.Step (state.link accountId mutation.entryId mutation.field)
          { state.link accountId mutation.entryId mutation.field with
            phase := .listed mutation.ticket } :=
        .list (Store.ticket_of_mem_pending listed)
      have same : Delivery.link { state with gate := .flushing (state.store.pending scan accountId) }
          accountId mutation.entryId mutation.field =
          { state.link accountId mutation.entryId mutation.field with
            phase := .listed mutation.ticket } := by
        simp [Delivery.link, Delivery.phase, listedPhase, found, PendingMutation.ticket]
      exact same ▸ .single taken
  | @setRead mutation todo server arrives holds isRead asked =>
    cases returns_setReadBatch.mp asked
    simp only [GateSound, holds] at gate
    have onServer := regular.onServer gate
    obtain ⟨mutated, changed, desired, revision⟩ := mutation
    cases isRead
    refine links_deliver arrives (fun _ _ => by simp only [Delivery.phase, holds]) ?_ ?_ entryId field
    · exact RemoteAccount.value_setRead onServer
    · exact fun _ _ elsewhere => RemoteAccount.value_setRead_other elsewhere
  | @inspect mutation todo current holds isStarred asked =>
    have same : Delivery.link { state with gate := .inspected mutation current todo } accountId
        entryId field = state.link accountId entryId field := by
      simp only [Delivery.link, Delivery.phase, holds]
    exact same ▸ .refl
  | @agree mutation todo holds =>
    simp only [GateSound, holds] at gate
    obtain ⟨_, isStarred, current⟩ := gate
    obtain ⟨mutated, changed, desired, revision⟩ := mutation
    cases isStarred
    exact links_deliver true (fun _ _ => by simp only [Delivery.phase, holds]) current
      (fun _ _ _ => rfl) entryId field
  | @toggle mutation current todo server arrives holds differs asked =>
    obtain ⟨_, rfl⟩ := returns_toggleStarred.mp asked
    simp only [GateSound, holds] at gate
    obtain ⟨queued, isStarred, value⟩ := gate
    obtain ⟨article, found⟩ := Option.isSome_iff_exists.mp (regular.onServer queued)
    obtain ⟨mutated, changed, desired, revision⟩ := mutation
    cases isStarred
    have flag : article.dto.starred = current := by
      rw [← value, RemoteAccount.value, found]
      rfl
    have flipped : (!article.dto.starred) = desired := by
      rw [flag]
      exact Bool.not_eq.mpr differs
    refine links_deliver arrives (fun _ _ => by simp only [Delivery.phase, holds]) ?_ ?_ entryId field
    · exact (RemoteAccount.value_toggleStarred found).trans flipped
    · exact fun _ _ elsewhere => RemoteAccount.value_toggleStarred_other elsewhere
  | @acknowledge mutation todo store holds done =>
    simp only [GateSound, holds] at gate
    by_cases here : (entryId, field) = (mutation.entryId, mutation.field)
    · simp only [Prod.mk.injEq] at here
      obtain ⟨rfl, rfl⟩ := here
      have sent : (state.link accountId mutation.entryId mutation.field).phase =
          .delivered mutation.ticket := by
        simp [Delivery.link, Delivery.phase, holds, PendingMutation.ticket]
      have same : Delivery.link { state with store, gate := .flushing todo } accountId
          mutation.entryId mutation.field =
          { state.link accountId mutation.entryId mutation.field with
            cell := (state.link accountId mutation.entryId mutation.field).cell.acknowledge
              mutation.ticket
            phase := .idle } := by
        have idle := listedPhase_absent (List.nodup_cons.mp gate.distinct).1
        simp only [Delivery.link, Delivery.phase, idle, Store.cell_acknowledge done]
      exact same ▸ .single (.confirm sent)
    · have same : Delivery.link { state with store, gate := .flushing todo } accountId entryId field =
          state.link accountId entryId field := by
        have apart : ¬ (mutation.entryId = entryId ∧ mutation.field = field) := by
          rintro ⟨rfl, rfl⟩
          exact here rfl
        have elsewhere : (accountId, entryId, field) ≠
            (accountId, mutation.entryId, mutation.field) := fun same => here (Prod.mk.inj same).2
        have cell := Store.cell_acknowledge_other done elsewhere
        simp [Delivery.link, Delivery.phase, holds, cell, apart]
      exact same ▸ .refl
  | browse idle normal browsed => exact .single .browse
  | @refresh selection snapshot store now holds spares applied =>
    simp only [GateSound, holds] at gate
    obtain ⟨normal, rfl⟩ := gate
    have before : state.link accountId entryId field =
        ⟨state.server.value entryId field, state.store.cell accountId entryId field,
          .browsed (state.server.value entryId field)⟩ := by
      simp only [Delivery.link, Delivery.phase, holds]
    rw [before]
    exact links_refresh regular.filed normal spares applied entryId field
  | abort => exact .single .giveUp

/-- Each field runs through an exchange, whatever the schedule; what the exchange keeps
therefore holds of every field. -/
theorem link_of_reachable
    (reached : (deliveries accountId host (Spares accountId)).Reachable state)
    (entryId : Int) (field : MutationField) :
    (exchange field.Value).Reachable (state.link accountId entryId field) := by
  apply reached.abstracts (fun state => state.link accountId entryId field)
  · rintro state ⟨⟨server, fresh⟩, idle⟩
    refine .start ⟨?_, ?_⟩
    · simp only [Delivery.link, fresh]
      rfl
    · simp only [Delivery.link, Delivery.phase, idle]
  · intro before after reached step
    exact links_step (regular_of_reachable reached) step entryId field

/-! ## Changes made during a flush -/

/-- What the gate's holder has listed and not yet settled. -/
def Gate.listed : Gate → List PendingMutation
  | .free | .browsed .. => []
  | .flushing todo => todo
  | .inspected mutation _ todo | .delivered mutation todo => mutation :: todo

/-- A run in which a local write has changed the pending change of a field since a
flush listed it, and the flush has yet to settle it. -/
inductive Overtaken (accountId : String) (host : Host)
    (admitted : Store → RemoteAccount → Selection → Prop) (mutation : PendingMutation) :
    Delivery → Prop where
  | write {state : Delivery} (operation : Operation) :
      (deliveries accountId host admitted).Reachable state → mutation ∈ state.gate.listed →
      operation.IsLocal accountId → operation.OnStored state.store →
      ((state.store.commit (operation.run state.store)).cell accountId mutation.entryId
        mutation.field).intent ≠
        (state.store.cell accountId mutation.entryId mutation.field).intent →
      Overtaken accountId host admitted mutation
        { state with store := state.store.commit (operation.run state.store) }
  | next {state after : Delivery} : Overtaken accountId host admitted mutation state →
      Delivery.Step accountId host admitted state after → mutation ∈ after.gate.listed →
      Overtaken accountId host admitted mutation after

/-- What happens to the fields a flush has yet to settle: only local writes reach them,
since refreshes wait for the gate. -/
theorem moved_listed (regular : Regular accountId host state)
    (step : Delivery.Step accountId host admitted state after) {mutation : PendingMutation}
    (listed : mutation ∈ after.gate.listed) :
    ReflTransGen (Cell.Move fun _ => False)
      (state.store.cell accountId mutation.entryId mutation.field)
      (after.store.cell accountId mutation.entryId mutation.field) := by
  have gate := regular.gate
  cases step with
  | write operation isLocal onStored =>
    exact links_write isLocal onStored regular.founded mutation.entryId mutation.field
  | @acknowledge settled todo store holds done =>
    simp only [GateSound, holds] at gate
    have elsewhere : (accountId, mutation.entryId, mutation.field) ≠
        (accountId, settled.entryId, settled.field) := by
      intro same
      have place : (mutation.entryId, mutation.field) = (settled.entryId, settled.field) :=
        (Prod.mk.inj same).2
      have member : (mutation.entryId, mutation.field) ∈
          todo.map fun mutation => (mutation.entryId, mutation.field) := List.mem_map_of_mem listed
      rw [place] at member
      exact (List.nodup_cons.mp gate.distinct).1 member
    rw [Store.cell_acknowledge_other done elsewhere]
  | refresh now holds spares applied => simp [Gate.listed] at listed
  | list _ _ | setRead _ _ _ _ | inspect _ _ _ | agree _ | toggle _ _ _ _ | browse _ _ _ | abort =>
    exact .refl

/-- A listed mutation was listed before, or a flush has just listed it, and then it speaks
for its field. -/
theorem listed_step (step : Delivery.Step accountId host admitted state after)
    {mutation : PendingMutation} (listed : mutation ∈ after.gate.listed) :
    mutation ∈ state.gate.listed ∨
      mutation.ticket.Standing (after.store.cell accountId mutation.entryId mutation.field) := by
  cases step with
  | write operation isLocal onStored => exact Or.inl listed
  | list scan idle =>
    exact Or.inr (Intent.standing_self (Store.ticket_of_mem_pending listed))
  | setRead arrives holds _ _ | toggle arrives holds _ _ =>
    cases arrives with
    | true => exact Or.inl (by simpa [Gate.listed, holds] using listed)
    | false => simp [Gate.listed] at listed
  | inspect holds _ _ | agree holds => exact Or.inl (by simpa [Gate.listed, holds] using listed)
  | acknowledge holds done =>
    refine Or.inl ?_
    simp only [Gate.listed, holds] at listed ⊢
    exact List.mem_cons_of_mem _ listed
  | browse _ _ _ | refresh _ _ _ _ | abort => simp [Gate.listed] at listed

/-- Every listed mutation speaks for its field: its revision is the pending one, or was
overtaken by a later change. -/
theorem standing_of_reachable (reached : (deliveries accountId host admitted).Reachable state) :
    ∀ mutation ∈ state.gate.listed,
      mutation.ticket.Standing (state.store.cell accountId mutation.entryId mutation.field) := by
  refine reached.invariant (fun state => ∀ mutation ∈ state.gate.listed,
    mutation.ticket.Standing (state.store.cell accountId mutation.entryId mutation.field)) ?_ ?_
  · rintro state ⟨_, idle⟩ mutation listed
    simp [Gate.listed, idle] at listed
  · intro state after reached standing step mutation listed
    rcases listed_step step listed with before | fresh
    · exact Intent.standing_moves (standing mutation before)
        (moved_listed (regular_of_reachable reached) step listed)
    · exact fresh

/-- Once overtaken a mutation is superseded, until the flush is done with it; by induction
on the steps since, each of which only writes. -/
theorem superseded_of_overtaken {mutation : PendingMutation}
    (overtaken : Overtaken accountId host admitted mutation state) :
    (deliveries accountId host admitted).Reachable state ∧ mutation ∈ state.gate.listed ∧
      mutation.ticket.Superseded (state.store.cell accountId mutation.entryId mutation.field) := by
  induction overtaken with
  | @write state operation reached listed isLocal onStored changed =>
    have moved := links_write isLocal onStored (regular_of_reachable reached).founded
      mutation.entryId mutation.field
    have standing := standing_of_reachable reached mutation listed
    refine ⟨reached.next (.write operation isLocal onStored), listed, ?_⟩
    exact (Intent.superseded_of_moves standing moved).resolve_left changed
  | next _ step listed ih =>
    obtain ⟨reached, _, superseded⟩ := ih
    exact ⟨reached.next step, listed, Intent.superseded_moves superseded
      (moved_listed (regular_of_reachable reached) step listed)⟩

/-- The acknowledgement of an overtaken mutation leaves the pending row that has overtaken
it, with the revision and the value it has. -/
theorem pending_of_overtaken {mutation : PendingMutation} {store : Store}
    (overtaken : Overtaken accountId host admitted mutation state)
    (done : state.store.acknowledge accountId mutation = .ok store) :
    ∃ pending, state.store.pendingMutations.find?
        (accountId, mutation.entryId, mutation.field) = some pending ∧
      store.pendingMutations.find? (accountId, mutation.entryId, mutation.field) = some pending := by
  obtain ⟨_, _, intent, stands, later⟩ := superseded_of_overtaken overtaken
  obtain ⟨pending, found, rfl⟩ := Option.map_eq_some_iff.mp stands
  have newer : pending.revision ≠ mutation.revision := by
    have older : mutation.revision < pending.revision := later
    omega
  refine ⟨pending, found, ?_⟩
  rw [(Store.acknowledge_parts done).1, Table.find?_delete, found]
  simp [Option.filter, newer]

/-- What every schedule keeps: a stored entry is on the server, and where no change of a
field is pending both sides agree on it. A change that has not arrived is pending still. -/
def NothingLost (accountId : String) (state : Delivery) : Prop :=
  ∀ row, state.store.entries.find? (accountId, row.id) = some row →
    ∃ article, state.server.articles.find? row.id = some article ∧
      ∀ field : MutationField, state.store.hasPending accountId row.id field = false →
        field.effective row = field.held article

/-- No local change is lost, whatever the schedule: with nothing pending both sides agree on
every stored entry, as long as no refresh clears what is there. And none made during a flush
is deleted by its acknowledgement, whatever refreshes come. -/
theorem no_local_change_lost :
    (∀ state, (deliveries accountId host (Spares accountId)).Reachable state →
      NothingLost accountId state) ∧
    ∀ admitted mutation state store, Overtaken accountId host admitted mutation state →
      state.store.acknowledge accountId mutation = .ok store →
      ∃ pending, state.store.pendingMutations.find?
          (accountId, mutation.entryId, mutation.field) = some pending ∧
        store.pendingMutations.find? (accountId, mutation.entryId, mutation.field) =
          some pending := by
  refine ⟨fun state reached row found => ?_, fun _ _ _ _ => pending_of_overtaken⟩
  obtain ⟨article, listed, _⟩ := (regular_of_reachable reached).filed row.id row found
  refine ⟨article, listed, fun field settled => ?_⟩
  have sound := exchange_sound (link_of_reachable reached row.id field)
  have none : (state.store.cell accountId row.id field).intent = none := by
    rw [← Store.cell_pending] at settled
    simpa using settled
  have shown := sound.delivered none (field.copy row) (by
    simp only [Delivery.link, Store.cell, found, Option.map_some])
  rw [show field.effective row = (field.copy row).effective from rfl, shown]
  simp only [Delivery.link, RemoteAccount.value, listed, Option.elim_some]

theorem reachable_local {store : Store} {server : RemoteAccount} {gate : Gate}
    (reached : (deliveries accountId host admitted).Reachable ⟨store, server, gate⟩)
    (operation : Operation) (isLocal : operation.IsLocal accountId)
    (onStored : operation.OnStored store) :
    (deliveries accountId host admitted).Reachable
      ⟨store.commit (operation.run store), server, gate⟩ :=
  reached.next (.write operation isLocal onStored)

/-- A whole refresh of a client whose gate is free: the browse, and the snapshot applied. -/
theorem reachable_refresh {store refreshed : Store} {server : RemoteAccount} {selection : Selection}
    {snapshot : SnapshotData} {now : String}
    (reached : (deliveries accountId host admitted).Reachable ⟨store, server, .free⟩)
    (normal : selection.Normal) (allowed : admitted store server selection)
    (browsed : Returns (browse host accountApi.inbox selection) server snapshot server)
    (applied : store.applySnapshot now accountId snapshot = .ok refreshed) :
    (deliveries accountId host admitted).Reachable ⟨refreshed, server, .free⟩ :=
  (reached.next (.browse rfl normal browsed)).next (.refresh now rfl allowed applied)

/-- The client that has refreshed what is unread. -/
theorem reachable_unreadRefreshed
    (allowed : admitted freshStore loneUnread (.all 0 true)) :
    (deliveries "account" bareHost admitted).Reachable ⟨unreadRefreshed, loneUnread, .free⟩ :=
  reachable_refresh (.start ⟨⟨"server", rfl⟩, rfl⟩) (Selection.normalize_normal "all" 0 true) allowed
    browse_unread apply_unread

/-- The earlier of two articles marked read, then the star of the later one taken down. -/
def changedTwice : Store :=
  let read := twoStored.commit
    (Operation.run twoStored (.setRead (fun _ => "t1") "" "account" [1] true false))
  read.commit (Operation.run read (.setStarred "t2" "account" 2 false))

/-- The changes as a flush lists them. -/
def readMutation : PendingMutation := ⟨1, .read, true, 1⟩

def starMutation : PendingMutation := ⟨2, .starred, false, 1⟩

theorem pending_changedTwice :
    changedTwice.pending .storage "account" = [readMutation, starMutation] := by
  let listed : List PendingRow :=
    [⟨"account", 1, .read, true, 1, "t1"⟩, ⟨"account", 2, .starred, false, 1, "t2"⟩]
  have rows : changedTwice.pendingMutations.select (fun row => row.accountId = "account") = listed := by
    decide
  have ordered : listed.mergeSort (fun left right => decide (left.updatedAt ≤ right.updatedAt)) =
      listed := List.mergeSort_of_pairwise (by decide)
  simp only [Store.pending, rows, Scan.storage, ordered]
  rfl

/-- The article marked unread again, while the server is told that it is read. -/
def markedAgain : Store :=
  changedTwice.commit
    (Operation.run changedTwice (.setRead (fun _ => "t3") "" "account" [1] false false))

/-- Both changes acknowledged, one after the other. -/
def onceAcknowledged : Store :=
  markedAgain.commit (markedAgain.acknowledge "account" readMutation)

def twiceAcknowledged : Store :=
  onceAcknowledged.commit (onceAcknowledged.acknowledge "account" starMutation)

theorem acknowledged_read : markedAgain.acknowledge "account" readMutation = .ok onceAcknowledged :=
  @Store.commit_of_isOk markedAgain (markedAgain.acknowledge "account" readMutation) (by decide)

theorem acknowledged_star :
    onceAcknowledged.acknowledge "account" starMutation = .ok twiceAcknowledged :=
  @Store.commit_of_isOk onceAcknowledged (onceAcknowledged.acknowledge "account" starMutation)
    (by decide)

/-- The server once it has been told. -/
def toldRead : RemoteAccount := twoArticles.setRead [1] true

/-- The flush has sent the first change. -/
theorem reachable_changedTwice : (deliveries "account" bareHost (Spares "account")).Reachable
    ⟨changedTwice, toldRead, .delivered readMutation [starMutation]⟩ := by
  have allowed : Spares "account" freshStore twoArticles (.all 0 true) := fun absurd => by cases absurd
  have browsed : Returns (browse bareHost accountApi.inbox (.all 0 true)) twoArticles
      (unreadSnapshot [earlierEntry, laterEntry]) twoArticles :=
    returns_browse.mpr ⟨⟨by decide, by decide⟩, browsed_twoArticles.symm, rfl⟩
  have refreshed := reachable_refresh (.start ⟨⟨"server", rfl⟩, rfl⟩)
    (Selection.normalize_normal "all" 0 true) allowed browsed apply_twoStored
  have read := reachable_local refreshed (.setRead (fun _ => "t1") "" "account" [1] true false) rfl
    trivial
  have stored : ((twoStored.commit (Operation.run twoStored
      (.setRead (fun _ => "t1") "" "account" [1] true false))).entries.find? ("account", 2)).isSome := by
    decide
  have changed : (deliveries "account" bareHost (Spares "account")).Reachable
      ⟨changedTwice, twoArticles, .free⟩ :=
    reachable_local read (.setStarred "t2" "account" 2 false) rfl stored
  have listed := changed.next (.list .storage rfl)
  rw [pending_changedTwice] at listed
  exact listed.next (.setRead true rfl rfl (returns_setReadBatch.mpr rfl))

theorem reachable_markedAgain : (deliveries "account" bareHost (Spares "account")).Reachable
    ⟨markedAgain, toldRead, .delivered readMutation [starMutation]⟩ :=
  reachable_local reachable_changedTwice (.setRead (fun _ => "t3") "" "account" [1] false false) rfl
    trivial

theorem overtaken_read : Overtaken "account" bareHost (Spares "account") readMutation
    ⟨markedAgain, toldRead, .delivered readMutation [starMutation]⟩ := by
  have revised : (markedAgain.cell "account" 1 .read).intent.map Intent.revision ≠
      (changedTwice.cell "account" 1 .read).intent.map Intent.revision := by decide
  have moved := fun same => revised (congrArg (Option.map Intent.revision) same)
  exact @Overtaken.write _ _ _ _ ⟨changedTwice, toldRead, .delivered readMutation [starMutation]⟩
    (.setRead (fun _ => "t3") "" "account" [1] false false) reachable_changedTwice
    List.mem_cons_self rfl trivial moved

/-- The flush sends both changes; the one overtaken meanwhile stays pending, and the other
one is on both sides. Both parts of the theorem are used for it. -/
theorem read_state_agrees :
    NothingLost "account" ⟨twiceAcknowledged, toldRead.toggleStarred 2, .flushing []⟩ ∧
      ∃ pending, markedAgain.pendingMutations.find? ("account", 1, .read) = some pending ∧
        onceAcknowledged.pendingMutations.find? ("account", 1, .read) = some pending := by
  have once : (deliveries "account" bareHost (Spares "account")).Reachable
      ⟨onceAcknowledged, toldRead, .flushing [starMutation]⟩ :=
    reachable_markedAgain.next (.acknowledge rfl acknowledged_read)
  obtain ⟨article, found, starred⟩ : ∃ article, toldRead.articles.find? 2 = some article ∧
      article.dto.starred = true := ⟨_, rfl, rfl⟩
  have inspected := once.next (.inspect rfl rfl
    (returns_entryStarred.mpr ⟨article, found, starred.symm, rfl⟩))
  have toggled := inspected.next (.toggle true rfl (by decide)
    (returns_toggleStarred.mpr ⟨Option.isSome_of_eq_some found, rfl⟩))
  have twice : (deliveries "account" bareHost (Spares "account")).Reachable
      ⟨twiceAcknowledged, toldRead.toggleStarred 2, .flushing []⟩ :=
    toggled.next (.acknowledge rfl acknowledged_star)
  refine ⟨no_local_change_lost.1 _ twice, ?_⟩
  obtain ⟨pending, before, after⟩ :=
    no_local_change_lost.2 _ readMutation _ _ overtaken_read acknowledged_read
  exact ⟨pending, before, after⟩

/-- With a refresh of starred and unread articles allowed at any time, an unread article
ends up read here and unread there, and nothing is pending that would tell the server. -/
theorem starred_refresh_loses_unread :
    ¬ ∀ state, (deliveries "account" bareHost fun _ _ _ => True).Reachable state →
      NothingLost "account" state := by
  intro nothingLost
  have marked : (deliveries "account" bareHost fun _ _ _ => True).Reachable
      ⟨starredRefreshed, loneUnread, .free⟩ :=
    reachable_refresh (reachable_unreadRefreshed trivial)
      (Selection.normalize_normal "starred" 0 true) trivial browse_starred apply_starred
  obtain ⟨row, found, read⟩ : ∃ row, starredRefreshed.entries.find? ("account", 1) = some row ∧
      row.status = "read" := by
    decide
  have named : row.id = 1 := congrArg Prod.snd (Table.key_of_find? found)
  obtain ⟨article, held, agrees⟩ := nothingLost _ marked row (named ▸ found)
  rw [named] at held agrees
  have unread : article.dto.status = "unread" := by
    cases held
    rfl
  have same : row.status = article.dto.status := agrees .read (by decide)
  rw [read, unread] at same
  exact absurd same (by decide)

end FluxBar
