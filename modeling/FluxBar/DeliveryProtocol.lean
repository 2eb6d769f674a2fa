import FluxBar.ReconciliationProofs
import FluxBar.StoreFrames

/-! The client and its server as two parties. Whoever holds the sync gate runs a
flush or a refresh in steps: each request and each transaction is one, local
changes of the store come between any two of them, a request may fail with or
without its effect, and an abort or a restart may end the run at any point. -/
namespace FluxBar
open Relational WriteBehind Relation Transition Procedure

/-- Where the holder of the sync gate stands, between one request or transaction and the
next. Local changes may come at each of these points. -/
inductive Gate where
  | free
  | flushing (todo : List PendingMutation)
  | inspected (mutation : PendingMutation) (current : Bool) (todo : List PendingMutation)
  | delivered (mutation : PendingMutation) (todo : List PendingMutation)
  | browsed (selection : Selection) (snapshot : SnapshotData)

/-- The store, the server, and what the gate is held for. A flush or a refresh that is
aborted gives the gate up and leaves the rest as it is. -/
structure Delivery where
  store : Store
  server : RemoteAccount
  gate : Gate

section Protocol
variable (accountId : String) (host : Host)

/-- The local writes of the account, which need no gate. -/
def Operation.IsLocal : Operation → Prop
  | .setRead _ _ account _ _ _ | .setStarred _ account _ _ | .undo _ _ account _
  | .discardUndo account _ => account = accountId
  | .ensureAccount .. | .applySnapshot .. => False

/-- The steps, under a condition on the refreshes: local writes at any time, the requests of
a flush, whose answers may be lost, acknowledgements, refreshes, and the loss of the gate by
an error or a restart. -/
inductive Delivery.Step (admitted : Store → RemoteAccount → Selection → Prop) :
    Delivery → Delivery → Prop where
  | write {state : Delivery} (operation : Operation) :
      operation.IsLocal accountId → operation.OnStored state.store →
      Step admitted state { state with store := state.store.commit (operation.run state.store) }
  -- `flush_pending` up to its first request
  | list {state : Delivery} (scan : Scan) : state.gate = .free →
      Step admitted state { state with gate := .flushing (state.store.pending scan accountId) }
  -- the `"read"` arm; `arrives` tells whether its answer does
  | setRead {state : Delivery} {mutation : PendingMutation} {todo : List PendingMutation}
      {server : RemoteAccount} (arrives : Bool) : state.gate = .flushing (mutation :: todo) →
      mutation.field = .read →
      Returns (accountApi.inbox.setReadBatch [mutation.entryId] mutation.desired) state.server ()
        server →
      Step admitted state { state with
        server, gate := if arrives then .delivered mutation todo else .free }
  -- the `"starred"` arm, request by request
  | inspect {state : Delivery} {mutation : PendingMutation} {todo : List PendingMutation}
      {current : Bool} : state.gate = .flushing (mutation :: todo) → mutation.field = .starred →
      Returns (accountApi.inbox.entryStarred mutation.entryId) state.server current state.server →
      Step admitted state { state with gate := .inspected mutation current todo }
  | agree {state : Delivery} {mutation : PendingMutation} {todo : List PendingMutation} :
      state.gate = .inspected mutation mutation.desired todo →
      Step admitted state { state with gate := .delivered mutation todo }
  | toggle {state : Delivery} {mutation : PendingMutation} {current : Bool}
      {todo : List PendingMutation} {server : RemoteAccount} (arrives : Bool) :
      state.gate = .inspected mutation current todo → current ≠ mutation.desired →
      Returns (accountApi.inbox.toggleStarred mutation.entryId) state.server () server →
      Step admitted state { state with
        server, gate := if arrives then .delivered mutation todo else .free }
  | acknowledge {state : Delivery} {mutation : PendingMutation} {todo : List PendingMutation}
      {store : Store} : state.gate = .delivered mutation todo →
      state.store.acknowledge accountId mutation = .ok store →
      Step admitted state { state with store, gate := .flushing todo }
  | browse {state : Delivery} {selection : Selection} {snapshot : SnapshotData} :
      state.gate = .free → selection.Normal →
      Returns (browse host accountApi.inbox selection) state.server snapshot state.server →
      Step admitted state { state with gate := .browsed selection snapshot }
  | refresh {state : Delivery} {selection : Selection} {snapshot : SnapshotData} {store : Store}
      (now : String) : state.gate = .browsed selection snapshot →
      admitted state.store state.server selection →
      state.store.applySnapshot now accountId snapshot = .ok store →
      Step admitted state { state with store, gate := .free }
  -- an error, a deadline or a restart
  | abort {state : Delivery} : Step admitted state { state with gate := .free }

/-- The runs of a client that starts with an empty store, over any server. -/
def deliveries (admitted : Store → RemoteAccount → Selection → Prop) : System Delivery where
  initial state := (∃ server, state.store = Store.empty.ensureAccount accountId server) ∧
    state.gate = .free
  step := Delivery.Step accountId host admitted

end Protocol

/-! ## The server's values -/

/-- The server's value of a field; an entry it does not have counts as absent, that is, as
read and without a star. -/
def RemoteAccount.value (account : RemoteAccount) (entryId : Int) (field : MutationField) :
    field.Value :=
  (account.articles.find? entryId).elim field.absent field.held

namespace RemoteAccount
variable {account : RemoteAccount} {entryId otherEntry : Int} {field : MutationField}

theorem find?_rewrite {condition : Article → Bool} {change : Article → Article}
    {keeps : ∀ article, (change article).id = article.id} :
    (account.rewrite condition change keeps).articles.find? entryId =
      (account.articles.find? entryId).map fun article =>
        if condition article then change article else article :=
  Table.find?_update _ _ _ _ keeps

/-- The same articles, filed where they were: delivering a change moves no article. -/
def SamePlaces (account after : RemoteAccount) : Prop :=
  ∀ entryId, (after.articles.find? entryId).map (fun article => (article.feedId, article.categoryId)) =
    (account.articles.find? entryId).map fun article => (article.feedId, article.categoryId)

theorem samePlaces_rewrite {condition : Article → Bool} {change : Article → Article}
    {keeps : ∀ article, (change article).id = article.id}
    (places : ∀ article, (change article).feedId = article.feedId ∧
      (change article).categoryId = article.categoryId) :
    account.SamePlaces (account.rewrite condition change keeps) := by
  intro entryId
  rw [find?_rewrite, Option.map_map]
  congr 1
  funext article
  simp only [Function.comp_apply]
  split
  · rw [(places article).1, (places article).2]
  · rfl

theorem value_setRead {desired : Bool} (held : (account.articles.find? entryId).isSome) :
    (account.setRead [entryId] desired).value entryId .read = statusText desired := by
  obtain ⟨article, found⟩ := Option.isSome_iff_exists.mp held
  have named := Table.key_of_find? found
  unfold value setRead
  rw [find?_rewrite, found]
  simp only [Option.map_some, named, List.mem_singleton, decide_true, if_true]
  rfl

theorem value_setRead_other {desired : Bool} (elsewhere : (otherEntry, field) ≠ (entryId, .read)) :
    (account.setRead [entryId] desired).value otherEntry field = account.value otherEntry field := by
  unfold value setRead
  rw [find?_rewrite]
  cases found : account.articles.find? otherEntry with
  | none => rfl
  | some article =>
    have named := Table.key_of_find? found
    by_cases here : otherEntry = entryId
    · cases field with
      | read => exact absurd (by rw [here]) elsewhere
      | starred =>
        simp only [Option.map_some, Option.elim_some]
        split <;> rfl
    · simp [named, here]

theorem value_toggleStarred {article : Article}
    (found : account.articles.find? entryId = some article) :
    (account.toggleStarred entryId).value entryId .starred = !article.dto.starred := by
  have named := Table.key_of_find? found
  unfold value toggleStarred
  rw [find?_rewrite, found]
  simp only [Option.map_some, named, decide_true, if_true]
  rfl

theorem value_toggleStarred_other (elsewhere : (otherEntry, field) ≠ (entryId, .starred)) :
    (account.toggleStarred entryId).value otherEntry field = account.value otherEntry field := by
  unfold value toggleStarred
  rw [find?_rewrite]
  cases found : account.articles.find? otherEntry with
  | none => rfl
  | some article =>
    have named := Table.key_of_find? found
    by_cases here : otherEntry = entryId
    · cases field with
      | starred => exact absurd (by rw [here]) elsewhere
      | read =>
        simp only [Option.map_some, Option.elim_some]
        split <;> rfl
    · simp [named, here]

end RemoteAccount

section Requests
variable {account after : RemoteAccount} {entryId : Int}

theorem returns_setReadBatch {desired : Bool} :
    Returns (accountApi.inbox.setReadBatch [entryId] desired) account () after ↔
      after = account.setRead [entryId] desired := by
  constructor
  · intro asked
    cases desired <;> cases asked <;> rfl
  · rintro rfl
    cases desired <;> rfl

theorem returns_entryStarred {current : Bool} :
    Returns (accountApi.inbox.entryStarred entryId) account current after ↔
      ∃ article, account.articles.find? entryId = some article ∧
        current = article.dto.starred ∧ after = account := by
  have asks : accountApi.inbox.entryStarred entryId = (do
    let entry ← accountApi.entry entryId
    return entry.starred) := rfl
  rw [asks, returns_bind]
  cases found : account.articles.find? entryId with
  | none =>
    constructor
    · rintro ⟨entry, middle, asked, _⟩
      simp [Returns, accountApi, found] at asked
    · rintro ⟨article, absurd, _⟩
      cases absurd
  | some article =>
    constructor
    · rintro ⟨entry, middle, asked, returned⟩
      simp only [Returns, accountApi, found, Prod.mk.injEq, Except.ok.injEq] at asked
      obtain ⟨rfl, rfl⟩ := returns_pure.mp returned
      obtain ⟨rfl, rfl⟩ := asked
      exact ⟨article, rfl, rfl, rfl⟩
    · rintro ⟨other, same, rfl, rfl⟩
      cases same
      refine ⟨article.dto, after, ?_, returns_pure.mpr ⟨rfl, rfl⟩⟩
      simp [Returns, accountApi, found]

theorem returns_toggleStarred :
    Returns (accountApi.inbox.toggleStarred entryId) account () after ↔
      (account.articles.find? entryId).isSome ∧ after = account.toggleStarred entryId := by
  have asks : accountApi.inbox.toggleStarred = accountApi.toggleStarred := rfl
  rw [asks]
  cases found : account.articles.find? entryId with
  | none => simp [Returns, accountApi, found]
  | some article =>
    simp only [Returns, accountApi, found, Prod.mk.injEq, true_and, Option.isSome_some]
    exact eq_comm

end Requests
end FluxBar
