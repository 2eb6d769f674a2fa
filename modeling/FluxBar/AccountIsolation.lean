import FluxBar.StoreAgreement
import FluxBar.StoreRuns

/-! Accounts share the tables but not the rows: an operation of the store called for
one account reads and writes rows of that account only. -/
namespace FluxBar
open Relational Procedure

/-! ## Calls -/

/-- The operations of the store, with what each reads from outside it: clock, receipt id and
the order rows are visited in. -/
inductive AccountCall where
  | ensureAccount (server : String)
  | applySnapshot (now : String) (snapshot : SnapshotData)
  | setRead (clock : Nat → String) (receiptId : String) (entryIds : List Int) (read undoable : Bool)
  | setStarred (now : String) (entryId : Int) (starred : Bool)
  | pending (scan : Scan)
  | acknowledge (mutation : PendingMutation)
  | undo (scan : Scan) (clock : Nat → String) (batchId : String)
  | discardUndo (batchId : String)
  | localSnapshot (scan : Scan) (selection : Selection) (newestFirst : Bool) (retainIds : List Int)

/-- What an operation returns. -/
inductive AccountAnswer where
  | done
  | receipt (receipt : Option MutationReceipt)
  | pending (mutations : List PendingMutation)
  | reverted (entryIds : List Int)
  | snapshot (snapshot : SnapshotData)
  deriving DecidableEq, Repr

/-- A call for an account. -/
def AccountCall.run (accountId : String) (store : Store) :
    AccountCall → Except StoreError (Store × AccountAnswer)
  | .ensureAccount server => .ok (store.ensureAccount accountId server, .done)
  | .applySnapshot now snapshot =>
    (store.applySnapshot now accountId snapshot).map fun after => (after, .done)
  | .setRead clock receiptId entryIds read undoable =>
    (store.setRead clock receiptId accountId entryIds read undoable).map fun (after, receipt) =>
      (after, .receipt receipt)
  | .setStarred now entryId starred => .ok (store.setStarred now accountId entryId starred, .done)
  | .pending scan => .ok (store, .pending (store.pending scan accountId))
  | .acknowledge mutation => (store.acknowledge accountId mutation).map fun after => (after, .done)
  | .undo scan clock batchId =>
    let (after, entryIds) := store.undo scan clock accountId batchId
    .ok (after, .reverted entryIds)
  | .discardUndo batchId => .ok (store.discardUndo accountId batchId, .done)
  | .localSnapshot scan selection newestFirst retainIds =>
    (store.localSnapshot scan accountId selection newestFirst retainIds).map fun snapshot =>
      (store, .snapshot snapshot)

/-- The store a call leaves behind: that of its transaction, or the old one where it failed.
-/
def AccountCall.after (accountId : String) (store : Store) (call : AccountCall) : Store :=
  store.commit ((call.run accountId store).map Prod.fst)

/-! ## Isolation -/

section Calls
variable {accountId other : String} {left right store : Store}

theorem AccountCall.agree_run (call : AccountCall) (agree : left.Agree accountId right) :
    Lockstep (fun result result' : Store × AccountAnswer =>
        result.1.Agree accountId result'.1 ∧ result.2 = result'.2)
      (call.run accountId left) (call.run accountId right) := by
  unfold AccountCall.run
  cases call with
  | ensureAccount server => exact .ok ⟨agree.ensureAccount, rfl⟩
  | applySnapshot now snapshot =>
    dsimp only
    exact agree.applySnapshot.map fun _ _ same => ⟨same, rfl⟩
  | setRead clock receiptId entryIds read undoable =>
    dsimp only
    exact agree.setRead.map fun _ _ same => ⟨same.1, congrArg AccountAnswer.receipt same.2⟩
  | setStarred now entryId starred => exact .ok ⟨agree.setStarred, rfl⟩
  | pending scan => exact .ok ⟨agree, congrArg AccountAnswer.pending (agree.pending scan)⟩
  | acknowledge mutation =>
    dsimp only
    exact agree.acknowledge.map fun _ _ same => ⟨same, rfl⟩
  | undo scan clock batchId =>
    have same := agree.undo scan clock batchId
    exact .ok ⟨same.1, congrArg AccountAnswer.reverted same.2⟩
  | discardUndo batchId => exact .ok ⟨agree.discardUndo, rfl⟩
  | localSnapshot scan selection newestFirst retainIds =>
    dsimp only
    rw [agree.localSnapshot]
    cases right.localSnapshot scan accountId selection newestFirst retainIds with
    | error failure => exact .error failure
    | ok snapshot => exact .ok ⟨agree, rfl⟩

/-- What is left of a call is what its transaction left, or the old store. -/
theorem agree_commit {result : Except StoreError (Store × AccountAnswer)}
    (kept : ∀ after answer, result = .ok (after, answer) → after.Agree other store) :
    (store.commit (result.map Prod.fst)).Agree other store := by
  cases result with
  | error failure => exact .refl store
  | ok result => exact kept result.1 result.2 rfl

theorem AccountCall.agree_after (call : AccountCall) (unlike : other ≠ accountId) :
    (call.after accountId store).Agree other store := by
  refine agree_commit ?_
  intro after answer ran
  unfold AccountCall.run at ran
  cases call with
  | ensureAccount server =>
    cases ran
    exact Store.agree_ensureAccount unlike
  | applySnapshot now snapshot =>
    obtain ⟨_, applied, same⟩ := map_eq_ok.mp ran
    cases same
    exact Store.agree_applySnapshot unlike applied
  | setRead clock receiptId entryIds read undoable =>
    obtain ⟨⟨_, _⟩, marked, same⟩ := map_eq_ok.mp ran
    cases same
    exact Store.agree_setRead unlike marked
  | setStarred now entryId starred =>
    cases ran
    exact Store.agree_setStarred unlike
  | pending scan =>
    cases ran
    exact .refl store
  | acknowledge mutation =>
    obtain ⟨_, acknowledged, same⟩ := map_eq_ok.mp ran
    cases same
    exact Store.agree_acknowledge unlike acknowledged
  | undo scan clock batchId =>
    cases ran
    exact Store.agree_undo unlike
  | discardUndo batchId =>
    cases ran
    exact Store.agree_discardUndo unlike
  | localSnapshot scan selection newestFirst retainIds =>
    obtain ⟨_, _, same⟩ := map_eq_ok.mp ran
    cases same
    exact .refl store

end Calls

/-- A call for one account leaves the rows of every other as they are, in each of the eight
tables and also where it fails; and what it returns and writes depends on the rows of its
own account only. -/
theorem accounts_isolated (call : AccountCall) (accountId : String) :
    (∀ store other, other ≠ accountId → (call.after accountId store).Agree other store) ∧
    ∀ left right : Store, left.Agree accountId right →
      (call.run accountId left).map Prod.snd = (call.run accountId right).map Prod.snd ∧
        (call.after accountId left).Agree accountId (call.after accountId right) := by
  refine ⟨fun store other unlike => call.agree_after unlike, ?_⟩
  intro left right agree
  have alike := call.agree_run agree
  unfold AccountCall.after
  generalize call.run accountId left = result at alike ⊢
  generalize call.run accountId right = result' at alike ⊢
  cases alike with
  | error failure => exact ⟨rfl, agree⟩
  | ok same => exact ⟨congrArg Except.ok same.2, same.1⟩

/-- An account with one unread article. -/
def loneAccount : Store :=
  Store.empty.commit (Store.applySnapshot .empty "t" "one" oneUnread)

/-- Another account beside it, with an article of the same id. -/
def twoAccounts : Store :=
  loneAccount.commit (loneAccount.applySnapshot "t" "two" oneUnread)

/-- Two accounts with an article of one id: marking it read in the one leaves the other's
unread. -/
theorem article_of_two_accounts :
    ((AccountCall.setRead (fun _ => "t") "" [1] true false).after "one" twoAccounts).Agree "two"
      twoAccounts ∧
    ((AccountCall.setRead (fun _ => "t") "" [1] true false).after "one" twoAccounts).Agree "one"
      ((AccountCall.setRead (fun _ => "t") "" [1] true false).after "one" loneAccount) := by
  have agree : twoAccounts.Agree "one" loneAccount := by
    constructor <;> decide
  have isolated := accounts_isolated (.setRead (fun _ => "t") "" [1] true false) "one"
  exact ⟨isolated.1 twoAccounts "two" (by decide), (isolated.2 _ _ agree).2⟩

end FluxBar
