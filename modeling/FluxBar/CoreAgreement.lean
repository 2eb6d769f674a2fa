import FluxBar.GoStoreProofs

/-! Whole runs of the two cores' stores. The same calls get the same answers, and leave
stores in step, where the server writes moments as the Go core does; while every selection
browsed is aligned, the selection totals agree as well, and so do the figures that fit
32 bits. -/
namespace FluxBar
open Relational Procedure

/-! ## Calls -/

/-- The calls of the store of the Go core, with what each reads from outside it. -/
inductive Inbox.AccountCall (τ : Type) where
  | ensureAccount (server : String)
  | applySnapshot (now : String) (listing : Inbox.Listing τ)
  | setRead (clock : Nat → String) (receiptId : String) (entryIds : List Int) (read undoable : Bool)
  | setStarred (now : String) (entryId : Int) (starred : Bool)
  | pending (scan : Scan)
  | acknowledge (mutation : PendingMutation)
  | undo (scan : Scan) (clock : Nat → String) (batchId : String)
  | discardUndo (batchId : String)

namespace Inbox.AccountCall
variable {τ : Type} (moments : Inbox.Moments τ)

/-- A call in the Go core. -/
def run (accountId : String) (store : Store) :
    Inbox.AccountCall τ → Except StoreError (Store × AccountAnswer)
  | .ensureAccount server => .ok (Inbox.ensureAccount store accountId server, .done)
  | .applySnapshot now listing =>
    (Inbox.applySnapshot moments store now accountId listing).map fun after => (after, .done)
  | .setRead clock receiptId entryIds read undoable =>
    (Inbox.setRead store clock receiptId accountId entryIds read undoable).map
      fun (after, receipt) => (after, .receipt receipt)
  | .setStarred now entryId starred =>
    .ok (Inbox.setStarred store now accountId entryId starred, .done)
  | .pending scan => .ok (store, .pending (Inbox.pending store scan accountId))
  | .acknowledge mutation =>
    (Inbox.acknowledge store accountId mutation).map fun after => (after, .done)
  | .undo scan clock batchId =>
    let (after, entryIds) := Inbox.undo store scan clock accountId batchId
    .ok (after, .reverted entryIds)
  | .discardUndo batchId => .ok (Inbox.discardUndo store accountId batchId, .done)

/-- The same call here. -/
def rust : Inbox.AccountCall τ → FluxBar.AccountCall
  | .ensureAccount server => .ensureAccount server
  | .applySnapshot now listing => .applySnapshot now (listing.rust moments)
  | .setRead clock receiptId entryIds read undoable => .setRead clock receiptId entryIds read undoable
  | .setStarred now entryId starred => .setStarred now entryId starred
  | .pending scan => .pending scan
  | .acknowledge mutation => .acknowledge mutation
  | .undo scan clock batchId => .undo scan clock batchId
  | .discardUndo batchId => .discardUndo batchId

/-- Snapshots are of no more entries than a 32-bit counter holds. -/
def Fits : Inbox.AccountCall τ → Prop
  | .applySnapshot _ listing => listing.Fits
  | _ => True

/-- Snapshots are of selections with an allowed spelling, that is, one under which both
cores store a total alike. -/
def Browses (allowed : Spellings) (accountId : String) : Inbox.AccountCall τ → Prop
  | .applySnapshot _ listing => allowed (listing.spelling accountId)
  | _ => True

end Inbox.AccountCall

/-- The answers to calls one after another, and the store they leave; a call that fails
leaves the store as it was. -/
def runCalls {κ : Type*} (run : κ → Store → Except StoreError (Store × AccountAnswer))
    (store : Store) : List κ → Store × List (Except StoreError AccountAnswer)
  | [] => (store, [])
  | call :: rest =>
    let result := run call store
    let later := runCalls run (store.commit (result.map Prod.fst)) rest
    (later.1, result.map Prod.snd :: later.2)

/-- Calls for accounts, here and in the other core. -/
abbrev runRust {τ : Type} (moments : Inbox.Moments τ) :=
  runCalls fun (call : String × Inbox.AccountCall τ) store => (call.2.rust moments).run call.1 store

abbrev runGo {τ : Type} (moments : Inbox.Moments τ) :=
  runCalls fun (call : String × Inbox.AccountCall τ) store => call.2.run moments call.1 store

section Runs
variable {τ : Type} {moments : Inbox.Moments τ} {allowed : Spellings} {rust go : Store}
  {accountId : String}

theorem InStep.ensureAccount (held : InStep allowed rust go) {server : String} :
    InStep allowed (rust.ensureAccount accountId server)
      (Inbox.ensureAccount go accountId server) := by
  cases held with
  | other totals => exact .of_eq totals rfl

/-- One call: both cores refuse it alike, or answer it alike and stay in step. -/
theorem InStep.call (held : InStep allowed rust go) {call : Inbox.AccountCall τ} (fits : call.Fits)
    (browses : call.Browses allowed accountId) :
    Lockstep (fun result result' : Store × AccountAnswer =>
        InStep allowed result.1 result'.1 ∧ result.2 = result'.2)
      ((call.rust moments).run accountId rust) (call.run moments accountId go) := by
  cases call with
  | ensureAccount server => exact .ok ⟨held.ensureAccount, rfl⟩
  | applySnapshot now listing =>
    dsimp only [Inbox.AccountCall.rust, Inbox.AccountCall.run, AccountCall.run]
    exact (InStep.applySnapshot fits browses held).map fun _ _ same => ⟨same, rfl⟩
  | setRead clock receiptId entryIds read undoable =>
    dsimp only [Inbox.AccountCall.rust, Inbox.AccountCall.run, AccountCall.run]
    exact held.setRead.map fun _ _ same => ⟨same.1, congrArg AccountAnswer.receipt same.2⟩
  | setStarred now entryId starred => exact .ok ⟨held.setStarred, rfl⟩
  | pending scan => exact .ok ⟨held, congrArg AccountAnswer.pending (held.pending scan)⟩
  | acknowledge mutation =>
    dsimp only [Inbox.AccountCall.rust, Inbox.AccountCall.run, AccountCall.run]
    exact held.acknowledge.map fun _ _ same => ⟨same, rfl⟩
  | undo scan clock batchId =>
    have undone := @InStep.undo allowed rust go accountId held scan clock batchId
    exact .ok ⟨undone.1, congrArg AccountAnswer.reverted undone.2⟩
  | discardUndo batchId => exact .ok ⟨held.discardUndo, rfl⟩

theorem commit_lockstep {outcome outcome' : Except StoreError (Store × AccountAnswer)}
    (held : InStep allowed rust go)
    (same : Lockstep (fun result result' => InStep allowed result.1 result'.1 ∧ result.2 = result'.2)
      outcome outcome') :
    InStep allowed (rust.commit (outcome.map Prod.fst)) (go.commit (outcome'.map Prod.fst)) ∧
      outcome.map Prod.snd = outcome'.map Prod.snd := by
  cases same with
  | error failure => exact ⟨held, rfl⟩
  | ok both => exact ⟨both.1, congrArg Except.ok both.2⟩

/-- A run of calls from stores in step ends in stores in step, with the same answers; by
induction on the calls. -/
theorem InStep.runCalls (held : InStep allowed rust go)
    {calls : List (String × Inbox.AccountCall τ)} (fits : ∀ call ∈ calls, call.2.Fits)
    (browses : ∀ call ∈ calls, call.2.Browses allowed call.1) :
    InStep allowed (runRust moments rust calls).1 (runGo moments go calls).1 ∧
      (runRust moments rust calls).2 = (runGo moments go calls).2 := by
  induction calls generalizing rust go with
  | nil => exact ⟨held, rfl⟩
  | cons call rest ih =>
    obtain ⟨stores, answered⟩ := commit_lockstep held
      (held.call (fits call List.mem_cons_self) (browses call List.mem_cons_self))
    obtain ⟨later, others⟩ := ih stores
      (fun other listed => fits other (List.mem_cons_of_mem call listed))
      fun other listed => browses other (List.mem_cons_of_mem call listed)
    exact ⟨later, congrArg₂ List.cons answered others⟩

theorem InStep.empty : InStep allowed .empty .empty :=
  .of_eq ⟨fun _ _ found => (by cases found), fun _ found => (by cases found),
    fun _ found => (by cases found)⟩ rfl

end Runs

/-! ## Served entries

A server writes the moment of an entry as a text. This core stores that text; the other
one parses it, and stores what it writes of the moment. -/

/-- Moments that are their own texts. -/
def ownTexts : Inbox.Moments String := ⟨id, id⟩

section Served
variable {τ : Type} (moments : Inbox.Moments τ)

/-- An entry of a server, as the Go core reads it. -/
def Inbox.Entry.received (entry : Inbox.Entry String) : Inbox.Entry τ :=
  { entry with publishedAt := moments.parse entry.publishedAt }

def Inbox.Listing.received (listing : Inbox.Listing String) : Inbox.Listing τ :=
  { listing with entries := listing.entries.map (Inbox.Entry.received moments) }

/-- A call with entries of a server, as the Go core receives it. -/
def Inbox.AccountCall.received : Inbox.AccountCall String → Inbox.AccountCall τ
  | .ensureAccount server => .ensureAccount server
  | .applySnapshot now listing => .applySnapshot now (listing.received moments)
  | .setRead clock receiptId entryIds read undoable => .setRead clock receiptId entryIds read undoable
  | .setStarred now entryId starred => .setStarred now entryId starred
  | .pending scan => .pending scan
  | .acknowledge mutation => .acknowledge mutation
  | .undo scan clock batchId => .undo scan clock batchId
  | .discardUndo batchId => .discardUndo batchId

/-- The server wrote every moment as the Go core writes it once it has parsed the text: in
UTC, without needless digits. -/
def Inbox.AccountCall.Written : Inbox.AccountCall String → Prop
  | .applySnapshot _ listing => ∀ entry ∈ listing.entries,
    moments.format (moments.parse entry.publishedAt) = entry.publishedAt
  | _ => True

variable {moments}

/-- Written so, the text is the one that this core is given with what the other received. -/
theorem rust_received {call : Inbox.AccountCall String} (written : call.Written moments) :
    (call.received moments).rust moments = call.rust ownTexts := by
  cases call with
  | applySnapshot now listing =>
    have entries : (listing.entries.map (Inbox.Entry.received moments)).map (Inbox.Entry.rust moments) =
        listing.entries.map (Inbox.Entry.rust ownTexts) := by
      rw [List.map_map]
      refine List.map_congr_left fun entry listed => ?_
      exact congrArg (fun text => { entry.rust ownTexts with publishedAtRfc3339 := text })
        (written entry listed)
    unfold Inbox.AccountCall.received Inbox.AccountCall.rust Inbox.Listing.received Inbox.Listing.rust
    dsimp only
    rw [entries]
  | ensureAccount | setRead | setStarred | pending | acknowledge | undo | discardUndo => rfl

theorem fits_received {call : Inbox.AccountCall String} (fits : call.Fits) :
    (call.received moments).Fits := by
  cases call with
  | applySnapshot now listing =>
    have length : (listing.received moments).entries.length = listing.entries.length :=
      List.length_map _
    exact le_trans (le_of_eq length) fits
  | ensureAccount | setRead | setStarred | pending | acknowledge | undo | discardUndo => trivial

/-- So both ways of giving this core its calls are one run. -/
theorem runRust_received {calls : List (String × Inbox.AccountCall String)}
    (written : ∀ call ∈ calls, call.2.Written moments) (store : Store) :
    runRust moments store (calls.map fun call => (call.1, call.2.received moments)) =
      runRust ownTexts store calls := by
  induction calls generalizing store with
  | nil => rfl
  | cons call rest ih =>
    have later := ih fun other listed => written other (List.mem_cons_of_mem call listed)
    rw [List.map_cons]
    unfold runRust runCalls
    dsimp only
    rw [rust_received (written call List.mem_cons_self)]
    exact congrArg (fun run : Store × List (Except StoreError AccountAnswer) =>
      (run.1, ((call.2.rust ownTexts).run call.1 store).map Prod.snd :: run.2)) (later _)

end Served

/-- Two new stores receive the same calls, with the same receipt ids, clock readings and
row orders, and refreshes of at most as many entries as an `i32` counts. This core is given
the texts the server wrote, the other one the moments it parsed of them. Where the server
writes moments as the Go core does, both answer each call alike, end with the same rows but
for the selection totals, and list the same entries of every selection. -/
theorem same_calls_same_lists {τ : Type} (moments : Inbox.Moments τ)
    (calls : List (String × Inbox.AccountCall String)) (fits : ∀ call ∈ calls, call.2.Fits)
    (written : ∀ call ∈ calls, call.2.Written moments) :
    let rust := runRust ownTexts .empty calls
    let go := runGo moments .empty (calls.map fun call => (call.1, call.2.received moments))
    rust.2 = go.2 ∧ InStep (fun _ => True) rust.1 go.1 ∧
    ∀ (scan : Scan) (accountId kind : String) (id : Int) (unreadOnly newestFirst : Bool)
      (retainIds : List Int),
      Inbox.snapshotEntries moments go.1 scan accountId
          (Inbox.Selection.mk kind id unreadOnly).normalized newestFirst retainIds =
        (rust.1.snapshotEntries scan accountId
          (.normalize kind id unreadOnly) newestFirst retainIds).map (Inbox.Entry.shown moments) := by
  have received : ∀ call ∈ calls.map fun call => (call.1, call.2.received moments),
      call.2.Fits := by
    intro call listed
    obtain ⟨served, held, rfl⟩ := List.mem_map.mp listed
    exact fits_received (fits served held)
  have any : ∀ call ∈ calls.map fun call => (call.1, call.2.received moments),
      call.2.Browses (fun _ => True) call.1 := by
    intro call _
    cases call.2 <;> trivial
  obtain ⟨stores, answered⟩ := @InStep.runCalls τ moments _ _ _ InStep.empty _ received any
  rw [runRust_received written] at stores answered
  exact ⟨answered, stores, fun _ _ _ _ _ _ _ => stores.snapshotEntries⟩

/-! ## Aligned selections -/

/-- A key that both cores store a total under, because it is spelled the same in both. -/
def Plain : Spellings := fun key => sharedKey key = key

theorem plain_of_aligned {accountId kind : String} {id : Int} {unreadOnly : Bool}
    (aligned : Aligned kind id unreadOnly) :
    Plain (accountId, (Inbox.Selection.mk kind id unreadOnly).normalized.kind,
      (Inbox.Selection.mk kind id unreadOnly).normalized.id,
      (Inbox.Selection.mk kind id unreadOnly).normalized.unreadOnly) := by
  obtain ⟨all, unread, starred⟩ := aligned
  unfold Plain
  rcases normalize_normalized kind id unreadOnly with
    ⟨named, _, go⟩ | ⟨named, _, go⟩ | ⟨_, _, go⟩ | ⟨_, _, go⟩ | ⟨_, _, go⟩ | ⟨_, _, _, _, go⟩ <;>
    rw [go] <;> simp [sharedKey]
  · exact (all named).symm
  · exact unread named

section Aligned
variable {rust go : Store} {accountId : String}

/-- Under plain keys both cores hold the same totals. -/
theorem TotalsInStep.find?_eq {rust go : Table SelectionTotalRow.key}
    (held : TotalsInStep Plain rust go) (key : String × String × Int × Bool) :
    go.find? key = rust.find? key := by
  cases here : rust.find? key with
  | none =>
    refine Option.eq_none_iff_forall_not_mem.mpr fun other there => ?_
    have present : (go.find? key).isSome := by rw [there]; rfl
    have covered := held.covered key present
    rw [held.spelled key present, here] at covered
    cases covered
  | some row =>
    obtain ⟨spelling, other, spelled, shared, total⟩ := held.newest key row here
    have plain : sharedKey spelling = spelling := held.spelled spelling (by rw [spelled]; rfl)
    obtain rfl : spelling = key := plain.symm.trans shared
    have named := (Table.key_of_find? spelled).trans (Table.key_of_find? here).symm
    rw [spelled]
    obtain ⟨account, kind, scope, flag, amount⟩ := row
    obtain ⟨account', kind', scope', flag', amount'⟩ := other
    simp only [SelectionTotalRow.key, Prod.mk.injEq] at named
    simp_all

/-- The figures of the other core's store are those it shows of this one. -/
theorem InStep.snapshot_go (held : InStep Plain rust go) (scan : Scan) (selection : Inbox.Selection) :
    Inbox.snapshot go accountId scan selection = Inbox.snapshot rust accountId scan selection := by
  cases held with
  | other totals =>
  unfold Inbox.snapshot
  dsimp only
  rw [show (rust.withTotals _).selectionTotals.find? _ = rust.selectionTotals.find? _
    from totals.find?_eq _]
  rfl

end Aligned

/-- While every selection browsed is aligned, both stores hold the same totals, and the
cores show the same figures of a selection exactly when the numbers behind them meet.
Refreshes are of at most as many entries as an `i32` counts. -/
theorem aligned_calls_same_figures {τ : Type} (moments : Inbox.Moments τ)
    (calls : List (String × Inbox.AccountCall τ)) (fits : ∀ call ∈ calls, call.2.Fits)
    (aligned : ∀ call ∈ calls, ∀ now listing, call.2 = .applySnapshot now listing →
      Aligned listing.selection.kind listing.selection.id listing.selection.unreadOnly)
    (accountId kind : String) (id : Int) (unreadOnly : Bool) :
    (∀ key, (runGo moments .empty calls).1.selectionTotals.find? key =
      (runRust moments .empty calls).1.selectionTotals.find? key) ∧
    ((∀ (scan goScan : Scan) (newestFirst : Bool) (retainIds : List Int),
        ((runRust moments .empty calls).1.localSnapshot scan accountId
            (.normalize kind id unreadOnly) newestFirst retainIds).toOption.map SnapshotData.figures =
          (Inbox.snapshot (runGo moments .empty calls).1 accountId goScan
            ⟨kind, id, unreadOnly⟩).toOption.map Inbox.BrowseSnapshot.figures) ↔
      ∀ account, (runRust moments .empty calls).1.accounts.find? accountId = some account →
        FiguresMeet (runRust moments .empty calls).1 accountId kind id unreadOnly account) := by
  have plain : ∀ call ∈ calls, call.2.Browses Plain call.1 := by
    intro call listed
    cases asked : call.2 with
    | applySnapshot now listing => exact plain_of_aligned (aligned call listed now listing asked)
    | _ => trivial
  obtain ⟨stores, -⟩ := @InStep.runCalls τ moments _ _ _ InStep.empty calls fits plain
  refine ⟨?_, ?_⟩
  · generalize (runRust moments .empty calls).1 = rust at stores ⊢
    generalize (runGo moments .empty calls).1 = go at stores ⊢
    cases stores with
    | other totals => exact totals.find?_eq
  · simp only [stores.snapshot_go]
    exact sameFigures_iff

/-- Two unread articles are browsed, and one of them is marked read. -/
def readOneOfTwo : List (String × Inbox.AccountCall String) :=
  let entry (id : Int) : Inbox.Entry String :=
    { id, title := "", url := "", commentsURL := "", feedID := 5, feedName := "", categoryID := 3,
      publishedAt := "2024-01-01T00:00:00Z", preview := "", imageURL := "", status := "unread",
      starred := false }
  [("account", .ensureAccount "server"),
    ("account", .applySnapshot "2024-01-02T00:00:00Z"
      { version := 1, selection := ⟨"unread", 0, true⟩, categories := [], total := 2,
        unreadTotal := 2, starredTotal := 0, entries := [entry 1, entry 2] }),
    ("account", .setRead (fun _ => "2024-01-03T00:00:00Z") "receipt" [1] true true)]

theorem readOneOfTwo_fits : ∀ call ∈ readOneOfTwo, call.2.Fits := by
  simp [readOneOfTwo, Inbox.AccountCall.Fits, Inbox.Listing.Fits]

/-- Moments as seconds, of which one has a text. -/
def newYear : Inbox.Moments Int where
  format seconds := if seconds = 1704067200 then "2024-01-01T00:00:00Z" else "0001-01-01T00:00:00Z"
  parse text := if text = "2024-01-01T00:00:00Z" then 1704067200 else -62135596800

/-- Two articles browsed and one of them read, with a date as the server and the Go core
both write it. -/
theorem same_calls_same_lists_read :
    (runRust ownTexts .empty readOneOfTwo).2 =
      (runGo newYear .empty (readOneOfTwo.map fun call => (call.1, call.2.received newYear))).2 := by
  refine (same_calls_same_lists newYear readOneOfTwo readOneOfTwo_fits ?_).1
  simp [readOneOfTwo, Inbox.AccountCall.Written, newYear]

/-- Two articles browsed and one of them read: both stores hold one total of the unread
ones. -/
theorem aligned_calls_same_figures_read :
    (runGo ownTexts .empty readOneOfTwo).1.selectionTotals.find? ("account", "unread", 0, true) =
      (runRust ownTexts .empty readOneOfTwo).1.selectionTotals.find?
        ("account", "unread", 0, true) := by
  refine (aligned_calls_same_figures ownTexts readOneOfTwo readOneOfTwo_fits ?_ "account" "unread"
    0 true).1 _
  simp [readOneOfTwo, Aligned]

end FluxBar
