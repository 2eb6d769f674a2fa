import FluxBar.BulkReads

/-! The ids of receipts. Each is the reading of a clock combined with a counter of the
process, and a batch is filed under it; where the counter undoes what the clock has moved
since an earlier call, two calls have one id. -/
namespace FluxBar
open Relational Transition Procedure

/-! ## `random_id` -/

/-- The last digits of a value, in base 16, as a formatting width asks for them. -/
def hexDigits : (width value : Nat) → List Char
  | 0, _ => []
  | width + 1, value => hexDigits width (value / 16) ++ [Nat.digitChar (value % 16)]

/-- `random_id`, at the nanoseconds since the epoch and the value `NEXT_ID` had. A `u128` has
32 hexadecimal digits at most. -/
def randomId (nanos : BitVec 128) (sequence : BitVec 64) : String :=
  String.ofList (hexDigits 32 (nanos ^^^ sequence.setWidth 128).toNat)

/-- The ids of the calls of a process, from the readings of the clock; the counter is the
number of the call. -/
def receiptIds (clock : List (BitVec 128)) : List String :=
  clock.mapIdx fun call nanos => randomId nanos (.ofNat 64 call)

theorem hexDigits_inj {width left right : Nat}
    (same : hexDigits width left = hexDigits width right) :
    left % 16 ^ width = right % 16 ^ width := by
  have digit : ∀ left < 16, ∀ right < 16, Nat.digitChar left = Nat.digitChar right →
      left = right := by decide
  induction width generalizing left right with
  | zero => simp [Nat.mod_one]
  | succ width ih =>
    obtain ⟨higher, last⟩ := List.append_inj' same rfl
    have lower := digit _ (Nat.mod_lt left (by decide)) _ (Nat.mod_lt right (by decide))
      (List.singleton_injective last)
    rw [Nat.pow_succ, Nat.mul_comm, Nat.mod_mul, Nat.mod_mul, lower, ih higher]

/-- Two calls have one id when the bits the clock has changed are those the counter has. -/
theorem randomId_eq_iff {nanos nanos' : BitVec 128} {sequence sequence' : BitVec 64} :
    randomId nanos sequence = randomId nanos' sequence' ↔
      ∀ bit, nanos.getLsbD bit ≠ nanos'.getLsbD bit ↔
        sequence.getLsbD bit ≠ sequence'.getLsbD bit := by
  have digits : randomId nanos sequence = randomId nanos' sequence' ↔
      nanos ^^^ sequence.setWidth 128 = nanos' ^^^ sequence'.setWidth 128 := by
    refine ⟨fun same => ?_, fun same => by rw [randomId, same, randomId]⟩
    have values := hexDigits_inj (String.ofList_injective same)
    have bound := (nanos ^^^ sequence.setWidth 128).isLt
    have bound' := (nanos' ^^^ sequence'.setWidth 128).isLt
    exact BitVec.eq_of_toNat_eq (by omega)
  have wide : ∀ (sequence : BitVec 64) (bit : Nat),
      (sequence.setWidth 128).getLsbD bit = sequence.getLsbD bit := by
    intro sequence bit
    have beyond := @BitVec.getLsbD_of_ge 64 sequence bit
    simp only [BitVec.getLsbD_setWidth]
    by_cases inside : bit < 128
    · simp [inside]
    · simp [inside, beyond (by omega)]
  have bits : ∀ first second third fourth : Bool, (first ^^ third) = (second ^^ fourth) ↔
      (first ≠ second ↔ third ≠ fourth) := by decide
  rw [digits]
  constructor
  · intro same bit
    have alike := congrArg (BitVec.getLsbD · bit) same
    simp only [BitVec.getLsbD_xor, wide] at alike
    exact (bits _ _ _ _).mp alike
  · intro alike
    refine BitVec.eq_of_getLsbD_eq fun bit _ => ?_
    simp only [BitVec.getLsbD_xor, wide]
    exact (bits _ _ _ _).mpr (alike bit)

/-! ## The batches of a process -/

/-- The receipt id a write draws: every `set_read` draws one. -/
def Write.receiptId : Write → Option String
  | .operation (.setRead _ receiptId _ _ _ _) => some receiptId
  | _ => none

namespace Store
variable {store after : Store} {accountId account receiptId batch : String}
  {clock : Nat → String} {read undoable : Bool} {entryIds : List Int}

/-- A `set_read` opens no batch but its own. -/
theorem find?_undoBatches_setRead {receipt : Option MutationReceipt}
    (other : (account, batch) ≠ (accountId, receiptId))
    (absent : store.undoBatches.find? (account, batch) = none)
    (ran : store.setRead clock receiptId accountId entryIds read undoable = .ok (after, receipt)) :
    after.undoBatches.find? (account, batch) = none := by
  obtain ⟨opened, progress, start, finished, rfl, _⟩ := setRead_ok ran
  have opening : opened.undoBatches.find? (account, batch) = none := by
    rcases openBatch_cases start with ⟨_, rfl⟩ | ⟨_, undoBatches, inserted, rfl⟩
    · exact absent
    · rw [(Table.find?_insert _ _ inserted).2, UndoBatchRow.key, if_neg other]
      exact absent
  rw [← undoBatches_turns finished] at opening
  cases undoable with
  | true =>
    rw [find?_undoBatches_closeBatch_undoable, opening]
    exact ite_self _
  | false =>
    rw [find?_undoBatches_closeBatch, opening]
    rfl

theorem Unused.discardUndo {batchId : String} (unused : store.Unused account batch) :
    (store.discardUndo accountId batchId).Unused account batch := by
  constructor
  · rw [find?_undoBatches_discardUndo, unused.1]
    exact ite_self _
  · intro entryId
    rw [find?_undoItems_discardUndo, unused.2]
    exact ite_self _

/-- An id stays unused through every write that does not draw it, since no other write opens
a batch under it. -/
theorem Unused.apply (unused : store.Unused account batch) {write : Write}
    (other : write.receiptId ≠ some batch) : (write.apply store).Unused account batch := by
  unfold Write.apply
  cases ran : write.run store with
  | error failure => exact unused
  | ok after =>
    change after.Unused account batch
    cases write with
    | acknowledge accountId mutation =>
      change store.acknowledge accountId mutation = .ok after at ran
      obtain ⟨_, items, batches⟩ := acknowledge_parts ran
      unfold Unused
      rw [batches, items]
      exact unused
    | operation performed =>
      cases performed with
      | ensureAccount accountId server | setStarred now accountId entryId starred =>
        cases ran
        exact unused
      | applySnapshot now accountId snapshot =>
        change store.applySnapshot now accountId snapshot = .ok after at ran
        obtain ⟨_, _, refreshed⟩ := applySnapshot_parts ran
        unfold Unused
        rw [refreshed.undoBatches, refreshed.undoItems]
        exact unused
      | setRead clock receiptId accountId entryIds read undoable =>
        obtain ⟨⟨stored, receipt⟩, marked, rfl⟩ := map_eq_ok.mp ran
        have elsewhere : (account, batch) ≠ (accountId, receiptId) := fun same =>
          other (congrArg some (Prod.mk.inj same).2.symm)
        refine ⟨find?_undoBatches_setRead elsewhere unused.1 marked, fun entryId => ?_⟩
        rw [find?_undoItems_setRead (fun _ => elsewhere) marked, unused.2]
        exact ite_self _
      | undo scan clock accountId batchId =>
        cases ran
        unfold Unused
        rw [undoBatches_undo, undoItems_undo]
        exact unused.discardUndo
      | discardUndo accountId batchId =>
        cases ran
        exact unused.discardUndo

theorem Unused.writes (unused : store.Unused account batch) {writes : List Write}
    (other : ∀ write ∈ writes, write.receiptId ≠ some batch) :
    (writes.foldl Write.apply store).Unused account batch := by
  induction writes generalizing store with
  | nil => exact unused
  | cons write rest ih =>
    obtain ⟨first, rest⟩ := List.forall_mem_cons.mp other
    exact ih (unused.apply first) rest

end Store

/-! ## Calls that meet -/

/-- The bits the clock has changed between two calls are those the counter has changed, so
that the two ids are one. -/
def CounterCancels (clock : List (BitVec 128)) (call later : Nat) : Prop :=
  ∃ nanos nanos', clock[call]? = some nanos ∧ clock[later]? = some nanos' ∧
    ∀ bit, nanos.getLsbD bit ≠ nanos'.getLsbD bit ↔
      (BitVec.ofNat 64 call).getLsbD bit ≠ (BitVec.ofNat 64 later).getLsbD bit

/-- A batch is as it was, with every item of it. -/
def Store.SameBatch (store after : Store) (accountId batchId : String) : Prop :=
  after.undoBatches.find? (accountId, batchId) = store.undoBatches.find? (accountId, batchId) ∧
    ∀ entryId, after.undoItems.find? (accountId, batchId, entryId) =
      store.undoItems.find? (accountId, batchId, entryId)

/-- What the ids of a process are for: they are distinct, each opens a batch of its own
whatever was written before, and giving one batch up spares the others. -/
structure ReceiptsApart (clock : List (BitVec 128)) : Prop where
  distinct : (receiptIds clock).Nodup
  -- after any writes, with no batch of an earlier process under one of the ids
  opens : ∀ (store : Store) (earlier later : List Write) (now : Nat → String)
    (receiptId accountId : String) (entryIds : List Int) (read : Bool),
    (∀ drawn ∈ receiptIds clock, ∀ account, store.Unused account drawn) →
    (earlier ++ .operation (.setRead now receiptId accountId entryIds read true) :: later).filterMap
      Write.receiptId = receiptIds clock →
    ∃ after receipt, (earlier.foldl Write.apply store).setRead now receiptId accountId entryIds
      read true = .ok (after, receipt)
  spares : ∀ (first second : Nat) (receiptId other : String), first ≠ second →
    (receiptIds clock)[first]? = some receiptId → (receiptIds clock)[second]? = some other →
    ∀ (store : Store) (scan : Scan) (now : Nat → String) (accountId account : String),
      store.SameBatch (store.undo scan now accountId receiptId).1 account other ∧
        store.SameBatch (store.discardUndo accountId receiptId) account other

theorem Store.sameBatch_discardUndo {store : Store} {accountId receiptId account other : String}
    (apart : receiptId ≠ other) :
    store.SameBatch (store.discardUndo accountId receiptId) account other := by
  have elsewhere : (account, other) ≠ (accountId, receiptId) := fun same =>
    apart (Prod.mk.inj same).2.symm
  refine ⟨?_, fun entryId => ?_⟩
  · rw [find?_undoBatches_discardUndo, if_neg elsewhere]
  · rw [find?_undoItems_discardUndo, if_neg elsewhere]

theorem nodup_receiptIds {clock : List (BitVec 128)} : (receiptIds clock).Nodup ↔
    ∀ call later, call < later → ¬ CounterCancels clock call later := by
  have drawn : ∀ {call : Nat} {nanos : BitVec 128}, clock[call]? = some nanos →
      (receiptIds clock)[call]? = some (randomId nanos (.ofNat 64 call)) := by
    intro call nanos reading
    rw [receiptIds, List.getElem?_mapIdx, reading]
    rfl
  rw [List.nodup_iff_getElem?_ne_getElem?]
  constructor
  · rintro distinct call later before ⟨nanos, nanos', reading, reading', cancels⟩
    have bound : later < (receiptIds clock).length :=
      (List.getElem?_eq_some_iff.mp (drawn reading')).1
    refine distinct call later before bound ?_
    rw [drawn reading, drawn reading', randomId_eq_iff.mpr cancels]
  · intro apart call later before bound same
    have inside : later < clock.length := by simpa [receiptIds] using bound
    have reading := List.getElem?_eq_getElem (before.trans inside)
    have reading' := List.getElem?_eq_getElem inside
    rw [drawn reading, drawn reading'] at same
    exact apart call later before
      ⟨_, _, reading, reading', randomId_eq_iff.mp (Option.some.inj same)⟩

/-- The ids of a process keep its batches apart exactly when between no two calls the clock
has changed the bits that the counter has. Both are inputs of the calls, and no value of an
id is asked for. -/
theorem receipts_apart_iff (clock : List (BitVec 128)) :
    ReceiptsApart clock ↔ ∀ call later, call < later → ¬ CounterCancels clock call later := by
  rw [← nodup_receiptIds]
  refine ⟨ReceiptsApart.distinct, fun distinct => ⟨distinct, ?_, ?_⟩⟩
  · intro store earlier later now receiptId accountId entryIds read fresh drawn
    have own : (Write.operation (.setRead now receiptId accountId entryIds read true)).receiptId =
        some receiptId := rfl
    rw [List.filterMap_append, List.filterMap_cons_some own] at drawn
    rw [← drawn] at distinct fresh
    have first : ∀ write ∈ earlier, write.receiptId ≠ some receiptId := by
      intro write listed same
      have before := List.mem_filterMap.mpr ⟨write, listed, same⟩
      exact (List.disjoint_of_nodup_append distinct) before List.mem_cons_self
    have unused := Store.Unused.writes (fresh receiptId (by simp) accountId) first
    obtain ⟨after, ran, _⟩ := Store.setRead_outcome (fun _ => unused) entryIds
    exact ⟨after, _, ran⟩
  · intro first second receiptId other apart drawn drawnOther store scan now accountId account
    have different : receiptId ≠ other := by
      rintro rfl
      have bound := (List.getElem?_eq_some_iff.mp drawn).1
      exact apart ((List.getElem?_inj bound distinct).mp (drawn.trans drawnOther.symm))
    refine ⟨?_, Store.sameBatch_discardUndo different⟩
    unfold Store.SameBatch
    rw [Store.undoBatches_undo, Store.undoItems_undo]
    exact Store.sameBatch_discardUndo different

/-- Two calls a nanosecond apart, at an even reading: clock and counter change the same bit,
and the second finds its batch taken. -/
theorem receipts_meet :
    let clock : List (BitVec 128) := [1767225600000000000, 1767225600000000001]
    let id := randomId 1767225600000000000 0
    clock.Pairwise (·.toNat ≤ ·.toNat) ∧ receiptIds clock = [id, id] ∧ ¬ ReceiptsApart clock ∧
      ((storedStore.setRead (fun _ => "t") id "account" [1] true true).bind fun (after, _) =>
        (after.setRead (fun _ => "t") id "account" [1] false true).map Prod.snd) =
          .error (.uniqueViolation "undo_batches.account_id, undo_batches.id") := by
  have ids : receiptIds [1767225600000000000, 1767225600000000001] =
      [randomId 1767225600000000000 0, randomId 1767225600000000000 0] := by decide
  refine ⟨by decide, ids, fun apart => ?_, by decide⟩
  have distinct := apart.distinct
  rw [ids] at distinct
  exact absurd distinct (by simp)

end FluxBar
