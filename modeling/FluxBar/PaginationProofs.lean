import FluxBar.Miniflux
import FluxBar.Library.CursorPaging
import Mathlib.Data.Int.ConditionallyCompleteOrder
import Mathlib.Order.ConditionallyCompleteLattice.Basic

/-! The paginated fetch: that it ends, whatever it is answered; that it is exact
against a selection that holds still; and when a result it accepts as complete
leaves out an article that was there all along. -/
namespace FluxBar
open CursorPaging

/-! ## What a fetch asks for -/

/-- One request for entries, and what it was answered, be it an error. -/
structure Exchange where
  filter : EntriesFilter
  answer : Except RemoteError EntryResultSetDto

/-- A request that leaves no entry in the record. -/
def Remote.unrecorded {σ α : Type} (request : Remote σ α) : Remote (σ × List Exchange) α :=
  fun state =>
    let (answer, after) := request state.1
    (answer, after, state.2)

/-- The API with its entry requests recorded; it answers as before. -/
def MinifluxApi.recorded {σ : Type} (api : MinifluxApi σ) : MinifluxApi (σ × List Exchange) where
  entries filter := fun state =>
    let (answer, after) := api.entries filter state.1
    (answer, after, state.2 ++ [⟨filter, answer⟩])
  entry entryId := (api.entry entryId).unrecorded
  categories := api.categories.unrecorded
  feeds := api.feeds.unrecorded
  counters := api.counters.unrecorded
  updateEntries entryIds status := (api.updateEntries entryIds status).unrecorded
  toggleStarred entryId := (api.toggleStarred entryId).unrecorded

/-- The exchanges of the page loop and what it makes of them, turn by turn: a failed
request, a refused page, a complete result, or one request more. -/
inductive FetchRun (base : EntriesFilter) :
    FetchProgress → List Exchange → Except RemoteError (List EntryDto × Int) → Prop where
  | failed {progress : FetchProgress} {failure : RemoteError} :
      FetchRun base progress
        [⟨{ base with afterEntryId := progress.afterEntryId }, .error failure⟩] (.error failure)
  | refused {progress : FetchProgress} {result : EntryResultSetDto} {failure : RemoteError} :
      fetchPage progress result = .error failure →
      FetchRun base progress
        [⟨{ base with afterEntryId := progress.afterEntryId }, .ok result⟩] (.error failure)
  | complete {progress : FetchProgress} {result : EntryResultSetDto} {entries : List EntryDto}
      {total : Int} : fetchPage progress result = .ok (.complete entries total) →
      FetchRun base progress
        [⟨{ base with afterEntryId := progress.afterEntryId }, .ok result⟩] (.ok (entries, total))
  | more {progress next : FetchProgress} {result : EntryResultSetDto} {log : List Exchange}
      {outcome : Except RemoteError (List EntryDto × Int)} :
      fetchPage progress result = .ok (.more next) → FetchRun base next log outcome →
      FetchRun base progress
        (⟨{ base with afterEntryId := progress.afterEntryId }, .ok result⟩ :: log) outcome

/-- The loop on a recorded API leaves the exchanges of a run. -/
theorem fetchFrom_run {σ : Type} (api : MinifluxApi σ) (base : EntriesFilter)
    (progress : FetchProgress) (state : σ) (log : List Exchange) :
    ∃ taken, (fetchFrom api.recorded base progress (state, log)).2.2 = log ++ taken ∧
      FetchRun base progress taken (fetchFrom api.recorded base progress (state, log)).1 := by
  induction progress using (InvImage.wf FetchProgress.remaining wellFounded_lt).induction
    generalizing state log with
  | h progress ih =>
    cases asked : api.entries { base with afterEntryId := progress.afterEntryId } state with
    | mk answer after =>
      have turn := fetchFrom_turn api.recorded base progress (state, log)
      simp only [MinifluxApi.recorded, asked] at turn
      rw [← MinifluxApi.recorded] at turn
      cases answer with
      | error failure =>
        simp only at turn
        rw [turn]
        exact ⟨_, rfl, .failed⟩
      | ok result =>
        simp only at turn
        cases page : fetchPage progress result with
        | error failure =>
          rw [turn, page]
          exact ⟨_, rfl, .refused page⟩
        | ok outcome =>
          cases outcome with
          | complete entries total =>
            rw [turn, page]
            exact ⟨_, rfl, .complete page⟩
          | more next =>
            rw [turn, page]
            obtain ⟨taken, recorded, run⟩ := ih next (remaining_fetchPage page) after
              (log ++ [⟨{ base with afterEntryId := progress.afterEntryId }, .ok result⟩])
            refine ⟨_ :: taken, ?_, .more page run⟩
            rw [recorded, List.append_assoc]
            rfl

namespace FetchRun
variable {base : EntriesFilter} {progress : FetchProgress} {log : List Exchange}
  {outcome : Except RemoteError (List EntryDto × Int)}

/-- Every request is the base filter at some cursor, the first one at the cursor
the loop stands at. -/
theorem filters (run : FetchRun base progress log outcome) :
    (∀ exchange ∈ log, ∃ cursor, exchange.filter = { base with afterEntryId := cursor }) ∧
    ∃ answer rest, log = ⟨{ base with afterEntryId := progress.afterEntryId }, answer⟩ :: rest := by
  induction run with
  | failed => exact ⟨by simp, _, _, rfl⟩
  | refused _ => exact ⟨by simp, _, _, rfl⟩
  | complete _ => exact ⟨by simp, _, _, rfl⟩
  | more _ _ ih =>
    refine ⟨fun exchange held => ?_, _, _, rfl⟩
    rcases List.mem_cons.mp held with rfl | later
    · exact ⟨_, rfl⟩
    · exact ih.1 exchange later

/-- The next request carries the last id of the page before it, so that no page is asked for
twice. -/
theorem cursors (run : FetchRun base progress log outcome) :
    log.IsChain fun earlier later => ∃ result, earlier.answer = .ok result ∧
      (result.entries.map (·.id)).getLast? = some later.filter.afterEntryId := by
  induction run with
  | failed => exact .singleton _
  | refused _ => exact .singleton _
  | complete _ => exact .singleton _
  | @more progress next result log outcome page run ih =>
    obtain ⟨answer, rest, rfl⟩ := run.filters.2
    obtain ⟨_, _, _, full, cursor⟩ := fetchPage_more page
    refine .cons_cons ⟨result, rfl, ?_⟩ ih
    have nonempty : result.entries.map (·.id) ≠ [] := by
      intro empty
      rw [List.map_eq_nil_iff.mp empty] at full
      simp [browsePageSize] at full
    rw [List.getLast?_eq_some_getLast nonempty, cursor, List.getLastD_eq_getLast?,
      List.getLast?_eq_some_getLast nonempty]
    rfl

/-- Each page after which the loop goes on takes a page's worth off the total. -/
theorem length_le (run : FetchRun base progress log outcome)
    (known : (progress.entries.length : Int) < progress.expectedTotal) :
    (log.length : Int) ≤
      (progress.expectedTotal - progress.entries.length) / browsePageSize + 1 := by
  induction run with
  | failed => simp only [List.length_singleton, browsePageSize]; omega
  | refused _ => simp only [List.length_singleton, browsePageSize]; omega
  | complete _ => simp only [List.length_singleton, browsePageSize]; omega
  | @more progress next result log outcome page run ih =>
    obtain ⟨⟨appended, _⟩, expected, missing, full, _⟩ := fetchPage_more page
    have same : next.expectedTotal = progress.expectedTotal := by
      rw [expected, FetchProgress.expected, if_neg (by omega)]
    have longer : next.entries.length = progress.entries.length + result.entries.length := by
      rw [appended, List.length_append]
    have rest := ih missing
    simp only [List.length_cons, browsePageSize] at rest full ⊢
    omega

/-- From the start, the first page's total bounds the number of requests, whatever the later
pages say. -/
theorem length_start_le (run : FetchRun base .start log outcome) {first : EntryResultSetDto}
    {filter : EntriesFilter} {rest : List Exchange} (asked : log = ⟨filter, .ok first⟩ :: rest) :
    (log.length : Int) ≤ max 0 first.total / browsePageSize + 1 := by
  cases run with
  | failed => cases asked
  | refused _ => simp only [List.length_singleton, browsePageSize]; omega
  | complete _ => simp only [List.length_singleton, browsePageSize]; omega
  | @more _ next _ log _ turn run =>
    cases asked
    obtain ⟨⟨appended, _⟩, expected, missing, full, _⟩ := fetchPage_more turn
    have total : next.expectedTotal = first.total := by
      rw [expected]
      rfl
    have bound := run.length_le missing
    have longer : next.entries.length = first.entries.length := by
      rw [appended]
      simp [FetchProgress.start]
    simp only [List.length_cons, browsePageSize] at bound full ⊢
    omega

/-- A failed request is the last one. -/
theorem length_of_failed (run : FetchRun base progress log outcome) {failure : RemoteError}
    {filter : EntriesFilter} {rest : List Exchange} (asked : log = ⟨filter, .error failure⟩ :: rest) :
    log.length = 1 := by
  cases run with
  | failed => rfl
  | refused _ => rfl
  | complete _ => rfl
  | more _ _ => cases asked

/-- An accepted result is every page in turn, its ids rising throughout, and as
many entries as the total it was counted against. -/
theorem accepted {entries : List EntryDto} {total : Int}
    (run : FetchRun base progress log (.ok (entries, total))) :
    ∃ taken, entries = progress.entries ++ taken ∧
      (progress.afterEntryId :: taken.map (·.id)).Pairwise (· < ·) ∧
      (entries.length : Int) = total ∧
      ∃ first filter rest, log = ⟨filter, .ok first⟩ :: rest ∧ total = progress.expected first := by
  generalize same : Except.ok (entries, total) = outcome at run
  induction run with
  | failed => cases same
  | refused _ => cases same
  | complete turn =>
    cases same
    obtain ⟨⟨appended, rising⟩, counted, exact⟩ := fetchPage_complete turn
    exact ⟨_, appended, rising, exact, _, _, _, rfl, counted⟩
  | @more progress next result log outcome turn run ih =>
    obtain ⟨taken, together, rising, exact, first, _, _, _, counted⟩ := ih same
    obtain ⟨⟨appended, above⟩, expected, missing, full, cursor⟩ := fetchPage_more turn
    refine ⟨result.entries ++ taken, by rw [together, appended, List.append_assoc], ?_, exact,
      _, _, _, rfl, ?_⟩
    · rw [List.map_append, ← List.cons_append]
      obtain ⟨beyond, rest⟩ := List.pairwise_cons.mp rising
      refine List.pairwise_append.mpr ⟨above, rest, fun early held late listed => ?_⟩
      have last : early ≤ next.afterEntryId := by
        rw [cursor]
        exact le_getLastD_of_rising above held
      exact Int.lt_of_le_of_lt last (beyond late listed)
    · rw [counted, FetchProgress.expected, if_neg (by omega), expected]

end FetchRun

/-! ## A selection behind the API -/

/-- A server whose selection may be another one at every request: each answer is
the number of ids it holds and the least few above the cursor. -/
def selectionServer (selections : ℕ → Finset ℤ) (render : ℕ → ℤ → EntryDto) : MinifluxApi ℕ where
  entries filter := fun request =>
    (.ok {
      total := (selections request).card
      entries := (page browsePageSize (selections request) filter.afterEntryId).map fun id =>
        { render request id with id } }, request + 1)
  entry _ := throw .notFound
  categories := throw .notFound
  feeds := throw .notFound
  counters := throw .notFound
  updateEntries _ _ := throw .notFound
  toggleStarred _ := throw .notFound

section SelectionServer
variable {selections : ℕ → Finset ℤ} {render : ℕ → ℤ → EntryDto}
  {progress : FetchProgress} {request : ℕ}

/-- The answer to a request at the cursor the loop carries there, by a server whose
selection may have changed since the request before. -/
def answerAt (selections : ℕ → Finset ℤ) (render : ℕ → ℤ → EntryDto) (request : ℕ) :
    EntryResultSetDto where
  total := (selections request).card
  entries := (page browsePageSize (selections request)
    (cursorAt browsePageSize selections 0 request)).map fun id => { render request id with id }

/-- The entries of the first answers. -/
def collected (selections : ℕ → Finset ℤ) (render : ℕ → ℤ → EntryDto) (count : ℕ) : List EntryDto :=
  (List.range count).flatMap fun request => (answerAt selections render request).entries

theorem ids_answerAt (selections : ℕ → Finset ℤ) (render : ℕ → ℤ → EntryDto) (request : ℕ) :
    (answerAt selections render request).entries.map (·.id) =
    page browsePageSize (selections request) (cursorAt browsePageSize selections 0 request) := by
  simp [answerAt, Function.comp_def]

theorem ids_collected (selections : ℕ → Finset ℤ) (render : ℕ → ℤ → EntryDto) (count : ℕ) :
    (collected selections render count).map (·.id) = pages browsePageSize selections 0 count := by
  simp only [collected, List.map_flatMap, ids_answerAt, pages]

theorem collected_succ (count : ℕ) : collected selections render (count + 1) =
    collected selections render count ++ (answerAt selections render count).entries := by
  simp [collected, List.range_succ]

theorem length_collected (selections : ℕ → Finset ℤ) (render : ℕ → ℤ → EntryDto) (count : ℕ) :
    (collected selections render count).length = (pages browsePageSize selections 0 count).length := by
  rw [← ids_collected selections render, List.length_map]

theorem length_answerAt (selections : ℕ → Finset ℤ) (render : ℕ → ℤ → EntryDto) (request : ℕ) :
    (answerAt selections render request).entries.length = (page browsePageSize (selections request)
      (cursorAt browsePageSize selections 0 request)).length := by
  rw [← ids_answerAt selections render, List.length_map]

/-- Where the loop stands when it makes a request: with the entries of the answers before,
the cursor they lead to, and the total of the first. -/
structure AtRequest (selections : ℕ → Finset ℤ) (render : ℕ → ℤ → EntryDto) (request : ℕ)
    (progress : FetchProgress) : Prop where
  entries : progress.entries = collected selections render request
  cursor : progress.afterEntryId = cursorAt browsePageSize selections 0 request
  seen : ∀ id ∈ progress.seen, id ≤ progress.afterEntryId
  total : if request = 0 then progress.expectedTotal < 0
    else progress.expectedTotal = (selections 0).card

theorem atRequest_start (selections : ℕ → Finset ℤ) (render : ℕ → ℤ → EntryDto) :
    AtRequest selections render 0 .start where
  entries := rfl
  cursor := rfl
  seen := by simp [FetchProgress.start]
  total := by simp [FetchProgress.start]

namespace AtRequest
variable (stands : AtRequest selections render request progress)
include stands

theorem rising : (progress.afterEntryId ::
    (answerAt selections render request).entries.map (·.id)).Pairwise (· < ·) := by
  rw [ids_answerAt, stands.cursor]
  exact rising_page

theorem expected : progress.expected (answerAt selections render request) =
    (selections 0).card := by
  have total := stands.total
  unfold FetchProgress.expected
  split at total
  · rename_i first
    rw [if_pos total, first]
    rfl
  · rw [total, if_neg (by omega)]

theorem appended : progress.entries ++ (answerAt selections render request).entries =
    collected selections render (request + 1) := by
  rw [stands.entries, collected_succ]

theorem turn (base : EntriesFilter) :
    fetchFrom (selectionServer selections render) base progress request =
    match fetchPage progress (answerAt selections render request) with
    | .error failure => (.error failure, request + 1)
    | .ok (.complete entries total) => (.ok (entries, total), request + 1)
    | .ok (.more next) =>
      fetchFrom (selectionServer selections render) base next (request + 1) := by
  have asked : (selectionServer selections render).entries
      { base with afterEntryId := progress.afterEntryId } request =
      (.ok (answerAt selections render request), request + 1) := by
    simp only [selectionServer, stands.cursor, answerAt]
  have turned := fetchFrom_turn (selectionServer selections render) base progress request
  rw [asked] at turned
  exact turned

theorem next {progress' : FetchProgress} (unseen : ∀ id ∈ progress'.seen, id ≤ progress'.afterEntryId)
    (going : fetchPage progress (answerAt selections render request) = .ok (.more progress')) :
    AtRequest selections render (request + 1) progress' := by
  obtain ⟨⟨entries, _⟩, expected, _, _, cursor⟩ := fetchPage_more going
  refine ⟨entries.trans stands.appended, ?_, unseen, ?_⟩
  · rw [cursor, ids_answerAt, stands.cursor]
    rfl
  · rw [if_neg (Nat.succ_ne_zero request), expected, stands.expected]

end AtRequest

/-- How a fetch ends: after full pages that leave entries missing, one page makes
up the first total, or the fetch is refused. -/
inductive FetchEnd (selections : ℕ → Finset ℤ) (render : ℕ → ℤ → EntryDto) (last : ℕ) :
    Except RemoteError (List EntryDto × Int) → Prop where
  | accepted : (collected selections render (last + 1)).length = (selections 0).card →
      FetchEnd selections render last
        (.ok (collected selections render (last + 1), ((selections 0).card : Int)))
  | refused {failure : RemoteError} :
      (collected selections render (last + 1)).length ≠ (selections 0).card →
      ((selections 0).card < (collected selections render (last + 1)).length ∨
        (answerAt selections render last).entries.length < browsePageSize) →
      FetchEnd selections render last (.error failure)

theorem fetchFrom_end (base : EntriesFilter)
    (stands : AtRequest selections render request progress) :
    ∃ last outcome, fetchFrom (selectionServer selections render) base progress request =
        (outcome, last + 1) ∧ FetchEnd selections render last outcome ∧
      ∀ n, request ≤ n → n < last →
        (answerAt selections render n).entries.length = browsePageSize ∧
          (collected selections render (n + 1)).length < (selections 0).card := by
  induction missing : (selections 0).card - (collected selections render request).length
    using Nat.strong_induction_on generalizing request progress with
  | h missing ih =>
    subst missing
    rw [stands.turn]
    have seen := stands.seen
    by_cases exact : (collected selections render (request + 1)).length = (selections 0).card
    · rw [fetchPage_of_exact stands.rising seen (by rw [stands.appended, stands.expected, exact]),
        stands.appended, stands.expected]
      exact ⟨request, _, rfl, .accepted exact, fun n low high => absurd low (by omega)⟩
    · have inexact : ((progress.entries ++ (answerAt selections render request).entries).length : Int) ≠
          progress.expected (answerAt selections render request) := by
        rw [stands.appended, stands.expected]
        exact_mod_cast exact
      by_cases excess : (selections 0).card < (collected selections render (request + 1)).length ∨
          (answerAt selections render request).entries.length < browsePageSize
      · obtain ⟨failure, refused⟩ := fetchPage_of_inexact stands.rising seen inexact (by
          rw [stands.appended, stands.expected]
          exact_mod_cast excess)
        rw [refused]
        exact ⟨request, _, rfl, .refused exact excess, fun n low high => absurd low (by omega)⟩
      · obtain ⟨fits, full⟩ := not_or.mp excess
        have few : (collected selections render (request + 1)).length < (selections 0).card := by
          omega
        have fills : (answerAt selections render request).entries.length = browsePageSize := by
          have most : (answerAt selections render request).entries.length ≤ browsePageSize := by
            rw [length_answerAt]
            exact length_page_le
          omega
        obtain ⟨next, going, unseen⟩ := fetchPage_of_missing stands.rising seen (by
          rw [stands.appended, stands.expected]
          exact_mod_cast few) (by omega)
        rw [going]
        have longer : (collected selections render request).length <
            (collected selections render (request + 1)).length := by
          rw [collected_succ, List.length_append, fills]
          simp [browsePageSize]
        obtain ⟨last, outcome, ends, how, before⟩ := ih _ (by omega) (stands.next unseen going) rfl
        refine ⟨last, outcome, ends, how, fun n low high => ?_⟩
        rcases Nat.eq_or_lt_of_le low with rfl | later
        · exact ⟨fills, few⟩
        · exact before n later high

/-- A fetch ends at its first page that is short or makes up the total. -/
theorem fetch_end (selections : ℕ → Finset ℤ) (render : ℕ → ℤ → EntryDto) (base : EntriesFilter) :
    ∃ last outcome, fetchCompleteSelection (selectionServer selections render) base 0 =
        (outcome, last + 1) ∧ FetchEnd selections render last outcome ∧
      ∀ n < last, (answerAt selections render n).entries.length = browsePageSize ∧
        (collected selections render (n + 1)).length < (selections 0).card := by
  obtain ⟨last, outcome, ends, how, before⟩ := fetchFrom_end base (atRequest_start selections render)
  exact ⟨last, outcome, ends, how, fun n high => before n (Nat.zero_le n) high⟩

/-! ## What an accepted result says -/

/-- The changes a fetch cannot notice: the first total is a positive number of whole pages,
every request finds a page's worth of ids before some bound, and an id beyond the last bound
is there all along. It speaks of the selections only, and of no value that a fetch computes.
-/
def Conceals (selections : ℕ → Finset ℤ) : Prop :=
  ∃ (count : ℕ) (item : ℤ) (bounds : ℕ → ℤ), 0 < count ∧
    (selections 0).card = browsePageSize * count ∧ (∀ n < count, item ∈ selections n) ∧
    bounds 0 = 0 ∧ bounds count < item ∧ ∀ n < count,
      browsePageSize ≤ ((selections n).filter fun id => bounds n < id ∧ id ≤ bounds (n + 1)).card

theorem length_full_pages {count : ℕ}
    (full : ∀ n < count, (answerAt selections render n).entries.length = browsePageSize) :
    (collected selections render count).length = browsePageSize * count := by
  induction count with
  | zero => rfl
  | succ count ih =>
    rw [collected_succ, List.length_append, ih fun n low => full n (Nat.lt_succ_of_lt low),
      full count (Nat.lt_succ_self count), Nat.mul_succ]

/-- A concealing run is accepted after its whole pages, without the concealed id: the count
is met before the id's turn comes, and no further page is asked for. -/
theorem accepted_of_conceals (conceals : Conceals selections) (render : ℕ → ℤ → EntryDto)
    (base : EntriesFilter) :
    ∃ entries total requests item,
      fetchCompleteSelection (selectionServer selections render) base 0 =
        (.ok (entries, total), requests) ∧
      (∀ n < requests, item ∈ selections n) ∧ ∀ entry ∈ entries, entry.id ≠ item := by
  obtain ⟨count, item, bounds, positive, whole, always, first, beyond, enough⟩ := conceals
  obtain ⟨full, short⟩ := (full_pages_iff (by decide : 0 < browsePageSize)).mpr
    ⟨bounds, first, beyond, enough⟩
  have filled : ∀ n < count, (answerAt selections render n).entries.length = browsePageSize :=
    fun n low => (length_answerAt selections render n).trans (full n low)
  have lengths : ∀ n ≤ count, (collected selections render n).length = browsePageSize * n :=
    fun n low => length_full_pages fun i early => filled i (Nat.lt_of_lt_of_le early low)
  obtain ⟨last, outcome, ends, how, before⟩ := fetch_end selections render base
  have lastPage : last + 1 = count := by
    rcases Nat.lt_trichotomy (last + 1) count with early | same | late
    · have fewer : (collected selections render (last + 1)).length < (selections 0).card := by
        rw [lengths _ early.le, whole]
        exact Nat.mul_lt_mul_of_pos_left early (by decide)
      cases how with
      | accepted exact => omega
      | refused _ excess =>
        have fullLast := filled last (Nat.lt_of_succ_lt early)
        omega
    · exact same
    · obtain ⟨n, rfl⟩ : ∃ n, count = n + 1 := ⟨count - 1, by omega⟩
      have missing := (before n (by omega)).2
      rw [lengths _ le_rfl, whole] at missing
      exact absurd missing (Nat.lt_irrefl _)
  cases how with
  | accepted exact =>
    refine ⟨_, _, _, item, ends, fun n low => always n (by omega), fun entry held named => ?_⟩
    have listed : item ∈ pages browsePageSize selections 0 count := by
      rw [← ids_collected selections render, ← lastPage, ← named]
      exact List.mem_map_of_mem held
    exact absurd (rising_pages.2 item (List.mem_cons_of_mem _ listed)) (not_le.mpr short)
  | refused inexact _ => exact absurd (by rw [lastPage, lengths _ le_rfl, whole]) inexact

/-- An accepted result lists every id that belonged to the selection throughout, from the
first request to the last. -/
def ListsWhatStays (selections : ℕ → Finset ℤ) (render : ℕ → ℤ → EntryDto) (base : EntriesFilter) :
    Prop :=
  ∀ entries total requests,
    fetchCompleteSelection (selectionServer selections render) base 0 =
      (.ok (entries, total), requests) →
    ∀ item, (∀ n < requests, item ∈ selections n) → ∃ entry ∈ entries, entry.id = item

/-- A result accepted as complete lists every id that was there at each request, exactly
when the changes between requests conceal none. The server may answer each request from a
different selection. -/
theorem complete_iff_not_conceals (selections : ℕ → Finset ℤ) (render : ℕ → ℤ → EntryDto)
    (base : EntriesFilter) (positive : ∀ n, ∀ id ∈ selections n, 0 < id) :
    ListsWhatStays selections render base ↔ ¬ Conceals selections := by
  constructor
  · intro complete conceals
    obtain ⟨entries, total, requests, item, accepted, always, absent⟩ :=
      accepted_of_conceals conceals render base
    obtain ⟨entry, held, named⟩ := complete entries total requests accepted item always
    exact absent entry held named
  · intro undisturbed entries total requests accepted item always
    obtain ⟨last, outcome, ends, how, before⟩ := fetch_end selections render base
    rw [ends] at accepted
    obtain ⟨rfl, rfl⟩ := Prod.mk.inj accepted
    cases how with
    | accepted exact =>
    by_contra absent
    have unlisted : item ∉ pages browsePageSize selections 0 (last + 1) := by
      rw [← ids_collected selections render, List.mem_map]
      rintro ⟨entry, held, named⟩
      exact absent ⟨entry, held, named⟩
    have member := always last (Nat.lt_succ_self last)
    have short : cursorAt browsePageSize selections 0 (last + 1) < item := by
      by_contra within
      exact unlisted (mem_pages always (positive last item member) (not_lt.mp within))
    have fullLast : (answerAt selections render last).entries.length = browsePageSize := by
      rw [length_answerAt]
      refine le_antisymm length_page_le (not_lt.mp fun few => unlisted ?_)
      rw [pages_succ, List.mem_append]
      exact Or.inr (mem_page member (cursor_le_advance.trans_lt short) (Or.inr few))
    have full : ∀ n < last + 1, (answerAt selections render n).entries.length = browsePageSize := by
      intro n low
      rcases Nat.lt_succ_iff_lt_or_eq.mp low with early | rfl
      · exact (before n early).1
      · exact fullLast
    obtain ⟨bounds, first, beyond, enough⟩ := (full_pages_iff (by decide : 0 < browsePageSize)).mp
      ⟨fun n low => (length_answerAt selections render n).symm.trans (full n low), short⟩
    exact undisturbed ⟨last + 1, item, bounds, Nat.succ_pos last, by rw [← exact, length_full_pages full],
      always, first, beyond, enough⟩

/-- A blank article. -/
def blankEntry : EntryDto where
  id := 0
  feedId := 0
  title := ""
  url := ""
  commentsUrl := ""
  status := "unread"
  starred := false
  publishedAt := ""
  content := ""
  enclosures := []
  feed := none

/-- Two articles that stay conceal nothing, since they are no whole page. -/
theorem steady_pair_complete : ListsWhatStays (fun _ => {3, 5}) (fun _ _ => blankEntry) {} := by
  refine (complete_iff_not_conceals (fun _ => {3, 5}) (fun _ _ => blankEntry) {} ?_).mpr ?_
  · intro _ id held
    rcases Finset.mem_insert.mp held with rfl | last
    · decide
    · rw [Finset.mem_singleton.mp last]
      decide
  · rintro ⟨count, _, _, positive, whole, _⟩
    have few : (({3, 5} : Finset ℤ)).card = 2 := by decide
    rw [few, browsePageSize] at whole
    omega

/-- The `count` ids from the first one on. -/
def idsFrom (first : ℤ) (count : ℕ) : Finset ℤ :=
  (Finset.range count).image fun n : ℕ => first + (n : ℤ)

theorem mem_idsFrom {first id : ℤ} {count : ℕ} :
    id ∈ idsFrom first count ↔ first ≤ id ∧ id < first + count := by
  rw [idsFrom, Finset.mem_image]
  constructor
  · rintro ⟨n, low, rfl⟩
    rw [Finset.mem_range] at low
    omega
  · rintro ⟨low, high⟩
    exact ⟨(id - first).toNat, Finset.mem_range.mpr (by omega), by omega⟩

theorem card_idsFrom (first : ℤ) (count : ℕ) : (idsFrom first count).card = count := by
  have injective : Function.Injective fun n : ℕ => first + (n : ℤ) := fun _ _ same => by
    simpa using same
  rw [idsFrom, Finset.card_image_of_injective _ injective, Finset.card_range]

/-- Between the two requests article 201 appears and article 1 goes, so that the total is
the same at both. -/
def shiftedSelection : ℕ → Finset ℤ
  | 0 => idsFrom 1 200 ∪ idsFrom 202 200
  | _ + 1 => idsFrom 2 400

theorem conceals_shiftedSelection : Conceals shiftedSelection := by
  refine ⟨2, 401, fun n => 200 * n, by decide, ?_, ?_, rfl, by decide, ?_⟩
  · have apart : Disjoint (idsFrom 1 200) (idsFrom 202 200) := by
      refine Finset.disjoint_left.mpr fun id low high => ?_
      rw [mem_idsFrom] at low high
      omega
    rw [shiftedSelection, Finset.card_union_of_disjoint apart, card_idsFrom, card_idsFrom]
    rfl
  · intro n low
    cases n with
    | zero => exact Finset.mem_union_right _ (mem_idsFrom.mpr (by omega))
    | succ n => exact mem_idsFrom.mpr (by omega)
  · intro n low
    have reach : idsFrom (200 * (n : ℤ) + 1) 200 ⊆
        (shiftedSelection n).filter fun id => 200 * (n : ℤ) < id ∧ id ≤ 200 * ((n + 1 : ℕ) : ℤ) := by
      intro id held
      rw [mem_idsFrom] at held
      rw [Finset.mem_filter]
      refine ⟨?_, by push_cast; omega⟩
      rcases n with _ | n
      · exact Finset.mem_union_left _ (mem_idsFrom.mpr (by omega))
      · obtain rfl : n = 0 := by omega
        exact mem_idsFrom.mpr (by omega)
    refine le_trans (le_of_eq ?_) (Finset.card_le_card reach)
    rw [card_idsFrom, browsePageSize]

/-- The shift is accepted as complete, and article 401, on the server throughout,
is taken for absent. -/
theorem shifted_selection_accepted : ¬ ∀ (selections : ℕ → Finset ℤ) (render : ℕ → ℤ → EntryDto)
    (base : EntriesFilter), (∀ n, ∀ id ∈ selections n, 0 < id) →
    ListsWhatStays selections render base := by
  intro complete
  obtain ⟨entries, total, requests, item, accepted, always, absent⟩ :=
    accepted_of_conceals conceals_shiftedSelection (fun _ _ => blankEntry) {}
  have positive : ∀ n, ∀ id ∈ shiftedSelection n, 0 < id := by
    intro n id held
    cases n with
    | zero =>
      rw [shiftedSelection, Finset.mem_union, mem_idsFrom, mem_idsFrom] at held
      omega
    | succ n =>
      rw [shiftedSelection, mem_idsFrom] at held
      omega
  obtain ⟨entry, held, named⟩ := complete shiftedSelection (fun _ _ => blankEntry) {} positive
    entries total requests accepted item always
  exact absent entry held named

/-! ## Termination and exactness -/

/-- Against a selection that holds still the last page always makes up the total, and the
entries come back in the order of their ids. -/
theorem fetch_steady (ids : Finset ℤ) (render : ℤ → EntryDto) (base : EntriesFilter)
    (positive : ∀ id ∈ ids, 0 < id) :
    (fetchCompleteSelection (selectionServer (fun _ => ids) fun _ => render) base 0).1 =
      .ok ((ids.sort (· ≤ ·)).map fun id => { render id with id }, (ids.card : Int)) := by
  obtain ⟨last, outcome, ends, how, _⟩ := fetch_end (fun _ => ids) (fun _ => render) base
  rw [ends]
  have within : (pages browsePageSize (fun _ => ids) 0 (last + 1)).toFinset ⊆ ids := by
    intro id held
    obtain ⟨_, _, member⟩ := mem_of_mem_pages (List.mem_toFinset.mp held)
    exact member
  have count : (pages browsePageSize (fun _ => ids) 0 (last + 1)).toFinset.card =
      (collected (fun _ => ids) (fun _ => render) (last + 1)).length := by
    rw [List.toFinset_card_of_nodup nodup_pages, length_collected]
  cases how with
  | accepted exact =>
    have all : (pages browsePageSize (fun _ => ids) 0 (last + 1)).toFinset = ids :=
      Finset.eq_of_subset_of_card_le within (by rw [count, exact])
    have sorted : (pages browsePageSize (fun _ => ids) 0 (last + 1)).toFinset.sort (· ≤ ·) =
        pages browsePageSize (fun _ => ids) 0 (last + 1) :=
      (List.toFinset_sort (· ≤ ·) nodup_pages).mpr
        ((List.pairwise_cons.mp rising_pages.1).2.imp fun below => Int.le_of_lt below)
    rw [all] at sorted
    have rendered : collected (fun _ => ids) (fun _ => render) (last + 1) =
        (pages browsePageSize (fun _ => ids) 0 (last + 1)).map fun id => { render id with id } := by
      simp only [collected, answerAt, pages, List.map_flatMap]
    rw [rendered, sorted]
  | refused inexact excess =>
    exfalso
    have fewer := Finset.card_le_card within
    rcases excess with many | short
    · omega
    · refine inexact (le_antisymm (count ▸ fewer) ?_)
      rw [← count]
      refine Finset.card_le_card fun id member => List.mem_toFinset.mpr ?_
      by_cases reached : id ≤ cursorAt browsePageSize (fun _ => ids) 0 (last + 1)
      · exact mem_pages (fun _ _ => member) (positive id member) reached
      · rw [length_answerAt] at short
        rw [pages_succ, List.mem_append]
        exact Or.inr (mem_page member (cursor_le_advance.trans_lt (not_le.mp reached)) (Or.inr short))

end SelectionServer

/-- Whatever it is answered, a fetch makes at most one request more than the first
total has whole pages, each at the last id of the page before, and accepts only
rising positive ids as many as that total. A selection that holds still it returns
whole. -/
theorem fetch_terminates_and_is_exact :
    (∀ {σ : Type} (api : MinifluxApi σ) (base : EntriesFilter) (state : σ),
      let run := fetchCompleteSelection api.recorded base (state, [])
      let log := run.2.2
      (∃ answer rest, log = ⟨{ base with afterEntryId := 0 }, answer⟩ :: rest ∧
        (∀ failure, answer = .error failure → log.length = 1) ∧
        ∀ first, answer = .ok first →
          (log.length : Int) ≤ max 0 first.total / browsePageSize + 1 ∧
          (first.total ≤ 0 → log.length = 1) ∧
          ∀ entries total, run.1 = .ok (entries, total) →
            (0 :: entries.map (·.id)).Pairwise (· < ·) ∧
            (entries.length : Int) = total ∧ total = first.total) ∧
      (∀ exchange ∈ log, ∃ cursor, exchange.filter = { base with afterEntryId := cursor }) ∧
      log.IsChain fun earlier later => ∃ result, earlier.answer = .ok result ∧
        (result.entries.map (·.id)).getLast? = some later.filter.afterEntryId) ∧
    ∀ (ids : Finset ℤ) (render : ℤ → EntryDto) (base : EntriesFilter), (∀ id ∈ ids, 0 < id) →
      (fetchCompleteSelection (selectionServer (fun _ => ids) fun _ => render) base 0).1 =
        .ok ((ids.sort (· ≤ ·)).map fun id => { render id with id }, (ids.card : Int)) := by
  refine ⟨fun api base state => ?_, fetch_steady⟩
  intro run log
  obtain ⟨taken, recorded, exchanges⟩ := fetchFrom_run api base .start state []
  have same : log = taken := recorded.trans (List.nil_append taken)
  rw [← same] at exchanges
  obtain ⟨filters, answer, rest, asked⟩ := exchanges.filters
  refine ⟨⟨answer, rest, asked, ?_, ?_⟩, filters, exchanges.cursors⟩
  · rintro failure rfl
    exact exchanges.length_of_failed asked
  · rintro first rfl
    have bound := exchanges.length_start_le asked
    refine ⟨bound, fun low => ?_, fun entries total accepted => ?_⟩
    · rw [max_eq_left low] at bound
      rw [asked, List.length_cons] at bound ⊢
      simp only [Int.zero_ediv] at bound
      omega
    · have ran : FetchRun base .start log (.ok (entries, total)) := accepted ▸ exchanges
      obtain ⟨_, together, rising, exact, answered, _, _, asked', counted⟩ := ran.accepted
      rw [asked] at asked'
      cases asked'
      refine ⟨?_, exact, counted⟩
      rw [together]
      exact rising

/-- Three articles come back as they are, in the order of their ids and with their number.
-/
theorem three_articles_fetched :
    (fetchCompleteSelection (selectionServer (fun _ => {9, 3, 5}) fun _ _ => blankEntry) {} 0).1 =
      .ok ([3, 5, 9].map fun id => { blankEntry with id }, 3) := by
  have sorted : ({9, 3, 5} : Finset ℤ).sort (· ≤ ·) = [3, 5, 9] := by
    have same : ({9, 3, 5} : Finset ℤ) = [3, 5, 9].toFinset := by decide
    rw [same]
    exact (List.toFinset_sort (· ≤ ·) (by decide)).mpr (by decide)
  have fetched := fetch_terminates_and_is_exact.2 {9, 3, 5} (fun _ => blankEntry) {} (by decide)
  rw [sorted] at fetched
  exact fetched

end FluxBar
