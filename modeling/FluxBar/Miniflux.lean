import FluxBar.Domain
import Mathlib.Data.Finset.Basic
import Mathlib.Data.Prod.Lex

/-! The Miniflux client: the values of its API, the paginated fetch with its
stability checks, and the capabilities the sync service uses. A request reads
and changes the state of whatever answers it, and may fail; transport, query
strings and JSON are below this boundary. -/
namespace FluxBar

/-! ## `remote::error` -/

/-- `RemoteError`: how a request fails, by the status of the answer, on the way to the
server, or over a body that does not decode. -/
inductive RemoteError where
  | notAuthorized
  | forbidden
  | notFound
  | badRequest (message : Option String)
  | serverError (message : Option String)
  | status (code : Nat)
  | transport (message : String)
  | json (message : String)
  deriving DecidableEq, Repr

/-- `Display for RemoteError`, the words that a failure is told with. -/
def RemoteError.display : RemoteError → String
  | .notAuthorized => "miniflux: unauthorized (bad credentials)"
  | .forbidden => "miniflux: access forbidden"
  | .notFound => "miniflux: resource not found"
  | .badRequest (some message) => s!"miniflux: bad request ({message})"
  | .badRequest none => "miniflux: bad request"
  | .serverError (some message) => s!"miniflux: internal server error: {message}"
  | .serverError none => "miniflux: internal server error"
  | .status code => s!"miniflux: status code={code}"
  | .transport message => message
  | .json message => s!"miniflux: response error ({message})"

/-! ## `remote::dto` -/

/-- `EntriesFilter`: the query for entries, with the page size and the cursor; its defaults
are those of `Default`. -/
structure EntriesFilter where
  status : Option String := none
  statuses : List String := []
  order : Option String := none
  direction : Option String := none
  limit : Int := 0
  offset : Int := 0
  afterEntryId : Int := 0
  starred : Option String := none
  categoryId : Int := 0
  feedId : Int := 0
  deriving DecidableEq, Repr

/-- `CategoryDto`: a category, as the server names it. -/
structure CategoryDto where
  id : Int
  title : String
  deriving DecidableEq, Repr

/-- `FeedDto`: a feed, with the category the server files it in. -/
structure FeedDto where
  id : Int
  title : String
  category : Option CategoryDto
  deriving DecidableEq, Repr

/-- `FeedDto::category_id`: zero where the server gave no category. -/
def FeedDto.categoryId (feed : FeedDto) : Int :=
  match feed.category with
  | some category => category.id
  | none => 0

/-- `EnclosureDto`: an attachment of an entry, with its media type. -/
structure EnclosureDto where
  id : Int
  url : String
  mimeType : String
  deriving DecidableEq, Repr

/-- `EntryDto`: an entry as the server renders it, its content still HTML. -/
structure EntryDto where
  id : Int
  feedId : Int
  title : String
  url : String
  commentsUrl : String
  status : String
  starred : Bool
  publishedAt : String
  content : String
  enclosures : List EnclosureDto
  feed : Option FeedDto
  deriving DecidableEq, Repr

/-- `EntryResultSetDto`: one page of entries, and how many the query has in all. -/
structure EntryResultSetDto where
  total : Int
  entries : List EntryDto
  deriving DecidableEq, Repr

/-- `FeedCountersDto`: the map as its pairs, in the order it is iterated. -/
structure FeedCountersDto where
  unreads : List (String × Int)
  deriving DecidableEq, Repr

/-! ## Mapping into the domain -/

/-- What `article::extract` returns: the text of an article in short, and its first image.
-/
structure Preview where
  text : String
  imageUrl : String

/-- The functions of the host the mapping calls: HTML extraction, the choice of
an image enclosure, and lowercasing. -/
structure Host where
  extract : String → String → Nat → Preview
  firstImageEnclosureUrl : List (String × String) → String → String
  toLowercase : String → String

/-- `PREVIEW_LIMIT`. -/
def previewLimit : Nat := 600

/-- `entry_to_domain`: the feed is the entry's own where it names one, and the image that of
the content, or else the first enclosed one. -/
def entryToDomain (host : Host) (entry : EntryDto) : Entry :=
  let (feedId, feedName, categoryId) := match entry.feed with
    | some feed => (if entry.feedId = 0 then feed.id else entry.feedId, feed.title, feed.categoryId)
    | none => (entry.feedId, "", 0)
  let preview := host.extract entry.content entry.url previewLimit
  let imageUrl := if preview.imageUrl = "" then
      host.firstImageEnclosureUrl
        (entry.enclosures.map fun enclosure => (enclosure.url, enclosure.mimeType)) entry.url
    else preview.imageUrl
  { id := entry.id
    title := entry.title
    url := entry.url
    commentsUrl := entry.commentsUrl
    feedId
    feedName
    categoryId
    publishedAtRfc3339 := entry.publishedAt
    preview := preview.text
    imageUrl
    status := .parse entry.status
    starred := entry.starred }

/-- `dto_mapping_inputs`: what `build_navigation` is given of the server's categories and
feeds. -/
def dtoMappingInputs (categories : List CategoryDto) (feeds : List FeedDto) :
    List CategoryInput × List FeedInput :=
  (categories.map fun category => { id := category.id, title := category.title },
    feeds.map fun feed => { id := feed.id, title := feed.title, categoryId := feed.categoryId })

/-! ## Requests -/

/-- A computation over the state of the remote side that may fail; what a failed
one did there stays done. -/
abbrev Remote (σ : Type) := ExceptT RemoteError (StateM σ)

/-- The HTTP requests of `MinifluxClient`, with their bodies decoded. What the server does
with them is a parameter. -/
structure MinifluxApi (σ : Type) where
  entries : EntriesFilter → Remote σ EntryResultSetDto
  entry : Int → Remote σ EntryDto
  categories : Remote σ (List CategoryDto)
  feeds : Remote σ (List FeedDto)
  counters : Remote σ FeedCountersDto
  updateEntries : List Int → String → Remote σ Unit
  toggleStarred : Int → Remote σ Unit

/-- `BROWSE_PAGE_SIZE`. -/
def browsePageSize : Nat := 200

/-! ## `fetch_complete_selection` -/

/-- Where the entry loop of one page stands: the ids seen, the entries taken, and the last
id. -/
structure PageProgress where
  seen : Finset Int
  entries : List EntryDto
  lastId : Int

/-- One turn of the entry loop: an id that does not rise, or was seen on an earlier page,
refuses the whole answer. -/
def takeEntry (page : PageProgress) (entry : EntryDto) : Except RemoteError PageProgress :=
  if entry.id ≤ page.lastId then
    .error (.transport s!"unstabile Seitensortierung nach Artikel {page.lastId}")
  else if entry.id ∈ page.seen then
    .error (.transport s!"doppelter Artikel {entry.id} in paginierter Antwort")
  else .ok {
    seen := insert entry.id page.seen
    entries := page.entries ++ [entry]
    lastId := entry.id }

/-- Where the page loop stands: the entries and ids collected so far, the total of the first
page (below zero before it), and the cursor. -/
structure FetchProgress where
  entries : List EntryDto
  seen : Finset Int
  expectedTotal : Int
  afterEntryId : Int

/-- The loop variables at entry: nothing collected, and no total known. -/
def FetchProgress.start : FetchProgress where
  entries := []
  seen := ∅
  expectedTotal := -1
  afterEntryId := 0

/-- The loop variables the entry loop of the next page takes over. -/
def FetchProgress.page (progress : FetchProgress) : PageProgress where
  seen := progress.seen
  entries := progress.entries
  lastId := progress.afterEntryId

/-- `expected_total` after a page: the first one sets it. -/
def FetchProgress.expected (progress : FetchProgress) (result : EntryResultSetDto) : Int :=
  if progress.expectedTotal < 0 then result.total else progress.expectedTotal

/-- How a turn of the page loop ends, where it does not fail: with the whole result, or with
the need of another page. -/
inductive FetchOutcome where
  | complete (entries : List EntryDto) (total : Int)
  | more (progress : FetchProgress)

/-- The body of the page loop, between the answer to one request and the next. -/
def fetchPage (progress : FetchProgress) (result : EntryResultSetDto) :
    Except RemoteError FetchOutcome := do
  let expectedTotal := progress.expected result
  let page ← result.entries.foldlM takeEntry progress.page
  let collected : Int := page.entries.length
  if collected = expectedTotal then
    return .complete page.entries expectedTotal
  else if expectedTotal < collected then
    throw (.transport s!"Trefferzahl änderte sich während der Pagination: erwartet {expectedTotal}, erhalten {collected}")
  else if result.entries.length < browsePageSize || page.lastId = progress.afterEntryId then
    throw (.transport s!"unvollständige paginierte Antwort: erwartet {expectedTotal}, erhalten {collected}")
  else
    return .more {
      entries := page.entries
      seen := page.seen
      expectedTotal
      afterEntryId := page.lastId }

/-- A page that passes its loop is appended, and its ids rise from the cursor. -/
theorem takeEntries_ok {entries : List EntryDto} {page after : PageProgress}
    (taken : entries.foldlM takeEntry page = .ok after) :
    after.entries = page.entries ++ entries ∧
    after.lastId = (entries.map (·.id)).getLastD page.lastId ∧
    (page.lastId :: entries.map (·.id)).Pairwise (· < ·) := by
  induction entries generalizing page with
  | nil =>
    cases taken
    simp
  | cons entry rest ih =>
    rw [List.foldlM_cons] at taken
    cases first : takeEntry page entry with
    | error failure => simp [first, bind, Except.bind] at taken
    | ok middle =>
      rw [first] at taken
      obtain ⟨appended, last, rising⟩ := ih taken
      unfold takeEntry at first
      split at first
      · cases first
      · rename_i above
        split at first
        · cases first
        · cases first
          refine ⟨by simpa using appended, ?_, ?_⟩
          · rw [last, List.map_cons, List.getLastD_cons]
          · rw [List.map_cons, List.pairwise_cons]
            refine ⟨fun id held => ?_, rising⟩
            rcases List.mem_cons.mp held with rfl | later
            · omega
            · exact Int.lt_trans (Int.not_le.mp above) ((List.pairwise_cons.mp rising).1 id later)

/-- Ids that rise from the cursor, none of them seen, pass the loop, and none of those seen
at its end is above the last one. -/
theorem takeEntries_of_rising {entries : List EntryDto} {page : PageProgress}
    (rising : (page.lastId :: entries.map (·.id)).Pairwise (· < ·))
    (unseen : ∀ id ∈ page.seen, id ≤ page.lastId) :
    ∃ after, entries.foldlM takeEntry page = .ok after ∧
      ∀ id ∈ after.seen, id ≤ after.lastId := by
  induction entries generalizing page with
  | nil => exact ⟨page, rfl, unseen⟩
  | cons entry rest ih =>
    rw [List.map_cons, List.pairwise_cons, List.pairwise_cons] at rising
    obtain ⟨above, above', rising⟩ := rising
    have first : page.lastId < entry.id := above entry.id List.mem_cons_self
    have fresh : entry.id ∉ page.seen := fun held => by
      have low := unseen entry.id held
      omega
    rw [List.foldlM_cons, takeEntry, if_neg (by omega), if_neg fresh]
    refine ih (List.pairwise_cons.mpr ⟨above', rising⟩) fun id held => ?_
    rcases Finset.mem_insert.mp held with rfl | old
    · exact Int.le_refl _
    · exact Int.le_of_lt (Int.lt_of_le_of_lt (unseen id old) first)

/-- What passing a page means, whether it ends the loop or not: its entries are appended as
they are, and their ids rise past the cursor. -/
structure PageTaken (progress : FetchProgress) (result : EntryResultSetDto)
    (entries : List EntryDto) : Prop where
  entries : entries = progress.entries ++ result.entries
  rising : (progress.afterEntryId :: result.entries.map (·.id)).Pairwise (· < ·)

/-- The loop accepts a page when the entries collected are exactly the total, and makes no
further request to see that nothing is left. -/
theorem fetchPage_complete {progress : FetchProgress} {result : EntryResultSetDto}
    {entries : List EntryDto} {total : Int}
    (done : fetchPage progress result = .ok (.complete entries total)) :
    PageTaken progress result entries ∧ total = progress.expected result ∧
      (entries.length : Int) = total := by
  unfold fetchPage at done
  simp only [bind, Except.bind] at done
  split at done
  · cases done
  · rename_i page taken
    obtain ⟨appended, _, rising⟩ := takeEntries_ok taken
    split at done
    · rename_i exact
      cases done
      exact ⟨⟨appended, rising⟩, rfl, exact⟩
    · split at done
      · cases done
      · split at done <;> cases done

/-- It asks for another page only after a full one that leaves entries missing, with the
last id of the page as the cursor. -/
theorem fetchPage_more {progress next : FetchProgress} {result : EntryResultSetDto}
    (going : fetchPage progress result = .ok (.more next)) :
    PageTaken progress result next.entries ∧
    next.expectedTotal = progress.expected result ∧
    (next.entries.length : Int) < next.expectedTotal ∧
    browsePageSize ≤ result.entries.length ∧
    next.afterEntryId = (result.entries.map (·.id)).getLastD progress.afterEntryId := by
  unfold fetchPage at going
  simp only [bind, Except.bind] at going
  split at going
  · cases going
  · rename_i page taken
    obtain ⟨appended, last, rising⟩ := takeEntries_ok taken
    split at going
    · cases going
    · rename_i inexact
      split at going
      · cases going
      · rename_i fits
        split at going
        · cases going
        · rename_i full
          cases going
          simp only [Bool.or_eq_true, decide_eq_true_eq, not_or, not_lt] at full
          refine ⟨⟨appended, rising⟩, rfl, ?_, full.1, last⟩
          dsimp only
          omega

section RisingPage
variable {progress : FetchProgress} {result : EntryResultSetDto}
  (rising : (progress.afterEntryId :: result.entries.map (·.id)).Pairwise (· < ·))
  (unseen : ∀ id ∈ progress.seen, id ≤ progress.afterEntryId)
include rising unseen

/-- A page whose ids rise past the cursor is taken whole. -/
theorem page_of_rising : ∃ page, result.entries.foldlM takeEntry progress.page = .ok page ∧
    page.entries = progress.entries ++ result.entries ∧
    page.lastId = (result.entries.map (·.id)).getLastD progress.afterEntryId ∧
    ∀ id ∈ page.seen, id ≤ page.lastId := by
  obtain ⟨page, taken, seen⟩ : ∃ page, result.entries.foldlM takeEntry progress.page = .ok page ∧
      ∀ id ∈ page.seen, id ≤ page.lastId := takeEntries_of_rising rising unseen
  obtain ⟨appended, last, _⟩ := takeEntries_ok taken
  exact ⟨page, taken, appended, last, seen⟩

theorem fetchPage_of_exact
    (exact : ((progress.entries ++ result.entries).length : Int) = progress.expected result) :
    fetchPage progress result =
      .ok (.complete (progress.entries ++ result.entries) (progress.expected result)) := by
  obtain ⟨page, taken, entries, _, _⟩ := page_of_rising rising unseen
  unfold fetchPage
  rw [taken]
  simp only [bind, Except.bind, entries, exact, if_true]
  rfl

theorem fetchPage_of_inexact
    (inexact : ((progress.entries ++ result.entries).length : Int) ≠ progress.expected result)
    (excess : progress.expected result < ((progress.entries ++ result.entries).length : Int) ∨
      result.entries.length < browsePageSize) :
    ∃ failure, fetchPage progress result = .error failure := by
  obtain ⟨page, taken, entries, _, _⟩ := page_of_rising rising unseen
  unfold fetchPage
  rw [taken]
  simp only [bind, Except.bind, entries, if_neg inexact]
  split
  · exact ⟨_, rfl⟩
  · rename_i fits
    have short := excess.resolve_left fits
    simp only [short, decide_true, Bool.true_or, if_true]
    exact ⟨_, rfl⟩

theorem fetchPage_of_missing
    (missing : ((progress.entries ++ result.entries).length : Int) < progress.expected result)
    (full : browsePageSize ≤ result.entries.length) :
    ∃ next, fetchPage progress result = .ok (.more next) ∧
      ∀ id ∈ next.seen, id ≤ next.afterEntryId := by
  obtain ⟨page, taken, entries, cursor, seen⟩ := page_of_rising rising unseen
  have advanced : page.lastId ≠ progress.afterEntryId := by
    cases listed : result.entries with
    | nil => simp [listed, browsePageSize] at full
    | cons entry rest =>
      rw [cursor, listed, List.map_cons, List.getLastD_cons]
      rw [listed, List.map_cons] at rising
      have above := (List.pairwise_cons.mp rising).1 _ (List.getLastD_mem_cons (l := rest.map (·.id)) (a := entry.id))
      omega
  refine ⟨⟨page.entries, page.seen, progress.expected result, page.lastId⟩, ?_, seen⟩
  unfold fetchPage
  rw [taken]
  simp only [bind, Except.bind, entries, if_neg (ne_of_lt missing), if_neg (not_lt.mpr missing.le),
    decide_eq_false (not_lt.mpr full), decide_eq_false advanced, Bool.or_self, Bool.false_eq_true,
    if_false]
  rfl

end RisingPage

/-- How far the loop still is from its end: a total not yet known, then the number
of entries missing. -/
def FetchProgress.remaining (progress : FetchProgress) : Nat ×ₗ Nat :=
  toLex (if progress.expectedTotal < 0 then 1 else 0,
    (progress.expectedTotal - progress.entries.length).toNat)

theorem remaining_fetchPage {progress next : FetchProgress} {result : EntryResultSetDto}
    (going : fetchPage progress result = .ok (.more next)) :
    next.remaining < progress.remaining := by
  obtain ⟨⟨appended, _⟩, expected, missing, full, _⟩ := fetchPage_more going
  have longer : next.entries.length = progress.entries.length + result.entries.length := by
    rw [appended, List.length_append]
  have known : ¬ next.expectedTotal < 0 := by omega
  unfold FetchProgress.remaining
  rw [Prod.Lex.lt_iff]
  by_cases unknown : progress.expectedTotal < 0
  · exact Or.inl (by simp [unknown, known])
  · have same : next.expectedTotal = progress.expectedTotal := by
      rw [expected, FetchProgress.expected, if_neg unknown]
    refine Or.inr ⟨by simp [unknown, known], ?_⟩
    unfold browsePageSize at full
    simp only [ofLex_toLex]
    omega

/-- The page loop of `fetch_complete_selection`. Every page that calls for another one is
full, and full pages of rising ids run out at the total, which is why it ends. -/
def fetchFrom {σ : Type} (api : MinifluxApi σ) (base : EntriesFilter) (progress : FetchProgress) :
    Remote σ (List EntryDto × Int) := do
  let result ← api.entries { base with afterEntryId := progress.afterEntryId }
  match _turn : fetchPage progress result with
  | .error failure => throw failure
  | .ok (.complete entries total) => return (entries, total)
  | .ok (.more next) => fetchFrom api base next
termination_by progress.remaining
decreasing_by exact remaining_fetchPage _turn

/-- `fetch_complete_selection`: the entries of a query, whole or not at all. -/
def fetchCompleteSelection {σ : Type} (api : MinifluxApi σ) (base : EntriesFilter) :
    Remote σ (List EntryDto × Int) :=
  fetchFrom api base .start

/-- One turn of the page loop. -/
theorem fetchFrom_turn {σ : Type} (api : MinifluxApi σ) (base : EntriesFilter)
    (progress : FetchProgress) (state : σ) :
    fetchFrom api base progress state =
      match api.entries { base with afterEntryId := progress.afterEntryId } state with
      | (.error failure, state) => (.error failure, state)
      | (.ok result, state) =>
        match fetchPage progress result with
        | .error failure => (.error failure, state)
        | .ok (.complete entries total) => (.ok (entries, total), state)
        | .ok (.more next) => fetchFrom api base next state := by
  have turn : fetchFrom api base progress = (do
      let result ← api.entries { base with afterEntryId := progress.afterEntryId }
      match fetchPage progress result with
      | .error failure => throw failure
      | .ok (.complete entries total) => return (entries, total)
      | .ok (.more next) => fetchFrom api base next) := by
    rw [fetchFrom]
    congr 1
    funext result
    split <;> simp_all
  rw [turn]
  cases answer : api.entries { base with afterEntryId := progress.afterEntryId } state with
  | mk outcome after =>
    cases outcome with
    | error failure =>
      simp only [bind, ExceptT.bind, ExceptT.mk, StateT.bind, answer]
      rfl
    | ok result =>
      simp only [bind, ExceptT.bind, ExceptT.mk, StateT.bind, answer, ExceptT.bindCont]
      cases fetchPage progress result with
      | error failure => rfl
      | ok outcome => cases outcome <;> rfl

/-! ## `RemoteInbox` -/

/-- `RemoteInbox`, as far as refreshes and flushes use it: the server as the service sees
it. -/
structure RemoteInbox (σ : Type) where
  fetchCompleteSelection : EntriesFilter → Remote σ (List EntryDto × Int)
  categories : Remote σ (List CategoryDto)
  feeds : Remote σ (List FeedDto)
  unreadCounters : Remote σ FeedCountersDto
  starredTotal : Remote σ Int
  setReadBatch : List Int → Bool → Remote σ Unit
  entryStarred : Int → Remote σ Bool
  toggleStarred : Int → Remote σ Unit

/-- `MinifluxClient::starred_total`: the total of a query for one starred entry. -/
def MinifluxApi.starredTotal {σ : Type} (api : MinifluxApi σ) : Remote σ Int := do
  let result ← api.entries { starred := some "1", statuses := ["read", "unread"], limit := 1 }
  return result.total

/-- `impl RemoteInbox for MinifluxClient`. -/
def MinifluxApi.inbox {σ : Type} (api : MinifluxApi σ) : RemoteInbox σ where
  fetchCompleteSelection := FluxBar.fetchCompleteSelection api
  categories := api.categories
  feeds := api.feeds
  unreadCounters := api.counters
  starredTotal := api.starredTotal
  setReadBatch entryIds read := api.updateEntries entryIds (if read then "read" else "unread")
  entryStarred entryId := do
    let entry ← api.entry entryId
    return entry.starred
  toggleStarred := api.toggleStarred

end FluxBar
