import FluxBar.PaginationProofs
import FluxBar.Store

/-! A Miniflux account as the server keeps it, and the API it answers faithfully:
each query is answered with exactly the articles its filter admits. -/
namespace FluxBar
open CursorPaging Relational

/-- The feed and the category an entry is rendered with, as `entry_to_domain` reads them. -/
def EntryDto.place (entry : EntryDto) : Int × Int :=
  match entry.feed with
  | some feed => (if entry.feedId = 0 then feed.id else entry.feedId, feed.categoryId)
  | none => (entry.feedId, 0)

/-- An article, under the feed and category the server files it in. What it is rendered as
says so too, and its status is one the core knows. -/
structure Article where
  dto : EntryDto
  feedId : Int
  categoryId : Int
  placed : dto.place = (feedId, categoryId)
  known : dto.status = "read" ∨ dto.status = "unread"

namespace Article

/-- `id` of the article. -/
abbrev id (article : Article) : Int := article.dto.id

def setRead (article : Article) (read : Bool) : Article :=
  { article with
    dto := { article.dto with status := statusText read }
    placed := article.placed
    known := by cases read <;> simp [statusText] }

def toggleStarred (article : Article) : Article :=
  { article with
    dto := { article.dto with starred := !article.dto.starred }
    placed := article.placed
    known := article.known }

theorem id_setRead (article : Article) (read : Bool) : (article.setRead read).id = article.id := rfl

theorem id_toggleStarred (article : Article) : article.toggleStarred.id = article.id := rfl

end Article

/-- The unread count of a feed, as the server gives it. -/
structure FeedCounter where
  feedId : Int
  unread : Int

/-- An account on the server; the articles are kept in the order of their ids.
How the server counts what is unread is left open. -/
structure RemoteAccount where
  articles : Table Article.id
  rising : (articles.rows.map Article.id).Pairwise (· < ·)
  categories : List CategoryDto
  feeds : List FeedDto
  count : Table Article.id → Table FeedCounter.feedId

/-- Whether a filter asks for an article, its cursor and limit aside: by status, star,
category and feed, each where the filter names one. -/
def EntriesFilter.admits (filter : EntriesFilter) (article : Article) : Bool :=
  (match filter.status with
    | some status => article.dto.status = status
    | none => true) &&
  (filter.statuses.isEmpty || article.dto.status ∈ filter.statuses) &&
  (filter.starred ≠ some "1" || article.dto.starred) &&
  (filter.categoryId ≤ 0 || article.categoryId = filter.categoryId) &&
  (filter.feedId ≤ 0 || article.feedId = filter.feedId)

namespace RemoteAccount
variable (account : RemoteAccount)

/-- The unread counters as they stand, counted over the articles in the server's own way. -/
def counters : Table FeedCounter.feedId := account.count account.articles

/-- The articles of a filter. -/
def matching (filter : EntriesFilter) : List Article := account.articles.select filter.admits

/-- The page of a filter, and the number of all articles it asks for. A cursor that is not
positive is not sent. -/
def answer (filter : EntriesFilter) : EntryResultSetDto where
  total := (account.matching filter).length
  entries := (((account.matching filter).filter fun article =>
    filter.afterEntryId ≤ 0 || filter.afterEntryId < article.id).take filter.limit.toNat).map
      Article.dto

/-- Some articles rewritten in place, which keeps every id and the order of ids. -/
def rewrite (condition : Article → Bool) (change : Article → Article)
    (keeps : ∀ article, (change article).id = article.id) : RemoteAccount :=
  { account with
    articles := account.articles.update condition change keeps
    rising := by
      rw [Table.keys_update]
      exact account.rising }

/-- The articles of some ids, marked read or unread. -/
def setRead (entryIds : List Int) (read : Bool) : RemoteAccount :=
  account.rewrite (fun article => article.id ∈ entryIds) (fun article => article.setRead read)
    fun article => article.id_setRead read

/-- The star of one article, put up or taken down. -/
def toggleStarred (entryId : Int) : RemoteAccount :=
  account.rewrite (fun article => article.id = entryId) Article.toggleStarred Article.id_toggleStarred

/-- The counters by decimal id. -/
def feedCounters : FeedCountersDto where
  unreads := account.counters.rows.map fun counter => (toString counter.feedId, counter.unread)

end RemoteAccount

/-- The API of a server that does what it is asked. Counters beyond `i32` do not
decode. -/
def accountApi : MinifluxApi RemoteAccount where
  entries filter := fun account => (.ok (account.answer filter), account)
  entry entryId := fun account =>
    match account.articles.find? entryId with
    | some article => (.ok article.dto, account)
    | none => (.error .notFound, account)
  categories := fun account => (.ok account.categories, account)
  feeds := fun account => (.ok account.feeds, account)
  counters := fun account =>
    if ∀ counter ∈ account.counters.rows, InI32 counter.unread then
      (.ok account.feedCounters, account)
    else (.error (.json "expected i32"), account)
  updateEntries entryIds status := fun account =>
    if status = "read" then (.ok (), account.setRead entryIds true)
    else if status = "unread" then (.ok (), account.setRead entryIds false)
    else (.error (.badRequest none), account)
  toggleStarred entryId := fun account =>
    match account.articles.find? entryId with
    | some _ => (.ok (), account.toggleStarred entryId)
    | none => (.error .notFound, account)

/-! ## A fetch from the account -/

/-- Two APIs that answer the requests of a loop alike lead it to the same result. -/
theorem fetchFrom_congr {σ τ : Type} (api : MinifluxApi σ) (other : MinifluxApi τ)
    (base : EntriesFilter) (alike : σ → τ → Prop)
    (answers : ∀ cursor state otherState, alike state otherState → ∃ answer after otherAfter,
        api.entries { base with afterEntryId := cursor } state = (answer, after) ∧
        other.entries { base with afterEntryId := cursor } otherState = (answer, otherAfter) ∧
        alike after otherAfter)
    (progress : FetchProgress) (state : σ) (otherState : τ) (start : alike state otherState) :
    ∃ outcome after otherAfter,
      fetchFrom api base progress state = (outcome, after) ∧
      fetchFrom other base progress otherState = (outcome, otherAfter) ∧
      alike after otherAfter := by
  induction progress using (InvImage.wf FetchProgress.remaining wellFounded_lt).induction
    generalizing state otherState with
  | h progress ih =>
    obtain ⟨answer, after, otherAfter, asked, otherAsked, still⟩ :=
      answers progress.afterEntryId state otherState start
    rw [fetchFrom_turn api, fetchFrom_turn other, asked, otherAsked]
    cases answer with
    | error failure => exact ⟨_, _, _, rfl, rfl, still⟩
    | ok result =>
      cases turn : fetchPage progress result with
      | error failure =>
        simp only [turn]
        exact ⟨_, _, _, rfl, rfl, still⟩
      | ok outcome =>
        cases outcome with
        | complete entries total =>
          simp only [turn]
          exact ⟨_, _, _, rfl, rfl, still⟩
        | more next =>
          simp only [turn]
          exact ih next (remaining_fetchPage turn) after otherAfter still

namespace RemoteAccount
variable (account : RemoteAccount) (base : EntriesFilter)

theorem rising_matching : ((account.matching base).map Article.id).Pairwise (· < ·) :=
  account.rising.sublist (List.filter_sublist.map Article.id)

/-- The ids of a filter, as the set that a fetch is to return. -/
def ids : Finset ℤ := ((account.matching base).map Article.id).toFinset

/-- What the account renders of an id. -/
def render (id : ℤ) : EntryDto := ((account.articles.find? id).map Article.dto).getD blankEntry

theorem card_ids : (account.ids base).card = (account.matching base).length := by
  rw [ids, List.toFinset_card_of_nodup ((account.rising_matching base).imp ne_of_lt),
    List.length_map]

theorem sort_ids (cursor : ℤ) : ((account.ids base).filter (cursor < ·)).sort (· ≤ ·) =
    ((account.matching base).filter fun article => cursor < article.id).map Article.id := by
  have listed : (account.ids base).filter (cursor < ·) =
      (((account.matching base).filter fun article => cursor < article.id).map
        Article.id).toFinset := by
    ext id
    simp only [ids, Finset.mem_filter, List.mem_toFinset, List.mem_map, List.mem_filter,
      decide_eq_true_eq]
    constructor
    · rintro ⟨⟨article, held, rfl⟩, above⟩
      exact ⟨article, ⟨held, above⟩, rfl⟩
    · rintro ⟨article, ⟨held, above⟩, rfl⟩
      exact ⟨⟨article, held, rfl⟩, above⟩
  have rising := (account.rising_matching base).sublist
    ((List.filter_sublist (p := fun article => decide (cursor < article.id))).map Article.id)
  rw [listed]
  exact (List.toFinset_sort (· ≤ ·) (rising.imp ne_of_lt)).mpr
    (rising.imp fun below => Int.le_of_lt below)

theorem render_of_mem {article : Article} (held : article ∈ account.matching base) :
    { account.render article.id with id := article.id } = article.dto := by
  have found := Table.find?_of_mem (List.mem_of_mem_filter held)
  rw [render, found]
  rfl

theorem map_render {articles : List Article}
    (held : ∀ article ∈ articles, article ∈ account.matching base) :
    (articles.map Article.id).map (fun id => { account.render id with id }) =
      articles.map Article.dto := by
  rw [List.map_map]
  exact List.map_congr_left fun article listed => account.render_of_mem base (held article listed)

/-- The account answers a loop as a selection that holds still. -/
theorem answer_eq (limit : base.limit = browsePageSize)
    (positive : ∀ article ∈ account.matching base, 0 < article.id) (cursor : ℤ) :
    account.answer { base with afterEntryId := cursor } = {
      total := (account.ids base).card
      entries := (page browsePageSize (account.ids base) cursor).map fun id =>
        { account.render id with id } } := by
  have reach : (account.matching base).filter (fun article => cursor ≤ 0 || cursor < article.id) =
      (account.matching base).filter fun article => cursor < article.id := by
    apply List.filter_congr
    intro article held
    have above := positive article held
    by_cases first : cursor ≤ 0
    · simp [first, Int.lt_of_le_of_lt first above]
    · simp [first]
  have held : ∀ article ∈ ((account.matching base).filter fun article =>
      cursor < article.id).take browsePageSize, article ∈ account.matching base :=
    fun article listed => List.mem_of_mem_filter (List.mem_of_mem_take listed)
  have rendered := account.map_render base held
  rw [card_ids, page, sort_ids, ← List.map_take, rendered, ← reach]
  unfold answer
  rw [limit]
  rfl

/-- A fetch from the account returns exactly the articles of its filter, in the order of
their ids, and leaves the account as it is. -/
theorem fetch_matching (limit : base.limit = browsePageSize)
    (positive : ∀ article ∈ account.matching base, 0 < article.id) :
    fetchCompleteSelection accountApi base account =
      (.ok ((account.matching base).map Article.dto, ((account.matching base).length : Int)),
        account) := by
  have answers : ∀ cursor state request, state = account → ∃ answer after otherAfter,
      accountApi.entries { base with afterEntryId := cursor } state = (answer, after) ∧
      (selectionServer (fun _ => account.ids base) fun _ => account.render).entries
        { base with afterEntryId := cursor } request = (answer, otherAfter) ∧ after = account := by
    rintro cursor state request rfl
    refine ⟨_, _, request + 1, rfl, ?_, rfl⟩
    rw [state.answer_eq base limit positive cursor]
    rfl
  have positiveIds : ∀ id ∈ account.ids base, 0 < id := by
    intro id held
    obtain ⟨article, listed, rfl⟩ := List.mem_map.mp (List.mem_toFinset.mp held)
    exact positive article listed
  have sorted : (account.ids base).sort (· ≤ ·) = (account.matching base).map Article.id := by
    have listed := account.sort_ids base 0
    rw [Finset.filter_true_of_mem positiveIds, List.filter_eq_self.mpr fun article held =>
      decide_eq_true (positive article held)] at listed
    exact listed
  obtain ⟨outcome, after, otherAfter, fetched, other, same⟩ := fetchFrom_congr accountApi _ base
    (fun state _ => state = account) answers .start account 0 rfl
  have steady := fetch_steady (account.ids base) account.render base positiveIds
  rw [fetchCompleteSelection, other, sorted, account.map_render base fun _ held => held,
    card_ids] at steady
  rw [fetchCompleteSelection, fetched, same]
  exact Prod.ext steady rfl

/-- An id that is not positive spoils the first page: it does not rise past the cursor, and
the fetch fails. -/
theorem fetch_of_nonpositive (limit : base.limit = browsePageSize) {article : Article}
    (held : article ∈ account.matching base) (low : article.id ≤ 0) :
    ∃ failure, fetchCompleteSelection accountApi base account = (.error failure, account) := by
  obtain ⟨first, rest, listed⟩ := List.exists_cons_of_ne_nil (List.ne_nil_of_mem held)
  have lowest : first.id ≤ 0 := by
    have rising := account.rising_matching base
    rw [listed, List.map_cons, List.pairwise_cons] at rising
    rw [listed] at held
    rcases List.mem_cons.mp held with rfl | later
    · exact low
    · have above := rising.1 article.id (List.mem_map_of_mem later)
      omega
  have answered : (account.answer { base with afterEntryId := 0 }).entries =
      first.dto :: (rest.take 199).map Article.dto := by
    have entries : (account.answer { base with afterEntryId := 0 }).entries =
        ((account.matching base).take base.limit.toNat).map Article.dto :=
      congrArg (fun articles => (articles.take base.limit.toNat).map Article.dto)
        (List.filter_eq_self.mpr fun _ _ => rfl)
    rw [entries, limit, listed]
    rfl
  have spoilt : ∃ failure, fetchPage .start (account.answer { base with afterEntryId := 0 }) =
      .error failure := by
    unfold fetchPage
    rw [answered, List.foldlM_cons]
    have stuck : takeEntry FetchProgress.start.page first.dto =
        .error (.transport s!"unstabile Seitensortierung nach Artikel {(0 : Int)}") :=
      if_pos lowest
    rw [stuck]
    exact ⟨_, rfl⟩
  obtain ⟨failure, spoilt⟩ := spoilt
  refine ⟨failure, ?_⟩
  rw [fetchCompleteSelection, fetchFrom_turn]
  have asked : accountApi.entries { base with afterEntryId := FetchProgress.start.afterEntryId }
      account = (.ok (account.answer { base with afterEntryId := 0 }), account) := rfl
  simp only [asked, spoilt]

end RemoteAccount

end FluxBar
