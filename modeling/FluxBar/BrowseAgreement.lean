import FluxBar.CoreAgreement
import FluxBar.GoMiniflux
import FluxBar.Library.Tandem
import FluxBar.NavigationProofs
import FluxBar.ReconciliationProofs

/-! What the two cores browse of one server. Each asks it through a client library of its
own, and reads what it serves with article functions of its own. Where the libraries and
the functions agree on what the server answers, the cores send it the same requests, fail
over the same answers, and come to the same snapshot, but for the counts that this core
cuts to 32 bits. -/
namespace FluxBar
open Procedure

/-! ## One server -/

namespace GoMiniflux
variable {τ : Type}

/-- A category as the client library of the Go core decodes it. -/
def Category.ofDto (dto : CategoryDto) : Category := ⟨dto.id, dto.title⟩

def Feed.ofDto (dto : FeedDto) : Feed := ⟨dto.id, dto.title, dto.category.map Category.ofDto⟩

def Enclosure.ofDto (dto : EnclosureDto) : Enclosure := ⟨dto.url, dto.mimeType⟩

def Entry.ofDto (moments : Inbox.Moments τ) (dto : EntryDto) : Entry τ where
  id := dto.id
  feedID := dto.feedId
  title := dto.title
  url := dto.url
  commentsURL := dto.commentsUrl
  status := dto.status
  starred := dto.starred
  date := moments.parse dto.publishedAt
  content := dto.content
  enclosures := dto.enclosures.map fun enclosure => some (.ofDto enclosure)
  feed := dto.feed.map Feed.ofDto

def EntryResultSet.ofDto (moments : Inbox.Moments τ) (dto : EntryResultSetDto) : EntryResultSet τ where
  total := dto.total
  entries := dto.entries.map fun entry => some (.ofDto moments entry)

/-- A filter, as this core sends it; what the other one leaves empty this one does not have.
-/
def Filter.rust (filter : Filter) : EntriesFilter where
  status := if filter.status = "" then none else some filter.status
  statuses := filter.statuses
  order := if filter.order = "" then none else some filter.order
  direction := if filter.direction = "" then none else some filter.direction
  limit := filter.limit
  offset := 0
  afterEntryId := filter.afterEntryID
  starred := if filter.starred = "" then none else some filter.starred
  categoryId := filter.categoryID
  feedId := filter.feedID

end GoMiniflux

section Server
variable {σ τ : Type} (moments : Inbox.Moments τ) (capacity : Int) (api : MinifluxApi σ)

/-- A client library of the Go core beside the requests of this one, over one server. A
call of either leaves the server in the same state, since it is the same request. Both
refuse the answer, in words for one failure, or both read it, and the library's value is
what it makes of the answer: nothing is nil that the server gave, moments are parsed, and
the counters are a map by feed id. -/
structure GoMiniflux.Client.Beside (words : RemoteError → String → Prop)
    (client : GoMiniflux.Client σ τ) : Prop where
  entries : ∀ filter, Tandem Eq words (fun dto answer => answer = some (.ofDto moments dto))
    (api.entries filter.rust) (client.entries filter)
  entry : ∀ id, Tandem Eq words (fun dto answer => answer = some (.ofDto moments dto))
    (api.entry id) (client.entry id)
  updateEntries : ∀ ids status, Tandem Eq words (fun _ _ => True) (api.updateEntries ids status)
    (client.updateEntries ids status)
  categories : Tandem Eq words (fun dtos answer => answer = dtos.map fun dto => some (.ofDto dto))
    api.categories client.categories
  feeds : Tandem Eq words (fun dtos answer => answer = dtos.map fun dto => some (.ofDto dto))
    api.feeds client.feeds
  counters : Tandem Eq words (fun dto answer => answer = some dto.counter) api.counters
    client.fetchCounters
  toggleStarred : ∀ id, Tandem Eq words (fun _ _ => True) (api.toggleStarred id)
    (client.toggleStarred id)

/-- The answers both cores take alike: totals that are counts the Go core has room for,
moments written as it writes them, and categories with ids. -/
structure MinifluxApi.Plain : Prop where
  totals : ∀ filter state result after, api.entries filter state = (.ok result, after) →
    0 ≤ result.total ∧ result.total ≤ capacity
  moments : ∀ filter state result after, api.entries filter state = (.ok result, after) →
    ∀ entry ∈ result.entries, moments.format (moments.parse entry.publishedAt) = entry.publishedAt
  categories : ∀ state listed after, api.categories state = (.ok listed, after) →
    ∀ category ∈ listed, category.id ≠ 0

/-- An entry of which the article functions of both cores make the same preview, and find
the same image. -/
structure EntryDto.ReadAlike (host goHost : Host) (dto : EntryDto) : Prop where
  preview : (GoMiniflux.mapEntry goHost (.ofDto moments dto)).preview = (entryToDomain host dto).preview
  image : (GoMiniflux.mapEntry goHost (.ofDto moments dto)).imageURL = (entryToDomain host dto).imageUrl

/-- Two hosts that agree on all a server serves: on the preview and image of each entry, and
on the lower case of each title that categories and feeds are ordered by. -/
structure HostsAgree (host goHost : Host) : Prop where
  entries : ∀ filter state result after, api.entries filter state = (.ok result, after) →
    ∀ entry ∈ result.entries, entry.ReadAlike moments host goHost
  categories : ∀ state listed after, api.categories state = (.ok listed, after) →
    ∀ category ∈ listed, goHost.toLowercase category.title = host.toLowercase category.title
  feeds : ∀ state listed after, api.feeds state = (.ok listed, after) →
    ∀ feed ∈ listed, goHost.toLowercase feed.title = host.toLowercase feed.title

end Server

/-! ## Navigation -/

/-- Counts cut to 32 bits. -/
def Category.cut (category : Category) : Category :=
  { category with unreadCount := toI32 category.unreadCount }

section Navigation
variable (toLowercase : String → String) (categories : List CategoryDto) (feeds : List FeedDto)
  (counters : Int → Option Int)

theorem sortStable_eq {α : Type} (title : α → String) (items : List α) :
    GoMiniflux.sortStable toLowercase title items = sortByTitle toLowercase title items := by
  unfold GoMiniflux.sortStable sortByTitle
  congr 1
  funext left right
  rw [← decide_not]
  exact decide_eq_decide.mpr not_lt

theorem sortByTitle_cut (items : List Category) :
    (sortByTitle toLowercase Category.title items).map Category.cut =
      sortByTitle toLowercase Category.title (items.map Category.cut) :=
  List.map_mergeSort fun _ _ _ _ => rfl

/-- The categories listed, and where their ids are. -/
theorem foldl_addCategory :
    (categories.map fun dto => some (GoMiniflux.Category.ofDto dto)).foldl GoMiniflux.addCategory
        ⟨[], fun _ => none⟩ =
      ⟨categories.map fun dto => ⟨dto.id, dto.title, 0, []⟩,
        categoryIndex (categories.map fun dto => ⟨dto.id, dto.title⟩)⟩ := by
  induction categories using List.reverseRecOn with
  | nil => rfl
  | append_singleton earlier dto ih =>
    rw [List.map_append, List.foldl_append, ih, List.map_append, List.map_append]
    refine congrArg₂ GoMiniflux.Progress.mk rfl ?_
    funext id
    rw [List.map_singleton, categoryIndex_concat]
    dsimp only
    rw [Function.update_apply, List.length_map, List.length_map]
    exact if_congr eq_comm rfl rfl

theorem modify_map {α β : Type} {shape : α → β} {change : α → α} {change' : β → β}
    (same : ∀ item, change' (shape item) = shape (change item)) (items : List α) (index : Nat) :
    (items.map shape).modify index change' = (items.modify index change).map shape := by
  induction items generalizing index with
  | nil => simp
  | cons item rest ih =>
    cases index with
    | zero => simp [same]
    | succ index => simp [ih]

/-- One feed, filed in both cores: this core's sums are the other one's, cut to 32 bits at
every addition. -/
theorem addFeed_cut (known : List CategoryInput) (unnamed : categoryIndex known 0 = none)
    (progress : List Category × Int) (dto : FeedDto) :
    addFeed known counters (progress.1.map Category.cut, toI32 progress.2)
        ⟨dto.id, dto.title, dto.categoryId⟩ =
      let filed := GoMiniflux.addFeed (categoryIndex known) counters progress
        (some (.ofDto dto))
      (filed.1.map Category.cut, toI32 filed.2) := by
  obtain ⟨id, title, category⟩ := dto
  unfold addFeed GoMiniflux.addFeed GoMiniflux.Feed.ofDto
  cases category with
  | none =>
    dsimp only [FeedDto.categoryId, Option.map_none]
    rw [unnamed]
  | some category =>
    dsimp only [FeedDto.categoryId, Option.map_some, GoMiniflux.Category.ofDto]
    cases categoryIndex known category.id with
    | none => rfl
    | some index =>
      refine Prod.ext (modify_map (fun held => ?_) progress.1 index) (toI32_add_left ..)
      exact congrArg (fun count : Int => (⟨held.id, held.title, count,
        held.feeds ++ [⟨id, title, category.id, (counters id).getD 0⟩]⟩ : Category))
          (toI32_add_left ..)

theorem foldl_addFeed_cut (known : List CategoryInput) (unnamed : categoryIndex known 0 = none)
    (progress : List Category × Int) :
    (feeds.map fun dto => ⟨dto.id, dto.title, dto.categoryId⟩).foldl (addFeed known counters)
        (progress.1.map Category.cut, toI32 progress.2) =
      let filed := (feeds.map fun dto => some (GoMiniflux.Feed.ofDto dto)).foldl
        (GoMiniflux.addFeed (categoryIndex known) counters) progress
      (filed.1.map Category.cut, toI32 filed.2) := by
  induction feeds generalizing progress with
  | nil => rfl
  | cons dto rest ih =>
    rw [List.map_cons, List.foldl_cons, addFeed_cut counters known unnamed progress dto]
    exact ih _

/-- Both cores make the same navigation of the answers, but for the counts, which are cut
here. -/
theorem mapNavigation_cut (named : ∀ category ∈ categories, category.id ≠ 0) :
    let go := GoMiniflux.mapNavigation toLowercase
      (categories.map fun dto => some (.ofDto dto)) (feeds.map fun dto => some (.ofDto dto)) counters
    buildNavigation toLowercase (dtoMappingInputs categories feeds).1
      (dtoMappingInputs categories feeds).2 counters = (go.1.map Category.cut, toI32 go.2) := by
  have unnamed : categoryIndex (categories.map fun dto => ⟨dto.id, dto.title⟩) 0 = none := by
    have spec := categoryIndex_spec (categories.map fun dto => ⟨dto.id, dto.title⟩) 0
    cases found : categoryIndex (categories.map fun dto => ⟨dto.id, dto.title⟩) 0 with
    | none => rfl
    | some index =>
      rw [found] at spec
      obtain ⟨held, listed, zero⟩ := Option.map_eq_some_iff.mp spec
      obtain ⟨dto, there, rfl⟩ := List.mem_map.mp (List.mem_of_getElem? listed)
      exact absurd zero (named dto there)
  have filed := foldl_addFeed_cut feeds counters _ unnamed
    (categories.map fun dto => ⟨dto.id, dto.title, 0, []⟩, 0)
  have begun : (categories.map fun dto => (⟨dto.id, dto.title, 0, []⟩ : Category)).map Category.cut =
      (categories.map fun dto => (⟨dto.id, dto.title⟩ : CategoryInput)).map fun category =>
        ⟨category.id, category.title, 0, []⟩ := by
    rw [List.map_map, List.map_map]
    rfl
  rw [begun] at filed
  unfold GoMiniflux.mapNavigation buildNavigation dtoMappingInputs
  dsimp only
  rw [foldl_addCategory]
  generalize (feeds.map fun dto => some (GoMiniflux.Feed.ofDto dto)).foldl _ _ = go at filed ⊢
  dsimp only at filed
  rw [show toI32 0 = 0 from rfl] at filed
  rw [filed]
  dsimp only
  rw [← sortByTitle_cut, sortStable_eq, List.map_map, List.map_map]
  refine Prod.ext (List.map_congr_left fun category _ => ?_) rfl
  simp only [Function.comp_apply, sortStable_eq]
  rfl

/-! ### Titles -/

/-- Categories and feeds that all have titles of the answers, which is where the lower cases
have to agree. -/
def Titled (navigation : List Category) : Prop :=
  ∀ category ∈ navigation, (∃ dto ∈ categories, dto.title = category.title) ∧
    ∀ feed ∈ category.feeds, ∃ dto ∈ feeds, dto.title = feed.title

theorem mem_modify {α : Type} {change : α → α} {items : List α} {index : Nat} {item : α}
    (listed : item ∈ items.modify index change) :
    item ∈ items ∨ ∃ held ∈ items, item = change held := by
  induction items generalizing index with
  | nil => simp at listed
  | cons first rest ih =>
    cases index with
    | zero =>
      rw [List.modify_zero_cons, List.mem_cons] at listed
      obtain rfl | later := listed
      · exact .inr ⟨first, List.mem_cons_self, rfl⟩
      · exact .inl (List.mem_cons_of_mem first later)
    | succ index =>
      rw [List.modify_succ_cons, List.mem_cons] at listed
      obtain rfl | later := listed
      · exact .inl List.mem_cons_self
      · obtain held | ⟨held, there, rfl⟩ := ih later
        · exact .inl (List.mem_cons_of_mem first held)
        · exact .inr ⟨held, List.mem_cons_of_mem first there, rfl⟩

variable {categories feeds counters}

/-- A feed that is filed brings its own title. -/
theorem titled_addFeed {indexes : Int → Option Nat} {progress : List Category × Int}
    (held : Titled categories feeds progress.1) {dto : FeedDto} (listed : dto ∈ feeds) :
    Titled categories feeds
      (GoMiniflux.addFeed indexes counters progress (some (.ofDto dto))).1 := by
  obtain ⟨id, title, category⟩ := dto
  unfold GoMiniflux.addFeed GoMiniflux.Feed.ofDto
  cases category with
  | none => exact held
  | some category =>
    dsimp only [Option.map_some, GoMiniflux.Category.ofDto]
    cases indexes category.id with
    | none => exact held
    | some index =>
      intro filed there
      obtain same | ⟨before, present, rfl⟩ := mem_modify there
      · exact held filed same
      · obtain ⟨named, fed⟩ := held before present
        refine ⟨named, fun feed among => ?_⟩
        obtain earlier | new := List.mem_append.mp among
        · exact fed feed earlier
        · exact ⟨_, listed, (congrArg Feed.title (List.mem_singleton.mp new)).symm⟩

theorem titled_addFeeds {added : List FeedDto} {indexes : Int → Option Nat}
    {progress : List Category × Int} (held : Titled categories feeds progress.1)
    (listed : ∀ dto ∈ added, dto ∈ feeds) :
    Titled categories feeds ((added.map fun dto => some (GoMiniflux.Feed.ofDto dto)).foldl
      (GoMiniflux.addFeed indexes counters) progress).1 := by
  induction added generalizing progress with
  | nil => exact held
  | cons dto rest ih =>
    rw [List.map_cons, List.foldl_cons]
    exact ih (titled_addFeed held (listed dto List.mem_cons_self))
      fun other later => listed other (List.mem_cons_of_mem dto later)

/-- Items are sorted alike by two lower cases that agree on their titles. -/
theorem sortStable_congr {α : Type} {lower lower' : String → String} {title : α → String}
    {items : List α} (agree : ∀ item ∈ items, lower' (title item) = lower (title item)) :
    GoMiniflux.sortStable lower' title items = GoMiniflux.sortStable lower title items := by
  have sorted := @List.map_mergeSort α α
    (fun left right => !decide (lower' (title right) < lower' (title left)))
    (fun left right => !decide (lower (title right) < lower (title left))) id items
    fun left here right there => by rw [agree left here, agree right there]; rfl
  rw [List.map_id, List.map_id] at sorted
  exact sorted

theorem mapNavigation_congr {lower lower' : String → String}
    (categoriesAgree : ∀ dto ∈ categories, lower' dto.title = lower dto.title)
    (feedsAgree : ∀ dto ∈ feeds, lower' dto.title = lower dto.title) :
    GoMiniflux.mapNavigation lower' (categories.map fun dto => some (.ofDto dto))
        (feeds.map fun dto => some (.ofDto dto)) counters =
      GoMiniflux.mapNavigation lower (categories.map fun dto => some (.ofDto dto))
        (feeds.map fun dto => some (.ofDto dto)) counters := by
  have begun : Titled categories feeds
      (categories.map fun dto => (⟨dto.id, dto.title, 0, []⟩ : Category)) := by
    intro category listed
    obtain ⟨dto, there, rfl⟩ := List.mem_map.mp listed
    exact ⟨⟨dto, there, rfl⟩, fun feed none => absurd none List.not_mem_nil⟩
  unfold GoMiniflux.mapNavigation
  dsimp only
  rw [foldl_addCategory]
  have titled := @titled_addFeeds categories feeds counters feeds
    (categoryIndex (categories.map fun dto => ⟨dto.id, dto.title⟩))
    (categories.map fun dto => ⟨dto.id, dto.title, 0, []⟩, 0) begun fun _ => id
  generalize (feeds.map fun dto => some (GoMiniflux.Feed.ofDto dto)).foldl _ _ = filed at titled ⊢
  have categoryTitles : ∀ category ∈ filed.1, lower' category.title = lower category.title := by
    intro category listed
    obtain ⟨dto, there, same⟩ := (titled category listed).1
    exact same ▸ categoriesAgree dto there
  rw [sortStable_congr categoryTitles]
  refine Prod.ext (List.map_congr_left fun category sorted => ?_) rfl
  have listed : category ∈ filed.1 := List.mem_mergeSort.mp sorted
  have feedTitles : ∀ feed ∈ category.feeds, lower' feed.title = lower feed.title := by
    intro feed among
    obtain ⟨dto, there, same⟩ := (titled category listed).2 feed among
    exact same ▸ feedsAgree dto there
  rw [sortStable_congr feedTitles]

end Navigation

/-! ## Entries -/

section Entries
variable {σ τ : Type} {moments : Inbox.Moments τ} {capacity : Int}
  {words : RemoteError → String → Prop} {fine : EntryDto → Prop}

/-- An entry whose moment is written as the Go core writes it. -/
def EntryDto.Written (moments : Inbox.Moments τ) (dto : EntryDto) : Prop :=
  moments.format (moments.parse dto.publishedAt) = dto.publishedAt

theorem enclosures_listed {enclosures : List EnclosureDto} :
    ((enclosures.map fun enclosure => some (GoMiniflux.Enclosure.ofDto enclosure)).filterMap
      fun enclosure => enclosure.map fun enclosure => (enclosure.url, enclosure.mimeType)) =
        enclosures.map fun enclosure => (enclosure.url, enclosure.mimeType) := by
  rw [List.filterMap_map]
  exact congrFun (@List.filterMap_eq_map _ _ fun enclosure : EnclosureDto =>
    (enclosure.url, enclosure.mimeType)) enclosures

theorem mapEntry_rust {host goHost : Host} {dto : EntryDto} (written : dto.Written moments)
    (alike : dto.ReadAlike moments host goHost) :
    (GoMiniflux.mapEntry goHost (.ofDto moments dto)).rust moments = entryToDomain host dto := by
  obtain ⟨preview, image⟩ := alike
  have own : (GoMiniflux.mapEntry goHost (.ofDto moments dto)).rust moments =
      { entryToDomain host dto with
        publishedAtRfc3339 := moments.format (moments.parse dto.publishedAt)
        preview := (GoMiniflux.mapEntry goHost (.ofDto moments dto)).preview
        imageUrl := (GoMiniflux.mapEntry goHost (.ofDto moments dto)).imageURL } := by
    obtain ⟨id, feedId, title, url, commentsUrl, status, starred, publishedAt, content, enclosures,
      feed⟩ := dto
    cases feed with
    | none => rfl
    | some feed =>
      obtain ⟨feedId, title, category⟩ := feed
      cases category <;> rfl
  rw [own, preview, image, show moments.format (moments.parse dto.publishedAt) = dto.publishedAt
    from written]
  rfl

section Mapped
variable {host goHost : Host} {entries : List EntryDto}

theorem mapEntries_rust
    (fine : ∀ dto ∈ entries, dto.Written moments ∧ dto.ReadAlike moments host goHost) :
    (GoMiniflux.mapEntries goHost (entries.map (.ofDto moments))).map (Inbox.Entry.rust moments) =
      entries.map (entryToDomain host) := by
  unfold GoMiniflux.mapEntries
  rw [List.map_map, List.map_map]
  apply List.map_congr_left
  intro dto listed
  exact mapEntry_rust (fine dto listed).1 (fine dto listed).2

/-- What the Go core makes of moments the server writes as it does, it reads back unchanged. -/
theorem written_mapEntries (written : ∀ dto ∈ entries, dto.Written moments) :
    ∀ entry ∈ GoMiniflux.mapEntries goHost (entries.map (.ofDto moments)),
      moments.format (moments.parse (moments.format entry.publishedAt)) =
        moments.format entry.publishedAt := by
  intro entry listed
  obtain ⟨source, fetched, rfl⟩ := List.mem_map.mp listed
  obtain ⟨dto, there, rfl⟩ := List.mem_map.mp fetched
  have same : moments.format (moments.parse dto.publishedAt) = dto.publishedAt := written dto there
  exact congrArg (fun text => moments.format (moments.parse text)) same

end Mapped

/-! ## The fetch -/

/-- The page loops of the two cores, whose entries so far all have some property. -/
structure FetchInStep (moments : Inbox.Moments τ) (capacity : Int) (fine : EntryDto → Prop)
    (rust : FetchProgress) (go : GoMiniflux.Fetch τ) : Prop where
  entries : go.entries = rust.entries.map (.ofDto moments)
  seen : go.seen = rust.seen
  expected : go.expectedTotal = rust.expectedTotal
  cursor : go.afterEntryID = rust.afterEntryId
  fresh : rust.expectedTotal < 0 → rust.entries = []
  room : 0 ≤ rust.expectedTotal → rust.expectedTotal ≤ capacity
  fine : ∀ entry ∈ rust.entries, fine entry

/-- Failures alike: a core's own is of one text in both, and one of the server's is in
words for one failure. -/
inductive SameFailure (words : RemoteError → String → Prop) : RemoteError → GoMiniflux.Failure → Prop where
  | own (failure : RemoteError) : SameFailure words failure (.error failure.display)
  | server {failure : RemoteError} {text : String} :
    words failure text → SameFailure words failure (.error text)

/-- Entries fetched alike: as many as their total says, which the Go core has room for. -/
structure SameFetch (moments : Inbox.Moments τ) (capacity : Int) (fine : EntryDto → Prop)
    (rust : List EntryDto × Int) (go : List (GoMiniflux.Entry τ) × Int) : Prop where
  fetched : go = (rust.1.map (.ofDto moments), rust.2)
  fine : ∀ entry ∈ rust.1, fine entry
  length : (rust.1.length : Int) = rust.2
  room : rust.2 ≤ capacity

/-- What a page comes to. -/
inductive SamePage (moments : Inbox.Moments τ) (capacity : Int) (fine : EntryDto → Prop) :
    FetchOutcome → GoMiniflux.Page τ → Prop where
  | complete {entries : List EntryDto} {entries' : List (GoMiniflux.Entry τ)} {total total' : Int} :
    SameFetch moments capacity fine (entries, total) (entries', total') →
      SamePage moments capacity fine (.complete entries total) (.complete entries' total')
  | more {next : FetchProgress} {next' : GoMiniflux.Fetch τ} :
    FetchInStep moments capacity fine next next' → SamePage moments capacity fine (.more next) (.more next')

/-- The entry loops take the same entries, or stop at the same one, with the same words. -/
theorem takeEntries_alike (listed : List EntryDto) (page : PageProgress) :
    Alike (SameFailure words) (fun (rust : PageProgress) go =>
        go = (rust.entries.map (.ofDto moments), rust.seen, rust.lastId))
      (listed.foldlM takeEntry page)
      ((listed.map fun dto => some (.ofDto moments dto)).foldlM GoMiniflux.takeEntry
        (page.entries.map (GoMiniflux.Entry.ofDto moments), page.seen, page.lastId)) := by
  induction listed generalizing page with
  | nil => exact .ok rfl
  | cons dto rest ih =>
    rw [List.map_cons, List.foldlM_cons, List.foldlM_cons]
    unfold takeEntry GoMiniflux.takeEntry
    dsimp only
    by_cases behind : dto.id ≤ page.lastId
    · rw [if_pos behind, if_pos (show (GoMiniflux.Entry.ofDto moments dto).id ≤ page.lastId from behind)]
      exact .error (.own _)
    rw [if_neg behind,
      if_neg (show ¬ (GoMiniflux.Entry.ofDto moments dto).id ≤ page.lastId from behind)]
    by_cases twice : dto.id ∈ page.seen
    · rw [if_pos twice, if_pos (show (GoMiniflux.Entry.ofDto moments dto).id ∈ page.seen from twice)]
      exact .error (.own _)
    rw [if_neg twice,
      if_neg (show ¬ (GoMiniflux.Entry.ofDto moments dto).id ∈ page.seen from twice)]
    have taken := ih ⟨insert dto.id page.seen, page.entries ++ [dto], dto.id⟩
    rw [List.map_append] at taken
    exact taken

/-- Both loops start in step, with nothing read. -/
theorem FetchInStep.start : FetchInStep moments capacity fine .start .start :=
  ⟨rfl, rfl, rfl, rfl, fun _ => rfl, fun known => absurd known (by decide), fun _ listed =>
    absurd listed List.not_mem_nil⟩

section Page
variable {rust : FetchProgress} {go : GoMiniflux.Fetch τ}
  (held : FetchInStep moments capacity fine rust go) {result : EntryResultSetDto}
  (counted : 0 ≤ result.total) (room : result.total ≤ capacity)
include held counted room

/-- The Go core has room for a total that it is served first, and goes by the total that this
core goes by. -/
theorem FetchInStep.opened : go.opened capacity result.total = .ok
    { go with expectedTotal := rust.expected result } := by
  unfold GoMiniflux.Fetch.opened FetchProgress.expected
  rw [held.expected]
  by_cases first : rust.expectedTotal < 0
  · have none : go.entries = [] := by rw [held.entries, held.fresh first, List.map_nil]
    have fits : ¬ ((decide (result.total < 0) || decide (capacity < result.total)) = true) := by
      simp only [Bool.or_eq_true, decide_eq_true_eq, not_or, not_lt]
      exact ⟨counted, room⟩
    rw [if_pos first, if_pos first, if_neg fits, ← none]
  · rw [if_neg first, if_neg first, ← held.expected]

theorem FetchInStep.expected_within :
    0 ≤ rust.expected result ∧ rust.expected result ≤ capacity := by
  unfold FetchProgress.expected
  by_cases first : rust.expectedTotal < 0
  · rw [if_pos first]
    exact ⟨counted, room⟩
  · rw [if_neg first]
    exact ⟨not_lt.mp first, held.room (not_lt.mp first)⟩

/-- One page: both loops end with the same entries, or fail with the same words, or go on in
step. -/
theorem FetchInStep.page (fair : ∀ entry ∈ result.entries, fine entry) :
    Alike (SameFailure words) (SamePage moments capacity fine) (fetchPage rust result)
      (go.page capacity (.ofDto moments result)) := by
  obtain ⟨known, bounded⟩ := held.expected_within counted room
  have taken := @takeEntries_alike τ moments words result.entries rust.page
  have start : (rust.page.entries.map (GoMiniflux.Entry.ofDto moments), rust.page.seen,
      rust.page.lastId) = (go.entries, go.seen, go.afterEntryID) := by
    rw [held.entries, held.seen, held.cursor]
    rfl
  rw [start] at taken
  have appended : ∀ page, result.entries.foldlM takeEntry rust.page = .ok page →
      ∀ entry ∈ page.entries, fine entry := fun page ran entry listed => by
    rw [(takeEntries_ok ran).1] at listed
    exact (List.mem_append.mp listed).elim (held.fine entry) (fair entry)
  unfold fetchPage GoMiniflux.Fetch.page
  rw [show (GoMiniflux.EntryResultSet.ofDto moments result).total = result.total from rfl,
    held.opened counted room,
    show (GoMiniflux.EntryResultSet.ofDto moments result).entries =
      result.entries.map fun dto => some (.ofDto moments dto) from rfl]
  dsimp only [bind, Except.bind]
  generalize result.entries.foldlM takeEntry rust.page = outcome at taken appended ⊢
  generalize (result.entries.map fun dto => some (GoMiniflux.Entry.ofDto moments dto)).foldlM
    GoMiniflux.takeEntry (go.entries, go.seen, go.afterEntryID) = outcome' at taken ⊢
  cases taken with
  | error same => exact .error same
  | @ok page after same =>
    subst same
    dsimp only
    rw [List.length_map, List.length_map, held.cursor]
    split
    · rename_i all
      exact .ok (.complete ⟨rfl, appended page rfl, all, bounded⟩)
    · split
      · exact .error (.own _)
      · split
        · exact .error (.own _)
        · exact .ok (.more ⟨rfl, rfl, rfl, rfl, fun unknown => absurd unknown (not_lt.mpr known),
            fun _ => bounded, appended page rfl⟩)

end Page

/-! ## Requests -/

section Requests
variable {api : MinifluxApi σ} {α β γ : Type}

/-- A request, made by both cores, with what is known of its answers. -/
theorem tandem_asked {call : Remote σ α} {call' : ExceptT String (StateM σ) β} {values : α → β → Prop}
    (same : Tandem Eq words values call call') (holds : α → Prop)
    (answers : ∀ state value after, call state = (.ok value, after) → holds value) :
    Tandem Eq (SameFailure words) (fun value value' => values value value' ∧ holds value) call
      (GoMiniflux.ask call') := by
  rintro state _ rfl
  obtain ⟨outcomes, left⟩ := same state state rfl
  have answers := answers state
  unfold GoMiniflux.ask
  rw [adapt_apply]
  generalize call state = ran at outcomes left answers ⊢
  generalize call' state = ran' at outcomes left ⊢
  obtain ⟨outcome, after⟩ := ran
  obtain ⟨outcome', after'⟩ := ran'
  refine ⟨?_, left⟩
  dsimp only at outcomes ⊢
  cases outcomes with
  | error worded => exact .error (.server worded)
  | ok both => exact .ok ⟨both, answers _ _ rfl⟩

/-- A request whose answer is checked against nil, which this core's decoding never gives.
-/
theorem tandem_present {call : Remote σ α} {call' : ExceptT String (StateM σ) (Option β)}
    {decode : α → β} (same : Tandem Eq words (fun value answer => answer = some (decode value)) call call')
    (holds : α → Prop)
    (answers : ∀ state value after, call state = (.ok value, after) → holds value) :
    Tandem Eq (SameFailure words) (fun value value' => value' = decode value ∧ holds value) call
      (GoMiniflux.askPresent call') := by
  have bound : Tandem Eq (SameFailure words) (fun value value' => value' = decode value ∧ holds value)
      (call >>= pure) (GoMiniflux.askPresent call') := by
    refine (tandem_asked same holds answers).bind ?_
    rintro value _ ⟨rfl, fine⟩
    exact .pure ⟨rfl, fine⟩
  rwa [bind_pure] at bound

/-- What a page leaves this core to do. -/
def proceed (api : MinifluxApi σ) (base : EntriesFilter) :
    Except RemoteError FetchOutcome → Remote σ (List EntryDto × Int)
  | .error failure => throw failure
  | .ok (.complete entries total) => return (entries, total)
  | .ok (.more next) => fetchFrom api base next

/-- What a page leaves the other core to do. -/
def GoMiniflux.proceed (capacity : Int) (client : GoMiniflux.Client σ τ) (base : GoMiniflux.Filter) :
    Except GoMiniflux.Failure (GoMiniflux.Page τ) →
      ExceptT GoMiniflux.Failure (StateM σ) (List (GoMiniflux.Entry τ) × Int)
  | .error failure => throw failure
  | .ok (.complete entries total) => return (entries, total)
  | .ok (.more next) => GoMiniflux.fetchFrom capacity client base next

theorem fetchFrom_eq (base : EntriesFilter) (progress : FetchProgress) :
    fetchFrom api base progress = api.entries { base with afterEntryId := progress.afterEntryId } >>=
      fun result => proceed api base (fetchPage progress result) := by
  rw [fetchFrom]
  congr 1
  funext result
  split <;> rename_i turned <;> rw [turned] <;> rfl

theorem GoMiniflux.fetchFrom_eq (client : GoMiniflux.Client σ τ) (base : GoMiniflux.Filter)
    (fetch : GoMiniflux.Fetch τ) :
    GoMiniflux.fetchFrom capacity client base fetch =
      GoMiniflux.askPresent (client.entries { base with afterEntryID := fetch.afterEntryID }) >>=
        fun result => GoMiniflux.proceed capacity client base (fetch.page capacity result) := by
  rw [GoMiniflux.fetchFrom]
  congr 1
  funext result
  split <;> rename_i turned <;> rw [turned] <;> rfl

/-- The page loops ask for the same pages, and end alike. By induction on how far the loop
of this core still is from its end. -/
theorem tandem_fetchFrom {client : GoMiniflux.Client σ τ} (plain : api.Plain moments capacity)
    (serves : client.Beside moments api words)
    (served : ∀ filter state result after, api.entries filter state = (.ok result, after) →
      ∀ entry ∈ result.entries, fine entry) (base : GoMiniflux.Filter)
    {rust : FetchProgress} {go : GoMiniflux.Fetch τ} (held : FetchInStep moments capacity fine rust go) :
    Tandem Eq (SameFailure words)
      (fun fetched fetched' => SameFetch moments capacity fine fetched fetched')
      (fetchFrom api base.rust rust) (GoMiniflux.fetchFrom capacity client base go) := by
  rw [fetchFrom_eq, GoMiniflux.fetchFrom_eq, ← held.cursor]
  have asked := tandem_present (serves.entries { base with afterEntryID := go.afterEntryID })
    (fun result => (0 ≤ result.total ∧ result.total ≤ capacity) ∧
      ∀ entry ∈ result.entries, fine entry)
    fun state result after ran => ⟨plain.totals _ state result after ran,
      served _ state result after ran⟩
  refine Tandem.bind asked ?_
  rintro result _ ⟨rfl, ⟨counted, room⟩, fair⟩
  have turn := @FetchInStep.page τ moments capacity words fine _ _ held result counted room fair
  generalize turned : fetchPage rust result = outcome at turn ⊢
  generalize go.page capacity (.ofDto moments result) = outcome' at turn ⊢
  cases turn with
  | error same => exact .throw same
  | ok same =>
    cases same with
    | complete fetched => exact .pure fetched
    | more next =>
      have shorter := remaining_fetchPage turned
      exact tandem_fetchFrom plain serves served base next
termination_by rust.remaining
decreasing_by exact shorter

end Requests

/-! ## `browse` -/

/-- Failures alike, once described: of one text, or of one label and words for one failure. -/
inductive SameText (words : RemoteError → String → Prop) : String → GoMiniflux.Failure → Prop where
  | own (text : String) : SameText words text (.error text)
  | server {failure : RemoteError} {text : String} (label : String) : words failure text →
    SameText words s!"{label}: {failure.display}" (.error s!"{label}: {text}")

/-- A snapshot whose counts are cut to 32 bits. -/
def SnapshotData.cut (snapshot : SnapshotData) : SnapshotData :=
  { snapshot with
    categories := snapshot.categories.map Category.cut
    total := toI32 snapshot.total
    unreadTotal := toI32 snapshot.unreadTotal
    starredTotal := toI32 snapshot.starredTotal }

/-- A browsed snapshot whose figures the Go core has room for, and whose moments it reads
back as it writes them. -/
structure Inbox.Listing.Within (moments : Inbox.Moments τ) (capacity : Int)
    (listing : Inbox.Listing τ) : Prop where
  length : (listing.entries.length : Int) ≤ capacity
  total : 0 ≤ listing.total ∧ listing.total ≤ capacity
  starredTotal : 0 ≤ listing.starredTotal ∧ listing.starredTotal ≤ capacity
  written : ∀ entry ∈ listing.entries, moments.format (moments.parse
    (moments.format entry.publishedAt)) = moments.format entry.publishedAt

/-- Snapshots browsed alike: this core's is the other one's with its counts cut, and the
other one's numbers are within bounds. -/
def SameBrowse (moments : Inbox.Moments τ) (capacity : Int) (snapshot : SnapshotData)
    (listing : Inbox.Listing τ) : Prop :=
  snapshot = (listing.rust moments).cut ∧ listing.Within moments capacity

theorem tandem_described {α β : Type} {values : α → β → Prop} {left : Remote σ α}
    {right : ExceptT GoMiniflux.Failure (StateM σ) β} (label : String)
    (same : Tandem Eq (SameFailure words) values left right) :
    Tandem Eq (SameText words) values (describe label left)
      (right.adapt (GoMiniflux.Failure.wrap label)) := by
  refine same.adapt fun failure failure' alike => ?_
  cases alike with
  | own => exact .own _
  | server worded => exact .server label worded

section Wire
variable (kind : String) (id : Int) (unreadOnly : Bool)

theorem browseFilter_rust :
    (GoMiniflux.browseFilter (Inbox.Selection.mk kind id unreadOnly).normalized).rust =
      browseFilter (.normalize kind id unreadOnly) := by
  rcases normalize_normalized kind id unreadOnly with
    ⟨_, rust, go⟩ | ⟨_, rust, go⟩ | ⟨_, rust, go⟩ | ⟨_, rust, go⟩ | ⟨_, rust, go⟩ |
      ⟨_, _, _, rust, go⟩ <;>
    rw [rust, go] <;> cases unreadOnly <;> rfl

theorem starred_normalized : ((Inbox.Selection.mk kind id unreadOnly).normalized.kind = "starred") =
    ((Selection.normalize kind id unreadOnly).isStarred = true) := by
  rw [isStarred_iff, kind_normalized, beq_iff_eq]

theorem normalize_again :
    Selection.normalize (Inbox.Selection.mk kind id unreadOnly).normalized.kind
        (Inbox.Selection.mk kind id unreadOnly).normalized.id
        (Inbox.Selection.mk kind id unreadOnly).normalized.unreadOnly =
      Selection.normalize kind id unreadOnly := by
  rcases normalize_normalized kind id unreadOnly with
    ⟨rfl, _, go⟩ | ⟨_, rust, go⟩ | ⟨_, rust, go⟩ | ⟨rfl, _, go⟩ | ⟨rfl, _, go⟩ |
      ⟨_, _, _, rust, go⟩
  case inl | inr.inr.inr.inl | inr.inr.inr.inr.inl => rw [go]
  all_goals
    rw [go, rust]
    rfl

section Snapshots
variable {api : MinifluxApi σ} {client : GoMiniflux.Client σ τ} {host goHost : Host}
  (serves : client.Beside moments api words) (plain : api.Plain moments capacity)
  (agree : HostsAgree moments api host goHost)
include serves plain agree

/-- What follows once the marked entries are counted. -/
theorem tandem_counted (counters : FeedCountersDto) {counted : Int} (positive : 0 ≤ counted)
    (room : (Selection.normalize kind id unreadOnly).isStarred = true ∨ counted ≤ capacity) :
    Tandem Eq (SameText words) (SameBrowse moments capacity)
      (do
        let fetched ← describe "Miniflux-Einträge laden"
          (api.inbox.fetchCompleteSelection (browseFilter (.normalize kind id unreadOnly)))
        let categories ← describe "Miniflux-Kategorien laden" api.inbox.categories
        let feeds ← describe "Miniflux-Feeds laden" api.inbox.feeds
        let navigation := buildNavigation host.toLowercase (dtoMappingInputs categories feeds).1
          (dtoMappingInputs categories feeds).2 counters.counter
        return {
          version := 1
          selection := .normalize kind id unreadOnly
          entries := fetched.1.map (entryToDomain host)
          categories := navigation.1
          total := toI32 fetched.2
          unreadTotal := navigation.2
          starredTotal := if (Selection.normalize kind id unreadOnly).isStarred then toI32 fetched.2
            else toI32 counted })
      (do
        let fetched ← (GoMiniflux.fetchCompleteSelection capacity client
          (GoMiniflux.browseFilter (Inbox.Selection.mk kind id unreadOnly).normalized)).adapt
            (GoMiniflux.Failure.wrap "Miniflux-Einträge laden")
        let categories ← (GoMiniflux.ask client.categories).adapt
          (GoMiniflux.Failure.wrap "Miniflux-Kategorien laden")
        let feeds ← (GoMiniflux.ask client.feeds).adapt
          (GoMiniflux.Failure.wrap "Miniflux-Feeds laden")
        let navigation := GoMiniflux.mapNavigation goHost.toLowercase categories feeds counters.counter
        return {
          version := 1
          selection := (Inbox.Selection.mk kind id unreadOnly).normalized
          entries := GoMiniflux.mapEntries goHost fetched.1
          categories := navigation.1
          total := fetched.2
          unreadTotal := navigation.2
          starredTotal := if (Inbox.Selection.mk kind id unreadOnly).normalized.kind = "starred"
            then fetched.2 else counted }) := by
  have served : ∀ filter state result after, api.entries filter state = (.ok result, after) →
      ∀ entry ∈ result.entries, entry.Written moments ∧ entry.ReadAlike moments host goHost :=
    fun filter state result after ran entry listed =>
      ⟨plain.moments filter state result after ran entry listed,
        agree.entries filter state result after ran entry listed⟩
  have fetched := tandem_fetchFrom plain serves served
    (GoMiniflux.browseFilter (Inbox.Selection.mk kind id unreadOnly).normalized) .start
  rw [browseFilter_rust] at fetched
  refine Tandem.bind (tandem_described _ fetched) ?_
  rintro ⟨entries, total⟩ _ ⟨rfl, fine, length, bounded⟩
  have read := tandem_asked serves.categories (fun listed : List CategoryDto =>
    (∀ category ∈ listed, category.id ≠ 0) ∧ ∀ category ∈ listed,
      goHost.toLowercase category.title = host.toLowercase category.title)
    fun state listed after ran => ⟨plain.categories state listed after ran,
      agree.categories state listed after ran⟩
  refine Tandem.bind (tandem_described _ read) ?_
  rintro categories _ ⟨rfl, named, categoryTitles⟩
  refine Tandem.bind (tandem_described _ (tandem_asked serves.feeds (fun listed => ∀ feed ∈ listed,
    goHost.toLowercase feed.title = host.toLowercase feed.title) agree.feeds)) ?_
  rintro feeds _ ⟨rfl, feedTitles⟩
  have starred := starred_normalized kind id unreadOnly
  refine .pure ⟨?_, ?_, ?_, ?_, ?_⟩
  rotate_left
  · rw [GoMiniflux.mapEntries, List.length_map, List.length_map]
    exact length ▸ bounded
  · exact ⟨length ▸ Int.natCast_nonneg _, bounded⟩
  · by_cases marked : (Selection.normalize kind id unreadOnly).isStarred = true
    · rw [if_pos (starred.mpr marked)]
      exact ⟨length ▸ Int.natCast_nonneg _, bounded⟩
    · rw [if_neg fun named => marked (starred.mp named)]
      exact ⟨positive, room.resolve_left marked⟩
  · exact written_mapEntries fun dto there => (fine dto there).1
  have navigation := mapNavigation_cut host.toLowercase categories feeds counters.counter named
  dsimp only at navigation ⊢
  rw [mapNavigation_congr categoryTitles feedTitles, navigation]
  unfold SnapshotData.cut Inbox.Listing.rust
  dsimp only
  rw [mapEntries_rust fine, normalize_again]
  by_cases marked : (Selection.normalize kind id unreadOnly).isStarred = true
  · rw [if_pos marked, if_pos (starred.mpr marked)]
  · rw [if_neg marked, if_neg fun named => marked (starred.mp named)]

/-- Both cores browse a selection alike, whatever the server answers, request by request. -/
theorem tandem_browse :
    Tandem Eq (SameText words) (SameBrowse moments capacity)
      (browse host api.inbox (.normalize kind id unreadOnly))
      (GoMiniflux.browse goHost capacity client ⟨kind, id, unreadOnly⟩) := by
  have starred := starred_normalized kind id unreadOnly
  unfold browse GoMiniflux.browse
  dsimp only
  refine Tandem.bind (tandem_described _ (tandem_present serves.counters (fun _ => True)
    fun _ _ _ _ => trivial)) ?_
  rintro counters _ ⟨rfl, -⟩
  by_cases marked : (Selection.normalize kind id unreadOnly).isStarred = true
  · rw [if_pos marked, if_pos (starred.mpr marked)]
    exact tandem_counted kind id unreadOnly serves plain agree counters (le_refl 0) (.inl marked)
  · rw [if_neg marked, if_neg (fun named => marked (starred.mp named))]
    have counted := tandem_present
      (serves.entries { starred := "1", statuses := ["read", "unread"], limit := 1 })
      (fun result => 0 ≤ result.total ∧ result.total ≤ capacity) (plain.totals _)
    have summed : describe "markierte Miniflux-Einträge zählen" api.inbox.starredTotal =
        describe "markierte Miniflux-Einträge zählen"
          (api.entries { starred := some "1", statuses := ["read", "unread"], limit := 1 }) >>=
            fun result => pure result.total := adapt_bind_pure ..
    rw [summed, bind_assoc]
    refine Tandem.bind (tandem_described _ counted) ?_
    rintro result _ ⟨rfl, positive, room⟩
    rw [pure_bind, pure_bind]
    exact tandem_counted kind id unreadOnly serves plain agree counters positive (.inr room)

end Snapshots

end Wire

end Entries

/-- Two cores browse one server through client libraries that stand beside each other, with
article functions that agree on what it serves. Where its answers are plain, they leave it in
the same state, so that what it was asked is the same; and they fail with the same text, or
with words for one failure of the server under one label, or succeed with the same
snapshot, its counts cut to 32 bits here. -/
theorem same_server_same_browse {σ τ : Type} {moments : Inbox.Moments τ} {capacity : Int}
    {api : MinifluxApi σ} {client : GoMiniflux.Client σ τ} {words : RemoteError → String → Prop}
    {host goHost : Host} (serves : client.Beside moments api words)
    (plain : api.Plain moments capacity) (agree : HostsAgree moments api host goHost)
    (kind : String) (id : Int) (unreadOnly : Bool) (server : σ) :
    let rust := browse host api.inbox (.normalize kind id unreadOnly) server
    let go := GoMiniflux.browse goHost capacity client ⟨kind, id, unreadOnly⟩ server
    rust.2 = go.2 ∧
      ((∃ text failure, SameText words text failure ∧ rust.1 = .error text ∧ go.1 = .error failure) ∨
        ∃ listing, go.1 = .ok listing ∧ rust.1 = .ok (listing.rust moments).cut) := by
  obtain ⟨outcomes, left⟩ := tandem_browse kind id unreadOnly serves plain agree server server rfl
  refine ⟨left, ?_⟩
  generalize (browse host api.inbox (.normalize kind id unreadOnly) server).1 = rust at outcomes ⊢
  generalize (GoMiniflux.browse goHost capacity client ⟨kind, id, unreadOnly⟩ server).1 = go
    at outcomes ⊢
  cases outcomes with
  | @error text failure same => exact .inl ⟨text, failure, same, rfl, rfl⟩
  | @ok snapshot listing same => exact .inr ⟨listing, rfl, congrArg Except.ok same.1⟩

/-- A server of one marked article, which records the filters it is asked with. -/
def oneMarked : MinifluxApi (List EntriesFilter) where
  entries filter asked := (.ok ⟨1, [⟨7, 5, "Title", "", "", "unread", true, "2024-01-01T00:00:00Z", "",
    [], some ⟨5, "Feed", some ⟨3, "Category"⟩⟩⟩]⟩, asked ++ [filter])
  entry _ := throw .notFound
  categories := return [⟨3, "Category"⟩]
  feeds := return [⟨5, "Feed", some ⟨3, "Category"⟩⟩]
  counters := return ⟨[("5", 1)]⟩
  updateEntries _ _ := return
  toggleStarred _ := return

/-- The Go core's library on that server. It words a missing entry in its own way. -/
def oneMarkedClient : GoMiniflux.Client (List EntriesFilter) Int where
  entries filter asked := (.ok (some ⟨1, [some ⟨7, 5, "Title", "", "", "unread", true, 1704067200, "",
    [], some ⟨5, "Feed", some ⟨3, "Category"⟩⟩⟩]⟩), asked ++ [filter.rust])
  entry _ := throw "miniflux: not found"
  updateEntries _ _ := return
  categories := return [some ⟨3, "Category"⟩]
  feeds := return [some ⟨5, "Feed", some ⟨3, "Category"⟩⟩]
  fetchCounters := return some fun id => if id = 5 then some 1 else none
  toggleStarred _ := return

/-- How the two libraries word what goes wrong there. -/
def missingWords (failure : RemoteError) (text : String) : Prop :=
  failure = .notFound ∧ text = "miniflux: not found"

theorem oneMarked_beside : oneMarkedClient.Beside newYear oneMarked missingWords where
  entries filter := by
    rintro state _ rfl
    exact ⟨.ok rfl, rfl⟩
  entry id := .throw ⟨rfl, rfl⟩
  updateEntries _ _ := .pure trivial
  categories := .pure rfl
  feeds := .pure rfl
  counters := by
    have read : parseI64 "5" = some 5 := by decide
    refine .pure (congrArg some (funext fun id => ?_))
    by_cases five : id = 5
    · simp [FeedCountersDto.counter, read, five]
    · simp [FeedCountersDto.counter, read, five, Ne.symm five]
  toggleStarred _ := .pure trivial

theorem oneMarked_plain : oneMarked.Plain newYear 100 where
  totals _ _ _ _ ran := by
    cases ran
    decide
  moments _ _ _ _ ran entry listed := by
    cases ran
    rw [List.mem_singleton.mp listed]
    decide
  categories _ _ _ ran := by
    cases ran
    simp

/-- Article functions that differ from `bareHost` on other articles and titles. -/
def otherHost : Host where
  extract content url limit := if content = "" then bareHost.extract content url limit else ⟨" ", ""⟩
  firstImageEnclosureUrl := bareHost.firstImageEnclosureUrl
  toLowercase title := if title = "İ" then "i" else bareHost.toLowercase title

theorem oneMarked_hosts : HostsAgree newYear oneMarked bareHost otherHost where
  entries _ _ _ _ ran entry listed := by
    cases ran
    rw [List.mem_singleton.mp listed]
    exact ⟨rfl, rfl⟩
  categories _ _ _ ran category listed := by
    cases ran
    rw [List.mem_singleton.mp listed]
    rfl
  feeds _ _ _ ran feed listed := by
    cases ran
    rw [List.mem_singleton.mp listed]
    rfl

/-- One marked article, browsed by both cores, with a lower case that differs on other
titles and a library that words its errors in its own way. -/
theorem same_server_same_browse_marked :
    (browse bareHost oneMarked.inbox (.normalize "all" 0 true) []).2 =
      (GoMiniflux.browse otherHost 100 oneMarkedClient ⟨"all", 0, true⟩ []).2 :=
  (same_server_same_browse oneMarked_beside oneMarked_plain oneMarked_hosts "all" 0 true []).1

end FluxBar
