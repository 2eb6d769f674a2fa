import FluxBar.GoStore
import FluxBar.Library.Procedure
import FluxBar.Miniflux
import Mathlib.Logic.Function.Basic

/-! The Miniflux service of the Go core: the values of its client library, whose pointers
may be nil, the paginated fetch, and what it browses. A call may also end in a
panic, which nothing in the service recovers from. -/
namespace FluxBar.GoMiniflux

/-! ## The client library -/

/-- `miniflux.Category`. -/
structure Category where
  id : Int
  title : String

/-- `miniflux.Feed`. -/
structure Feed where
  id : Int
  title : String
  category : Option Category

/-- `miniflux.Enclosure`. -/
structure Enclosure where
  url : String
  mimeType : String

/-- `miniflux.Entry`. -/
structure Entry (τ : Type) where
  id : Int
  feedID : Int
  title : String
  url : String
  commentsURL : String
  status : String
  starred : Bool
  date : τ
  content : String
  enclosures : List (Option Enclosure)
  feed : Option Feed

/-- `miniflux.EntryResultSet`. -/
structure EntryResultSet (τ : Type) where
  total : Int
  entries : List (Option (Entry τ))

/-- `miniflux.Filter`; its zero values send nothing, but for the limit and the offset. -/
structure Filter where
  status : String := ""
  statuses : List String := []
  order : String := ""
  direction : String := ""
  limit : Int := 0
  afterEntryID : Int := 0
  starred : String := ""
  categoryID : Int := 0
  feedID : Int := 0

/-- `client`, the part of the client library that the service uses; its errors are their
texts. The library is a parameter, and only `Beside` says what it does. -/
structure Client (σ τ : Type) where
  entries : Filter → ExceptT String (StateM σ) (Option (EntryResultSet τ))
  entry : Int → ExceptT String (StateM σ) (Option (Entry τ))
  updateEntries : List Int → String → ExceptT String (StateM σ) Unit
  categories : ExceptT String (StateM σ) (List (Option Category))
  feeds : ExceptT String (StateM σ) (List (Option Feed))
  /-- `UnreadCounters`, a map by feed id. -/
  fetchCounters : ExceptT String (StateM σ) (Option (Int → Option Int))
  toggleStarred : Int → ExceptT String (StateM σ) Unit

/-- How a call ends badly: with an error, or in a panic. -/
inductive Failure where
  | error (message : String)
  | panicked
  deriving DecidableEq, Repr

/-- `fmt.Errorf("...: %w", err)`. -/
def Failure.wrap (label : String) : Failure → Failure
  | .error message => .error s!"{label}: {message}"
  | .panicked => .panicked

section Calls
variable {σ τ α : Type}

/-- A call of the client library. -/
def ask (call : ExceptT String (StateM σ) α) : ExceptT Failure (StateM σ) α :=
  call.adapt Failure.error

/-- A call whose result is checked against nil, as every call of the service for a single
value is. -/
def askPresent (call : ExceptT String (StateM σ) (Option α)) : ExceptT Failure (StateM σ) α := do
  match ← ask call with
  | none => throw (.error "leere Antwort")
  | some value => return value

/-! ## `mapEntries` -/

/-- One turn of the loop of `mapEntries`, for an entry that is there. The article functions
are those of the Go core's own `article` package. -/
def mapEntry (host : Host) (source : Entry τ) : Inbox.Entry τ :=
  let (feedID, feedName, categoryID) := match source.feed with
    | none => (source.feedID, "", 0)
    | some feed => (if source.feedID = 0 then feed.id else source.feedID, feed.title,
        match feed.category with
        | none => 0
        | some category => category.id)
  let preview := host.extract source.content source.url previewLimit
  let imageURL := if preview.imageUrl = "" then
      host.firstImageEnclosureUrl (source.enclosures.filterMap fun enclosure =>
        enclosure.map fun enclosure => (enclosure.url, enclosure.mimeType)) source.url
    else preview.imageUrl
  { id := source.id
    title := source.title
    url := source.url
    commentsURL := source.commentsURL
    feedID
    feedName
    categoryID
    publishedAt := source.date
    preview := preview.text
    imageURL
    status := source.status
    starred := source.starred }

/-- `mapEntries`, over the entries that are there. -/
def mapEntries (host : Host) (sources : List (Entry τ)) : List (Inbox.Entry τ) :=
  sources.map (mapEntry host)

/-! ## `mapNavigation` -/

/-- The result of `mapNavigation` so far, with its `indexes`. -/
structure Progress where
  result : List FluxBar.Category
  indexes : Int → Option Nat

/-- One turn of the loop over the categories. -/
def addCategory (progress : Progress) : Option Category → Progress
  | none => progress
  | some category =>
    { result := progress.result ++
        [{ id := category.id, title := category.title, unreadCount := 0, feeds := [] }]
      indexes := Function.update progress.indexes category.id (some progress.result.length) }

/-- One turn of the loop over the feeds, with `unreadTotal`; a feed without a known category
is passed over. -/
def addFeed (indexes : Int → Option Nat) (unreadCounters : Int → Option Int)
    (progress : List FluxBar.Category × Int) (feed : Option Feed) : List FluxBar.Category × Int :=
  match feed with
  | none => progress
  | some feed =>
    match feed.category with
    | none => progress
    | some category =>
      match indexes category.id with
      | none => progress
      | some index =>
        let unreadCount := (unreadCounters feed.id).getD 0
        (progress.1.modify index fun held => { held with
          unreadCount := held.unreadCount + unreadCount
          feeds := held.feeds ++ [{
            id := feed.id, title := feed.title, categoryId := category.id, unreadCount }] },
          progress.2 + unreadCount)

/-- `sort.SliceStable` by the lowercase title. -/
def sortStable {β : Type} (toLower : String → String) (title : β → String) (items : List β) : List β :=
  items.mergeSort fun left right => !decide (toLower (title right) < toLower (title left))

/-- `mapNavigation`: the categories with their feeds, both sorted by title, and the number
of unread articles. -/
def mapNavigation (toLower : String → String) (categories : List (Option Category))
    (feeds : List (Option Feed)) (unreadCounters : Int → Option Int) :
    List FluxBar.Category × Int :=
  let known := categories.foldl addCategory ⟨[], fun _ => none⟩
  let (result, unreadTotal) := feeds.foldl (addFeed known.indexes unreadCounters) (known.result, 0)
  let result := sortStable toLower FluxBar.Category.title result
  (result.map fun category =>
    { category with feeds := sortStable toLower FluxBar.Feed.title category.feeds }, unreadTotal)

/-! ## `fetchCompleteSelection` -/

/-- The variables of the page loop: what is collected, the first total, and the cursor. -/
structure Fetch (τ : Type) where
  entries : List (Entry τ)
  seen : Finset Int
  expectedTotal : Int
  afterEntryID : Int

/-- The variables at entry. -/
def Fetch.start : Fetch τ where
  entries := []
  seen := ∅
  expectedTotal := -1
  afterEntryID := 0

/-- One turn of the entry loop; `lastID` is the loop's cursor. A missing entry, an id that
does not rise, and one seen before refuse the answer. -/
def takeEntry (progress : List (Entry τ) × Finset Int × Int) (entry : Option (Entry τ)) :
    Except Failure (List (Entry τ) × Finset Int × Int) :=
  let (entries, seen, lastID) := progress
  match entry with
  | none => .error (.error s!"unstabile Seitensortierung nach Artikel {lastID}")
  | some entry =>
    if entry.id ≤ lastID then
      .error (.error s!"unstabile Seitensortierung nach Artikel {lastID}")
    else if entry.id ∈ seen then
      .error (.error s!"doppelter Artikel {entry.id} in paginierter Antwort")
    else .ok (entries ++ [entry], insert entry.id seen, entry.id)

/-- Where a page leaves the loop. -/
inductive Page (τ : Type) where
  | complete (entries : List (Entry τ)) (total : Int)
  | more (fetch : Fetch τ)

/-- The first page sets the total, and makes room for it: `make` panics over a negative
capacity, and over one that cannot be had. -/
def Fetch.opened (capacity : Int) (fetch : Fetch τ) (total : Int) : Except Failure (Fetch τ) :=
  if fetch.expectedTotal < 0 then
    if total < 0 || capacity < total then .error .panicked
    else .ok { fetch with expectedTotal := total, entries := [] }
  else .ok fetch

/-- The body of the page loop, after its request: it ends at the first total, fails on a
short page or beyond the total, and goes on otherwise. -/
def Fetch.page (capacity : Int) (fetch : Fetch τ) (result : EntryResultSet τ) :
    Except Failure (Page τ) := do
  let fetch ← fetch.opened capacity result.total
  let (entries, seen, lastID) ← result.entries.foldlM takeEntry
    (fetch.entries, fetch.seen, fetch.afterEntryID)
  let count : Int := entries.length
  if count = fetch.expectedTotal then return .complete entries fetch.expectedTotal
  else if fetch.expectedTotal < count then
    throw (.error s!"Trefferzahl änderte sich während der Pagination: erwartet {fetch.expectedTotal}, erhalten {count}")
  else if result.entries.length < browsePageSize || lastID = fetch.afterEntryID then
    throw (.error s!"unvollständige paginierte Antwort: erwartet {fetch.expectedTotal}, erhalten {count}")
  else return .more { entries, seen, expectedTotal := fetch.expectedTotal, afterEntryID := lastID }

/-- Entries that pass their loop are appended. -/
theorem length_takeEntries {listed : List (Option (Entry τ))}
    {progress after : List (Entry τ) × Finset Int × Int}
    (taken : listed.foldlM takeEntry progress = .ok after) :
    after.1.length = progress.1.length + listed.length := by
  induction listed generalizing progress with
  | nil =>
    cases taken
    rfl
  | cons entry rest ih =>
    rw [List.foldlM_cons] at taken
    obtain ⟨middle, first, later⟩ := Procedure.bind_eq_ok.mp taken
    have longer : middle.1.length = progress.1.length + 1 := by
      obtain ⟨entries, seen, lastID⟩ := progress
      unfold takeEntry at first
      cases entry with
      | none => cases first
      | some entry =>
        dsimp only at first
        split at first
        · cases first
        · split at first
          · cases first
          · cases first
            exact List.length_append
    rw [ih later, longer, List.length_cons]
    omega

/-- How far the loop still is from its end. -/
def Fetch.remaining (fetch : Fetch τ) : Nat ×ₗ Nat :=
  toLex (if fetch.expectedTotal < 0 then 1 else 0, (fetch.expectedTotal - fetch.entries.length).toNat)

theorem Fetch.remaining_page {capacity : Int} {fetch next : Fetch τ} {result : EntryResultSet τ}
    (going : fetch.page capacity result = .ok (.more next)) : next.remaining < fetch.remaining := by
  unfold Fetch.page at going
  obtain ⟨opened, begun, rest⟩ := Procedure.bind_eq_ok.mp going
  obtain ⟨⟨entries, seen, lastID⟩, taken, turned⟩ := Procedure.bind_eq_ok.mp rest
  have longer : entries.length = opened.entries.length + result.entries.length :=
    length_takeEntries taken
  clear going rest taken
  dsimp only at turned
  split at turned
  · cases turned
  split at turned
  · cases turned
  rename_i fits
  split at turned
  · cases turned
  rename_i full
  simp only [Bool.or_eq_true, decide_eq_true_eq, not_or, not_lt] at full
  unfold browsePageSize at full
  cases turned
  unfold Fetch.remaining
  rw [Prod.Lex.lt_iff]
  unfold Fetch.opened at begun
  split at begun
  · rename_i unknown
    split at begun
    · cases begun
    · rename_i room
      cases begun
      simp only [Bool.or_eq_true, decide_eq_true_eq, not_or, not_lt] at room
      exact .inl (by simp only [ofLex_toLex, if_pos unknown, if_neg (not_lt.mpr room.1)]; omega)
  · cases begun
    refine .inr ⟨rfl, ?_⟩
    simp only [ofLex_toLex]
    omega

/-- The page loop of `fetchCompleteSelection`, which ends because a page that calls for
another one has brought entries, and the total stands. -/
def fetchFrom (capacity : Int) (client : Client σ τ) (base : Filter) (fetch : Fetch τ) :
    ExceptT Failure (StateM σ) (List (Entry τ) × Int) := do
  let result ← askPresent (client.entries { base with afterEntryID := fetch.afterEntryID })
  match _turn : fetch.page capacity result with
  | .error failure => throw failure
  | .ok (.complete entries total) => return (entries, total)
  | .ok (.more next) => fetchFrom capacity client base next
termination_by fetch.remaining
decreasing_by exact Fetch.remaining_page _turn

/-- `fetchCompleteSelection`. -/
def fetchCompleteSelection (capacity : Int) (client : Client σ τ) (base : Filter) :
    ExceptT Failure (StateM σ) (List (Entry τ) × Int) :=
  fetchFrom capacity client base .start

/-! ## `Browse` -/

/-- The filter `Browse` builds: pages of 200 by id, unread entries only where the selection
asks for them, in its scope. -/
def browseFilter (selection : Inbox.Selection) : Filter :=
  let filter : Filter := {
    limit := browsePageSize
    order := "id"
    direction := "asc"
    statuses := ["read", "unread"] }
  let filter := if selection.unreadOnly then { filter with statuses := [], status := "unread" }
    else filter
  if selection.kind = "unread" then { filter with statuses := [], status := "unread" }
  else if selection.kind = "starred" then { filter with starred := "1" }
  else if selection.kind = "category" then { filter with categoryID := selection.id }
  else if selection.kind = "feed" then { filter with feedID := selection.id }
  else filter

/-- `Service.Browse`: counters, starred entries, the selection, categories and feeds, each
error under the label of its step. -/
def browse (host : Host) (capacity : Int) (client : Client σ τ) (selection : Inbox.Selection) :
    ExceptT Failure (StateM σ) (Inbox.Listing τ) := do
  let selection := selection.normalized
  let filter := browseFilter selection
  let counters ← (askPresent client.fetchCounters).adapt (Failure.wrap "Miniflux-Zähler laden")
  let counted ← if selection.kind = "starred" then pure 0
    else do
      let result ← (askPresent (client.entries
        { starred := "1", statuses := ["read", "unread"], limit := 1 })).adapt
          (Failure.wrap "markierte Miniflux-Einträge zählen")
      pure result.total
  let (entries, total) ← (fetchCompleteSelection capacity client filter).adapt
    (Failure.wrap "Miniflux-Einträge laden")
  let starredTotal := if selection.kind = "starred" then total else counted
  let categories ← (ask client.categories).adapt (Failure.wrap "Miniflux-Kategorien laden")
  let feeds ← (ask client.feeds).adapt (Failure.wrap "Miniflux-Feeds laden")
  let (navigation, unreadTotal) := mapNavigation host.toLowercase categories feeds counters
  return {
    version := 1
    selection
    entries := mapEntries host entries
    categories := navigation
    total
    unreadTotal
    starredTotal }

/-! ## Mutations -/

/-- `Service.SetReadBatch`. -/
def setReadBatch (client : Client σ τ) (entryIDs : List Int) (read : Bool) :
    ExceptT Failure (StateM σ) Unit :=
  (ask (client.updateEntries entryIDs (if read then "read" else "unread"))).adapt
    (Failure.wrap "Miniflux-Lesestatus aktualisieren")

/-- `Service.EntryState`, whose one field is the star. -/
def entryState (client : Client σ τ) (entryID : Int) : ExceptT Failure (StateM σ) Bool := do
  let entry ← (askPresent (client.entry entryID)).adapt (Failure.wrap "Miniflux-Eintrag laden")
  return entry.starred

/-- `Service.ToggleStarred`. -/
def toggleStarred (client : Client σ τ) (entryID : Int) : ExceptT Failure (StateM σ) Unit :=
  (ask (client.toggleStarred entryID)).adapt (Failure.wrap "Miniflux-Markierung aktualisieren")

end Calls

end FluxBar.GoMiniflux
