import FluxBar.Miniflux
import FluxBar.Library.Json
import FluxBar.Library.Procedure
import FluxBar.Library.CursorPaging

/-! The bodies of the client's answers: what `serde` makes of the JSON of an entries request,
and what the page loop makes of the pages it is given so. -/
namespace FluxBar
open JsonFormat CursorPaging

/-! ## `remote::dto` -/

def CategoryDto.decode (json : Json) : Option CategoryDto := do
  let names := ["id", "title"]
  let id ← fieldOr asI64 0 json names "id"
  let title ← fieldOr asString "" json names "title"
  return { id, title }

def FeedDto.decode (json : Json) : Option FeedDto := do
  let names := ["id", "title", "category"]
  let id ← fieldOr asI64 0 json names "id"
  let title ← fieldOr asString "" json names "title"
  let category ← fieldOr (nullable CategoryDto.decode) none json names "category"
  return { id, title, category }

def EnclosureDto.decode (json : Json) : Option EnclosureDto := do
  let names := ["id", "url", "mime_type"]
  let id ← fieldOr asI64 0 json names "id"
  let url ← fieldOr asString "" json names "url"
  let mimeType ← fieldOr asString "" json names "mime_type"
  return { id, url, mimeType }

def EntryDto.decode (json : Json) : Option EntryDto := do
  let names := ["id", "feed_id", "title", "url", "comments_url", "status", "starred",
    "published_at", "content", "enclosures", "feed"]
  let id ← fieldOr asI64 0 json names "id"
  let feedId ← fieldOr asI64 0 json names "feed_id"
  let title ← fieldOr asString "" json names "title"
  let url ← fieldOr asString "" json names "url"
  let commentsUrl ← fieldOr asString "" json names "comments_url"
  let status ← fieldOr asString "" json names "status"
  let starred ← fieldOr asBool false json names "starred"
  let publishedAt ← fieldOr asString "" json names "published_at"
  let content ← fieldOr asString "" json names "content"
  let enclosures ← fieldOr (asArray EnclosureDto.decode) [] json names "enclosures"
  let feed ← fieldOr (nullable FeedDto.decode) none json names "feed"
  return { id, feedId, title, url, commentsUrl, status, starred, publishedAt, content, enclosures,
           feed }

/-- The fields of `EntryResultSetDto`. -/
def resultSetFields : List String := ["total", "entries"]

def EntryResultSetDto.decode (json : Json) : Option EntryResultSetDto := do
  let total ← fieldOr asI64 0 json resultSetFields "total"
  let entries ← fieldOr (asArray EntryDto.decode) [] json resultSetFields "entries"
  return { total, entries }

/-! ## The client -/

/-- A server, as `execute` shows it: its requests, and the bodies of those for entries. What
`serde` says of a body it does not accept is a parameter. -/
structure MinifluxHttp (σ : Type) where
  requests : MinifluxApi σ
  body : EntriesFilter → Remote σ Json
  complaint : Json → String

namespace MinifluxHttp
variable {σ : Type} (http : MinifluxHttp σ)

/-- `entries`, on the body of the answer: one that does not decode is an error of the
request. -/
def entries (filter : EntriesFilter) : Remote σ EntryResultSetDto := do
  let body ← http.body filter
  match EntryResultSetDto.decode body with
  | some result => return result
  | none => throw (.json (http.complaint body))

def api : MinifluxApi σ := { http.requests with entries := http.entries }

end MinifluxHttp

/-! ## Bodies with missing members -/

/-- An object without a member of this name; another body lacks none. -/
def Lacks (body : Json) (name : String) : Prop :=
  ∃ members, body = .object members ∧ ∀ member ∈ members, member.1 ≠ name

/-- A body that lacks the total or the entries, which the answer of a server always has. -/
def Malformed (body : Json) : Prop := Lacks body "total" ∨ Lacks body "entries"

/-- A body that names neither a total other than 0 nor an entry, by what its members are and
before it is decoded. -/
structure Blank (body : Json) : Prop where
  total : body.field resultSetFields "total" = some none ∨
    body.field resultSetFields "total" = some (some (.int 0))
  entries : body.field resultSetFields "entries" = some none ∨
    body.field resultSetFields "entries" = some (some (.array []))

theorem field_of_lacks {body : Json} {name : String} (lacks : Lacks body name) :
    body.field resultSetFields name = some none := by
  obtain ⟨members, rfl, absent⟩ := lacks
  have none : members.filter (fun member => member.1 = name) = [] :=
    List.filter_eq_nil_iff.mpr fun member held => by simpa using absent member held
  unfold Json.field
  dsimp only
  rw [none]

theorem decode_eq_some {body : Json} {result : EntryResultSetDto} :
    EntryResultSetDto.decode body = some result ↔
      fieldOr asI64 0 body resultSetFields "total" = some result.total ∧
        fieldOr (asArray EntryDto.decode) [] body resultSetFields "entries" =
          some result.entries := by
  unfold EntryResultSetDto.decode
  cases fieldOr asI64 0 body resultSetFields "total" with
  | none => simp
  | some total =>
    cases fieldOr (asArray EntryDto.decode) [] body resultSetFields "entries" with
    | none => simp
    | some entries =>
      cases result
      simp

/-- A missing total is read as 0. -/
theorem total_of_lacks {body : Json} {result : EntryResultSetDto} (lacks : Lacks body "total")
    (decoded : EntryResultSetDto.decode body = some result) : result.total = 0 := by
  have read := (decode_eq_some.mp decoded).1
  unfold fieldOr at read
  rw [field_of_lacks lacks] at read
  exact (Option.some.inj read).symm

/-- Missing entries are read as none. -/
theorem entries_of_lacks {body : Json} {result : EntryResultSetDto} (lacks : Lacks body "entries")
    (decoded : EntryResultSetDto.decode body = some result) : result.entries = [] := by
  have read := (decode_eq_some.mp decoded).2
  unfold fieldOr at read
  rw [field_of_lacks lacks] at read
  exact (Option.some.inj read).symm

theorem asI64_eq_zero {value : Json} : asI64 value = some 0 ↔ value = .int 0 := by
  rw [asI64_eq_some]
  exact and_iff_left (by decide)

theorem asArray_eq_nil {α : Type} {decode : Json → Option α} {value : Json} :
    asArray decode value = some [] ↔ value = .array [] := by
  constructor
  · intro read
    cases value with
    | array items =>
      cases items with
      | nil => rfl
      | cons item rest =>
        unfold asArray at read
        dsimp only at read
        rw [List.mapM_cons] at read
        cases first : decode item with
        | none => simp [first] at read
        | some found => cases others : rest.mapM decode <;> simp [first, others] at read
    | null | bool | int | string | object => cases read
  · rintro rfl
    rfl

/-- A blank body is read as an empty result, and no other body is. -/
theorem blank_iff {body : Json} :
    Blank body ↔ EntryResultSetDto.decode body = some { total := 0, entries := [] } := by
  rw [decode_eq_some]
  unfold fieldOr
  constructor
  · rintro ⟨total, entries⟩
    constructor
    · rcases total with same | same
      · rw [same]
      · rw [same]
        rfl
    · rcases entries with same | same
      · rw [same]
      · rw [same]
        rfl
  · rintro ⟨total, entries⟩
    constructor
    · cases found : body.field resultSetFields "total" with
      | none => simp [found] at total
      | some value =>
        cases value with
        | none => exact .inl rfl
        | some value =>
          rw [found] at total
          exact .inr (by rw [asI64_eq_zero.mp total])
    · cases found : body.field resultSetFields "entries" with
      | none => simp [found] at entries
      | some value =>
        cases value with
        | none => exact .inl rfl
        | some value =>
          rw [found] at entries
          exact .inr (by rw [asArray_eq_nil.mp entries])

/-! ## The pages of a fetch -/

section Fetch
variable {σ : Type} (http : MinifluxHttp σ) (base : EntriesFilter)

/-- The bodies the page loop is answered from where it stands, those of failed requests
aside; the loop itself decides when the last one has come. -/
inductive Bodies : FetchProgress → σ → List Json → Prop where
  | failed {progress : FetchProgress} {state after : σ} {failure : RemoteError} :
      http.body { base with afterEntryId := progress.afterEntryId } state = (.error failure, after) →
      Bodies progress state []
  | last {progress : FetchProgress} {state after : σ} {body : Json} :
      http.body { base with afterEntryId := progress.afterEntryId } state = (.ok body, after) →
      (∀ result next, EntryResultSetDto.decode body = some result →
        fetchPage progress result ≠ .ok (.more next)) →
      Bodies progress state [body]
  | more {progress next : FetchProgress} {state after : σ} {body : Json}
      {result : EntryResultSetDto} {bodies : List Json} :
      http.body { base with afterEntryId := progress.afterEntryId } state = (.ok body, after) →
      EntryResultSetDto.decode body = some result →
      fetchPage progress result = .ok (.more next) → Bodies next after bodies →
      Bodies progress state (body :: bodies)

variable {http base} {progress : FetchProgress} {state : σ}

theorem entries_of_failed {filter : EntriesFilter} {after : σ} {failure : RemoteError}
    (asked : http.body filter state = (.error failure, after)) :
    http.api.entries filter state = (.error failure, after) := by
  change (http.body filter >>= _) state = _
  exact Procedure.bind_of_fails asked

theorem entries_of_decoded {filter : EntriesFilter} {after : σ} {body : Json}
    {result : EntryResultSetDto} (asked : http.body filter state = (.ok body, after))
    (decoded : EntryResultSetDto.decode body = some result) :
    http.api.entries filter state = (.ok result, after) := by
  change (http.body filter >>= _) state = _
  rw [Procedure.bind_of_returns asked, decoded]
  rfl

theorem entries_of_refused {filter : EntriesFilter} {after : σ} {body : Json}
    (asked : http.body filter state = (.ok body, after))
    (refused : EntryResultSetDto.decode body = none) :
    http.api.entries filter state = (.error (.json (http.complaint body)), after) := by
  change (http.body filter >>= _) state = _
  rw [Procedure.bind_of_returns asked, refused]
  rfl

/-- Every fetch has its answers. -/
theorem bodies_exist (http : MinifluxHttp σ) (base : EntriesFilter) (progress : FetchProgress)
    (state : σ) : ∃ bodies, Bodies http base progress state bodies := by
  induction progress using (InvImage.wf FetchProgress.remaining wellFounded_lt).induction
    generalizing state with
  | h progress ih =>
    cases asked : http.body { base with afterEntryId := progress.afterEntryId } state with
    | mk answer after =>
      cases answer with
      | error failure => exact ⟨[], .failed asked⟩
      | ok body =>
        by_cases going : ∃ result next, EntryResultSetDto.decode body = some result ∧
            fetchPage progress result = .ok (.more next)
        · obtain ⟨result, next, decoded, turn⟩ := going
          obtain ⟨bodies, answers⟩ := ih next (remaining_fetchPage turn) after
          exact ⟨body :: bodies, .more asked decoded turn answers⟩
        · refine ⟨[body], .last asked fun result next decoded turn => ?_⟩
          exact going ⟨result, next, decoded, turn⟩

/-- The pages that bring the loop to its end with a complete result: their ids rise, they
make up the total of the first, and each but the last is full. -/
structure ListsFrom (progress : FetchProgress) (pages : List EntryResultSetDto) : Prop where
  some : pages ≠ []
  rising : (progress.afterEntryId :: (pages.flatMap (·.entries)).map (·.id)).Pairwise (· < ·)
  counted : ∀ first ∈ pages.head?, ((progress.entries ++ pages.flatMap (·.entries)).length : Int) =
    progress.expected first
  full : ∀ page ∈ pages.dropLast, browsePageSize ≤ page.entries.length
  filled : ∀ page ∈ pages.tail, page.entries ≠ []

/-- The last page the loop asks for. -/
theorem listsFrom_last {result : EntryResultSetDto}
    (unseen : ∀ id ∈ progress.seen, id ≤ progress.afterEntryId) :
    ListsFrom progress [result] ↔
      ∃ entries total, fetchPage progress result = .ok (.complete entries total) := by
  constructor
  · intro lists
    have rising := lists.rising
    have counted := lists.counted result rfl
    rw [List.flatMap_singleton] at rising counted
    exact ⟨_, _, fetchPage_of_exact rising unseen counted⟩
  · rintro ⟨entries, total, turn⟩
    obtain ⟨⟨appended, rising⟩, expected, exact⟩ := fetchPage_complete turn
    refine ⟨List.cons_ne_nil _ _, ?_, ?_, fun _ absurd => (by cases absurd), fun _ absurd => (by cases absurd)⟩
    · rwa [List.flatMap_singleton]
    · intro first same
      cases same
      rw [List.flatMap_singleton, ← appended, exact, expected]

/-- A page after which the loop goes on: what is left to list is listed by the pages after
it. -/
theorem listsFrom_more {next : FetchProgress} {result : EntryResultSetDto}
    {pages : List EntryResultSetDto} (turn : fetchPage progress result = .ok (.more next)) :
    ListsFrom progress (result :: pages) ↔ ListsFrom next pages := by
  obtain ⟨⟨appended, rising⟩, expected, missing, full, cursor⟩ := fetchPage_more turn
  have known : ∀ page, next.expected page = progress.expected result := by
    intro page
    rw [FetchProgress.expected, if_neg (by omega), expected]
  have together : progress.entries ++ (result :: pages).flatMap (·.entries) =
      next.entries ++ pages.flatMap (·.entries) := by
    rw [List.flatMap_cons, appended, List.append_assoc]
  have risen : (progress.afterEntryId :: ((result :: pages).flatMap (·.entries)).map (·.id)).Pairwise
        (· < ·) ↔
      (next.afterEntryId :: (pages.flatMap (·.entries)).map (·.id)).Pairwise (· < ·) := by
    rw [List.flatMap_cons, List.map_append, rising_append, ← cursor]
    exact and_iff_right rising
  constructor
  · intro lists
    have counted := lists.counted result rfl
    rw [together] at counted
    have some : pages ≠ [] := by
      rintro rfl
      rw [List.flatMap_nil, List.append_nil] at counted
      omega
    refine ⟨some, risen.mp lists.rising, ?_, ?_, ?_⟩
    · intro first _
      rw [known]
      exact counted
    · intro page held
      refine lists.full page ?_
      rw [List.dropLast_cons_of_ne_nil some]
      exact List.mem_cons_of_mem result held
    · exact fun page held => lists.filled page (List.mem_of_mem_tail held)
  · intro lists
    obtain ⟨first, rest, rfl⟩ := List.exists_cons_of_ne_nil lists.some
    have counted := lists.counted first rfl
    refine ⟨List.cons_ne_nil _ _, risen.mpr lists.rising, ?_, ?_, ?_⟩
    · intro page same
      cases same
      rw [together, counted, known]
    · intro page held
      rw [List.dropLast_cons_of_ne_nil lists.some] at held
      rcases List.mem_cons.mp held with rfl | later
      · exact full
      · exact lists.full page later
    · intro page held
      rcases List.mem_cons.mp held with rfl | later
      · intro none
        cases rest with
        | nil =>
          rw [List.flatMap_singleton, none, List.append_nil, known, ← expected] at counted
          omega
        | cons second others =>
          have enough := lists.full page List.mem_cons_self
          rw [none] at enough
          cases enough
      · exact lists.filled page later

theorem unseen_more {next : FetchProgress} {result : EntryResultSetDto}
    (turn : fetchPage progress result = .ok (.more next))
    (unseen : ∀ id ∈ progress.seen, id ≤ progress.afterEntryId) :
    ∀ id ∈ next.seen, id ≤ next.afterEntryId := by
  obtain ⟨⟨appended, rising⟩, expected, missing, full, _⟩ := fetchPage_more turn
  rw [appended, expected] at missing
  obtain ⟨other, again, seen⟩ := fetchPage_of_missing rising unseen missing full
  cases turn.symm.trans again
  exact seen

/-- A fetch returns exactly when its answers are pages that bring it to its end; by
induction on the bodies, one turn at a time. -/
theorem returns_fetchFrom_iff {bodies : List Json} (answers : Bodies http base progress state bodies)
    (unseen : ∀ id ∈ progress.seen, id ≤ progress.afterEntryId) :
    (∃ found, (fetchFrom http.api base progress state).1 = .ok found) ↔
      ∃ pages, bodies.mapM EntryResultSetDto.decode = some pages ∧ ListsFrom progress pages := by
  induction answers with
  | failed asked =>
    rw [fetchFrom_turn, entries_of_failed asked]
    refine iff_of_false (fun ⟨_, absurd⟩ => (by cases absurd)) ?_
    rintro ⟨pages, none, lists⟩
    cases none
    exact lists.some rfl
  | @last progress state after body asked stops =>
    rw [fetchFrom_turn]
    cases decoded : EntryResultSetDto.decode body with
    | none =>
      rw [entries_of_refused asked decoded]
      refine iff_of_false (fun ⟨_, absurd⟩ => (by cases absurd)) ?_
      rintro ⟨pages, absurd, _⟩
      simp [decoded] at absurd
    | some result =>
      rw [entries_of_decoded asked decoded]
      dsimp only
      have alone : (∃ pages, [body].mapM EntryResultSetDto.decode = some pages ∧
          ListsFrom progress pages) ↔ ListsFrom progress [result] := by
        simp [decoded]
      rw [alone, listsFrom_last unseen]
      cases turn : fetchPage progress result with
      | error failure =>
        exact iff_of_false (fun ⟨_, absurd⟩ => (by cases absurd)) fun ⟨_, _, absurd⟩ => (by cases absurd)
      | ok outcome =>
        cases outcome with
        | complete entries total => exact iff_of_true ⟨_, rfl⟩ ⟨_, _, rfl⟩
        | more next => exact absurd turn (stops result next decoded)
  | @more progress next state after body result bodies asked decoded turn answers ih =>
    rw [fetchFrom_turn, entries_of_decoded asked decoded]
    dsimp only
    rw [turn]
    dsimp only
    rw [ih (unseen_more turn unseen)]
    constructor
    · rintro ⟨pages, read, lists⟩
      exact ⟨result :: pages, by simp [decoded, read], (listsFrom_more turn).mpr lists⟩
    · rintro ⟨pages, read, lists⟩
      rw [List.mapM_cons, decoded] at read
      cases others : bodies.mapM EntryResultSetDto.decode with
      | none => simp [others] at read
      | some later =>
        rw [others] at read
        cases read
        exact ⟨later, rfl, (listsFrom_more turn).mp lists⟩

end Fetch
/-! ## Malformed answers -/

/-- A malformed answer that a fetch takes for a good one: the only answer, and blank, or a
later one without a total among pages that list the first one's total. -/
def Overlooked (bodies : List Json) : Prop :=
  (∃ body, bodies = [body] ∧ Blank body) ∨
    ∃ pages, bodies.mapM EntryResultSetDto.decode = some pages ∧ ListsFrom .start pages ∧
      ∃ body ∈ bodies.tail, Lacks body "total"

theorem decoded_of_mem {bodies : List Json} {pages : List EntryResultSetDto} {body : Json}
    (read : bodies.mapM EntryResultSetDto.decode = some pages) (held : body ∈ bodies) :
    ∃ page ∈ pages, EntryResultSetDto.decode body = some page := by
  induction bodies generalizing pages with
  | nil => cases held
  | cons first rest ih =>
    rw [List.mapM_cons] at read
    obtain ⟨page, decoded, read⟩ := Option.bind_eq_some_iff.mp read
    obtain ⟨others, later, same⟩ := Option.bind_eq_some_iff.mp read
    cases same
    rcases List.mem_cons.mp held with rfl | held
    · exact ⟨page, List.mem_cons_self, decoded⟩
    · obtain ⟨found, listed, decoded⟩ := ih later held
      exact ⟨found, List.mem_cons_of_mem page listed, decoded⟩

theorem length_of_decoded {bodies : List Json} {pages : List EntryResultSetDto}
    (read : bodies.mapM EntryResultSetDto.decode = some pages) : bodies.length = pages.length := by
  induction bodies generalizing pages with
  | nil =>
    cases read
    rfl
  | cons first rest ih =>
    rw [List.mapM_cons] at read
    obtain ⟨page, _, read⟩ := Option.bind_eq_some_iff.mp read
    obtain ⟨others, later, same⟩ := Option.bind_eq_some_iff.mp read
    cases same
    rw [List.length_cons, List.length_cons, ih later]

/-- A page that lacks a member starts no listing but the empty one, for its total and its
entries do not go together otherwise. -/
theorem ListsFrom.alone {first : EntryResultSetDto} {rest : List EntryResultSetDto}
    (lists : ListsFrom .start (first :: rest)) (lacks : first.total = 0 ∨ first.entries = []) :
    rest = [] ∧ first = { total := 0, entries := [] } := by
  have counted : ((first.entries ++ rest.flatMap (·.entries)).length : Int) = first.total :=
    lists.counted first rfl
  have alone : rest = [] := by
    by_contra more
    obtain ⟨second, others, rfl⟩ := List.exists_cons_of_ne_nil more
    have enough := lists.full first List.mem_cons_self
    unfold browsePageSize at enough
    rcases lacks with none | none
    · rw [none, List.length_append] at counted
      omega
    · rw [none] at enough
      cases enough
  subst alone
  rw [List.flatMap_nil, List.append_nil] at counted
  obtain ⟨total, entries⟩ := first
  rcases lacks with none | none
  · subst none
    exact ⟨rfl, by simpa using counted⟩
  · subst none
    exact ⟨rfl, by simpa using counted.symm⟩

theorem lists_iff_overlooked {bodies : List Json} (malformed : ∃ body ∈ bodies, Malformed body) :
    (∃ pages, bodies.mapM EntryResultSetDto.decode = some pages ∧ ListsFrom .start pages) ↔
      Overlooked bodies := by
  constructor
  · rintro ⟨pages, read, lists⟩
    obtain ⟨body, held, lacks⟩ := malformed
    cases bodies with
    | nil => cases held
    | cons first later =>
      have taken := read
      rw [List.mapM_cons] at read
      obtain ⟨top, opening, read⟩ := Option.bind_eq_some_iff.mp read
      obtain ⟨rest, others, same⟩ := Option.bind_eq_some_iff.mp read
      cases same
      rcases List.mem_cons.mp held with rfl | later
      · obtain ⟨alone, empty⟩ := lists.alone
          (lacks.imp (total_of_lacks · opening) (entries_of_lacks · opening))
        subst alone
        refine .inl ⟨body, ?_, blank_iff.mpr (empty ▸ opening)⟩
        rw [← List.length_eq_zero_iff.mp (length_of_decoded others)]
      · obtain ⟨page, listed, decoded⟩ := decoded_of_mem others later
        refine .inr ⟨_, taken, lists, body, later, lacks.resolve_right fun none => ?_⟩
        exact lists.filled page listed (entries_of_lacks none decoded)
  · rintro (⟨body, rfl, blank⟩ | ⟨pages, read, lists, _⟩)
    · refine ⟨[{ total := 0, entries := [] }], by simp [blank_iff.mp blank], ?_⟩
      rw [listsFrom_last fun _ absurd => (by simp [FetchProgress.start] at absurd)]
      exact ⟨[], 0, rfl⟩
    · exact ⟨pages, read, lists⟩

end FluxBar
