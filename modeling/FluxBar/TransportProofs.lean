import FluxBar.Transport
import FluxBar.Snapshot
import FluxBar.ClientModels
import Mathlib.Data.List.Induction

/-! What the macOS client reads of the snapshots the core writes, and of the
selection that goes back and forth with them. -/
namespace FluxBar
open JsonFormat Transport

/-! ## Snapshots -/

/-- What the client makes of an entry. The member `comments_url` has no property. -/
def receivedArticle (entry : Entry) : Client.Article where
  id := entry.id
  title := entry.title
  url := entry.url
  commentsURL := none
  feedID := entry.feedId
  feedName := entry.feedName
  categoryID := if entry.categoryId = 0 then none else some entry.categoryId
  publishedAt := entry.publishedAtRfc3339
  preview := entry.preview
  imageURL := if entry.imageUrl.isEmpty then none else some entry.imageUrl
  status := entry.status.asStr
  starred := entry.starred

def receivedFeed (feed : Feed) : Client.Feed where
  id := feed.id
  title := feed.title
  categoryID := feed.categoryId
  unreadCount := feed.unreadCount

def receivedCategory (category : Category) : Client.FeedCategory where
  id := category.id
  title := category.title
  unreadCount := category.unreadCount
  feeds := category.feeds.map receivedFeed

/-- What the client makes of a selection. -/
def receivedSelection (selection : SelectionDto) : Client.ArticleSelection where
  kind := selection.kind
  id := if selection.id = 0 then none else some selection.id
  unreadOnly := if selection.unreadOnly then some true else none

def receivedSnapshot (data : SnapshotData) : Client.BrowseSnapshot where
  version := data.version
  selection := receivedSelection (selectionDto data.selection)
  entries := data.entries.map receivedArticle
  categories := data.categories.map receivedCategory
  total := data.total
  unreadTotal := data.unreadTotal
  starredTotal := data.starredTotal

theorem decode_selectionDto (selection : SelectionDto) :
    Client.ArticleSelection.decode selection.encode = some (receivedSelection selection) := by
  unfold Client.ArticleSelection.decode SelectionDto.encode decodeMember decodeIfPresent
  simp only [find?_member, find?_member_other, find?_memberUnless, find?_memberUnless_other,
    find?_objectOf_nil, ne_eq, String.reduceEq, not_false_eq_true, Option.bind_some, asString]
  by_cases unscoped : selection.id = 0 <;> cases restricted : selection.unreadOnly <;>
    simp [unscoped, restricted, receivedSelection, nullable, asInt, asBool]

theorem decode_entryDto (entry : Entry) :
    Client.Article.decode (entryDto entry).encode = some (receivedArticle entry) := by
  unfold Client.Article.decode EntryDto.encode decodeMember decodeIfPresent
  simp only [find?_member, find?_member_other, find?_memberUnless, find?_memberUnless_other,
    find?_objectOf_nil, ne_eq, String.reduceEq, not_false_eq_true, Option.bind_some, asString, asInt,
    asBool, entryDto]
  by_cases unfiled : entry.categoryId = 0 <;> cases bare : entry.imageUrl.isEmpty <;>
    simp [unfiled, bare, receivedArticle, nullable, asInt, asString]

theorem decode_feedDto (feed : Feed) :
    Client.Feed.decode (feedDto feed).encode = some (receivedFeed feed) := by
  unfold Client.Feed.decode FeedDto.encode decodeMember
  simp [find?_member_other, asString, asInt, feedDto, receivedFeed]

theorem decode_categoryDto (category : Category) :
    Client.FeedCategory.decode (categoryDto category).encode = some (receivedCategory category) := by
  have feeds : asArray Client.Feed.decode
      (.array (category.feeds.map (FeedDto.encode ∘ feedDto))) =
      some (category.feeds.map receivedFeed) := asArray_map decode_feedDto category.feeds
  unfold Client.FeedCategory.decode CategoryDto.encode decodeMember
  simp [find?_member_other, asString, asInt, categoryDto, receivedCategory, feeds]

/-- A snapshot decodes precisely when it has categories; an empty navigation is left out of
the body, and the client asks for one. -/
theorem decode_assemble (data : SnapshotData) :
    Client.BrowseSnapshot.decode (assemble data).encode =
      if data.categories.isEmpty then none else some (receivedSnapshot data) := by
  have entries : asArray Client.Article.decode
      (.array (data.entries.map (EntryDto.encode ∘ entryDto))) =
      some (data.entries.map receivedArticle) := asArray_map decode_entryDto data.entries
  have categories : asArray Client.FeedCategory.decode
      (.array (data.categories.map (CategoryDto.encode ∘ categoryDto))) =
      some (data.categories.map receivedCategory) := asArray_map decode_categoryDto data.categories
  unfold Client.BrowseSnapshot.decode BrowseSnapshot.encode decodeMember
  cases none : data.categories.isEmpty with
  | true => simp [find?_member_other, asInt, asArray, assemble, none, decode_selectionDto]
  | false =>
    simp [find?_member_other, asInt, assemble, none, decode_selectionDto, entries, categories,
      receivedSnapshot]

/-- A response with a snapshot decodes with it, or not at all, whatever error or receipt
goes along. -/
theorem decode_snapshotResponse (data : SnapshotData) (error : String) (receipt : Option Receipt) :
    Client.CoreResponse.decode { snapshotResponse data with error, receipt }.encode =
      if data.categories.isEmpty then none else some {
        ok := true
        error := if error.isEmpty then none else some error
        text := none
        snapshot := some (receivedSnapshot data)
        receipt := receipt.map fun receipt => ⟨receipt.id, receipt.count⟩ } := by
  have decoded := decode_assemble data
  have shape : ∀ json : Json, json = (assemble data).encode →
      nullable Client.BrowseSnapshot.decode json =
        (Client.BrowseSnapshot.decode (assemble data).encode).map some := by
    rintro _ rfl
    rfl
  have receipts : ∀ receipt : Receipt, nullable Client.MutationReceipt.decode receipt.encode =
      some (some ⟨receipt.id, receipt.count⟩) := by
    intro receipt
    unfold nullable Receipt.encode Client.MutationReceipt.decode decodeMember
    simp [objectOf, member, Json.find?, asString, asInt]
  unfold Client.CoreResponse.decode Response.encode decodeMember decodeIfPresent
  simp only [find?_member, find?_member_other, find?_memberUnless, find?_memberUnless_other,
    find?_memberIfSome, find?_memberIfSome_other, find?_objectOf_nil, ne_eq, String.reduceEq,
    not_false_eq_true, Option.bind_some, asBool, snapshotResponse, Option.elim_some, shape, decoded]
  have texts : ∀ text, nullable asString (.string text) = some (some text) := fun _ => rfl
  cases none : data.categories.isEmpty <;> cases silent : error.isEmpty <;> cases receipt <;>
    simp [texts, receipts]

/-! ## Agreement -/

namespace Client

/-- A decoded article has the values of an entry; `nil` stands for what an empty
text or a zero was omitted for. -/
structure Article.StandsFor (article : Article) (entry : Entry) : Prop where
  id : article.id = entry.id
  title : article.title = entry.title
  url : article.url = entry.url
  commentsURL : article.commentsURL.getD "" = entry.commentsUrl
  feedID : article.feedID = entry.feedId
  feedName : article.feedName = entry.feedName
  categoryID : article.categoryID.getD 0 = entry.categoryId
  publishedAt : article.publishedAt = entry.publishedAtRfc3339
  preview : article.preview = entry.preview
  imageURL : article.imageURL.getD "" = entry.imageUrl
  status : article.status = entry.status.asStr
  starred : article.starred = entry.starred

/-- A feed of the client has the values of the core's. -/
structure Feed.StandsFor (feed : Feed) (held : FluxBar.Feed) : Prop where
  id : feed.id = held.id
  title : feed.title = held.title
  categoryID : feed.categoryID = held.categoryId
  unreadCount : feed.unreadCount = held.unreadCount

/-- A category of the client has the values of the core's, feed by feed. -/
structure FeedCategory.StandsFor (category : FeedCategory) (held : Category) : Prop where
  id : category.id = held.id
  title : category.title = held.title
  unreadCount : category.unreadCount = held.unreadCount
  feeds : List.Forall₂ Feed.StandsFor category.feeds held.feeds

/-- A snapshot of the client has the values of the core's: entries and categories one by
one, in their order, and the three figures. -/
structure BrowseSnapshot.StandsFor (snapshot : BrowseSnapshot) (data : SnapshotData) : Prop where
  version : snapshot.version = data.version
  entries : List.Forall₂ Article.StandsFor snapshot.entries data.entries
  categories : List.Forall₂ FeedCategory.StandsFor snapshot.categories data.categories
  total : snapshot.total = data.total
  unreadTotal : snapshot.unreadTotal = data.unreadTotal
  starredTotal : snapshot.starredTotal = data.starredTotal

end Client

/-- Only the comments link of an entry is not read back. -/
theorem receivedArticle_standsFor_iff (entry : Entry) :
    (receivedArticle entry).StandsFor entry ↔ entry.commentsUrl = "" := by
  constructor
  · intro stands
    exact stands.commentsURL.symm
  · intro bare
    have category : (receivedArticle entry).categoryID.getD 0 = entry.categoryId := by
      by_cases unfiled : entry.categoryId = 0 <;> simp [receivedArticle, unfiled]
    have image : (receivedArticle entry).imageURL.getD "" = entry.imageUrl := by
      by_cases none : entry.imageUrl = "" <;> simp [receivedArticle, none]
    exact ⟨rfl, rfl, rfl, bare.symm, rfl, rfl, category, rfl, rfl, image, rfl, rfl⟩

theorem receivedCategory_standsFor (category : Category) :
    (receivedCategory category).StandsFor category := by
  refine ⟨rfl, rfl, rfl, ?_⟩
  exact List.forall₂_map_left_iff.mpr (List.forall₂_same.mpr fun _ _ => ⟨rfl, rfl, rfl, rfl⟩)

theorem receivedSnapshot_standsFor_iff (data : SnapshotData) :
    (receivedSnapshot data).StandsFor data ↔ ∀ entry ∈ data.entries, entry.commentsUrl = "" := by
  have entries : List.Forall₂ Client.Article.StandsFor (receivedSnapshot data).entries data.entries ↔
      ∀ entry ∈ data.entries, entry.commentsUrl = "" := by
    refine List.forall₂_map_left_iff.trans (List.forall₂_same.trans ?_)
    exact forall₂_congr fun entry _ => receivedArticle_standsFor_iff entry
  constructor
  · intro stands
    exact entries.mp stands.entries
  · intro bare
    refine ⟨rfl, entries.mpr bare, ?_, rfl, rfl, rfl⟩
    exact List.forall₂_map_left_iff.mpr
      (List.forall₂_same.mpr fun category _ => receivedCategory_standsFor category)

/-- The response decodes, and its snapshot has the values of the core. -/
def ReadsBack (data : SnapshotData) (error : String) (receipt : Option Receipt) : Prop :=
  ∃ response snapshot,
    Client.CoreResponse.decode { snapshotResponse data with error, receipt }.encode =
      some response ∧ response.snapshot = some snapshot ∧ snapshot.StandsFor data

/-- The client reads back what the core assembled exactly when there is a category and no
entry has a comments link: without the first the response does not decode, and the second is
written under a name that the client does not read. -/
theorem reads_back_iff (data : SnapshotData) (error : String) (receipt : Option Receipt) :
    ReadsBack data error receipt ↔
      data.categories ≠ [] ∧ ∀ entry ∈ data.entries, entry.commentsUrl = "" := by
  unfold ReadsBack
  rw [decode_snapshotResponse, ← receivedSnapshot_standsFor_iff]
  cases listed : data.categories with
  | nil => simp
  | cons category rest => simp

/-- What a store shows before its first refresh. -/
def emptySnapshot : SnapshotData where
  version := 1
  selection := .all 0 true
  entries := []
  categories := []
  total := 0
  unreadTotal := 0
  starredTotal := 0

/-- The first response a client is given does not decode: it has no categories yet. -/
theorem empty_tree_not_read :
    (Store.empty.ensureAccount "account" "server").localSnapshot .storage "account" (.all 0 true)
      true [] = .ok emptySnapshot ∧ ¬ ReadsBack emptySnapshot "" none := by
  constructor
  · have navigation : (Store.empty.ensureAccount "account" "server").navigation .storage "account" =
        .ok ([], 0) := by
      simp [Store.navigation, Store.ensureAccount, Store.empty, orderByTitle, Scan.storage]
      rfl
    have entries : (Store.empty.ensureAccount "account" "server").snapshotEntries .storage "account"
        (.all 0 true) true [] = [] := by
      simp [Store.snapshotEntries, Store.ensureAccount, Store.empty, Scan.storage]
      rfl
    have normal : normalizeSelection (.all 0 true) = .all 0 true := rfl
    simp only [Store.localSnapshot, normal, navigation, entries]
    rfl
  · rintro ⟨response, _, decoded, _⟩
    rw [decode_snapshotResponse] at decoded
    cases decoded

/-! ## Selections -/

/-- The selection the core works with when the client sends one, through the request and its
decoding. -/
def received (sent : Client.ArticleSelection) : Option Selection :=
  (parseSelection sent.encode).map WireSelection.toDomain

section Requests
variable (wire : WireSelection)

@[simp] theorem visitMember_kind (kind : String) :
    visitMember wire ("kind", .string kind) = some { wire with kind } := by
  have same : eqIgnoreAsciiCase "kind" "kind" = true := by decide
  simp [visitMember, same, nullable, asString]

@[simp] theorem visitMember_id (id : Int) :
    visitMember wire ("id", .int id) = if InI64 id then some { wire with id } else none := by
  have kind : eqIgnoreAsciiCase "id" "kind" = false := by decide
  have same : eqIgnoreAsciiCase "id" "id" = true := by decide
  by_cases fits : InI64 id
  · simp [visitMember, kind, same, nullable, asI64_int, fits]
  · simp [visitMember, kind, same, nullable, asI64_int_beyond, fits]

@[simp] theorem visitMember_unreadOnly (unreadOnly : Bool) :
    visitMember wire ("unreadOnly", .bool unreadOnly) = some { wire with unreadOnly } := by
  have kind : eqIgnoreAsciiCase "unreadOnly" "kind" = false := by decide
  have id : eqIgnoreAsciiCase "unreadOnly" "id" = false := by decide
  have same : eqIgnoreAsciiCase "unreadOnly" "unreadOnly" = true := by decide
  simp [visitMember, kind, id, same, nullable, asBool]

theorem decode_canonical (fits : InI64 wire.id) :
    WireSelection.decode wire.canonical = some wire := by
  simp [WireSelection.decode, WireSelection.canonical, fits]

/-- A turn of the visitor leaves an id of 64 bits. -/
theorem visitMember_fits {wire : WireSelection} {entry : String × Json} {after : WireSelection}
    (fits : InI64 wire.id) (visited : visitMember wire entry = some after) : InI64 after.id := by
  unfold visitMember at visited
  split_ifs at visited with kind id unreadOnly
  · obtain ⟨_, _, rfl⟩ := Option.map_eq_some_iff.mp visited
    exact fits
  · obtain ⟨read, decoded, rfl⟩ := Option.map_eq_some_iff.mp visited
    cases read with
    | none => exact inI64_zero
    | some value => exact (asI64_eq_some.mp (decode_of_nullable decoded)).2
  · obtain ⟨_, _, rfl⟩ := Option.map_eq_some_iff.mp visited
    exact fits
  · cases visited
    exact fits

theorem visitMembers_fits {members : List (String × Json)} {held wire : WireSelection}
    (fits : InI64 held.id) (visited : members.foldlM visitMember held = some wire) :
    InI64 wire.id := by
  induction members generalizing held with
  | nil =>
    cases visited
    exact fits
  | cons entry rest ih =>
    rw [List.foldlM_cons] at visited
    obtain ⟨next, turned, visited⟩ := Option.bind_eq_some_iff.mp visited
    exact ih (visitMember_fits fits turned) visited

theorem decode_fits {json : Json} {wire : WireSelection}
    (decoded : WireSelection.decode json = some wire) : InI64 wire.id := by
  cases json with
  | object members => exact visitMembers_fits inI64_zero decoded
  | null | int | bool | string | array => cases decoded

/-- Rewriting a selection into canonical members does not change it. -/
theorem parseSelection_object (members : List (String × Json)) :
    parseSelection (.object members) = WireSelection.decode (.object members) := by
  have present : nullable WireSelection.decode (.object members) =
      (WireSelection.decode (.object members)).map some := rfl
  unfold parseSelection
  rw [present]
  cases decoded : WireSelection.decode (.object members) with
  | none => rfl
  | some wire => simp [decode_canonical wire (decode_fits decoded)]

end Requests

/-- Members the client omits read as zero and as not restricted. An id beyond 64 bits,
which the client has none of, would be refused. -/
theorem received_eq (sent : Client.ArticleSelection) :
    received sent = if InI64 (sent.id.getD 0) then
      some (.normalize sent.kind (sent.id.getD 0) (sent.unreadOnly.getD false)) else none := by
  obtain ⟨kind, id, unreadOnly⟩ := sent
  unfold received Client.ArticleSelection.encode objectOf
  rw [parseSelection_object]
  have zero := inI64_zero
  cases id with
  | none =>
    cases unreadOnly <;>
      simp [member, memberIfSome, WireSelection.decode, WireSelection.toDomain, zero]
  | some id =>
    by_cases fits : InI64 id <;> cases unreadOnly <;>
      simp [member, memberIfSome, WireSelection.decode, WireSelection.toDomain, fits]

/-- A normal selection is what its wire form normalizes to. -/
theorem normalize_selectionDto {selection : Selection} (normal : selection.Normal) :
    Selection.normalize (selectionDto selection).kind (selectionDto selection).id
      (selectionDto selection).unreadOnly = selection := by
  cases selection with
  | all | unread | starred => simp [selectionDto, Selection.normalize]
  | category id unreadOnly | feed id unreadOnly =>
    have positive : 0 < id := normal
    simp [selectionDto, Selection.normalize, positive]

/-- A normal selection comes back from the client as it was, with an id that fits. -/
theorem received_receivedSelection {selection : Selection} (normal : selection.Normal)
    (fits : InI64 (selectionDto selection).id) :
    received (receivedSelection (selectionDto selection)) = some selection := by
  have back : ∀ wire : SelectionDto, InI64 wire.id → received (receivedSelection wire) =
      some (.normalize wire.kind wire.id wire.unreadOnly) := by
    intro wire fits
    have zero := inI64_zero
    rw [received_eq]
    by_cases unscoped : wire.id = 0 <;> cases restricted : wire.unreadOnly <;>
      simp [receivedSelection, unscoped, restricted, fits, zero]
  rw [back _ fits, normalize_selectionDto normal]

theorem selectionDto_normalize_fits {kind : String} {id : Int} {unreadOnly : Bool}
    (fits : InI64 id) : InI64 (selectionDto (.normalize kind id unreadOnly)).id := by
  unfold Selection.normalize
  split_ifs <;> first | exact fits | exact inI64_zero

/-- What the core makes of a selection comes back as it was, and where the client
has a filter it shows the one the core applied. -/
def SurvivesLoop (sent : Client.ArticleSelection) : Prop :=
  ∃ selection back, received sent = some selection ∧
    Client.ArticleSelection.decode (selectionDto selection).encode = some back ∧
    received back = some selection ∧
    (selectionKind selection ∈ ["all", "category", "feed"] →
      back.showsUnreadOnly = selection.isUnreadOnly)

/-- The filter is shown as applied, or there is none, unless the flag was omitted. -/
theorem showsUnreadOnly_iff (selection : Selection) :
    (selectionKind selection ∈ ["all", "category", "feed"] →
      (receivedSelection (selectionDto selection)).showsUnreadOnly = selection.isUnreadOnly) ↔
    (selection.isUnreadOnly = true ∨ selection.isStarred = true) := by
  cases selection <;> rename_i unreadOnly <;> cases unreadOnly <;>
    simp [selectionKind, receivedSelection, selectionDto, Selection.isUnreadOnly,
      Selection.isStarred, Client.ArticleSelection.showsUnreadOnly]

/-- A sent selection survives unless it asks a list with a filter for every article, or
carries an id that is no integer of 64 bits. What the client shows of the answer is then the
list it asked for. -/
theorem survives_loop_iff (sent : Client.ArticleSelection) : SurvivesLoop sent ↔
    InI64 (sent.id.getD 0) ∧ ¬ (sent.unreadOnly.getD false = false ∧
      (sent.kind = "all" ∨ (sent.kind = "category" ∨ sent.kind = "feed") ∧ 0 < sent.id.getD 0)) := by
  by_cases fits : InI64 (sent.id.getD 0)
  swap
  · refine iff_of_false ?_ fun both => fits both.1
    rintro ⟨_, _, taken, _⟩
    rw [received_eq, if_neg fits] at taken
    cases taken
  rw [and_iff_right fits]
  have reduced : SurvivesLoop sent ↔
      ((Selection.normalize sent.kind (sent.id.getD 0) (sent.unreadOnly.getD false)).isUnreadOnly =
          true ∨
        (Selection.normalize sent.kind (sent.id.getD 0) (sent.unreadOnly.getD false)).isStarred =
          true) := by
    rw [← showsUnreadOnly_iff]
    unfold SurvivesLoop
    simp [received_eq sent, fits, decode_selectionDto,
      received_receivedSelection (Selection.normalize_normal _ _ _)
        (selectionDto_normalize_fits fits)]
  rw [reduced]
  unfold Selection.normalize
  split_ifs with all unread starred category feed
  · simp [Selection.isUnreadOnly, Selection.isStarred, all]
  · simp [Selection.isUnreadOnly, unread]
  · simp [Selection.isStarred, starred]
  · simp [Selection.isUnreadOnly, Selection.isStarred, category]
  · simp [Selection.isUnreadOnly, Selection.isStarred, feed]
  · refine iff_of_true (.inl rfl) ?_
    rintro ⟨_, kind | ⟨kind | kind, positive⟩⟩
    · exact all kind
    · exact category ⟨kind, positive⟩
    · exact feed ⟨kind, positive⟩

/-- Every article is asked for, and the filter shows unread ones only, because `false` is
left out of the answer and read as filtered. -/
theorem unfiltered_list_shown_filtered : ¬ ∀ sent, SurvivesLoop sent := by
  intro survives
  obtain ⟨selection, back, sent, decoded, -, shown⟩ := survives ⟨"all", none, some false⟩
  cases sent
  cases decoded
  exact absurd (shown (by decide)) (by decide)

/-! ## Members of a request -/

/-- A member that is inserted is found under its canonical key. -/
theorem find?_insertMember {object after : List (String × Json)} {entry : String × Json}
    (inserted : insertMember object entry = some after) :
    (Json.object after).find? (canonicalKey entry.1) =
      canonicalValue (canonicalKey entry.1) entry.2 := by
  obtain ⟨value, rewritten, same⟩ := Option.map_eq_some_iff.mp inserted
  cases same
  simp [Json.find?, rewritten]

/-- It hides no member under another key. -/
theorem find?_insertMember_other {object after : List (String × Json)} {entry : String × Json}
    {key : String} (inserted : insertMember object entry = some after)
    (apart : canonicalKey entry.1 ≠ key) :
    (Json.object after).find? key = (Json.object object).find? key := by
  obtain ⟨value, _, same⟩ := Option.map_eq_some_iff.mp inserted
  cases same
  unfold Json.find?
  simp only [List.find?_cons, decide_eq_false apart, List.find?_filter]
  congr 2
  funext other
  by_cases here : other.1 = key
  · simp [here, Ne.symm apart]
  · simp [here]

/-- The names of the fields are canonical. -/
theorem canonicalKey_field : ∀ field ∈ requestFields, canonicalKey field = field := by decide

namespace Transport

theorem eqIgnoreAsciiCase_iff {left right : String} : eqIgnoreAsciiCase left right = true ↔
    left.toList.map Char.toLower = right.toList.map Char.toLower := by
  simp [eqIgnoreAsciiCase]

/-- A member is read under the name of a field exactly when its key is that name up to case. -/
theorem canonicalKey_eq_iff {name : String} (field : name ∈ requestFields) (key : String) :
    canonicalKey key = name ↔ eqIgnoreAsciiCase name key = true := by
  have itself : eqIgnoreAsciiCase name name = true := eqIgnoreAsciiCase_iff.mpr rfl
  constructor
  · intro same
    unfold canonicalKey at same
    cases matched : requestFields.find? fun field => eqIgnoreAsciiCase field key with
    | some found =>
      rw [matched, Option.getD_some] at same
      subst same
      simpa using List.find?_some matched
    | none =>
      -- a name of a field that no field matched
      rw [matched, Option.getD_none] at same
      subst same
      exact absurd itself (by simpa using List.find?_eq_none.mp matched key field)
  · intro recased
    have alike : (fun field => eqIgnoreAsciiCase field key) =
        fun field => eqIgnoreAsciiCase field name := by
      funext other
      unfold eqIgnoreAsciiCase
      rw [eqIgnoreAsciiCase_iff.mp recased]
    have canonical := canonicalKey_field name field
    unfold canonicalKey at canonical ⊢
    rw [alike]
    cases matched : requestFields.find? fun field => eqIgnoreAsciiCase field name with
    | some found => simpa [matched] using canonical
    | none => exact absurd itself (by simpa using List.find?_eq_none.mp matched name field)

/-- The values of the members under a name, in any case. -/
def named (name : String) (members : List (String × Json)) : List Json :=
  (members.filter fun entry => eqIgnoreAsciiCase name entry.1).map Prod.snd

section Named
variable {name : String} {members : List (String × Json)} {entry : String × Json}

theorem named_append (left right : List (String × Json)) :
    named name (left ++ right) = named name left ++ named name right := by
  simp [named]

theorem named_concat (matched : eqIgnoreAsciiCase name entry.1 = true) :
    named name (members ++ [entry]) = named name members ++ [entry.2] := by
  simp [named, matched]

theorem named_concat_other (apart : ¬ eqIgnoreAsciiCase name entry.1 = true) :
    named name (members ++ [entry]) = named name members := by
  simp [named, apart]

theorem mem_named {value : Json} : value ∈ named name members ↔
    ∃ entry ∈ members, eqIgnoreAsciiCase name entry.1 = true ∧ entry.2 = value := by
  simp [named]

end Named

/-- Each field is found as the last member under its name, rewritten; by induction on the
members from the end. -/
theorem find?_insertMembers {members object : List (String × Json)} {name : String}
    (inserted : members.foldlM insertMember [] = some object) (field : name ∈ requestFields) :
    (Json.object object).find? name =
      (named name members).getLast?.bind (canonicalValue name) := by
  induction members using List.reverseRecOn generalizing object with
  | nil =>
    cases inserted
    rfl
  | append_singleton earlier entry ih =>
    rw [List.foldlM_append] at inserted
    obtain ⟨before, collected, inserted⟩ := Option.bind_eq_some_iff.mp inserted
    replace inserted : insertMember before entry = some object := by simpa using inserted
    by_cases matched : eqIgnoreAsciiCase name entry.1 = true
    · have canonical := (canonicalKey_eq_iff field entry.1).mpr matched
      have here := find?_insertMember inserted
      rw [canonical] at here
      simp [here, named_concat matched]
    · have apart : canonicalKey entry.1 ≠ name :=
        fun same => matched ((canonicalKey_eq_iff field entry.1).mp same)
      rw [find?_insertMember_other inserted apart, named_concat_other matched]
      exact ih collected

end Transport

end FluxBar
