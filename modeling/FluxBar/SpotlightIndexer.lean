import FluxBar.BrowserStore
import FluxBar.Library.Dictionary
import FluxBar.NavigationProofs
import FluxBar.Library.TransitionSystem

/-! The search index of the macOS client: the catalog of feeds and categories, the items
`SpotlightIndexer` makes of it, its updates of the index, and the route a found item opens. An
update deletes what is indexed, then indexes the items; each of the two is answered later, on a
queue of its own, and from there back on the main one. -/
namespace FluxBar.Client
open Transition Relational

/-! ## The catalog -/

/-- `NavigationCatalog.CategoryDestination`. -/
structure CategoryDestination where
  id : Int
  title : String
  deriving DecidableEq, Repr

/-- `NavigationCatalog.FeedDestination`. -/
structure FeedDestination where
  id : Int
  title : String
  categoryID : Int
  categoryTitle : String
  deriving DecidableEq, Repr

/-- `NavigationCatalog`: where the app can be opened at. -/
structure NavigationCatalog where
  categories : List CategoryDestination
  feeds : List FeedDestination
  deriving DecidableEq, Repr

/-! ## Items -/

/-- `CSSearchableItem`, with the attributes set; items of one identifier replace each other.
-/
structure SearchableItem where
  uniqueIdentifier : String
  title : String
  contentDescription : String
  keywords : List String
  deriving DecidableEq, Repr

/-- `searchableItem`. -/
def searchableItem (identifier title description : String) (keywords : List String) :
    SearchableItem :=
  ⟨identifier, title, description, ["FluxBar"] ++ keywords⟩

/-- The items of `update`, under the two descriptions localized. -/
def NavigationCatalog.items (catalog : NavigationCatalog)
    (feedDescription categoryDescription : String) : List SearchableItem :=
  (catalog.feeds.map fun feed =>
    searchableItem s!"feed:{feed.id}" feed.title feedDescription [feed.categoryTitle]) ++
  catalog.categories.map fun category =>
    searchableItem s!"category:{category.id}" category.title categoryDescription []

/-- `split(separator: ":", maxSplits: 1)`: empty parts are left out, and the second part may
hold more colons. -/
def splitOnce (text : List Char) : List (List Char) :=
  let text := text.dropWhile (· = ':')
  let first := text.takeWhile (· ≠ ':')
  let rest := (text.dropWhile (· ≠ ':')).drop 1
  [first, rest].filter fun part => !part.isEmpty

/-- `Int64(_:)`, which refuses what is beyond 64 bits. -/
def parseInt64 (text : String) : Option Int :=
  (parseI64 text).filter fun value => -9223372036854775808 ≤ value && value < 9223372036854775808

/-- `NavigationRoute(searchableIdentifier:)`. -/
def NavigationRoute.ofSearchableIdentifier (identifier : String) : Option NavigationRoute :=
  match splitOnce identifier.toList with
  | [kind, number] =>
    match parseInt64 (String.ofList number) with
    | none => none
    | some id =>
      if String.ofList kind = "feed" then some (.feed id)
      else if String.ofList kind = "category" then some (.category id)
      else none
  | _ => none

/-! ## Updates -/

/-- What is on its way for an update: a call of the index, or its answer on the main queue. -/
inductive IndexWork where
  | deleting (items : List SearchableItem)
  | deleted (items : List SearchableItem)
  | indexing (items : List SearchableItem)
  | indexed
  deriving DecidableEq, Repr

/-- The items of the domain in the index, by their identifiers. -/
abbrev SearchIndex := Dictionary String SearchableItem

/-- `indexSearchableItems`, once it has succeeded. -/
def SearchIndex.add (index : SearchIndex) (items : List SearchableItem) : SearchIndex :=
  items.foldl (fun index item => index.revise item.uniqueIdentifier fun _ => some item) index

/-- `SpotlightIndexer`, the index and what is on its way between them. The last three fields are
history: the items asked for last, those of the update begun last, and whether a call of that
update failed. -/
structure SpotlightIndexer where
  pendingItems : Option (List SearchableItem) := none
  isUpdating : Bool := false
  index : SearchIndex
  works : List IndexWork := []
  latest : Option (List SearchableItem) := none
  begun : Option (List SearchableItem) := none
  failed : Bool := false

namespace SpotlightIndexer
variable (indexer : SpotlightIndexer)

/-- `processNextUpdate`: the items that wait are taken up, unless an update is in progress.
-/
def processNextUpdate : SpotlightIndexer :=
  match indexer.pendingItems with
  | some items =>
    if indexer.isUpdating then indexer
    else { indexer with
      pendingItems := none
      isUpdating := true
      works := .deleting items :: indexer.works
      begun := some items
      failed := false }
  | none => indexer

/-- `finishUpdate`. -/
def finishUpdate : SpotlightIndexer := processNextUpdate { indexer with isUpdating := false }

/-- `update`: new items take the place of those that wait. -/
def update (items : List SearchableItem) : SpotlightIndexer :=
  processNextUpdate { indexer with pendingItems := some items, latest := some items }

/-- The completion of the deletion, on the main queue: without items the update is at its
end. -/
def afterDeletion (items : List SearchableItem) : SpotlightIndexer :=
  if items.isEmpty then indexer.finishUpdate
  else { indexer with works := .indexing items :: indexer.works }

/-- A call of the index that is carried out, or its answer being read. Of a call that fails the
completions take no notice, and nothing is known of what it left in the index. -/
inductive Answer : SpotlightIndexer → SpotlightIndexer → Prop where
  | delete {indexer : SpotlightIndexer} {left right : List IndexWork}
      {items : List SearchableItem} : indexer.works = left ++ .deleting items :: right →
      Answer indexer { indexer with index := .empty, works := left ++ .deleted items :: right }
  | failDelete {indexer : SpotlightIndexer} {left right : List IndexWork}
      {items : List SearchableItem} (index : SearchIndex) :
      indexer.works = left ++ .deleting items :: right →
      Answer indexer { indexer with
        index, failed := true, works := left ++ .deleted items :: right }
  | deleted {indexer : SpotlightIndexer} {left right : List IndexWork}
      {items : List SearchableItem} : indexer.works = left ++ .deleted items :: right →
      Answer indexer (afterDeletion { indexer with works := left ++ right } items)
  | add {indexer : SpotlightIndexer} {left right : List IndexWork}
      {items : List SearchableItem} : indexer.works = left ++ .indexing items :: right →
      Answer indexer { indexer with
        index := indexer.index.add items, works := left ++ .indexed :: right }
  | failAdd {indexer : SpotlightIndexer} {left right : List IndexWork}
      {items : List SearchableItem} (index : SearchIndex) :
      indexer.works = left ++ .indexing items :: right →
      Answer indexer { indexer with index, failed := true, works := left ++ .indexed :: right }
  | indexed {indexer : SpotlightIndexer} {left right : List IndexWork} :
      indexer.works = left ++ .indexed :: right →
      Answer indexer (finishUpdate { indexer with works := left ++ right })

/-- The steps of the indexer: a catalog comes, or a call of the index is answered, well or
with an error. -/
inductive Step : SpotlightIndexer → SpotlightIndexer → Prop where
  | update {indexer : SpotlightIndexer} (catalog : NavigationCatalog)
      (feedDescription categoryDescription : String) :
      Step indexer (indexer.update (catalog.items feedDescription categoryDescription))
  | answer {indexer after : SpotlightIndexer} : Answer indexer after → Step indexer after

end SpotlightIndexer

/-- The runs of an indexer; the index may hold what earlier sessions have left. -/
def spotlightIndexers : System SpotlightIndexer where
  initial indexer := ∃ index, indexer = { index }
  step := SpotlightIndexer.Step

/-! ## What is on its way -/

namespace SpotlightIndexer

/-- At most one call of the index or answer is on its way, and exactly while an update is in
progress; an update in progress holds the next back. Without a failure the index has come as far
as the update has. -/
structure Sound (indexer : SpotlightIndexer) : Prop where
  one : indexer.works.length = indexer.isUpdating.toNat
  pending : indexer.isUpdating = false → indexer.pendingItems = none
  latest : indexer.latest = indexer.pendingItems.or indexer.begun
  deleting : ∀ items, .deleting items ∈ indexer.works → indexer.begun = some items
  deleted : ∀ items, .deleted items ∈ indexer.works → indexer.begun = some items ∧
    (indexer.failed = false → indexer.index = .empty)
  indexing : ∀ items, .indexing items ∈ indexer.works → indexer.begun = some items ∧
    (indexer.failed = false → indexer.index = .empty)
  indexed : .indexed ∈ indexer.works → ∃ items, indexer.begun = some items ∧
    (indexer.failed = false → indexer.index = SearchIndex.add .empty items)
  rest : indexer.isUpdating = false → ∀ items, indexer.begun = some items →
    indexer.failed = false → indexer.index = SearchIndex.add .empty items

variable {indexer after : SpotlightIndexer}

/-- The next update begins, when none is in progress. -/
theorem sound_process (one : indexer.works.length = indexer.isUpdating.toNat)
    (latest : indexer.latest = indexer.pendingItems.or indexer.begun)
    (idle : indexer.isUpdating = false)
    (rest : ∀ items, indexer.begun = some items → indexer.failed = false →
      indexer.index = SearchIndex.add .empty items) : Sound indexer.processNextUpdate := by
  have none : indexer.works = [] := List.length_eq_zero_iff.mp (by rw [one, idle]; rfl)
  unfold processNextUpdate
  cases pending : indexer.pendingItems with
  | none =>
    dsimp only
    refine ⟨one, fun _ => pending, latest, ?_, ?_, ?_, ?_, fun _ => rest⟩ <;> simp [none]
  | some items =>
    dsimp only
    rw [if_neg (by simp [idle]), none]
    rw [pending] at latest
    refine ⟨rfl, fun absurd => (by cases absurd), latest, ?_, by simp, by simp, by simp,
      fun absurd => (by cases absurd)⟩
    intro other listed
    cases List.mem_singleton.mp listed
    rfl

/-- What is on its way while an update is in progress is one call or one answer. -/
theorem Sound.only (sound : Sound indexer) {left right : List IndexWork} {work : IndexWork}
    (underway : indexer.works = left ++ work :: right) :
    left = [] ∧ right = [] ∧ indexer.isUpdating = true := by
  have one := sound.one
  rw [underway, List.length_append, List.length_cons] at one
  cases busy : indexer.isUpdating with
  | false =>
    rw [busy] at one
    simp at one
  | true =>
    rw [busy] at one
    simp only [Bool.toNat_true] at one
    exact ⟨List.length_eq_zero_iff.mp (by omega), List.length_eq_zero_iff.mp (by omega), rfl⟩

theorem sound_update (sound : Sound indexer) (items : List SearchableItem) :
    Sound (indexer.update items) := by
  rcases Bool.eq_false_or_eq_true indexer.isUpdating with busy | idle
  · simp only [update, processNextUpdate, busy, if_true]
    exact ⟨sound.one.trans (by rw [busy]), fun idle => (by cases idle), rfl, sound.deleting,
      sound.deleted, sound.indexing, sound.indexed, fun idle => (by cases idle)⟩
  · exact sound_process sound.one rfl idle (sound.rest idle)

/-- An answer ends the update, and the items asked for meanwhile have their turn. An update
that did not fail leaves the index with exactly its items. -/
theorem sound_finish (sound : Sound indexer)
    (complete : ∀ items, indexer.begun = some items → indexer.failed = false →
      indexer.index = SearchIndex.add .empty items) :
    Sound (finishUpdate { indexer with works := [] }) :=
  sound_process rfl sound.latest rfl complete

/-- A call that has been made, or an answer read, leaves the next one alone on its way. -/
theorem sound_next (sound : Sound indexer) (busy : indexer.isUpdating = true) {index : SearchIndex}
    {failed : Bool} {work : IndexWork}
    (deleting : ∀ items, work ≠ .deleting items)
    (deleted : ∀ items, work = .deleted items → indexer.begun = some items ∧
      (failed = false → index = .empty))
    (indexing : ∀ items, work = .indexing items → indexer.begun = some items ∧
      (failed = false → index = .empty))
    (indexed : work = .indexed → ∃ items, indexer.begun = some items ∧
      (failed = false → index = SearchIndex.add .empty items)) :
    Sound { indexer with index, failed, works := [work] } where
  one := by rw [busy]; rfl
  pending idle := by cases busy.symm.trans idle
  latest := sound.latest
  deleting items listed := absurd (List.mem_singleton.mp listed).symm (deleting items)
  deleted items listed := deleted items (List.mem_singleton.mp listed).symm
  indexing items listed := indexing items (List.mem_singleton.mp listed).symm
  indexed listed := indexed (List.mem_singleton.mp listed).symm
  rest idle := by cases busy.symm.trans idle

theorem sound_answer (sound : Sound indexer) (answer : Answer indexer after) : Sound after := by
  cases answer with
  | @delete left right items underway =>
    obtain ⟨rfl, rfl, busy⟩ := sound.only underway
    have begun := sound.deleting items (by simp [underway])
    apply sound_next sound busy (by simp) ?_ (by simp) (by simp)
    rintro _ ⟨⟩
    exact ⟨begun, fun _ => rfl⟩
  | @failDelete left right items index underway =>
    obtain ⟨rfl, rfl, busy⟩ := sound.only underway
    have begun := sound.deleting items (by simp [underway])
    apply sound_next sound busy (by simp) ?_ (by simp) (by simp)
    rintro _ ⟨⟩
    exact ⟨begun, fun untroubled => (by cases untroubled)⟩
  | @deleted left right items underway =>
    obtain ⟨rfl, rfl, busy⟩ := sound.only underway
    obtain ⟨begun, cleared⟩ := sound.deleted items (by simp [underway])
    unfold afterDeletion
    split
    · rename_i nothing
      apply sound_finish sound
      intro other same untroubled
      cases begun.symm.trans same
      rw [cleared untroubled, List.isEmpty_iff.mp nothing]
      rfl
    · apply sound_next sound busy (by simp) (by simp) ?_ (by simp)
      rintro _ ⟨⟩
      exact ⟨begun, cleared⟩
  | @add left right items underway =>
    obtain ⟨rfl, rfl, busy⟩ := sound.only underway
    obtain ⟨begun, cleared⟩ := sound.indexing items (by simp [underway])
    apply sound_next sound busy (by simp) (by simp) (by simp) ?_
    exact fun _ => ⟨items, begun, fun untroubled => (by rw [cleared untroubled])⟩
  | @failAdd left right items index underway =>
    obtain ⟨rfl, rfl, busy⟩ := sound.only underway
    obtain ⟨begun, -⟩ := sound.indexing items (by simp [underway])
    apply sound_next sound busy (by simp) (by simp) (by simp) ?_
    exact fun _ => ⟨items, begun, fun untroubled => (by cases untroubled)⟩
  | @indexed left right underway =>
    obtain ⟨rfl, rfl, -⟩ := sound.only underway
    obtain ⟨items, begun, complete⟩ := sound.indexed (by simp [underway])
    apply sound_finish sound
    intro other same untroubled
    cases begun.symm.trans same
    exact complete untroubled

theorem sound_of_reachable (reached : spotlightIndexers.Reachable indexer) : Sound indexer := by
  refine reached.invariant Sound ?_ ?_
  · rintro _ ⟨index, rfl⟩
    constructor <;> simp
  · rintro _ _ - sound (⟨catalog, feedDescription, categoryDescription⟩ | answer)
    · exact sound_update sound _
    · exact sound_answer sound answer

end SpotlightIndexer

/-! ## Identifiers -/

/-- An `Int64`. -/
def fitsInt64 (id : Int) : Prop := -9223372036854775808 ≤ id ∧ id < 9223372036854775808

theorem parseInt64_toString {id : Int} (fits : fitsInt64 id) : parseInt64 (toString id) = some id := by
  unfold parseInt64
  obtain ⟨least, most⟩ := fits
  rw [parseI64_toString, Option.filter_some, if_pos]
  simp [least, most]

/-- What follows the first colon may hold others. -/
theorem splitOnce_joined {kind number : List Char} (named : kind ≠ []) (numbered : number ≠ [])
    (plain : ':' ∉ kind) : splitOnce (kind ++ ':' :: number) = [kind, number] := by
  have before : ∀ char ∈ kind, decide (char ≠ ':') = true := by
    intro char held
    exact decide_eq_true fun same => plain (same ▸ held)
  have start : (kind ++ ':' :: number).dropWhile (· = ':') = kind ++ ':' :: number := by
    obtain ⟨first, rest, rfl⟩ := List.exists_cons_of_ne_nil named
    have other : first ≠ ':' := fun same => plain (same ▸ List.mem_cons_self)
    simp [other]
  have first : (kind ++ ':' :: number).takeWhile (· ≠ ':') = kind := by
    rw [List.takeWhile_append_of_pos before]
    simp
  have rest : (kind ++ ':' :: number).dropWhile (· ≠ ':') = ':' :: number := by
    rw [List.dropWhile_append_of_pos before]
    simp
  unfold splitOnce
  rw [start]
  dsimp only
  rw [first, rest]
  simp [named, numbered]

theorem toString_ne_empty (id : Int) : (toString id).toList ≠ [] := by
  intro empty
  have parsed := parseI64_toString id
  rw [String.toList_eq_nil_iff.mp empty] at parsed
  cases parsed

/-- A kind, a colon and an id are read as what the kind says, so that what is found leads
where it says. -/
theorem route_of_joined {identifier kind : String} {id : Int} (fits : fitsInt64 id)
    (named : kind.toList ≠ []) (plain : ':' ∉ kind.toList)
    (joined : identifier.toList = kind.toList ++ ':' :: (toString id).toList) :
    NavigationRoute.ofSearchableIdentifier identifier =
      if kind = "feed" then some (.feed id)
      else if kind = "category" then some (.category id)
      else none := by
  unfold NavigationRoute.ofSearchableIdentifier
  rw [joined, splitOnce_joined named (toString_ne_empty id) plain]
  dsimp only
  rw [String.ofList_toList, String.ofList_toList, parseInt64_toString fits]

theorem route_of_feed {id : Int} (fits : fitsInt64 id) :
    NavigationRoute.ofSearchableIdentifier s!"feed:{id}" = some (.feed id) := by
  have joined : s!"feed:{id}".toList = "feed".toList ++ ':' :: (toString id).toList := by
    change ("feed:" ++ toString id).toList = _
    simp
  rw [route_of_joined fits (by simp) (by simp) joined]
  rfl

theorem route_of_category {id : Int} (fits : fitsInt64 id) :
    NavigationRoute.ofSearchableIdentifier s!"category:{id}" = some (.category id) := by
  have joined : s!"category:{id}".toList = "category".toList ++ ':' :: (toString id).toList := by
    change ("category:" ++ toString id).toList = _
    simp
  rw [route_of_joined fits (by simp) (by simp) joined]
  rfl

/-! ## What the index holds -/

/-- Of the items under one identifier the last one stays. -/
theorem SearchIndex.get?_add {index : SearchIndex} {items : List SearchableItem}
    {identifier : String} :
    (index.add items).get? identifier =
      (items.reverse.find? fun item => item.uniqueIdentifier = identifier).or
        (index.get? identifier) := by
  induction items generalizing index with
  | nil => rfl
  | cons item rest ih =>
    unfold SearchIndex.add at ih ⊢
    rw [List.foldl_cons, ih, Dictionary.get?_revise, List.reverse_cons, List.find?_append,
      Option.or_assoc]
    congr 1
    by_cases same : item.uniqueIdentifier = identifier
    · simp [same]
    · simp [same, Ne.symm same]

theorem SearchIndex.get?_add_empty {items : List SearchableItem} {identifier : String} :
    (SearchIndex.add .empty items).get? identifier =
      items.reverse.find? fun item => item.uniqueIdentifier = identifier := by
  rw [SearchIndex.get?_add, Dictionary.get?_empty, Option.or_none]

/-- The item a feed has in the index, under the descriptions localized. -/
def FeedDestination.item (feed : FeedDestination) (description : String) : SearchableItem :=
  searchableItem s!"feed:{feed.id}" feed.title description [feed.categoryTitle]

def CategoryDestination.item (category : CategoryDestination) (description : String) :
    SearchableItem :=
  searchableItem s!"category:{category.id}" category.title description []

/-- Each feed and category of the catalog is found under its identifier, and what is found under
any identifier opens the feed or category it was made of. -/
structure SearchIndex.Finds (index : SearchIndex) (catalog : NavigationCatalog)
    (feedDescription categoryDescription : String) : Prop where
  feeds : ∀ feed ∈ catalog.feeds, ∃ other ∈ catalog.feeds, other.id = feed.id ∧
    index.get? s!"feed:{feed.id}" = some (other.item feedDescription)
  categories : ∀ category ∈ catalog.categories, ∃ other ∈ catalog.categories,
    other.id = category.id ∧
    index.get? s!"category:{category.id}" = some (other.item categoryDescription)
  opens : ∀ identifier item, index.get? identifier = some item →
    (∃ feed ∈ catalog.feeds, item = feed.item feedDescription ∧
      NavigationRoute.ofSearchableIdentifier identifier = some (.feed feed.id)) ∨
    ∃ category ∈ catalog.categories, item = category.item categoryDescription ∧
      NavigationRoute.ofSearchableIdentifier identifier = some (.category category.id)

/-- The ids are `Int64`s. -/
structure NavigationCatalog.Fits (catalog : NavigationCatalog) : Prop where
  feeds : ∀ feed ∈ catalog.feeds, fitsInt64 feed.id
  categories : ∀ category ∈ catalog.categories, fitsInt64 category.id

theorem NavigationCatalog.mem_items {catalog : NavigationCatalog}
    {feedDescription categoryDescription : String} {item : SearchableItem} :
    item ∈ catalog.items feedDescription categoryDescription ↔
      (∃ feed ∈ catalog.feeds, feed.item feedDescription = item) ∨
      ∃ category ∈ catalog.categories, category.item categoryDescription = item := by
  unfold NavigationCatalog.items
  rw [List.mem_append, List.mem_map, List.mem_map]
  rfl

section
variable {catalog : NavigationCatalog} {feedDescription categoryDescription : String}

/-- Something is found under the identifier of every item. -/
theorem found_of_item {item : SearchableItem}
    (listed : item ∈ catalog.items feedDescription categoryDescription) :
    ∃ found, (SearchIndex.add .empty
      (catalog.items feedDescription categoryDescription)).get? item.uniqueIdentifier =
        some found := by
  rw [SearchIndex.get?_add_empty]
  apply Option.isSome_iff_exists.mp
  rw [List.find?_isSome]
  exact ⟨item, List.mem_reverse.mpr listed, by simp⟩

variable (fits : catalog.Fits)
include fits

/-- What stands in the index is an item of the catalog, and its identifier opens what it is of. -/
theorem opens_of_found {identifier : String} {item : SearchableItem}
    (found : (SearchIndex.add .empty
      (catalog.items feedDescription categoryDescription)).get? identifier = some item) :
    (∃ feed ∈ catalog.feeds, item = feed.item feedDescription ∧
      NavigationRoute.ofSearchableIdentifier identifier = some (.feed feed.id)) ∨
    ∃ category ∈ catalog.categories, item = category.item categoryDescription ∧
      NavigationRoute.ofSearchableIdentifier identifier = some (.category category.id) := by
  rw [SearchIndex.get?_add_empty] at found
  have named : item.uniqueIdentifier = identifier := by simpa using List.find?_some found
  have listed := NavigationCatalog.mem_items.mp
    (List.mem_reverse.mp (List.mem_of_find?_eq_some found))
  subst named
  obtain ⟨feed, listed, rfl⟩ | ⟨category, listed, rfl⟩ := listed
  · exact .inl ⟨feed, listed, rfl, route_of_feed (fits.feeds feed listed)⟩
  · exact .inr ⟨category, listed, rfl, route_of_category (fits.categories category listed)⟩

theorem finds_catalog : (SearchIndex.add .empty
    (catalog.items feedDescription categoryDescription)).Finds catalog feedDescription
      categoryDescription where
  feeds feed listed := by
    obtain ⟨item, found⟩ := found_of_item
      (NavigationCatalog.mem_items.mpr (.inl ⟨feed, listed, rfl⟩))
    have here := route_of_feed (fits.feeds feed listed)
    obtain ⟨other, other_listed, rfl, there⟩ | ⟨category, -, -, there⟩ := opens_of_found fits found
    · have same := NavigationRoute.feed.inj (Option.some.inj (there.symm.trans here))
      exact ⟨other, other_listed, same, found⟩
    · cases here.symm.trans there
  categories category listed := by
    obtain ⟨item, found⟩ := found_of_item
      (NavigationCatalog.mem_items.mpr (.inr ⟨category, listed, rfl⟩))
    have here := route_of_category (fits.categories category listed)
    obtain ⟨feed, -, -, there⟩ | ⟨other, other_listed, rfl, there⟩ := opens_of_found fits found
    · cases here.symm.trans there
    · have same := NavigationRoute.category.inj (Option.some.inj (there.symm.trans here))
      exact ⟨other, other_listed, same, found⟩
  opens _ _ found := opens_of_found fits found

end

/-! ## At rest -/

/-- How many more steps a call or an answer may lead to, itself included. -/
def IndexWork.left : IndexWork → Nat
  | .deleting _ => 4
  | .deleted _ => 3
  | .indexing _ => 2
  | .indexed => 1

namespace SpotlightIndexer
variable {indexer after : SpotlightIndexer}

def stepsLeft (indexer : SpotlightIndexer) : Nat :=
  (indexer.works.map IndexWork.left).sum + 5 * indexer.pendingItems.isSome.toNat

theorem stepsLeft_process : indexer.processNextUpdate.stepsLeft ≤ indexer.stepsLeft := by
  unfold processNextUpdate
  cases pending : indexer.pendingItems with
  | none => exact le_rfl
  | some items =>
    dsimp only
    split
    · exact le_rfl
    · simp only [stepsLeft, pending, List.map_cons, List.sum_cons, IndexWork.left,
        Option.isSome_some, Option.isSome_none, Bool.toNat_true, Bool.toNat_false]
      omega

theorem latest_process : indexer.processNextUpdate.latest = indexer.latest := by
  unfold processNextUpdate
  split
  · split <;> rfl
  · rfl

/-- Whatever the index answers, an update comes to its end: each answer leaves fewer steps.
-/
theorem stepsLeft_answer (answer : Answer indexer after) :
    after.stepsLeft < indexer.stepsLeft := by
  cases answer with
  | delete underway => simp [stepsLeft, underway, IndexWork.left]
  | failDelete index underway => simp [stepsLeft, underway, IndexWork.left]
  | @deleted left right items underway =>
    unfold afterDeletion
    split
    · refine lt_of_le_of_lt stepsLeft_process ?_
      simp [stepsLeft, underway, IndexWork.left]
    · simp [stepsLeft, underway, IndexWork.left]
      omega
  | add underway => simp [stepsLeft, underway, IndexWork.left]
  | failAdd index underway => simp [stepsLeft, underway, IndexWork.left]
  | indexed underway =>
    refine lt_of_le_of_lt stepsLeft_process ?_
    simp [stepsLeft, underway, IndexWork.left]

theorem latest_answer (answer : Answer indexer after) : after.latest = indexer.latest := by
  cases answer with
  | deleted underway =>
    unfold afterDeletion
    split
    · exact latest_process
    · rfl
  | indexed underway => exact latest_process
  | delete | failDelete | add | failAdd => rfl

/-- Nothing is left on its way where nothing can be answered. -/
theorem works_of_rest (rest : ∀ after, ¬ Answer indexer after) : indexer.works = [] := by
  cases underway : indexer.works with
  | nil => rfl
  | cons work others =>
    cases work with
    | deleting items => exact absurd (@Answer.delete _ [] others items underway) (rest _)
    | deleted items => exact absurd (@Answer.deleted _ [] others items underway) (rest _)
    | indexing items => exact absurd (@Answer.add _ [] others items underway) (rest _)
    | indexed => exact absurd (@Answer.indexed _ [] others underway) (rest _)

/-- However updates and answers interleave, no two calls are on their way at once. Once no more
updates come, the answers come to an end, and unless a call of the last update failed the index
then finds exactly the feeds and categories of the newest catalog. -/
theorem newest_catalog_found (reached : spotlightIndexers.Reachable indexer)
    {catalog : NavigationCatalog} {feedDescription categoryDescription : String}
    (fits : catalog.Fits)
    (asked : indexer.latest = some (catalog.items feedDescription categoryDescription)) :
    indexer.works.length = indexer.isUpdating.toNat ∧
    Acc (fun after before => Answer before after) indexer ∧
    ∀ final, Relation.ReflTransGen Answer indexer final → (∀ after, ¬ Answer final after) →
      final.works = [] ∧ final.pendingItems = none ∧
      (final.failed = false → final.index.Finds catalog feedDescription categoryDescription) := by
  refine ⟨(sound_of_reachable reached).one, ?_, ?_⟩
  · apply Subrelation.accessible (r := InvImage (· < ·) stepsLeft) stepsLeft_answer
    exact (InvImage.wf _ Nat.lt_wfRel.wf).apply indexer
  · intro final answered rest
    have sound : Sound final ∧ final.latest = indexer.latest := by
      clear rest
      induction answered with
      | refl => exact ⟨sound_of_reachable reached, rfl⟩
      | tail _ answer ih =>
        exact ⟨sound_answer ih.1 answer, (latest_answer answer).trans ih.2⟩
    obtain ⟨sound, same⟩ := sound
    have none := works_of_rest rest
    have idle : final.isUpdating = false := by
      have one := sound.one
      rw [none] at one
      cases busy : final.isUpdating with
      | false => rfl
      | true => simp [busy] at one
    refine ⟨none, sound.pending idle, fun untroubled => ?_⟩
    have begun := sound.latest
    rw [same, asked, sound.pending idle, Option.none_or] at begun
    rw [sound.rest idle _ begun.symm untroubled]
    exact finds_catalog fits

/-- A catalog that comes while the first is being deleted, and is found at the end. -/
theorem newest_catalog_found_second :
    let catalog : NavigationCatalog := ⟨[⟨2, "News"⟩], [⟨7, "Feed", 2, "News"⟩]⟩
    let items := catalog.items "Feed in FluxBar" "Category in FluxBar"
    let asked := SpotlightIndexer.update (SpotlightIndexer.update { index := .empty } []) items
    asked.works = [.deleting []] ∧
    ∃ final, Relation.ReflTransGen Answer asked final ∧
      final.index.Finds catalog "Feed in FluxBar" "Category in FluxBar" := by
  intro catalog items asked
  have reached : spotlightIndexers.Reachable asked :=
    .next (.next (.start ⟨.empty, rfl⟩)
      (.update ⟨[], []⟩ "Feed in FluxBar" "Category in FluxBar"))
      (.update catalog "Feed in FluxBar" "Category in FluxBar")
  have fits : catalog.Fits := ⟨by simp [catalog, fitsInt64], by simp [catalog, fitsInt64]⟩
  have run := ((((Relation.ReflTransGen.refl.tail (@Answer.delete asked [] [] [] rfl)).tail
    (@Answer.deleted _ [] [] [] rfl)).tail (@Answer.delete _ [] [] items rfl)).tail
    (@Answer.deleted _ [] [] items rfl)).tail (@Answer.add _ [] [] items rfl)
  have ended := run.tail (@Answer.indexed _ [] [] rfl)
  refine ⟨rfl, _, ended, ((newest_catalog_found reached fits rfl).2.2 _ ended ?_).2.2 rfl⟩
  intro after answer
  have fewer := stepsLeft_answer answer
  exact absurd fewer (Nat.not_lt_zero _)

end SpotlightIndexer
end FluxBar.Client
