import FluxBar.NavigationProofs
import FluxBar.Library.StableSort

/-! What a navigation shows of its inputs: every category once and every feed of a known
category once, both in the order of their titles, and counts that add up. -/
namespace FluxBar
open StableSort

/-- What was put in for a category of the navigation. -/
def Category.input (category : Category) : CategoryInput := ⟨category.id, category.title⟩

section Navigation
variable (toLowercase : String → String) (categories : List CategoryInput) (feeds : List FeedInput)
  (unreadCounters : Int → Option Int)

/-- The counters of the feeds of a category, added up. -/
def categorySum (id : Int) : Int :=
  ((feeds.filter fun feed => feed.categoryId = id).map fun feed =>
    (unreadCounters feed.id).getD 0).sum

/-- The counters of all feeds of known categories, added up. -/
def knownSum : Int :=
  ((filedFeeds categories feeds).map fun feed => (unreadCounters feed.id).getD 0).sum

/-- A navigation of the inputs: categories and feeds in the order of their titles, those of
one title as they came in, each feed of a listed category in it and nowhere else, and the
counts added up. -/
structure Navigates (navigation : List Category) (unreadTotal : Int) : Prop where
  listed : SortedBy (fun category => toLowercase category.title) categories
    (navigation.map Category.input)
  filed : ∀ category ∈ navigation, SortedBy (fun feed => toLowercase feed.title)
    ((feeds.filter fun feed => feed.categoryId = category.id).map (FeedInput.shown unreadCounters))
    category.feeds
  once : (navigation.flatMap Category.feeds).Perm
    ((filedFeeds categories feeds).map (FeedInput.shown unreadCounters))
  counts : ∀ category ∈ navigation,
    category.unreadCount = (category.feeds.map Feed.unreadCount).sum
  total : unreadTotal = (navigation.map Category.unreadCount).sum

theorem sortedBy_sortByTitle {α : Type} (title : α → String) (items : List α) :
    SortedBy (fun item => toLowercase (title item)) items (sortByTitle toLowercase title items) :=
  sortedBy_mergeSort (fun item => toLowercase (title item)) items

/-- The feeds of listed categories, category by category. -/
theorem flatMap_filed (distinct : (categories.map CategoryInput.id).Nodup) :
    (categories.flatMap fun category => feeds.filter fun feed => feed.categoryId = category.id).Perm
      (filedFeeds categories feeds) := by
  induction categories with
  | nil => simp [filedFeeds]
  | cons category rest ih =>
    rw [List.map_cons, List.nodup_cons] at distinct
    rw [List.flatMap_cons]
    refine ((ih distinct.2).append_left _).trans ?_
    let own (feed : FeedInput) : Bool := feed.categoryId = category.id
    have first : (filedFeeds (category :: rest) feeds).filter own =
        feeds.filter fun feed => feed.categoryId = category.id := by
      rw [filedFeeds, List.filter_filter]
      refine List.filter_congr fun feed _ => ?_
      by_cases same : feed.categoryId = category.id <;> simp [own, same]
    have others : (filedFeeds (category :: rest) feeds).filter (fun feed => !own feed) =
        filedFeeds rest feeds := by
      rw [filedFeeds, List.filter_filter]
      refine List.filter_congr fun feed _ => ?_
      by_cases same : feed.categoryId = category.id
      · -- no other category has its id
        have alone : ∀ other ∈ rest, other.id ≠ category.id := fun other held equal =>
          distinct.1 (equal ▸ List.mem_map_of_mem held)
        simpa [own, same] using alone
      · simp [own, same, Ne.symm same]
    have parts := List.filter_append_perm own (filedFeeds (category :: rest) feeds)
    rwa [first, others] at parts

theorem sum_counts {navigation : List Category} (counts : ∀ category ∈ navigation,
      category.unreadCount = (category.feeds.map Feed.unreadCount).sum) :
    (navigation.map Category.unreadCount).sum =
      ((navigation.flatMap Category.feeds).map Feed.unreadCount).sum := by
  rw [List.map_congr_left counts, List.map_flatMap, List.flatMap_def, List.sum_flatten, List.map_map]
  rfl

/-- A category with its feeds in the order of their titles. -/
def Category.sorted (category : Category) : Category :=
  { category with feeds := sortByTitle toLowercase Feed.title category.feeds }

/-- The categories as the navigation lists them. -/
def listedCategories : List Category :=
  (sortByTitle toLowercase Category.title
    (categories.map (CategoryInput.shown feeds unreadCounters))).map (Category.sorted toLowercase)

section Listed
variable {toLowercase categories feeds unreadCounters}

theorem mem_listedCategories {category : Category}
    (listed : category ∈ listedCategories toLowercase categories feeds unreadCounters) :
    ∃ input ∈ categories, (input.shown feeds unreadCounters).sorted toLowercase = category := by
  obtain ⟨before, held, rfl⟩ := List.mem_map.mp listed
  have sort := sortedBy_sortByTitle toLowercase Category.title
    (categories.map (CategoryInput.shown feeds unreadCounters))
  obtain ⟨input, taken, rfl⟩ := List.mem_map.mp (sort.perm.mem_iff.mp held)
  exact ⟨input, taken, rfl⟩

/-- The categories are those put in, sorted, and of one title in the order they came in. -/
theorem sortedBy_listedCategories : SortedBy (fun category => toLowercase category.title) categories
    ((listedCategories toLowercase categories feeds unreadCounters).map Category.input) := by
  have sort := sortedBy_sortByTitle toLowercase Category.title
    (categories.map (CategoryInput.shown feeds unreadCounters))
  have inputs := @SortedBy.map _ _ _ _ _ _ _
    (fun category : CategoryInput => toLowercase category.title) sort Category.input
    fun _ _ => rfl
  have same : (categories.map (CategoryInput.shown feeds unreadCounters)).map Category.input =
      categories := by
    rw [List.map_map]
    exact List.map_id _
  rw [same] at inputs
  rwa [listedCategories, List.map_map]

/-- Sorting keeps the feeds of listed categories, each in its own. -/
theorem feeds_listedCategories (distinct : (categories.map CategoryInput.id).Nodup) :
    ((listedCategories toLowercase categories feeds unreadCounters).flatMap Category.feeds).Perm
      ((filedFeeds categories feeds).map (FeedInput.shown unreadCounters)) := by
  let shown := categories.map (CategoryInput.shown feeds unreadCounters)
  have each : ((listedCategories toLowercase categories feeds unreadCounters).flatMap
      Category.feeds).Perm (shown.flatMap Category.feeds) := by
    rw [listedCategories, List.flatMap_map]
    refine (sortedBy_sortByTitle toLowercase Category.title shown).perm.flatMap fun category _ => ?_
    exact (sortedBy_sortByTitle toLowercase Feed.title category.feeds).perm
  have filed : shown.flatMap Category.feeds = (categories.flatMap fun category =>
      feeds.filter fun feed => feed.categoryId = category.id).map
        (FeedInput.shown unreadCounters) := by
    rw [List.map_flatMap, List.flatMap_map]
    rfl
  rw [filed] at each
  exact each.trans ((flatMap_filed categories feeds distinct).map _)

/-- The count of a category is that of its feeds, while it fits; partial sums that do not
fit do no harm. -/
theorem unreadCount_listedCategories
    (fits : ∀ category ∈ categories, InI32 (categorySum feeds unreadCounters category.id)) :
    ∀ category ∈ listedCategories toLowercase categories feeds unreadCounters,
      category.unreadCount = (category.feeds.map Feed.unreadCount).sum := by
  intro category listed
  obtain ⟨input, held, rfl⟩ := mem_listedCategories listed
  have inner := sortedBy_sortByTitle toLowercase Feed.title (input.shown feeds unreadCounters).feeds
  refine Eq.trans ?_ (inner.perm.map Feed.unreadCount).sum_eq.symm
  have own := fits input held
  unfold categorySum at own
  simp only [Category.sorted, CategoryInput.shown, List.map_map]
  exact toI32_of_in own

end Listed

/-- A navigation is built of the inputs, while its counts fit: categories are told apart by
their ids, and the sums of each and of all are numbers of 32 bits. -/
theorem build_navigation_navigates (distinct : (categories.map CategoryInput.id).Nodup)
    (fits : ∀ category ∈ categories, InI32 (categorySum feeds unreadCounters category.id))
    (whole : InI32 (knownSum categories feeds unreadCounters)) :
    Navigates toLowercase categories feeds unreadCounters
      (buildNavigation toLowercase categories feeds unreadCounters).1
      (buildNavigation toLowercase categories feeds unreadCounters).2 := by
  rw [buildNavigation_eq _ _ _ _ distinct]
  have once := @feeds_listedCategories toLowercase _ feeds unreadCounters distinct
  have counts := @unreadCount_listedCategories toLowercase _ _ _ fits
  refine ⟨sortedBy_listedCategories, ?_, once, counts, ?_⟩
  · intro category listed
    obtain ⟨input, held, rfl⟩ := mem_listedCategories listed
    exact sortedBy_sortByTitle toLowercase Feed.title (input.shown feeds unreadCounters).feeds
  · have known := (once.map Feed.unreadCount).sum_eq
    change toI32 _ = ((listedCategories toLowercase categories feeds unreadCounters).map _).sum
    rw [sum_counts counts, known, List.map_map]
    exact toI32_of_in whole

end Navigation

/-- One feed has a counter, and one is of no listed category and is left out. -/
theorem navigation_of_two_categories :
    let categories : List CategoryInput := [⟨1, "News"⟩, ⟨2, "blogs"⟩]
    let feeds : List FeedInput := [⟨10, "Wire", 1⟩, ⟨11, "Daily", 1⟩, ⟨12, "Stray", 9⟩]
    let counters : Int → Option Int := fun id => if id = 10 then some 3 else none
    Navigates String.toLower categories feeds counters
      (buildNavigation String.toLower categories feeds counters).1
      (buildNavigation String.toLower categories feeds counters).2 :=
  build_navigation_navigates _ _ _ _ (by decide) (by decide) (by decide)

end FluxBar
