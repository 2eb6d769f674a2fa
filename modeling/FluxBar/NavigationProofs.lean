import FluxBar.BrowseProofs

/-! The navigation a browse makes of an account: every listed category once, with
the feeds filed in it under their counters. -/
namespace FluxBar
open Relational

/-! ## `build_navigation` -/

section Navigation
variable (categories : List CategoryInput) (feeds : List FeedInput)
  (unreadCounters : Int → Option Int)

/-- A feed as the navigation shows it. -/
def FeedInput.shown (feed : FeedInput) : Feed where
  id := feed.id
  title := feed.title
  categoryId := feed.categoryId
  unreadCount := (unreadCounters feed.id).getD 0

/-- A category as the navigation shows it, its feeds not yet sorted, and their counts added
up in 32 bits. -/
def CategoryInput.shown (category : CategoryInput) : Category :=
  let filed := (feeds.filter fun feed => feed.categoryId = category.id).map
    (FeedInput.shown unreadCounters)
  { id := category.id
    title := category.title
    unreadCount := toI32 (filed.map Feed.unreadCount).sum
    feeds := filed }

/-- The feeds whose category is listed; the others are not shown. -/
def filedFeeds : List FeedInput :=
  feeds.filter fun feed => categories.any fun category => category.id = feed.categoryId

theorem categoryIndex_concat (category : CategoryInput) (id : Int) :
    categoryIndex (categories ++ [category]) id =
      if category.id = id then some categories.length else categoryIndex categories id := by
  simp [categoryIndex, List.zipIdx_append]

/-- The index of an id is a position of it, and there is one if the id is listed. -/
theorem categoryIndex_spec (id : Int) :
    match categoryIndex categories id with
    | some index => (categories[index]?).map CategoryInput.id = some id
    | none => ∀ category ∈ categories, category.id ≠ id := by
  induction categories using List.reverseRecOn with
  | nil => simp [categoryIndex]
  | append_singleton categories category ih =>
    rw [categoryIndex_concat]
    by_cases same : category.id = id
    · simp [same]
    · rw [if_neg same]
      cases found : categoryIndex categories id with
      | some index =>
        rw [found] at ih
        obtain ⟨held, listed, named⟩ := Option.map_eq_some_iff.mp ih
        have bound := (List.getElem?_eq_some_iff.mp listed).1
        simpa [List.getElem?_append_left bound] using ⟨held, listed, named⟩
      | none =>
        rw [found] at ih
        intro other member
        rcases List.mem_append.mp member with earlier | last
        · exact ih other earlier
        · exact List.mem_singleton.mp last ▸ same

/-- Rewriting the position of an id rewrites what carries the id. -/
theorem modify_eq_map {α : Type} {key : α → Int} {items : List α} {index : Nat} {id : Int}
    (distinct : (items.map key).Nodup) (found : (items[index]?).map key = some id) (change : α → α) :
    items.modify index change = items.map fun item => if key item = id then change item else item := by
  obtain ⟨held, listed, named⟩ := Option.map_eq_some_iff.mp found
  obtain ⟨bound, rfl⟩ := List.getElem?_eq_some_iff.mp listed
  refine List.ext_getElem (by simp) fun position inside _ => ?_
  rw [List.length_modify] at inside
  have alike : key items[position] = id ↔ index = position := by
    constructor
    · intro same
      have keys : (items.map key)[index]? = (items.map key)[position]? := by
        simp [bound, inside, named, same]
      exact (List.getElem?_inj (by simpa using bound) distinct).mp keys
    · rintro rfl
      exact named
  by_cases here : index = position
  · subst here
    simp [named]
  · simp [here, alike]

/-- One feed is filed in its category and counted, if the category is listed, and passed
over if it is not. -/
theorem addFeed_shown (distinct : (categories.map CategoryInput.id).Nodup) (feed : FeedInput) :
    addFeed categories unreadCounters (categories.map (CategoryInput.shown feeds unreadCounters),
        toI32 (((filedFeeds categories feeds).map
          (FeedInput.shown unreadCounters)).map Feed.unreadCount).sum) feed =
      (categories.map (CategoryInput.shown (feeds ++ [feed]) unreadCounters),
        toI32 (((filedFeeds categories (feeds ++ [feed])).map
          (FeedInput.shown unreadCounters)).map Feed.unreadCount).sum) := by
  have spec := categoryIndex_spec categories feed.categoryId
  unfold addFeed
  cases found : categoryIndex categories feed.categoryId with
  | none =>
    rw [found] at spec
    have unfiled : filedFeeds categories (feeds ++ [feed]) = filedFeeds categories feeds := by
      simpa [filedFeeds] using spec
    rw [unfiled]
    refine Prod.ext (List.map_congr_left fun category listed => ?_) rfl
    simp [CategoryInput.shown, Ne.symm (spec category listed)]
  | some index =>
    rw [found] at spec
    have listed : categories.any fun category => category.id = feed.categoryId := by
      obtain ⟨held, listed, named⟩ := Option.map_eq_some_iff.mp spec
      exact List.any_eq_true.mpr ⟨held, List.mem_of_getElem? listed, by simp [named]⟩
    have filed : filedFeeds categories (feeds ++ [feed]) = filedFeeds categories feeds ++ [feed] := by
      simp [filedFeeds, listed]
    have keys : (categories.map (CategoryInput.shown feeds unreadCounters)).map Category.id =
        categories.map CategoryInput.id := by
      rw [List.map_map]
      rfl
    have shown : ((categories.map (CategoryInput.shown feeds unreadCounters))[index]?).map
        Category.id = some feed.categoryId := by
      rw [List.getElem?_map, Option.map_map]
      exact spec
    rw [filed]
    dsimp only
    rw [modify_eq_map (keys ▸ distinct) shown, List.map_map]
    refine Prod.ext (List.map_congr_left fun category _ => ?_) ?_
    · by_cases same : category.id = feed.categoryId
      · simp [CategoryInput.shown, FeedInput.shown, same, toI32_add_left]
      · simp [CategoryInput.shown, same, Ne.symm same]
    · simp [FeedInput.shown, toI32_add_left]

/-- The loop files every feed; by induction on the feeds from the end, one turn at a time.
-/
theorem foldl_addFeed (distinct : (categories.map CategoryInput.id).Nodup) :
    feeds.foldl (addFeed categories unreadCounters) (categories.map fun category =>
        { id := category.id, title := category.title, unreadCount := 0, feeds := [] }, 0) =
      (categories.map (CategoryInput.shown feeds unreadCounters),
        toI32 (((filedFeeds categories feeds).map
          (FeedInput.shown unreadCounters)).map Feed.unreadCount).sum) := by
  induction feeds using List.reverseRecOn with
  | nil => rfl
  | append_singleton feeds feed ih =>
    rw [List.foldl_append, ih]
    exact addFeed_shown categories feeds unreadCounters distinct feed

theorem buildNavigation_eq (toLowercase : String → String)
    (distinct : (categories.map CategoryInput.id).Nodup) :
    buildNavigation toLowercase categories feeds unreadCounters =
      ((sortByTitle toLowercase Category.title
          (categories.map (CategoryInput.shown feeds unreadCounters))).map fun category =>
        { category with feeds := sortByTitle toLowercase Feed.title category.feeds },
      toI32 (((filedFeeds categories feeds).map
        (FeedInput.shown unreadCounters)).map Feed.unreadCount).sum) := by
  unfold buildNavigation
  dsimp only
  rw [foldl_addFeed categories feeds unreadCounters distinct]

end Navigation

/-! ## Counters -/

/-- A decimal id is read back as the id. -/
theorem parseI64_toString (id : Int) : parseI64 (toString id) = some id := by
  have digits : ∀ value : Nat, ∀ digit ∈ Nat.toDigits 10 value, digit.isDigit :=
    fun value digit held => Nat.isDigit_of_mem_toDigits (by decide) (by decide) held
  have decimal : ∀ value : Nat, Nat.toDigits 10 value ≠ [] ∧
      (Nat.toDigits 10 value).all Char.isDigit :=
    fun value => ⟨Nat.toDigits_ne_nil, List.all_eq_true.mpr (digits value)⟩
  unfold parseI64
  rw [Int.toString_eq_repr, Int.repr_eq_if]
  by_cases natural : 0 ≤ id
  · obtain ⟨value, rfl⟩ := Int.eq_ofNat_of_zero_le natural
    rw [if_pos natural, Int.toNat_natCast, Nat.toList_repr]
    dsimp only
    -- no sign is a digit
    split
    · rename_i rest signed
      exact absurd (digits value '+' (signed ▸ List.mem_cons_self)) (by decide)
    · rename_i rest signed
      exact absurd (digits value '-' (signed ▸ List.mem_cons_self)) (by decide)
    · rw [if_pos (decimal value), Nat.ofDigitChars_ten_toDigits]
      rfl
  · have text : ("-" ++ (-id).toNat.repr).toList = '-' :: Nat.toDigits 10 (-id).toNat := by simp
    rw [if_neg natural, text]
    simp only [if_pos (decimal _), Nat.ofDigitChars_ten_toDigits]
    have back : -((-id).toNat : Int) = id := by omega
    exact congrArg some back
/-- Each feed has the counter the account keeps for it. -/
theorem counter_feedCounters (account : RemoteAccount) (feedId : Int) :
    account.feedCounters.counter feedId =
      (account.counters.find? feedId).map FeedCounter.unread := by
  unfold FeedCountersDto.counter RemoteAccount.feedCounters Table.find?
  rw [List.foldl_map]
  simp only [parseI64_toString, Option.some.injEq]
  have distinct := account.counters.unique
  generalize account.counters.rows = rows at distinct ⊢
  induction rows using List.reverseRecOn with
  | nil => rfl
  | append_singleton rows row ih =>
    rw [List.map_append, List.nodup_append] at distinct
    rw [List.foldl_append, ih distinct.1, List.find?_append]
    by_cases same : row.feedId = feedId
    · have alone : rows.find? (fun other => other.feedId = feedId) = none := by
        refine List.find?_eq_none.mpr fun other held other' => ?_
        refine distinct.2.2 other.feedId (List.mem_map_of_mem held) row.feedId (by simp) ?_
        exact (of_decide_eq_true other').trans same.symm
      simp [same, alone]
    · simp [same]

/-! ## The account's navigation -/

namespace RemoteAccount
variable (account : RemoteAccount) (host : Host)

/-- The unread count of a feed; one without a counter has none. -/
def feedUnread (feedId : Int) : Int :=
  ((account.counters.find? feedId).map FeedCounter.unread).getD 0

/-- The feeds filed in a category. -/
def filedIn (categoryId : Int) : List FeedDto :=
  account.feeds.filter fun feed => feed.categoryId = categoryId

/-- The unread count of a category. -/
def categoryUnread (categoryId : Int) : Int :=
  ((account.filedIn categoryId).map fun feed => account.feedUnread feed.id).sum

/-- The unread count of all categories. -/
def unreadTotal : Int :=
  (account.categories.map fun category => account.categoryUnread category.id).sum

/-- The categories of the navigation, before it is sorted. -/
def shownCategories : List Category :=
  let (categories, feeds) := dtoMappingInputs account.categories account.feeds
  categories.map (CategoryInput.shown feeds account.feedCounters.counter)

theorem ids_shownCategories :
    account.shownCategories.map Category.id = account.categories.map CategoryDto.id := by
  unfold shownCategories dtoMappingInputs
  dsimp only
  rw [List.map_map, List.map_map]
  rfl

theorem feeds_shownCategories {category : Category} (shown : category ∈ account.shownCategories) :
    (category.feeds.map fun feed => (feed.id, feed.unreadCount)) =
      (account.filedIn category.id).map fun feed => (feed.id, account.feedUnread feed.id) := by
  unfold shownCategories dtoMappingInputs at shown
  dsimp only at shown
  obtain ⟨input, _, rfl⟩ := List.mem_map.mp shown
  unfold CategoryInput.shown filedIn
  simp only [List.filter_map, List.map_map]
  refine List.map_congr_left fun feed _ => ?_
  simp only [Function.comp_apply, FeedInput.shown, counter_feedCounters, feedUnread]

section Listed
variable (distinct : (account.categories.map CategoryDto.id).Nodup)
include distinct

theorem navigation_categories : (account.navigation host).1 =
    (sortByTitle host.toLowercase Category.title account.shownCategories).map fun category =>
      { category with feeds := sortByTitle host.toLowercase Feed.title category.feeds } := by
  have inputs : ((dtoMappingInputs account.categories account.feeds).1.map CategoryInput.id).Nodup := by
    unfold dtoMappingInputs
    rw [List.map_map]
    exact distinct
  unfold navigation
  rw [buildNavigation_eq _ _ _ _ inputs]
  rfl

/-- The navigation has the listed categories, each once, and no others. -/
theorem ids_navigation : (((account.navigation host).1).map Category.id).Perm
    (account.categories.map CategoryDto.id) := by
  rw [account.navigation_categories host distinct, List.map_map, ← account.ids_shownCategories]
  exact (List.mergeSort_perm _ _).map Category.id

/-- Each has the feeds filed in it, under their counters, whatever order they are shown in.
-/
theorem feeds_navigation {category : Category} (listed : category ∈ (account.navigation host).1) :
    (category.feeds.map fun feed => (feed.id, feed.unreadCount)).Perm
      ((account.filedIn category.id).map fun feed => (feed.id, account.feedUnread feed.id)) := by
  rw [account.navigation_categories host distinct] at listed
  obtain ⟨shown, held, rfl⟩ := List.mem_map.mp listed
  have member := (List.mergeSort_perm _ _).mem_iff.mp held
  rw [← account.feeds_shownCategories member]
  exact (List.mergeSort_perm _ _).map _

end Listed
end RemoteAccount

end FluxBar
