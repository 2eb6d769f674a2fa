import Mathlib.Data.Int.ModEq
import Mathlib.Data.List.Sort
import Mathlib.Data.String.Basic

/-! The presentation-neutral data of the core: article selections and their
normalization, articles, and the category tree built from a remote account.
Identifiers and counters of the source are machine integers; here they are
integers, and the 32-bit counters wrap where a release build wraps them. -/
namespace FluxBar

/-! ## 32-bit counters -/

/-- `as i32`, and the `i32` additions of a release build: the value that is left when all
but the low 32 bits are cut off. -/
def toI32 (value : Int) : Int := value.bmod 4294967296

/-- The values an `i32` holds. -/
def InI32 (value : Int) : Prop := -2147483648 ≤ value ∧ value ≤ 2147483647

instance : DecidablePred InI32 := fun _ => inferInstanceAs (Decidable (_ ∧ _))

theorem toI32_in (value : Int) : InI32 (toI32 value) := by
  have low := Int.le_bmod (x := value) (m := 4294967296) (by omega)
  have high := Int.bmod_lt (x := value) (m := 4294967296) (by omega)
  unfold InI32 toI32
  omega

theorem toI32_of_in {value : Int} (fits : InI32 value) : toI32 value = value := by
  obtain ⟨low, high⟩ := fits
  exact Int.bmod_eq_of_le (by omega) (by omega)

/-- Wrapping partial sums wrap to the wrapped sum, so that a fold of `i32` additions may be
read as one sum, cut once. -/
theorem toI32_add_left (left right : Int) : toI32 (toI32 left + right) = toI32 (left + right) := by
  simp [toI32]

/-! ## Selections -/

/-- `domain::selection::Selection`: which list is browsed, and whether it is filtered to
unread articles. The id of `all` is what a client sent along, and scopes nothing. -/
inductive Selection where
  | all (id : Int) (unreadOnly : Bool)
  | unread (unreadOnly : Bool)
  | starred (unreadOnly : Bool)
  | category (id : Int) (unreadOnly : Bool)
  | feed (id : Int) (unreadOnly : Bool)
  deriving DecidableEq, Repr

namespace Selection

/-- Where an unknown kind or a non-positive scope ends up. -/
def fallback : Selection := .all 0 true

/-- `Selection::normalize`: a raw wire selection becomes a domain one. A scope needs a
positive id, and a kind that is not known falls back to the unread articles. -/
def normalize (kind : String) (id : Int) (unreadOnly : Bool) : Selection :=
  if kind = "all" then .all id unreadOnly
  else if kind = "unread" then .unread unreadOnly
  else if kind = "starred" then .starred unreadOnly
  else if kind = "category" ∧ 0 < id then .category id unreadOnly
  else if kind = "feed" ∧ 0 < id then .feed id unreadOnly
  else fallback

/-- `Selection::is_unread_only`; the unread kind is unread-only whatever its flag. -/
def isUnreadOnly : Selection → Bool
  | .unread _ => true
  | .all _ unreadOnly | .starred unreadOnly | .category _ unreadOnly | .feed _ unreadOnly => unreadOnly

/-- `Selection::scope_id`. The id an `all` selection echoes is no scope. -/
def scopeId : Selection → Int
  | .category id _ | .feed id _ => id
  | _ => 0

/-- Category and feed scopes carry positive ids. -/
def Normal : Selection → Prop
  | .category id _ | .feed id _ => 0 < id
  | _ => True

instance : DecidablePred Normal := fun selection =>
  match selection with
  | .category _ _ | .feed _ _ => inferInstanceAs (Decidable (_ < _))
  | .all _ _ | .unread _ | .starred _ => inferInstanceAs (Decidable True)

/-- Normalization yields one of six shapes; the scoped ones only with a positive
id. -/
theorem normalize_cases (kind : String) (id : Int) (unreadOnly : Bool) :
    (kind = "all" ∧ normalize kind id unreadOnly = .all id unreadOnly) ∨
    (kind = "unread" ∧ normalize kind id unreadOnly = .unread unreadOnly) ∨
    (kind = "starred" ∧ normalize kind id unreadOnly = .starred unreadOnly) ∨
    (kind = "category" ∧ 0 < id ∧ normalize kind id unreadOnly = .category id unreadOnly) ∨
    (kind = "feed" ∧ 0 < id ∧ normalize kind id unreadOnly = .feed id unreadOnly) ∨
    normalize kind id unreadOnly = fallback := by
  unfold normalize
  split_ifs <;> simp_all

theorem normalize_normal (kind : String) (id : Int) (unreadOnly : Bool) :
    (normalize kind id unreadOnly).Normal := by
  rcases normalize_cases kind id unreadOnly with
    ⟨_, shape⟩ | ⟨_, shape⟩ | ⟨_, shape⟩ | ⟨_, positive, shape⟩ | ⟨_, positive, shape⟩ | shape <;>
    rw [shape] <;> trivial

end Selection

/-! ## Articles -/

/-- `domain::entry::EntryStatus`: what the server says of an entry. A status that this core
does not know is carried along as it was received. -/
inductive EntryStatus where
  | read
  | unread
  | other (value : String)
  deriving DecidableEq, Repr

namespace EntryStatus

/-- `EntryStatus::as_str`. -/
def asStr : EntryStatus → String
  | .read => "read"
  | .unread => "unread"
  | .other value => value

/-- `EntryStatus::parse`: the two statuses by name; any other text is kept, so that `as_str`
gives it back. -/
def parse (value : String) : EntryStatus :=
  if value = "read" then .read else if value = "unread" then .unread else .other value

@[simp] theorem asStr_parse (value : String) : (parse value).asStr = value := by
  unfold parse
  split_ifs <;> simp_all [asStr]

end EntryStatus

/-- `domain::entry::Entry`: an article as the core hands it on, its preview and image taken
from the content already. -/
structure Entry where
  id : Int
  title : String
  url : String
  commentsUrl : String
  feedId : Int
  feedName : String
  categoryId : Int
  publishedAtRfc3339 : String
  preview : String
  imageUrl : String
  status : EntryStatus
  starred : Bool
  deriving DecidableEq, Repr

namespace Entry

/-- `Entry::matches_scope`. -/
def matchesScope (entry : Entry) : Selection → Bool
  | .category id _ => entry.categoryId = id
  | .feed id _ => entry.feedId = id
  | _ => true

end Entry

/-! ## Navigation -/

/-- `domain::navigation::Feed`: one line of the sidebar, under the category that it names.
-/
structure Feed where
  id : Int
  title : String
  categoryId : Int
  unreadCount : Int
  deriving DecidableEq, Repr

/-- `domain::navigation::Category`: a group of feeds, with the sum of their counts. -/
structure Category where
  id : Int
  title : String
  unreadCount : Int
  feeds : List Feed
  deriving DecidableEq, Repr

/-- `domain::navigation::CategoryInput`. -/
structure CategoryInput where
  id : Int
  title : String
  deriving DecidableEq, Repr

/-- `domain::navigation::FeedInput`. -/
structure FeedInput where
  id : Int
  title : String
  categoryId : Int
  deriving DecidableEq, Repr

section Navigation
variable (toLowercase : String → String)

/-- `sort_by_title`: a stable sort by the lowercase title, so that items of one title stay
in the order they came in. -/
def sortByTitle {α : Type} (title : α → String) (items : List α) : List α :=
  items.mergeSort fun left right => decide (toLowercase (title left) ≤ toLowercase (title right))

/-- The position the `indexes` map of `build_navigation` gives a category id; a
later category with the same id has overwritten an earlier one. -/
def categoryIndex (categories : List CategoryInput) (id : Int) : Option Nat :=
  categories.zipIdx.foldl (fun found (category, index) =>
    if category.id = id then some index else found) none

/-- One turn of the feed loop of `build_navigation`: the feed goes to the last category of
its id, and its count to that category and to the total. A feed of no listed category is
dropped, and counts nowhere. -/
def addFeed (categories : List CategoryInput) (unreadCounters : Int → Option Int)
    (progress : List Category × Int) (feed : FeedInput) : List Category × Int :=
  match categoryIndex categories feed.categoryId with
  | none => progress
  | some index =>
    let unreadCount := (unreadCounters feed.id).getD 0
    (progress.1.modify index fun category => { category with
      unreadCount := toI32 (category.unreadCount + unreadCount)
      feeds := category.feeds ++ [{
        id := feed.id, title := feed.title, categoryId := feed.categoryId, unreadCount }] },
      toI32 (progress.2 + unreadCount))

/-- `build_navigation`: the categories with their feeds, both sorted by title, and the
number of unread articles in all of them. The sums are those of a release build, which wrap.
-/
def buildNavigation (categories : List CategoryInput) (feeds : List FeedInput)
    (unreadCounters : Int → Option Int) : List Category × Int :=
  let result := categories.map fun category =>
    { id := category.id, title := category.title, unreadCount := 0, feeds := [] }
  let (result, unreadTotal) := feeds.foldl (addFeed categories unreadCounters) (result, 0)
  ((sortByTitle toLowercase Category.title result).map fun category =>
    { category with feeds := sortByTitle toLowercase Feed.title category.feeds }, unreadTotal)

end Navigation

end FluxBar
