import FluxBar.MinifluxServer
import FluxBar.Sync
import FluxBar.Library.Procedure

/-! What a browse of an account returns: the articles of the selection, exactly,
under the navigation the account's counters make up. -/
namespace FluxBar
open Relational Procedure

/-- Whether the scope of a selection covers an article, as it is filed on the server. -/
def Selection.covers (selection : Selection) (article : Article) : Prop :=
  match selection with
  | .category id _ => article.categoryId = id
  | .feed id _ => article.feedId = id
  | .all .. | .unread _ | .starred _ => True

instance (selection : Selection) (article : Article) : Decidable (selection.covers article) := by
  unfold Selection.covers
  split <;> infer_instance

/-- The remote filter of a selection asks for its articles: the unread ones where it is
filtered, the starred ones where it is the starred list, in its scope. -/
theorem admits_browseFilter {selection : Selection} (normal : selection.Normal) (article : Article) :
    (browseFilter selection).admits article ↔
      (selection.isUnreadOnly → article.dto.status = "unread") ∧
      (selection.isStarred → article.dto.starred) ∧ selection.covers article := by
  have known := article.known
  cases selection with
  | category id unreadOnly | feed id unreadOnly =>
    have asked : ¬ id ≤ 0 := Int.not_le.mpr normal
    cases unreadOnly <;> simp [browseFilter, EntriesFilter.admits, Selection.isUnreadOnly,
      Selection.isStarred, Selection.covers, asked]; grind
  | all _ unreadOnly | unread unreadOnly | starred unreadOnly =>
    cases unreadOnly <;> simp [browseFilter, EntriesFilter.admits, Selection.isUnreadOnly,
      Selection.isStarred, Selection.covers] <;> grind

namespace RemoteAccount
variable (account : RemoteAccount) (host : Host) (selection : Selection)

/-- The navigation of the account. -/
def navigation : List Category × Int :=
  buildNavigation host.toLowercase (dtoMappingInputs account.categories account.feeds).1
    (dtoMappingInputs account.categories account.feeds).2 account.feedCounters.counter

/-- The articles that carry a star. -/
def starred : List Article := account.articles.select (·.dto.starred)

/-- What a browse of the account is to return: the articles of the selection, the
navigation, and the figures, each cut to 32 bits as the core reads it. -/
def browsed : SnapshotData where
  version := 1
  selection
  entries := (account.matching (browseFilter selection)).map fun article =>
    entryToDomain host article.dto
  categories := (account.navigation host).1
  total := toI32 (account.matching (browseFilter selection)).length
  unreadTotal := (account.navigation host).2
  starredTotal := if selection.isStarred
    then toI32 (account.matching (browseFilter selection)).length
    else toI32 account.starred.length

/-- An account whose articles of the selection can be paged through, and whose
counters decode. -/
structure Browsable : Prop where
  positive : ∀ article ∈ account.matching (browseFilter selection), 0 < article.id
  counted : ∀ counter ∈ account.counters.rows, InI32 counter.unread

end RemoteAccount

section Requests
variable {account after : RemoteAccount} {selection : Selection}

theorem returns_counters {counters : FeedCountersDto} :
    Returns accountApi.counters account counters after ↔
      (∀ counter ∈ account.counters.rows, InI32 counter.unread) ∧
        counters = account.feedCounters ∧ after = account := by
  unfold Returns accountApi
  dsimp only
  split
  · rename_i counted
    simp only [Prod.mk.injEq, Except.ok.injEq]
    grind
  · rename_i uncounted
    refine ⟨fun absurd => (by cases absurd), fun counted => absurd counted.1 uncounted⟩

theorem returns_starredTotal {total : Int} :
    Returns accountApi.starredTotal account total after ↔
      total = account.starred.length ∧ after = account := by
  have listed : account.matching { starred := some "1", statuses := ["read", "unread"], limit := 1 } =
      account.starred := by
    apply List.filter_congr
    intro article _
    rcases article.known with status | status <;> simp [EntriesFilter.admits, status]
  unfold MinifluxApi.starredTotal
  rw [returns_bind]
  constructor
  · rintro ⟨result, middle, asked, returned⟩
    cases asked
    rw [returns_pure] at returned
    obtain ⟨rfl, rfl⟩ := returned
    exact ⟨congrArg (fun articles : List Article => (articles.length : Int)) listed, rfl⟩
  · rintro ⟨rfl, rfl⟩
    refine ⟨_, _, rfl, returns_pure.mpr ⟨?_, rfl⟩⟩
    exact congrArg (fun articles : List Article => (articles.length : Int)) listed

theorem returns_fetch {result : List EntryDto × Int} :
    Returns (accountApi.inbox.fetchCompleteSelection (browseFilter selection)) account result after ↔
      (∀ article ∈ account.matching (browseFilter selection), 0 < article.id) ∧
      result = ((account.matching (browseFilter selection)).map Article.dto,
        ((account.matching (browseFilter selection)).length : Int)) ∧ after = account := by
  have limit : (browseFilter selection).limit = browsePageSize := by
    cases selection <;> unfold browseFilter <;> dsimp only <;> split <;> rfl
  have base : accountApi.inbox.fetchCompleteSelection = fetchCompleteSelection accountApi := rfl
  unfold Returns
  rw [base]
  by_cases positive : ∀ article ∈ account.matching (browseFilter selection), 0 < article.id
  · rw [account.fetch_matching (browseFilter selection) limit positive]
    simp only [Prod.mk.injEq, Except.ok.injEq]
    grind
  · push Not at positive
    obtain ⟨article, held, low⟩ := positive
    obtain ⟨failure, failed⟩ :=
      account.fetch_of_nonpositive (browseFilter selection) limit held low
    rw [failed]
    refine ⟨fun absurd => (by cases absurd), fun positive => ?_⟩
    have above := positive.1 article held
    omega

end Requests

/-- A browse returns exactly when the account can be browsed, and then what it is
to return. -/
theorem returns_browse {host : Host} {selection : Selection} {account after : RemoteAccount}
    {snapshot : SnapshotData} :
    Returns (browse host accountApi.inbox selection) account snapshot after ↔
      account.Browsable selection ∧ snapshot = account.browsed host selection ∧
        after = account := by
  have categories : accountApi.inbox.categories = fun account => (.ok account.categories, account) :=
    rfl
  have feeds : accountApi.inbox.feeds = fun account => (.ok account.feeds, account) := rfl
  have counters : accountApi.inbox.unreadCounters = accountApi.counters := rfl
  have total : accountApi.inbox.starredTotal = accountApi.starredTotal := rfl
  unfold browse describe
  rw [categories, feeds, counters, total]
  cases starred : selection.isStarred <;>
    simp only [if_true, Bool.false_eq_true, if_false, returns_bind, returns_pure, returns_adapt,
      returns_counters, returns_starredTotal, returns_fetch, returns_read]
  all_goals
    constructor
    · intro ran
      obtain ⟨_, _, ⟨counted, rfl, rfl⟩, ran⟩ := ran
      obtain ⟨_, _, ⟨rfl, rfl⟩, _, _, ⟨positive, rfl, rfl⟩, ran⟩ := ran
      obtain ⟨_, _, ⟨rfl, rfl⟩, _, _, ⟨rfl, rfl⟩, rfl, rfl⟩ := ran
      refine ⟨⟨positive, counted⟩, ?_, rfl⟩
      simp [RemoteAccount.browsed, RemoteAccount.navigation, starred]
    · rintro ⟨⟨positive, counted⟩, rfl, rfl⟩
      refine ⟨_, _, ⟨counted, rfl, rfl⟩, _, _, ⟨rfl, rfl⟩, _, _, ⟨positive, rfl, rfl⟩, ?_⟩
      refine ⟨_, _, ⟨rfl, rfl⟩, _, _, ⟨rfl, rfl⟩, ?_, rfl⟩
      simp [RemoteAccount.browsed, RemoteAccount.navigation, starred]

end FluxBar
