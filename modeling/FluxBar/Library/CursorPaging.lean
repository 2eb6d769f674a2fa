import Mathlib.Data.Finset.Sort
import Mathlib.Data.Finset.Card
import Mathlib.Data.List.Sort

/-! Keyset pagination over a set that may change between requests. A page is the
least few members above a cursor, and the next cursor is the last id of a page.
What the pages together show of the set depends only on how they fill. -/
namespace CursorPaging
variable {α : Type} [LinearOrder α] {size : ℕ} {selection : Finset α} {cursor bound item : α}

/-! ## One page -/

/-- The page after a cursor: at most `size` members of the selection above it, the least
ones first. This is what a server lists that is asked in ascending order of ids. -/
def page (size : ℕ) (selection : Finset α) (cursor : α) : List α :=
  ((selection.filter (cursor < ·)).sort (· ≤ ·)).take size

/-- The cursor after a page, its last id. An empty page leaves the cursor where it is, so
paging that has come to the end stays there. -/
def advance (size : ℕ) (selection : Finset α) (cursor : α) : α :=
  (page size selection cursor).getLastD cursor

theorem length_page :
    (page size selection cursor).length = min size (selection.filter (cursor < ·)).card := by
  rw [page, List.length_take, Finset.length_sort]

theorem length_page_le : (page size selection cursor).length ≤ size := by
  rw [length_page]
  exact min_le_left _ _

theorem mem_of_mem_page (held : item ∈ page size selection cursor) :
    item ∈ selection ∧ cursor < item := by
  have listed := (Finset.mem_sort (· ≤ ·)).mp (List.mem_of_mem_take held)
  exact Finset.mem_filter.mp listed

/-- A page rises from its cursor: each id is above the cursor and above the ids before it.
-/
theorem rising_page : (cursor :: page size selection cursor).Pairwise (· < ·) := by
  rw [List.pairwise_cons]
  refine ⟨fun item held => (mem_of_mem_page held).2, ?_⟩
  exact (Finset.sortedLT_sort _).pairwise.sublist (List.take_sublist _ _)

/-- In a rising list nothing exceeds the last element. -/
theorem le_getLastD_of_rising {items : List α} (rising : (cursor :: items).Pairwise (· < ·))
    (held : item ∈ cursor :: items) : item ≤ items.getLastD cursor := by
  induction items generalizing cursor item with
  | nil => exact (List.mem_singleton.mp held).le
  | cons first rest ih =>
    rw [List.getLastD_cons]
    obtain ⟨above, tail⟩ := List.pairwise_cons.mp rising
    rcases List.mem_cons.mp held with rfl | later
    · exact (above first List.mem_cons_self).le.trans (ih tail List.mem_cons_self)
    · exact ih tail later

/-- Two rising lists join when the second rises from the last element of the first. -/
theorem rising_append {first second : List α} :
    (cursor :: (first ++ second)).Pairwise (· < ·) ↔
      (cursor :: first).Pairwise (· < ·) ∧
        (first.getLastD cursor :: second).Pairwise (· < ·) := by
  induction first generalizing cursor with
  | nil =>
    rw [List.nil_append, List.getLastD_nil]
    exact (and_iff_right (List.pairwise_singleton _ _)).symm
  | cons item rest ih =>
    have chained : ∀ tail : List α, (cursor :: item :: tail).Pairwise (· < ·) ↔
        cursor < item ∧ (item :: tail).Pairwise (· < ·) := by
      intro tail
      rw [← List.isChain_iff_pairwise, ← List.isChain_iff_pairwise, List.isChain_cons_cons]
    rw [List.cons_append, chained, chained, ih, List.getLastD_cons, and_assoc]

theorem le_advance (held : item ∈ page size selection cursor) :
    item ≤ advance size selection cursor :=
  le_getLastD_of_rising rising_page (List.mem_cons_of_mem cursor held)

theorem advance_mem (nonempty : page size selection cursor ≠ []) :
    advance size selection cursor ∈ page size selection cursor := by
  unfold advance
  cases rows : page size selection cursor with
  | nil => exact absurd rows nonempty
  | cons first rest =>
    rw [List.getLastD_cons]
    exact List.getLastD_mem_cons

theorem cursor_le_advance : cursor ≤ advance size selection cursor :=
  le_getLastD_of_rising rising_page List.mem_cons_self

/-- A page leaves out nothing up to its last id, and nothing at all when it is
short. -/
theorem mem_page (member : item ∈ selection) (above : cursor < item)
    (within : item ≤ advance size selection cursor ∨ (page size selection cursor).length < size) :
    item ∈ page size selection cursor := by
  by_contra left
  have listed : item ∈ (selection.filter (cursor < ·)).sort (· ≤ ·) :=
    (Finset.mem_sort _).mpr (Finset.mem_filter.mpr ⟨member, above⟩)
  rw [← List.take_append_drop size ((selection.filter (cursor < ·)).sort (· ≤ ·))] at listed
  rcases List.mem_append.mp listed with taken | dropped
  · exact left taken
  · have full : (page size selection cursor).length = size := by
      have nonempty := List.length_pos_of_mem dropped
      rw [List.length_drop] at nonempty
      rw [page, List.length_take]
      omega
    rcases within with low | short
    · have sorted := (Finset.sortedLT_sort (selection.filter (cursor < ·))).pairwise
      rw [← List.take_append_drop size ((selection.filter (cursor < ·)).sort (· ≤ ·))] at sorted
      have beyond : ∀ other ∈ page size selection cursor, other < item :=
        fun other held => (List.pairwise_append.mp sorted).2.2 other held item dropped
      by_cases empty : page size selection cursor = []
      · rw [advance, empty] at low
        exact absurd above (not_lt.mpr low)
      · exact absurd (beyond _ (advance_mem empty)) (not_lt.mpr low)
    · omega

theorem nodup_page : (page size selection cursor).Nodup :=
  ((List.pairwise_cons.mp rising_page).2).imp ne_of_lt

/-- The members in reach of a page, above its cursor and up to its last id, are exactly
those it lists: paging skips nothing on its way. -/
theorem card_reach :
    (selection.filter fun item => cursor < item ∧ item ≤ advance size selection cursor).card =
      (page size selection cursor).length := by
  rw [← List.toFinset_card_of_nodup nodup_page]
  congr 1
  ext item
  rw [Finset.mem_filter, List.mem_toFinset]
  constructor
  · rintro ⟨member, above, below⟩
    exact mem_page member above (Or.inl below)
  · intro held
    obtain ⟨member, above⟩ := mem_of_mem_page held
    exact ⟨member, above, le_advance held⟩

/-- Enough members up to a bound fill a page, and the page does not reach beyond the bound;
so a full page may leave out whatever lies above. -/
theorem full_of_card (positive : 0 < size)
    (enough : size ≤ (selection.filter fun item => cursor < item ∧ item ≤ bound).card) :
    (page size selection cursor).length = size ∧ advance size selection cursor ≤ bound := by
  have full : (page size selection cursor).length = size := by
    rw [length_page, min_eq_left]
    refine enough.trans (Finset.card_le_card fun item held => ?_)
    rw [Finset.mem_filter] at held ⊢
    exact ⟨held.1, held.2.1⟩
  refine ⟨full, ?_⟩
  by_contra beyond
  have last : advance size selection cursor ∈ (page size selection cursor).toFinset := by
    refine List.mem_toFinset.mpr (advance_mem fun empty => ?_)
    rw [empty, List.length_nil] at full
    omega
  have within : (selection.filter fun item => cursor < item ∧ item ≤ bound) ⊆
      (page size selection cursor).toFinset.erase (advance size selection cursor) := by
    intro item held
    obtain ⟨member, above, below⟩ := Finset.mem_filter.mp held
    have low : item < advance size selection cursor := below.trans_lt (not_le.mp beyond)
    exact Finset.mem_erase.mpr ⟨low.ne, List.mem_toFinset.mpr (mem_page member above (Or.inl low.le))⟩
  have fewer := Finset.card_le_card within
  rw [Finset.card_erase_of_mem last, List.toFinset_card_of_nodup nodup_page, full] at fewer
  omega

/-! ## A sequence of pages -/

section Sequence
variable {selections : ℕ → Finset α} {start : α} {count : ℕ}

/-- The cursor of each request in turn. Every request may find another selection, which is
how the set changes while it is being paged through. -/
def cursorAt (size : ℕ) (selections : ℕ → Finset α) (start : α) : ℕ → α
  | 0 => start
  | n + 1 => advance size (selections n) (cursorAt size selections start n)

/-- The pages of the first requests, one after the other, each taken from the selection that
its own request finds. -/
def pages (size : ℕ) (selections : ℕ → Finset α) (start : α) (count : ℕ) : List α :=
  (List.range count).flatMap fun n => page size (selections n) (cursorAt size selections start n)

theorem pages_succ : pages size selections start (count + 1) =
    pages size selections start count ++
      page size (selections count) (cursorAt size selections start count) := by
  simp [pages, List.range_succ]

/-- The pages together rise from the first cursor to the last. The induction carries the
bound by the last cursor along, since the next page rises from there. -/
theorem rising_pages : (start :: pages size selections start count).Pairwise (· < ·) ∧
    ∀ item ∈ start :: pages size selections start count,
      item ≤ cursorAt size selections start count := by
  induction count with
  | zero => simp [pages, cursorAt]
  | succ count ih =>
    obtain ⟨rising, below⟩ := ih
    rw [pages_succ, ← List.cons_append]
    constructor
    · refine List.pairwise_append.mpr ⟨rising, (List.pairwise_cons.mp rising_page).2, ?_⟩
      intro early held late listed
      exact (below early held).trans_lt (mem_of_mem_page listed).2
    · intro item held
      rcases List.mem_append.mp held with early | late
      · exact (below item early).trans cursor_le_advance
      · exact le_advance late

theorem nodup_pages : (pages size selections start count).Nodup :=
  (List.pairwise_cons.mp rising_pages.1).2.imp ne_of_lt

theorem mem_of_mem_pages (held : item ∈ pages size selections start count) :
    ∃ n < count, item ∈ selections n := by
  obtain ⟨n, low, listed⟩ := List.mem_flatMap.mp held
  exact ⟨n, List.mem_range.mp low, (mem_of_mem_page listed).1⟩

/-- A member of every selection asked for is listed, unless the last cursor stops
short of it. -/
theorem mem_pages (member : ∀ n < count, item ∈ selections n) (above : start < item)
    (below : item ≤ cursorAt size selections start count) :
    item ∈ pages size selections start count := by
  induction count with
  | zero => exact absurd above (not_lt.mpr below)
  | succ count ih =>
    rw [pages_succ, List.mem_append]
    by_cases early : item ≤ cursorAt size selections start count
    · exact Or.inl (ih (fun n low => member n (Nat.lt_succ_of_lt low)) early)
    · exact Or.inr (mem_page (member count (Nat.lt_succ_self count)) (not_le.mp early) (Or.inl below))

/-- Full pages that stop short of an item can be told from bounds alone: between
each and the next, the selection of that request has a page's worth of members. -/
theorem full_pages_iff (positive : 0 < size) :
    ((∀ n < count, (page size (selections n) (cursorAt size selections start n)).length = size) ∧
      cursorAt size selections start count < item) ↔
    ∃ bounds : ℕ → α, bounds 0 = start ∧ bounds count < item ∧ ∀ n < count,
      size ≤ ((selections n).filter fun id => bounds n < id ∧ id ≤ bounds (n + 1)).card := by
  constructor
  · rintro ⟨full, short⟩
    refine ⟨cursorAt size selections start, rfl, short, fun n low => ?_⟩
    exact (card_reach.trans (full n low)).ge
  · rintro ⟨bounds, first, beyond, enough⟩
    have reach : ∀ n ≤ count, cursorAt size selections start n ≤ bounds n ∧
        ∀ i < n, (page size (selections i) (cursorAt size selections start i)).length = size := by
      intro n low
      induction n with
      | zero => exact ⟨first.ge, by simp⟩
      | succ n ih =>
        obtain ⟨within, full⟩ := ih (Nat.le_of_succ_le low)
        have wider : size ≤ ((selections n).filter fun id =>
            cursorAt size selections start n < id ∧ id ≤ bounds (n + 1)).card := by
          refine (enough n low).trans (Finset.card_le_card fun id held => ?_)
          rw [Finset.mem_filter] at held ⊢
          exact ⟨held.1, within.trans_lt held.2.1, held.2.2⟩
        obtain ⟨length, last⟩ := full_of_card positive wider
        refine ⟨last, fun i early => ?_⟩
        rcases Nat.lt_succ_iff_lt_or_eq.mp early with earlier | rfl
        · exact full i earlier
        · exact length
    obtain ⟨within, full⟩ := reach count le_rfl
    exact ⟨full, within.trans_lt beyond⟩

end Sequence

end CursorPaging
