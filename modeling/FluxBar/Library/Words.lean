import Mathlib.Data.List.Chain
import Mathlib.Data.List.DropRight

/-! Texts over an alphabet some of whose letters are spaces: their words, their trimmed ends,
and the tidy texts, in which no two spaces stand together and none at an end. A tidy text cut
at one of its spaces falls into tidy pieces, and joining the pieces gives it back. -/
namespace Words
variable {α : Type} (space : α → Bool)

/-- The maximal runs of letters that are not spaces, in order. What a text says apart from
its spacing. -/
def words (text : List α) : List (List α) := (text.splitOnP space).filter fun word => !word.isEmpty

def trimEnd (text : List α) : List α := text.rdropWhile space

def trim (text : List α) : List α := trimEnd space (text.dropWhile space)

/-- Single spaces only, and none at an end: no space follows a space, and the text neither
starts nor ends with one. -/
structure Tidy (text : List α) : Prop where
  apart : text.IsChain fun left right => space left = false ∨ space right = false
  starts : ∀ c ∈ text.head?, space c = false
  ends : ∀ c ∈ text.getLast?, space c = false

variable {space} {text left right : List α} {c : α}

/-! ## Words -/

theorem words_append_cons (sep : space c = true) :
    words space (left ++ c :: right) = words space left ++ words space right := by
  unfold words
  rw [List.splitOnP_append_cons left right sep, List.filter_append]

theorem words_spaceless (some : text ≠ []) (none : ∀ c ∈ text, space c = false) :
    words space text = [text] := by
  unfold words
  rw [List.splitOnP_eq_singleton none]
  simp [some]

theorem words_gap (gap : ∀ c ∈ left, space c = true) :
    words space (left ++ right) = words space right := by
  induction left with
  | nil => rfl
  | cons first rest ih =>
    obtain ⟨here, later⟩ := List.forall_mem_cons.mp gap
    rw [List.cons_append, ← List.nil_append (first :: (rest ++ right)), words_append_cons here, ih later]
    rfl

/-- The first word, up to the first space. -/
theorem words_first (some : left ≠ []) (none : ∀ c ∈ left, space c = false)
    (sep : ∀ c ∈ right.head?, space c = true) : (words space (left ++ right)).head? = .some left := by
  cases right with
  | nil => rw [List.append_nil, words_spaceless some none, List.head?_cons]
  | cons first rest =>
    rw [words_append_cons (sep first rfl), words_spaceless some none]
    rfl

/-- A separator is in no piece. -/
theorem mem_splitOnP {piece : List α} (among : piece ∈ text.splitOnP space) :
    ∀ c ∈ piece, space c = false := by
  induction text generalizing piece with
  | nil => simp_all
  | cons first rest ih =>
    rw [List.splitOnP_cons_eq_if_modifyHead] at among
    cases here : space first with
    | true =>
      rw [if_pos here] at among
      rcases List.mem_cons.mp among with rfl | later
      · simp
      · exact ih later
    | false =>
      rw [if_neg (by simp [here])] at among
      obtain ⟨next, others, shape⟩ := List.exists_cons_of_ne_nil (List.splitOnP_ne_nil space rest)
      rw [shape, List.modifyHead_cons] at among
      rw [shape] at ih
      rcases List.mem_cons.mp among with rfl | later
      · exact List.forall_mem_cons.mpr ⟨here, ih List.mem_cons_self⟩
      · exact ih (List.mem_cons_of_mem next later)

theorem mem_words {word : List α} (among : word ∈ words space text) :
    word ≠ [] ∧ ∀ c ∈ word, space c = false := by
  unfold words at among
  obtain ⟨held, some⟩ := List.mem_filter.mp among
  exact ⟨by simpa using some, mem_splitOnP held⟩

/-! ## Cutting a text -/

theorem splitOn_cut [DecidableEq α] {x : α} {piece : List α} (among : piece ∈ text.splitOn x) :
    ∃ before after, text = before ++ piece ++ after ∧
      (before = [] ∨ x ∈ before.getLast?) ∧ (after = [] ∨ x ∈ after.head?) := by
  obtain ⟨first, rest, shape⟩ := List.append_of_mem among
  have joined : [x].intercalate (text.splitOn x) = text := List.intercalate_splitOn x
  rw [shape] at joined
  rw [← joined]
  clear joined shape among
  induction first with
  | nil =>
    cases rest with
    | nil => exact ⟨[], [], by simp, .inl rfl, .inl rfl⟩
    | cons next rest =>
      exact ⟨[], x :: [x].intercalate (next :: rest), by simp, .inl rfl, .inr rfl⟩
  | cons head first ih =>
    obtain ⟨before, after, cut, starts, ends⟩ := ih
    refine ⟨head ++ [x] ++ before, after, ?_, .inr ?_, ends⟩
    · rw [List.cons_append, List.intercalate_cons_of_ne_nil (by simp), cut]
      simp
    · rw [List.getLast?_append]
      rcases starts with rfl | starts
      · simp
      · simp [Option.mem_def.mp starts]

theorem mem_headD_splitOn [DecidableEq α] {x : α} (held : c ∈ (text.splitOn x).headD []) :
    c ∈ text := by
  obtain ⟨first, rest, shape⟩ := List.exists_cons_of_ne_nil (List.splitOn_ne_nil x text)
  rw [shape, List.headD_cons] at held
  obtain ⟨before, after, cut, _⟩ := @splitOn_cut _ text _ x first (by simp [shape])
  rw [cut]
  simp [held]

/-- Between two spaces of a tidy text there is something, and it is tidy. -/
theorem Tidy.cut [DecidableEq α] {x : α} {piece : List α} (tidy : Tidy space text)
    (sep : space x = true) (some : text ≠ []) (among : piece ∈ text.splitOn x) :
    piece ≠ [] ∧ Tidy space piece := by
  obtain ⟨before, after, rfl, starts, ends⟩ := splitOn_cut among
  have clash : ∀ c, c = x → space c = false → False := by
    rintro _ rfl none
    rw [sep] at none
    cases none
  have apart := tidy.apart
  rw [List.append_assoc] at apart
  obtain ⟨_, inner, behind⟩ := List.isChain_append.mp apart
  obtain ⟨chain, _, ahead⟩ := List.isChain_append.mp inner
  have nonempty : piece ≠ [] := by
    rintro rfl
    rcases starts with rfl | last
    · rcases ends with rfl | first
      · exact some rfl
      · exact clash x rfl (tidy.starts x (by simpa using first))
    · rcases ends with rfl | first
      · exact clash x rfl (tidy.ends x (by simpa using last))
      · exact (behind x last x (by simpa using first)).elim (clash x rfl) (clash x rfl)
  refine ⟨nonempty, chain, fun c first => ?_, fun c last => ?_⟩
  · rcases starts with rfl | closing
    · exact tidy.starts c (by simp [List.head?_append, Option.mem_def.mp first])
    · exact (behind x closing c (by simp [List.head?_append, Option.mem_def.mp first])).resolve_left
        (clash x rfl)
  · rcases ends with rfl | opening
    · exact tidy.ends c (by simp [List.getLast?_append, Option.mem_def.mp last])
    · exact (ahead c last x opening).resolve_right (clash x rfl)

/-! ## Joining pieces -/

theorem tidy_spaceless (none : ∀ c ∈ text, space c = false) : Tidy space text where
  apart := by
    refine List.Pairwise.isChain (List.pairwise_iff_forall_sublist.mpr fun pair => .inl ?_)
    exact none _ (pair.subset (by simp))
  starts c first := none c (List.mem_of_head? first)
  ends c last := none c (List.mem_of_getLast? last)

theorem Tidy.join {x : α} (tidy : Tidy space left) (tidy' : Tidy space right) (some : left ≠ [])
    (some' : right ≠ []) : Tidy space (left ++ x :: right) where
  apart := by
    refine tidy.apart.append ?_ fun c last d first => .inl (tidy.ends c last)
    exact List.isChain_cons.mpr ⟨fun c first => .inr (tidy'.starts c first), tidy'.apart⟩
  starts c first := by
    obtain ⟨head, rest, rfl⟩ := List.exists_cons_of_ne_nil some
    exact tidy.starts c (by simpa using first)
  ends c last := by
    obtain ⟨head, rest, rfl⟩ := List.exists_cons_of_ne_nil some'
    rw [List.getLast?_append, List.getLast?_cons_cons] at last
    refine tidy'.ends c ?_
    simpa [List.getLast?_cons] using last

theorem tidy_intercalate {x : α} {pieces : List (List α)}
    (tidy : ∀ piece ∈ pieces, piece ≠ [] ∧ Tidy space piece) :
    Tidy space ([x].intercalate pieces) ∧ (pieces ≠ [] → [x].intercalate pieces ≠ []) := by
  induction pieces with
  | nil => exact ⟨⟨by simp, by simp, by simp⟩, fun some => absurd rfl some⟩
  | cons piece rest ih =>
    obtain ⟨⟨some, here⟩, later⟩ := List.forall_mem_cons.mp tidy
    cases rest with
    | nil => simpa using ⟨here, some⟩
    | cons next rest =>
      obtain ⟨others, full⟩ := ih later
      rw [List.intercalate_cons_of_ne_nil (by simp), List.append_assoc]
      exact ⟨here.join others some (full (by simp)), fun _ => by simp⟩

theorem mem_intercalate {x : α} {pieces : List (List α)} (held : c ∈ [x].intercalate pieces) :
    c = x ∨ ∃ piece ∈ pieces, c ∈ piece := by
  induction pieces with
  | nil => cases held
  | cons piece rest ih =>
    cases rest with
    | nil => exact .inr ⟨piece, List.mem_cons_self, by simpa using held⟩
    | cons next rest =>
      rw [List.intercalate_cons_of_ne_nil (by simp)] at held
      simp only [List.mem_append, List.mem_singleton] at held
      rcases held with (here | rfl) | later
      · exact .inr ⟨piece, List.mem_cons_self, here⟩
      · exact .inl rfl
      · exact (ih later).imp_right fun ⟨other, among, inside⟩ =>
          ⟨other, List.mem_cons_of_mem piece among, inside⟩

/-- The words of a tidy text with one kind of space are what stands between the spaces;
nothing empty has to be left out. -/
theorem Tidy.words_eq [DecidableEq α] {x : α} (tidy : Tidy space text) (some : text ≠ [])
    (sep : space x = true) (only : ∀ c ∈ text, space c = true → c = x) :
    words space text = text.splitOn x := by
  have alike : text.splitOnP space = text.splitOn x := by
    clear tidy some
    induction text with
    | nil => rfl
    | cons first rest ih =>
      obtain ⟨here, later⟩ := List.forall_mem_cons.mp only
      rw [List.splitOnP_cons_eq_if_modifyHead, List.splitOn_cons_eq_if_modifyHead, ih later]
      by_cases same : first = x
      · simp [same, sep]
      · have none : space first = false := Bool.eq_false_iff.mpr fun blank => same (here blank)
        simp [same, none]
  unfold words
  rw [alike]
  refine List.filter_eq_self.mpr fun piece among => ?_
  simpa using (tidy.cut sep some among).1

/-! ## Cutting the end off -/

theorem trimEnd_begins (text : List α) : trimEnd space text <+: text :=
  List.rdropWhile_prefix space text

theorem Tidy.trimEnd {begun : List α} (tidy : Tidy space text) (part : begun <+: text) :
    Tidy space (trimEnd space begun) := by
  have inside := (@trimEnd_begins α space begun).trans part
  refine ⟨ List.IsChain.prefix tidy.apart inside, fun c first => ?_, fun c last => ?_⟩
  · obtain ⟨rest, rfl⟩ := inside
    refine tidy.starts c ?_
    rw [List.head?_append, Option.mem_def.mp first]
    rfl
  · obtain ⟨some, rfl⟩ := List.mem_getLast?_eq_getLast last
    exact Bool.eq_false_iff.mpr (List.rdropWhile_last_not _ _ some)

theorem Tidy.concat (tidy : Tidy space text) (mark : space c = false) : Tidy space (text ++ [c]) where
  apart := tidy.apart.append (.singleton c) fun d last _ _ => .inl (tidy.ends d last)
  starts d first := by
    cases text with
    | nil =>
      cases first
      exact mark
    | cons head rest => exact tidy.starts d (by simpa using first)
  ends d last := by
    rw [List.getLast?_concat, Option.mem_some_iff] at last
    exact last ▸ mark

/-- Nothing to trim. -/
theorem trim_eq_self (starts : ∀ c ∈ text.head?, space c = false)
    (ends : ∀ c ∈ text.getLast?, space c = false) : trim space text = text := by
  unfold trim Words.trimEnd
  have first : text.dropWhile space = text := by
    cases text with
    | nil => rfl
    | cons head rest => rw [List.dropWhile_cons, starts head rfl, if_neg Bool.false_ne_true]
  rw [first]
  refine List.rdropWhile_eq_self_iff.mpr fun some => ?_
  simpa using ends _ (List.getLast_mem_getLast? some)

theorem Tidy.trim_eq (tidy : Tidy space text) : trim space text = text :=
  trim_eq_self tidy.starts tidy.ends

theorem mem_trim (held : c ∈ trim space text) : c ∈ text :=
  (List.dropWhile_suffix _).subset ((trimEnd_begins _).subset held)

theorem trim_starts : ∀ c ∈ (trim space text).head?, space c = false := by
  intro c first
  obtain ⟨rest, whole⟩ := @trimEnd_begins _ space (text.dropWhile space)
  have begun : (trimEnd space (text.dropWhile space)).head? = some c := first
  have head : (text.dropWhile space).head? = some c := by
    rw [← whole, List.head?_append, begun, Option.some_or]
  have kept := List.head?_dropWhile_not space text
  rw [head] at kept
  simpa using kept

theorem trim_ends : ∀ c ∈ (trim space text).getLast?, space c = false := by
  intro c last
  obtain ⟨some, rfl⟩ := List.mem_getLast?_eq_getLast last
  exact Bool.eq_false_iff.mpr (List.rdropWhile_last_not _ _ some)

/-! ## Spacing -/

/-- The words of each line of a text. Line breaks separate lines and are not counted among
the spaces, so an empty line is a line without words. -/
def lineWords [DecidableEq α] (space : α → Bool) (br : α) (text : List α) : List (List (List α)) :=
  (text.splitOn br).map (words space)

/-- Texts with the same words on every line, whatever is written after them. Quantified over
what follows, the relation is kept when both are appended to. -/
def Respaced [DecidableEq α] (space : α → Bool) (br : α) (left right : List α) : Prop :=
  ∀ rest, lineWords space br (left ++ rest) = lineWords space br (right ++ rest)

section Spacing
variable [DecidableEq α] {br : α}

theorem splitOn_append_of_not_mem (none : br ∉ left) :
    (left ++ text).splitOn br = (text.splitOn br).modifyHead (left ++ ·) := by
  induction left with
  | nil =>
    obtain ⟨line, lines, shape⟩ := List.exists_cons_of_ne_nil (List.splitOn_ne_nil br text)
    rw [List.nil_append, shape, List.modifyHead_cons, List.nil_append]
  | cons first rest ih =>
    obtain ⟨other, later⟩ := not_or.mp (mt List.mem_cons.mpr none)
    have apart : (first == br) = false := beq_eq_false_iff_ne.mpr (Ne.symm other)
    obtain ⟨line, lines, shape⟩ := List.exists_cons_of_ne_nil (List.splitOn_ne_nil br text)
    rw [List.cons_append, List.splitOn_cons_eq_if_modifyHead, if_neg (by simp [apart]), ih later,
      shape]
    rfl

/-- A space after a space is not seen. -/
theorem lineWords_double (sep : space c = true) (inner : c ≠ br) :
    lineWords space br (left ++ c :: c :: right) = lineWords space br (left ++ c :: right) := by
  suffices ∀ line, br ∉ line → lineWords space br (line ++ (left ++ c :: c :: right)) =
      lineWords space br (line ++ (left ++ c :: right)) from this [] List.not_mem_nil
  unfold lineWords
  induction left with
  | nil =>
    intro line none
    have double : br ∉ line ++ [c, c] := by simp [none, inner.symm]
    have single : br ∉ line ++ [c] := by simp [none, inner.symm]
    have twice : line ++ ([] ++ c :: c :: right) = (line ++ [c, c]) ++ right := by simp
    have once : line ++ ([] ++ c :: right) = (line ++ [c]) ++ right := by simp
    rw [twice, once, splitOn_append_of_not_mem double, splitOn_append_of_not_mem single]
    obtain ⟨first, lines, shape⟩ := List.exists_cons_of_ne_nil (List.splitOn_ne_nil br right)
    rw [shape, List.modifyHead_cons, List.modifyHead_cons, List.map_cons, List.map_cons]
    have gap : words space (c :: first) = words space first :=
      @words_gap _ space [c] first fun d held => List.mem_singleton.mp held ▸ sep
    have same : words space (line ++ c :: c :: first) = words space (line ++ c :: first) := by
      rw [words_append_cons sep, words_append_cons sep, gap]
    simpa using same
  | cons first rest ih =>
    intro line none
    by_cases broken : first = br
    · have empty := ih [] List.not_mem_nil
      rw [List.cons_append, List.cons_append, broken, List.splitOn_append_cons_self,
        List.splitOn_append_cons_self, List.map_append, List.map_append]
      exact congrArg _ empty
    · have longer := ih (line ++ [first]) (by simp [none, Ne.symm broken])
      simpa using longer

theorem Respaced.refl : Respaced space br text text := fun _ => rfl

theorem Respaced.lineWords (same : Respaced space br left right) :
    lineWords space br left = lineWords space br right := by
  simpa using same []

theorem Respaced.append (same : Respaced space br left right) :
    Respaced space br (left ++ text) (right ++ text) := fun rest => by
  rw [List.append_assoc, List.append_assoc]
  exact same (text ++ rest)

theorem Respaced.double (same : Respaced space br left right) (sep : space c = true)
    (inner : c ≠ br) : Respaced space br (left ++ [c, c]) (right ++ [c]) := fun rest => by
  have told := same (c :: c :: rest)
  rw [@lineWords_double _ _ right rest] at told
  · simpa using told
  · exact sep
  · exact inner

end Spacing

end Words
