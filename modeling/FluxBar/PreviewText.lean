import FluxBar.Article

/-! Preview texts: lines of words with one space between two of them, no longer than the
limit, and made from the visible part of the document alone. Normalizing such a text again
leaves it as it is. -/
namespace FluxBar.Article
open Words

variable {value text : Text} {limit : Nat} {c : Char}

/-! ## Normal texts -/

/-- Lines of words: no whitespace but single spaces and line breaks, none at the ends of a
line, and no line without a word. -/
structure Plain (text : Text) : Prop where
  tidy : Tidy isWhitespace text
  breaks : ∀ c ∈ text, isWhitespace c = true → c = ' ' ∨ c = '\n'

theorem plain_collapseWhitespace : Tidy isWhitespace (collapseWhitespace value) ∧
    ∀ c ∈ collapseWhitespace value, isWhitespace c = true → c = ' ' := by
  unfold collapseWhitespace
  refine ⟨(tidy_intercalate fun word among => ?_).1, fun c held blank => ?_⟩
  · exact ⟨(mem_words among).1, tidy_spaceless (mem_words among).2⟩
  · rcases mem_intercalate held with same | ⟨word, among, inside⟩
    · exact same
    · rw [(mem_words among).2 c inside] at blank
      cases blank

theorem collapseWhitespace_eq (tidy : Tidy isWhitespace value) (some : value ≠ [])
    (only : ∀ c ∈ value, isWhitespace c = true → c = ' ') : collapseWhitespace value = value := by
  unfold collapseWhitespace
  rw [tidy.words_eq some rfl only, List.intercalate_splitOn]

theorem truncate_zero : truncate value 0 = value := if_pos (.inl rfl)

theorem normalizeLines_eq : normalizeLines value limit = truncate (normalizeLines value 0) limit := by
  unfold normalizeLines
  rw [truncate_zero]

theorem plain_normalizeLines_zero : Plain (normalizeLines value 0) := by
  unfold normalizeLines
  rw [truncate_zero]
  have lines : ∀ line ∈ ((value.splitOn '\n').map collapseWhitespace).filter fun line => !line.isEmpty,
      (line ≠ [] ∧ Tidy isWhitespace line) ∧ ∀ c ∈ line, isWhitespace c = true → c = ' ' := by
    intro line among
    obtain ⟨held, some⟩ := List.mem_filter.mp among
    obtain ⟨_, _, rfl⟩ := List.mem_map.mp held
    exact ⟨⟨by simpa using some, plain_collapseWhitespace.1⟩, plain_collapseWhitespace.2⟩
  refine ⟨(tidy_intercalate fun line among => (lines line among).1).1, fun c held blank => ?_⟩
  rcases mem_intercalate held with same | ⟨line, among, inside⟩
  · exact .inr same
  · exact .inl ((lines line among).2 c inside blank)

theorem Plain.truncate (plain : Plain value) : Plain (truncate value limit) := by
  unfold Article.truncate
  split
  · exact plain
  · have part := List.take_prefix (limit - 1) value
    refine ⟨(plain.tidy.trimEnd part).concat rfl, fun c held blank => ?_⟩
    rcases List.mem_append.mp held with kept | mark
    · exact plain.breaks c (part.subset ((trimEnd_begins _).subset kept)) blank
    · rw [List.mem_singleton.mp mark] at blank
      cases blank

theorem plain_normalizeLines : Plain (normalizeLines value limit) := by
  rw [normalizeLines_eq]
  exact plain_normalizeLines_zero.truncate

theorem Plain.line (plain : Plain text) (some : text ≠ []) {line : Text}
    (among : line ∈ text.splitOn '\n') : (line ≠ [] ∧ Tidy isWhitespace line) ∧
      ∀ c ∈ line, isWhitespace c = true → c = ' ' := by
  refine ⟨plain.tidy.cut rfl some among, fun c inside blank => ?_⟩
  obtain ⟨before, after, cut, _⟩ := splitOn_cut among
  refine (plain.breaks c ?_ blank).resolve_right ?_
  · rw [cut]
    simp [inside]
  · rintro rfl
    have absent := mem_splitOnP among '\n' inside
    simp at absent

/-- Normalizing leaves a normal text as it is, so that it may be done twice. -/
theorem Plain.normalizeLines_eq (plain : Plain text) : normalizeLines text 0 = text := by
  unfold normalizeLines
  rw [truncate_zero]
  by_cases empty : text = []
  · rw [empty]
    rfl
  · have kept : (text.splitOn '\n').map collapseWhitespace = text.splitOn '\n' := by
      refine (List.map_congr_left fun line among => ?_).trans (List.map_id _)
      obtain ⟨⟨some, tidy⟩, only⟩ := plain.line empty among
      exact collapseWhitespace_eq tidy some only
    have full : ∀ line ∈ text.splitOn '\n', (!line.isEmpty) = true := fun line among => by
      simpa using (plain.line empty among).1.1
    rw [kept, List.filter_eq_self.mpr full, List.intercalate_splitOn]

theorem length_truncate (positive : 1 ≤ limit) : (truncate value limit).length ≤ limit := by
  unfold truncate
  split
  · omega
  · have kept := (@trimEnd_begins _ isWhitespace (value.take (limit - 1))).length_le
    rw [List.length_take] at kept
    rw [List.length_append, List.length_singleton]
    omega

theorem normalizeLines_idempotent :
    normalizeLines (normalizeLines value limit) limit = normalizeLines value limit := by
  rw [Article.normalizeLines_eq, plain_normalizeLines.normalizeLines_eq]
  refine if_pos ?_
  by_cases none : limit = 0
  · exact .inl none
  · right
    rw [Article.normalizeLines_eq]
    exact length_truncate (by omega)

/-! ## What is visible -/

/-- Edits of a list of nodes that a reader does not see: of what stands below an ignored
element, of comments, and of attributes other than the text of an image. -/
inductive Edited : List Node → List Node → Prop where
  | refl (nodes : List Node) : Edited nodes nodes
  | symm {nodes nodes' : List Node} : Edited nodes nodes' → Edited nodes' nodes
  | trans {nodes between nodes' : List Node} : Edited nodes between → Edited between nodes' →
      Edited nodes nodes'
  | beside {left left' right right' : List Node} : Edited left left' → Edited right right' →
      Edited (left ++ right) (left' ++ right')
  | comment (contents : Text) : Edited [.comment contents] []
  | hidden {tag : String} {attrs : List Attribute} {children children' : List Node}
      {contents contents' : Option Node} : tag ∈ IGNORED_ELEMENTS →
      Edited [.element tag attrs children contents] [.element tag attrs children' contents']
  | attributes {tag : String} {attrs attrs' : List Attribute} {children : List Node}
      {contents : Option Node} :
      (tag = "img" → attributeValue attrs "alt" = attributeValue attrs' "alt") →
      Edited [.element tag attrs children contents] [.element tag attrs' children contents]
  | element {tag : String} {attrs : List Attribute} {children children' : List Node}
      {contents : Option Node} : Edited children children' →
      Edited [.element tag attrs children contents] [.element tag attrs children' contents]
  | document {children children' : List Node} : Edited children children' →
      Edited [.document children] [.document children']

theorem appendChildrenText_append {left right : List Node} {output : Text} :
    appendChildrenText output (left ++ right) =
      appendChildrenText (appendChildrenText output left) right := by
  induction left generalizing output with
  | nil => rw [List.nil_append, appendChildrenText]
  | cons child rest ih => rw [List.cons_append, appendChildrenText, ih, appendChildrenText]

theorem Edited.text_eq {nodes nodes' : List Node} (edited : Edited nodes nodes') (output : Text) :
    appendChildrenText output nodes = appendChildrenText output nodes' := by
  induction edited generalizing output with
  | refl => rfl
  | symm _ ih => exact (ih output).symm
  | trans _ _ first second => exact (first output).trans (second output)
  | beside _ _ left right =>
    rw [appendChildrenText_append, appendChildrenText_append, left, right]
  | comment => rfl
  | hidden ignored =>
    simp only [appendChildrenText, appendNodeText, if_pos ignored]
  | @attributes tag attrs attrs' children contents same =>
    have opened : opening output tag attrs = opening output tag attrs' := by
      unfold opening
      by_cases image : tag = "img"
      · rw [same image]
      · simp only [image, if_false]
    simp only [appendChildrenText, appendNodeText, opened]
  | @element tag attrs children children' contents _ ih =>
    simp only [appendChildrenText, appendNodeText, ih]
  | document _ ih => simp only [appendChildrenText, appendNodeText, ih]

/-- A break, where an element begins or ends a line. -/
def lineBreak (breaks : Bool) : Text := if breaks then ['\n'] else []

/-- The text an image stands for, apart from what is around it: its alternative text,
between spaces. -/
def caption (tag : String) (attrs : List Attribute) : Text :=
  if tag = "img" then ((attributeValue attrs "alt").map fun alt => ' ' :: alt ++ [' ']).getD [] else []

mutual

/-- What a reader sees of a node: the texts and the captions below it, in the order of the
document, on lines that end at each `br` and around each block. Nothing is seen of what an
ignored element holds. -/
def visibleText : Node → Text
  | .element tag attrs children _ =>
    if tag ∈ IGNORED_ELEMENTS then []
    else lineBreak (tag = "br" ∨ tag ∈ BLOCK_ELEMENTS) ++ caption tag attrs ++ visibleTexts children ++
      lineBreak (tag ∈ BLOCK_ELEMENTS)
  | .text contents => contents
  | .document children => visibleTexts children
  | .doctype | .comment _ | .processingInstruction => []

def visibleTexts : List Node → Text
  | [] => []
  | child :: children => visibleText child ++ visibleTexts children

end

theorem opening_eq (output : Text) (tag : String) (attrs : List Attribute) :
    opening output tag attrs =
      output ++ (lineBreak (tag = "br" ∨ tag ∈ BLOCK_ELEMENTS) ++ caption tag attrs) := by
  have br : "br" ∉ BLOCK_ELEMENTS := by decide
  have img : "img" ∉ BLOCK_ELEMENTS := by decide
  unfold opening lineBreak caption
  by_cases breaks : tag = "br"
  · simp [breaks, br]
  · by_cases image : tag = "img"
    · cases attributeValue attrs "alt" <;> simp [image, img]
    · by_cases block : tag ∈ BLOCK_ELEMENTS <;> simp [breaks, image, block]

/-- The traversal puts the visible text behind what it has; by the recursor of nodes, with
the children as a list of their own. -/
theorem appendNodeText_eq (dom : Node) :
    ∀ output, appendNodeText output dom = output ++ visibleText dom := by
  refine @Node.rec (fun node => ∀ output, appendNodeText output node = output ++ visibleText node)
    (fun children => ∀ output, appendChildrenText output children = output ++ visibleTexts children)
    (fun _ => True) ?document ?doctype ?comment ?processingInstruction ?text ?element ?nil ?cons
    trivial (fun _ _ => trivial) dom
  case document =>
    intro children ih output
    rw [appendNodeText, visibleText, ih]
  case doctype => simp [appendNodeText, visibleText]
  case comment => simp [appendNodeText, visibleText]
  case processingInstruction => simp [appendNodeText, visibleText]
  case text => simp [appendNodeText, visibleText]
  case element =>
    intro tag attrs children contents ih _ output
    rw [appendNodeText, visibleText]
    by_cases ignored : tag ∈ IGNORED_ELEMENTS
    · rw [if_pos ignored, if_pos ignored, List.append_nil]
    · rw [if_neg ignored, if_neg ignored, opening_eq, ih]
      by_cases block : tag ∈ BLOCK_ELEMENTS <;> simp [block, lineBreak]
  case nil => simp [appendChildrenText, visibleTexts]
  case cons =>
    intro child children ih later output
    rw [appendChildrenText, visibleTexts, ih, later, List.append_assoc]

/-! ## Previews -/

/-- The lines of a text; an empty text has none. -/
def lines (text : Text) : List Text := if text = [] then [] else text.splitOn '\n'

theorem Plain.lines (plain : Plain text) : ∀ line ∈ lines text, line ≠ [] ∧
    (∀ c ∈ line.head?, isWhitespace c = false) ∧ ∀ c ∈ line.getLast?, isWhitespace c = false := by
  unfold Article.lines
  split
  · simp
  · rename_i some
    intro line among
    obtain ⟨full, tidy⟩ := (plain.line some among).1
    exact ⟨full, tidy.starts, tidy.ends⟩

/-- The lines of a visible text that have words, their words a space apart. -/
def shownLines (value : Text) : List Text :=
  ((lineWords isWhitespace '\n' value).filter fun words => !words.isEmpty).map [' '].intercalate

theorem collapseWhitespace_isEmpty : (collapseWhitespace value).isEmpty = (words isWhitespace value).isEmpty := by
  unfold collapseWhitespace
  cases shape : words isWhitespace value with
  | nil => rfl
  | cons first rest =>
    have some := (@mem_words _ isWhitespace value first (shape ▸ List.mem_cons_self)).1
    cases rest with
    | nil => simp [some]
    | cons next rest => simp [List.intercalate_cons_of_ne_nil]

/-- Normalizing keeps the lines that have words. -/
theorem lines_normalizeLines (value : Text) : lines (normalizeLines value 0) = shownLines value := by
  have kept : ((value.splitOn '\n').map collapseWhitespace).filter (fun line => !line.isEmpty) =
      shownLines value := by
    have alike : (fun line : Text => !line.isEmpty) ∘ collapseWhitespace =
        (fun words : List Text => !words.isEmpty) ∘ words isWhitespace :=
      funext fun line => congrArg (! ·) collapseWhitespace_isEmpty
    unfold shownLines lineWords
    rw [List.filter_map, List.filter_map, List.map_map, alike]
    rfl
  have full : ∀ line ∈ shownLines value, line ≠ [] ∧ '\n' ∉ line := by
    intro line among
    rw [← kept] at among
    obtain ⟨held, some⟩ := List.mem_filter.mp among
    obtain ⟨written, _, rfl⟩ := List.mem_map.mp held
    refine ⟨by simpa using some, fun inside => ?_⟩
    exact absurd ((@plain_collapseWhitespace written).2 '\n' inside rfl) (by decide)
  unfold normalizeLines lines
  rw [truncate_zero, kept]
  by_cases empty : shownLines value = []
  · rw [empty]
    rfl
  · have cut := List.splitOn_intercalate '\n' (fun line among => (full line among).2) empty
    rw [if_neg, cut]
    intro none
    rw [none] at cut
    exact (full [] (cut ▸ List.mem_singleton_self _)).1 rfl

/-- A preview of any length shows the lines of the visible text that have words, each of its
words, and none besides. -/
theorem lines_previewText (dom : Node) : lines (previewText dom 0) = shownLines (visibleText dom) := by
  unfold previewText
  rw [appendNodeText_eq, List.nil_append]
  exact lines_normalizeLines _

/-- A preview text is made of lines of words, keeps to its limit, is the whole text or a
beginning of it with an ellipsis, is normal already, and shows what is visible only. The
whole text has the words of the visible text, line by line, on the lines that have any. -/
theorem previewText_spec (dom : Node) (limit : Nat) :
    (∀ line ∈ lines (previewText dom limit), line ≠ [] ∧
      (∀ c ∈ line.head?, isWhitespace c = false) ∧ ∀ c ∈ line.getLast?, isWhitespace c = false) ∧
    (∀ c ∈ previewText dom limit, isWhitespace c = true → c = ' ' ∨ c = '\n') ∧
    (previewText dom limit).IsChain (fun left right =>
      isWhitespace left = false ∨ isWhitespace right = false) ∧
    (1 ≤ limit → (previewText dom limit).length ≤ limit ∧
      previewText dom limit =
        if (previewText dom 0).length ≤ limit then previewText dom 0
        else trimEnd isWhitespace ((previewText dom 0).take (limit - 1)) ++ ['…']) ∧
    normalizeLines (previewText dom limit) limit = previewText dom limit ∧
    (∀ dom', Edited [dom] [dom'] → previewText dom' limit = previewText dom limit) ∧
    lines (previewText dom 0) = shownLines (visibleText dom) := by
  have plain : Plain (previewText dom limit) := plain_normalizeLines
  refine ⟨plain.lines, plain.breaks, plain.tidy.apart, fun positive => ⟨?_, ?_⟩,
    normalizeLines_idempotent, fun dom' edited => ?_, lines_previewText dom⟩
  · unfold previewText
    rw [normalizeLines_eq]
    exact length_truncate positive
  · unfold previewText
    rw [normalizeLines_eq]
    have some : limit ≠ 0 := by omega
    unfold truncate
    simp only [some, false_or]
  · have same := edited.text_eq []
    simp only [appendChildrenText] at same
    unfold previewText
    rw [same]

/-- A page of which the title, a comment and a script are not seen. -/
def shownArticle : Node := .document [
  .element "head" [] [.text "Title".toList] none,
  .element "p" [] [.text " One \n".toList, .comment "not shown".toList, .text "two".toList] none,
  .element "script" [] [.text "run()".toList] none,
  .element "img" [⟨"src", "x".toList⟩, ⟨"alt", "three".toList⟩] [] none]

/-- Three lines of words of a document, and the beginning of them that six characters hold.
-/
theorem previewText_spec_shown :
    lines (previewText shownArticle 0) = ["One".toList, "two".toList, "three".toList] ∧
      previewText shownArticle 6 = "One\nt…".toList := by
  obtain ⟨_, _, _, cut, _, _, shown⟩ := previewText_spec shownArticle 6
  exact ⟨shown.trans (by decide), (cut (by decide)).2.trans (by decide)⟩

end FluxBar.Article
