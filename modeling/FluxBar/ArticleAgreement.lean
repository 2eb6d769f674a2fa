import FluxBar.BrowseAgreement
import FluxBar.GoArticle
import FluxBar.PreviewText
import FluxBar.ResponsiveImages

/-! What the article packages of the two cores make of one document: the same text, but for a
space where an image has an empty alternative text, and the same image where dimensions are
written plainly and the URL libraries give one address. -/
namespace FluxBar
open Words
open Article (Text Attribute Within isWhitespace)

/-! ## One document -/

namespace GoArticle

mutual

/-- The tree the parser of the Go core gives for a document of the other. -/
def Node.ofDom : Article.Node → Node
  | .document children => .mk .document "" [] (ofDoms children)
  | .doctype => .mk .doctype "" [] []
  | .comment contents => .mk .comment (.ofList contents) [] []
  | .processingInstruction => .mk .comment "" [] []
  | .text contents => .mk .text (.ofList contents) [] []
  | .element name attrs children contents =>
    .mk .element name attrs (ofDoms children ++ ofContents contents)

def ofDoms : List Article.Node → List Node
  | [] => []
  | child :: children => Node.ofDom child :: ofDoms children

/-- What a template holds. -/
def ofContents : Option Article.Node → List Node
  | none => []
  | some (.document children) => ofDoms children
  | some contents => [Node.ofDom contents]

end

mutual

/-- The document with a space at each image whose alternative text is empty, which is all
that this core's traversal adds. -/
def Node.spaced : Node → Node
  | .mk type data attr children =>
    .mk type data attr
      (if data = "img" ∧ Article.attributeValue attr "alt" = some [] then
        .mk .text " " [] [] :: spacedAll children
      else spacedAll children)

def spacedAll : List Node → List Node
  | [] => []
  | child :: children => child.spaced :: spacedAll children

end

end GoArticle

namespace Article
variable {holds : String → List Attribute → Option Node → Prop}

/-- What holds of every element of a document, the contents of templates included; the
conditions on documents are stated with it. -/
def Everywhere (holds : String → List Attribute → Option Node → Prop) (dom : Node) : Prop :=
  ∀ tag attrs children contents, Within (.element tag attrs children contents) dom →
    holds tag attrs contents

theorem Everywhere.document {children : List Node} (all : Everywhere holds (.document children)) :
    ∀ child ∈ children, Everywhere holds child :=
  fun _ among tag attrs inner contents inside =>
    all tag attrs inner contents (.document among inside)

section Element
variable {tag : String} {attrs : List Attribute} {children : List Node} {contents : Option Node}

theorem Everywhere.own (all : Everywhere holds (.element tag attrs children contents)) :
    holds tag attrs contents :=
  all tag attrs children contents .here

theorem Everywhere.child (all : Everywhere holds (.element tag attrs children contents)) :
    ∀ child ∈ children, Everywhere holds child :=
  fun _ among other attrs' inner contents' inside =>
    all other attrs' inner contents' (.child among inside)

theorem Everywhere.inside {held : Node}
    (all : Everywhere holds (.element tag attrs children (some held))) : Everywhere holds held :=
  fun other attrs' inner contents' inside => all other attrs' inner contents' (.contents inside)

theorem everywhere_element : Everywhere holds (.element tag attrs children contents) ↔
    holds tag attrs contents ∧ (∀ child ∈ children, Everywhere holds child) ∧
      ∀ held ∈ contents, Everywhere holds held := by
  constructor
  · intro all
    refine ⟨all.own, all.child, ?_⟩
    rintro held rfl
    exact all.inside
  · rintro ⟨own, below, held⟩ other attrs' inner contents' inside
    cases inside with
    | here => exact own
    | child among inside => exact below _ among _ _ _ _ inside
    | contents inside => exact held _ rfl _ _ _ _ inside

end Element

theorem everywhere_document {children : List Node} :
    Everywhere holds (.document children) ↔ ∀ child ∈ children, Everywhere holds child := by
  refine ⟨Everywhere.document, fun below tag attrs inner contents inside => ?_⟩
  cases inside with
  | document among inside => exact below _ among _ _ _ _ inside

theorem everywhere_text {contents : Text} : Everywhere holds (.text contents) := by
  intro tag attrs children held inside
  cases inside

/-- Only templates hold documents, as the parser of this core builds them. -/
def Templated : Node → Prop :=
  Everywhere fun tag _ contents => ∀ held ∈ contents, tag = "template" ∧
    ∃ children, held = .document children

/-- No image has an empty alternative text. -/
def Captioned : Node → Prop :=
  Everywhere fun tag attrs _ => tag = "img" → attributeValue attrs "alt" ≠ some []

end Article

/-! ## Texts -/

section Texts
open Article (Templated Captioned)
variable {left right : Text}

theorem attributeValue_getD {attrs : List Attribute} {name : String} :
    GoArticle.attributeValue attrs name = (Article.attributeValue attrs name).getD [] := rfl

theorem blockElements_eq : GoArticle.blockElements = Article.BLOCK_ELEMENTS := rfl

theorem opening_respaced (same : Respaced isWhitespace '\n' left right) {tag : String}
    {attrs : List Attribute}
    (captioned : ¬ (tag = "img" ∧ Article.attributeValue attrs "alt" = some [])) :
    Respaced isWhitespace '\n' (Article.opening left tag attrs)
      (GoArticle.opening right tag attrs) := by
  have before : ∃ put, Article.opening left tag attrs = left ++ put ∧
      GoArticle.opening right tag attrs = right ++ put := by
    unfold Article.opening GoArticle.opening
    rw [blockElements_eq, attributeValue_getD]
    by_cases br : tag = "br"
    · subst br
      exact ⟨['\n'], rfl, rfl⟩
    · by_cases image : tag = "img"
      · subst image
        have inline : "img" ∉ Article.BLOCK_ELEMENTS := by simp [Article.BLOCK_ELEMENTS]
        simp only [if_neg br, if_neg inline, if_true]
        cases alt : Article.attributeValue attrs "alt" with
        | none => exact ⟨[], by simp⟩
        | some text =>
          have some : text ≠ [] := fun empty => captioned ⟨rfl, empty ▸ alt⟩
          exact ⟨[' '] ++ text ++ [' '], by simp [some]⟩
      · simp only [if_neg br, if_neg image]
        by_cases block : tag ∈ Article.BLOCK_ELEMENTS
        · exact ⟨['\n'], if_pos block, if_pos block⟩
        · exact ⟨[], by simp [block]⟩
  obtain ⟨put, here, there⟩ := before
  rw [here, there]
  exact same.append

/-- At an image with an empty text, one core writes two spaces and the other none. -/
theorem opening_uncaptioned (same : Respaced isWhitespace '\n' left right)
    {attrs : List Attribute} (empty : Article.attributeValue attrs "alt" = some []) :
    Respaced isWhitespace '\n' (Article.opening left "img" attrs)
      (GoArticle.opening right "img" attrs ++ [' ']) := by
  have here : Article.opening left "img" attrs = left ++ [' ', ' '] := by
    simp [Article.opening, empty, Article.BLOCK_ELEMENTS]
  have there : GoArticle.opening right "img" attrs = right := by
    simp [GoArticle.opening, attributeValue_getD, empty, GoArticle.blockElements]
  rw [here, there]
  exact same.double rfl (by decide)

theorem spaced_leaf {type : GoArticle.NodeType} {data : String} :
    (GoArticle.Node.mk type data [] []).spaced = .mk type data [] [] := by
  rw [GoArticle.Node.spaced, if_neg (by simp [Article.attributeValue]), GoArticle.spacedAll]

/-- A node that shows nothing. -/
theorem appendNodeText_leaf {type : GoArticle.NodeType} (mute : type ≠ .element ∧ type ≠ .text)
    {data : String} {output : Text} :
    GoArticle.appendNodeText output (.mk type data [] []) = output := by
  rw [GoArticle.appendNodeText, if_neg (fun both => mute.1 both.1), if_neg mute.2, if_neg mute.1,
    if_neg (fun both => mute.1 both.1), GoArticle.appendChildrenText]

/-- The texts of a document, behind texts with the same words: the Go core reads it with a
space at each image whose alternative text is empty. -/
theorem appendNodeText_spaced (dom : Article.Node) : ∀ {left right : Text},
    Respaced isWhitespace '\n' left right → Templated dom →
    Respaced isWhitespace '\n' (Article.appendNodeText left dom)
      (GoArticle.appendNodeText right (GoArticle.Node.ofDom dom).spaced) := by
  refine @Article.Node.rec
    (fun node => ∀ {left right : Text}, Respaced isWhitespace '\n' left right → Templated node →
      Respaced isWhitespace '\n' (Article.appendNodeText left node)
        (GoArticle.appendNodeText right (GoArticle.Node.ofDom node).spaced))
    (fun children => ∀ {left right : Text}, Respaced isWhitespace '\n' left right →
      (∀ child ∈ children, Templated child) →
      Respaced isWhitespace '\n' (Article.appendChildrenText left children)
        (GoArticle.appendChildrenText right (GoArticle.spacedAll (GoArticle.ofDoms children))))
    (fun _ => True)
    ?document ?doctype ?comment ?processingInstruction ?text ?element ?nil ?cons ?none ?some dom
  case document =>
    intro children ih left right same templated
    have inside := ih same templated.document
    simpa [Article.appendNodeText, GoArticle.Node.ofDom, GoArticle.Node.spaced,
      GoArticle.appendNodeText] using inside
  case doctype =>
    intro left right same _
    rw [Article.appendNodeText, GoArticle.Node.ofDom, spaced_leaf, appendNodeText_leaf (by simp)]
    exact same
  case comment =>
    intro contents left right same _
    rw [Article.appendNodeText, GoArticle.Node.ofDom, spaced_leaf, appendNodeText_leaf (by simp)]
    exact same
  case processingInstruction =>
    intro left right same _
    rw [Article.appendNodeText, GoArticle.Node.ofDom, spaced_leaf, appendNodeText_leaf (by simp)]
    exact same
  case text =>
    intro contents left right same _
    simpa [Article.appendNodeText, GoArticle.Node.ofDom, GoArticle.Node.spaced,
      GoArticle.appendNodeText] using same.append
  case element =>
    intro tag attrs children contents ofChildren _ left right same templated
    have ignored : GoArticle.ignoredElements = Article.IGNORED_ELEMENTS := rfl
    by_cases hidden : tag ∈ Article.IGNORED_ELEMENTS
    · rw [Article.appendNodeText, if_pos hidden, GoArticle.Node.ofDom, GoArticle.Node.spaced,
        GoArticle.appendNodeText, ignored, if_pos ⟨rfl, hidden⟩]
      exact same
    · -- only a template could hold more than its children
      have empty : contents = none := by
        refine Option.eq_none_iff_forall_ne_some.mpr fun held inner => hidden ?_
        obtain ⟨template, _⟩ := templated.own held inner
        rw [template]
        simp [Article.IGNORED_ELEMENTS]
      have all := templated.child
      have written : Respaced isWhitespace '\n'
          (Article.appendChildrenText (Article.opening left tag attrs) children)
          (GoArticle.appendChildrenText (GoArticle.opening right tag attrs)
            (if tag = "img" ∧ Article.attributeValue attrs "alt" = some [] then
              .mk .text " " [] [] :: GoArticle.spacedAll (GoArticle.ofDoms children)
            else GoArticle.spacedAll (GoArticle.ofDoms children))) := by
        by_cases bare : tag = "img" ∧ Article.attributeValue attrs "alt" = some []
        · rw [if_pos bare, GoArticle.appendChildrenText, GoArticle.appendNodeText, if_neg (by simp),
            if_pos rfl]
          obtain ⟨rfl, silent⟩ := bare
          exact ofChildren (opening_uncaptioned same silent) all
        · rw [if_neg bare]
          exact ofChildren (opening_respaced same bare) all
      rw [Article.appendNodeText, if_neg hidden]
      simp only [GoArticle.Node.ofDom, GoArticle.Node.spaced, GoArticle.appendNodeText, ignored,
        blockElements_eq, empty, GoArticle.ofContents, List.append_nil, hidden, and_false, if_false,
        reduceCtorEq, true_and, if_true]
      by_cases block : tag ∈ Article.BLOCK_ELEMENTS
      · rw [if_pos block, if_pos block]
        exact written.append
      · rw [if_neg block, if_neg block]
        exact written
  case nil =>
    intro left right same _
    simpa [Article.appendChildrenText, GoArticle.ofDoms, GoArticle.spacedAll,
      GoArticle.appendChildrenText] using same
  case cons =>
    intro child children ofChild ofChildren left right same templated
    obtain ⟨first, rest⟩ := List.forall_mem_cons.mp templated
    rw [Article.appendChildrenText, GoArticle.ofDoms, GoArticle.spacedAll,
      GoArticle.appendChildrenText]
    exact ofChildren (ofChild same first) rest
  case none => trivial
  case some => exact fun _ _ => trivial

theorem spacedAll_append {before after : List GoArticle.Node} :
    GoArticle.spacedAll (before ++ after) =
      GoArticle.spacedAll before ++ GoArticle.spacedAll after := by
  induction before with
  | nil => rw [List.nil_append, GoArticle.spacedAll, List.nil_append]
  | cons child rest ih =>
    rw [List.cons_append, GoArticle.spacedAll, GoArticle.spacedAll, ih, List.cons_append]

/-- A document whose images all have texts, or none, needs no spaces; by the recursor of
nodes. -/
theorem spaced_ofDom (dom : Article.Node) : Captioned dom →
    (GoArticle.Node.ofDom dom).spaced = .ofDom dom := by
  refine @Article.Node.rec
    (fun node => Captioned node → (GoArticle.Node.ofDom node).spaced = .ofDom node)
    (fun children => (∀ child ∈ children, Captioned child) →
      GoArticle.spacedAll (GoArticle.ofDoms children) = GoArticle.ofDoms children)
    (fun contents => (∀ held ∈ contents, Captioned held) →
      GoArticle.spacedAll (GoArticle.ofContents contents) = GoArticle.ofContents contents)
    ?document ?doctype ?comment ?processingInstruction ?text ?element ?nil ?cons ?none ?some dom
  case document =>
    intro children ih captioned
    simp [GoArticle.Node.ofDom, GoArticle.Node.spaced, ih captioned.document]
  case doctype =>
    exact fun _ => spaced_leaf
  case comment =>
    exact fun _ _ => spaced_leaf
  case processingInstruction =>
    exact fun _ => spaced_leaf
  case text =>
    exact fun _ _ => spaced_leaf
  case element =>
    intro tag attrs children contents ofChildren ofContents captioned
    have told : ¬ (tag = "img" ∧ Article.attributeValue attrs "alt" = some []) := fun bare =>
      captioned.own bare.1 bare.2
    have inside : ∀ held ∈ contents, Captioned held := by
      rintro held rfl
      exact captioned.inside
    rw [GoArticle.Node.ofDom, GoArticle.Node.spaced, if_neg told, spacedAll_append,
      ofChildren captioned.child, ofContents inside]
  case nil =>
    exact fun _ => rfl
  case cons =>
    intro child children ofChild ofChildren captioned
    obtain ⟨first, rest⟩ := List.forall_mem_cons.mp captioned
    rw [GoArticle.ofDoms, GoArticle.spacedAll, ofChild first, ofChildren rest]
  case none =>
    exact fun _ => rfl
  case some =>
    intro held ih captioned
    have same := ih (captioned held rfl)
    cases held with
    | document children =>
      simpa [GoArticle.Node.ofDom, GoArticle.Node.spaced, GoArticle.ofContents] using same
    | _ => simp [GoArticle.ofContents, GoArticle.spacedAll, same]

theorem truncate_eq {value : Text} (tidy : Tidy isWhitespace value) (limit : Nat) :
    GoArticle.truncate value limit = Article.truncate value limit := by
  unfold GoArticle.truncate Article.truncate
  by_cases whole : limit = 0 ∨ value.length ≤ limit
  · rw [if_pos whole, if_pos (by omega)]
  · rw [if_neg whole, if_neg (by omega)]
    have cut : ((limit : Int) - 1).toNat = limit - 1 := by omega
    have starts : ∀ c ∈ (value.take (limit - 1)).head?, isWhitespace c = false := by
      intro c first
      refine tidy.starts c ?_
      cases value with
      | nil => simp at first
      | cons head rest =>
        cases kept : limit - 1 with
        | zero => simp [kept] at first
        | succ more => simpa [kept] using first
    rw [cut]
    congr 1
    unfold trim
    congr 1
    cases begun : value.take (limit - 1) with
    | nil => rfl
    | cons head rest =>
      rw [begun] at starts
      rw [List.dropWhile_cons_of_neg (by simp [starts head rfl])]

/-- Texts with the same words on every line are shown alike. -/
theorem normalizeLines_respaced (same : Respaced isWhitespace '\n' left right) (limit : Nat) :
    Article.normalizeLines left limit = Article.normalizeLines right limit := by
  have lines : ∀ text : Text, (text.splitOn '\n').map Article.collapseWhitespace =
      (lineWords isWhitespace '\n' text).map [' '].intercalate := by
    intro text
    unfold lineWords
    rw [List.map_map]
    rfl
  unfold Article.normalizeLines
  rw [lines, lines, same.lineWords]

theorem goPreviewText_eq (document : GoArticle.Node) (limit : Nat) :
    GoArticle.previewText document limit =
      Article.normalizeLines (GoArticle.appendNodeText [] document) limit := by
  have plain := (@Article.plain_normalizeLines_zero (GoArticle.appendNodeText [] document)).tidy
  rw [Article.normalizeLines_eq, ← truncate_eq plain]
  unfold Article.normalizeLines
  rw [Article.truncate_zero]
  rfl

/-- The text one core makes of a document is what the other makes of it with the spaces. -/
theorem previewText_spaced {dom : Article.Node} (templated : Templated dom) (limit : Nat) :
    Article.previewText dom limit =
      GoArticle.previewText (GoArticle.Node.ofDom dom).spaced limit := by
  rw [goPreviewText_eq]
  exact normalizeLines_respaced (appendNodeText_spaced dom Respaced.refl templated) limit

end Texts

/-! ## Dimensions -/

section Dimensions
variable {value number : Text}

/-- A dimension with one unit at most, right behind its number. -/
def Article.OneUnit (value : Text) : Prop :=
  ∀ number, trim isWhitespace value = number ++ "px".toList →
    ¬ "px".toList <:+ number ∧ ∀ c ∈ number.getLast?, isWhitespace c = false

theorem dropPx_reverse (bare : ¬ "px".toList <:+ value) :
    Article.dropPx value.reverse = value.reverse := by
  generalize turned : value.reverse = letters
  fun_cases Article.dropPx letters with
  | case1 rest =>
    refine absurd ⟨rest.reverse, ?_⟩ bare
    have back := congrArg List.reverse turned
    simpa using back.symm
  | case2 => rfl

/-- What is left of a dimension without its unit. -/
theorem number_eq (unit : Article.OneUnit value) :
    trim isWhitespace (Article.dropPx (trim isWhitespace value).reverse).reverse =
      GoArticle.trimSuffix (trim isWhitespace value) "px".toList := by
  unfold GoArticle.trimSuffix
  by_cases ends : "px".toList <:+ trim isWhitespace value
  · obtain ⟨number, whole⟩ := ends
    obtain ⟨bare, last⟩ := unit number whole.symm
    have first : ∀ c ∈ number.head?, isWhitespace c = false := by
      intro c begun
      refine @trim_starts _ isWhitespace value c ?_
      rw [← whole, List.head?_append, Option.mem_def.mp begun]
      rfl
    rw [← whole]
    have turned : (number ++ "px".toList).reverse = 'x' :: 'p' :: number.reverse := by simp
    have suffix : "px".toList.isSuffixOf (number ++ "px".toList) = true :=
      List.isSuffixOf_iff_suffix.mpr (List.suffix_append _ _)
    rw [turned, Article.dropPx, dropPx_reverse bare, List.reverse_reverse,
      trim_eq_self first last, if_pos suffix]
    simp
  · have apart : ¬ "px".toList.isSuffixOf (trim isWhitespace value) = true := fun held =>
      ends (List.isSuffixOf_iff_suffix.mp held)
    rw [dropPx_reverse ends, List.reverse_reverse, trim_eq_self trim_starts trim_ends,
      if_neg apart]

/-- Both cores read one number, each within its own bounds, which leave out only what counts
as large in both. -/
theorem parsed_alike : ∃ parsed : Option Int,
    Article.parseI32 number = parsed.filter (fun value => -0x80000000 ≤ value ∧ value ≤ 0x7fffffff) ∧
    GoArticle.atoi number = parsed.filter fun value =>
      -0x8000000000000000 ≤ value ∧ value ≤ 0x7fffffffffffffff := by
  unfold Article.parseI32 GoArticle.atoi
  cases number with
  | nil => exact ⟨_, rfl, rfl⟩
  | cons sign digits =>
    by_cases minus : sign = '-'
    · subst minus
      exact ⟨_, rfl, rfl⟩
    · by_cases plus : sign = '+'
      · subst plus
        exact ⟨_, rfl, rfl⟩
      · refine ⟨_, rfl, ?_⟩
        simp [minus, plus]

/-- What counts is told by small numbers alone. -/
theorem any_small {parsed : Option Int} {least greatest : Int} (below : least ≤ 0)
    (above : 2 ≤ greatest) :
    ((parsed.filter fun value => least ≤ value ∧ value ≤ greatest).filter (· ≥ 0)).any (· ≤ 2) =
      (parsed.filter (· ≥ 0)).any (· ≤ 2) := by
  apply Bool.eq_iff_iff.mpr
  simp only [Option.any_eq_true, Option.filter_eq_some_iff, decide_eq_true_eq]
  constructor
  · rintro ⟨found, ⟨⟨same, _⟩, positive⟩, tiny⟩
    exact ⟨found, ⟨same, positive⟩, tiny⟩
  · rintro ⟨found, ⟨same, positive⟩, tiny⟩
    exact ⟨found, ⟨⟨same, by omega⟩, positive⟩, tiny⟩

theorem positiveDimension_small (unit : Article.OneUnit value) :
    (GoArticle.positiveDimension value).any (· ≤ 2) = (Article.positiveDimension value).any (· ≤ 2) := by
  unfold GoArticle.positiveDimension Article.positiveDimension
  dsimp only
  rw [number_eq unit]
  obtain ⟨parsed, small, large⟩ :=
    @parsed_alike (GoArticle.trimSuffix (trim isWhitespace value) "px".toList)
  rw [small, large, any_small (by omega) (by omega), any_small (by omega) (by omega)]

theorem tinyImage_eq {attrs : List Attribute}
    (units : ∀ name ∈ ["width", "height"], ∀ value ∈ Article.attributeValue attrs name,
      Article.OneUnit value) : GoArticle.tinyImage attrs = Article.tinyImage attrs := by
  have each : ∀ name ∈ ["width", "height"],
      (GoArticle.positiveDimension (GoArticle.attributeValue attrs name)).any (· ≤ 2) =
        ((Article.attributeValue attrs name).bind Article.positiveDimension).any (· ≤ 2) := by
    intro name among
    rw [attributeValue_getD]
    cases held : Article.attributeValue attrs name with
    | none => rfl
    | some text => exact positiveDimension_small (units name among text held)
  unfold GoArticle.tinyImage Article.tinyImage
  dsimp only
  rw [each "width" (by simp), each "height" (by simp)]

end Dimensions

/-! ## Letters -/

section Letters
variable {toLower : Char → Char}

/-- What is known of `unicode.ToLower`: of the letters beyond ASCII, only the dotted capital I
and the kelvin sign are lowered to letters of ASCII. -/
structure GoArticle.Lowers (toLower : Char → Char) : Prop where
  ascii : ∀ c, c.toNat < 0x80 → toLower c = c.toLower
  dotted : toLower '\u0130' = 'i'
  kelvin : toLower '\u212A' = 'k'
  other : ∀ c, 0x80 ≤ c.toNat → c ≠ '\u0130' → c ≠ '\u212A' → 0x80 ≤ (toLower c).toNat

theorem toLower_beyond {c : Char} (beyond : 0x80 ≤ c.toNat) : c.toLower = c := by
  unfold Char.toLower
  refine dif_neg fun upper => ?_
  have last : c.toNat ≤ 'Z'.toNat := upper.2
  have shown : 'Z'.toNat = 90 := rfl
  omega

/-- A letter of ASCII is what both cores lower the same letters to, but for these two. -/
theorem GoArticle.Lowers.iff (lowers : GoArticle.Lowers toLower) {c small : Char}
    (ascii : small.toNat < 0x80) (dotted : c = '\u0130' → small ≠ 'i')
    (kelvin : c = '\u212A' → small ≠ 'k') : toLower c = small ↔ c.toLower = small := by
  by_cases within : c.toNat < 0x80
  · rw [lowers.ascii c within]
  · have beyond : 0x80 ≤ c.toNat := by omega
    have kept : c.toLower ≠ small := by
      rw [toLower_beyond beyond]
      rintro rfl
      omega
    have apart : toLower c ≠ small := by
      by_cases capital : c = '\u0130'
      · rw [capital, lowers.dotted]
        exact (dotted capital).symm
      · by_cases sign : c = '\u212A'
        · rw [sign, lowers.kelvin]
          exact (kelvin sign).symm
        · rintro rfl
          have far := lowers.other c beyond capital sign
          omega
    exact ⟨fun same => absurd same apart, fun same => absurd same kept⟩

theorem GoArticle.Lowers.begins (lowers : GoArticle.Lowers toLower) {start text : Text}
    (ascii : ∀ small ∈ start, small.toNat < 0x80 ∧ small ≠ 'k')
    (dotted : 'i' ∈ start → '\u0130' ∉ text) :
    start.isPrefixOf (text.map toLower) = start.isPrefixOf (text.map Char.toLower) := by
  induction start generalizing text with
  | nil => simp
  | cons small rest ih =>
    cases text with
    | nil => rfl
    | cons c text =>
      obtain ⟨here, later⟩ := List.forall_mem_cons.mp ascii
      have first : (small == toLower c) = (small == c.toLower) := by
        apply Bool.eq_iff_iff.mpr
        rw [beq_iff_eq, beq_iff_eq, eq_comm, @eq_comm _ small]
        refine lowers.iff here.1 (fun capital vowel => ?_) fun _ => here.2
        exact dotted (vowel ▸ List.mem_cons_self) (capital ▸ List.mem_cons_self)
      have others := @ih text later fun among absent =>
        dotted (List.mem_cons_of_mem _ among) (List.mem_cons_of_mem _ absent)
      rw [List.map_cons, List.map_cons, List.isPrefixOf_cons_cons, List.isPrefixOf_cons_cons,
        first, others]

end Letters

/-! ## Addresses -/

section Addresses
variable {Url GoUrl : Type} (urls : Article.UrlLibrary Url) (goUrls : GoArticle.UrlLibrary GoUrl)
  (base : Option Url) (goBase : Option GoUrl)

/-- The address of the web that a candidate stands for. -/
def Article.UrlLibrary.address (candidate : Text) : Option Text :=
  let located := (urls.parse candidate).or (base.bind fun base => urls.join base candidate)
  (located.filter fun url =>
    urls.scheme url = "http".toList ∨ urls.scheme url = "https".toList).map urls.toText

def GoArticle.UrlLibrary.address (candidate : Text) : Option Text :=
  let located := (goUrls.parse candidate).map fun parsed =>
    if goUrls.isAbs parsed then parsed
    else (goBase.map fun base => goUrls.resolveReference base parsed).getD parsed
  (located.filter fun url =>
    goUrls.scheme url = "http".toList ∨ goUrls.scheme url = "https".toList).map goUrls.string

/-- A candidate for which the URL libraries give one address, if it is looked at. -/
def SameAddress (candidate : Text) : Prop :=
  trim isWhitespace candidate ≠ [] → Article.isData (trim isWhitespace candidate) = false →
    urls.address base (trim isWhitespace candidate) =
      goUrls.address goBase (trim isWhitespace candidate)

variable {urls goUrls base goBase} {candidate : Text} {toLower : Char → Char}

theorem filtered_getD {α : Type} {taken : α → Prop} [DecidablePred taken] {written : α → Text}
    {url : α} : (((some url).filter fun url => taken url).map written).getD [] =
      if taken url then written url else [] := by
  by_cases web : taken url
  · rw [if_pos web, Option.filter_some, if_pos (by simpa using web), Option.map_some,
      Option.getD_some]
  · rw [if_neg web, Option.filter_some, if_neg (by simpa using web), Option.map_none,
      Option.getD_none]

theorem resolveImageUrlWithBase_eq : Article.resolveImageUrlWithBase urls base candidate =
    if trim isWhitespace candidate = [] ∨ Article.isData (trim isWhitespace candidate) then []
    else (urls.address base (trim isWhitespace candidate)).getD [] := by
  unfold Article.resolveImageUrlWithBase Article.UrlLibrary.address
  dsimp only
  generalize trim isWhitespace candidate = candidate
  by_cases passed : candidate = [] ∨ Article.isData candidate
  · rw [if_pos passed, if_pos passed]
  · rw [if_neg passed, if_neg passed]
    cases (urls.parse candidate).or (base.bind fun base => urls.join base candidate) with
    | none => rfl
    | some url => rw [filtered_getD]

theorem resolveImageURL_eq (lowers : GoArticle.Lowers toLower) :
    GoArticle.resolveImageURL goUrls toLower goBase candidate =
      if trim isWhitespace candidate = [] ∨ Article.isData (trim isWhitespace candidate) then []
      else (goUrls.address goBase (trim isWhitespace candidate)).getD [] := by
  unfold GoArticle.resolveImageURL GoArticle.UrlLibrary.address Article.isData
  dsimp only
  generalize trim isWhitespace candidate = candidate
  rw [lowers.begins (by simp) (by simp)]
  by_cases passed : candidate = [] ∨ "data:".toList.isPrefixOf (candidate.map Char.toLower)
  · rw [if_pos passed, if_pos passed]
  · rw [if_neg passed, if_neg passed]
    cases goUrls.parse candidate with
    | none => rfl
    | some parsed =>
      rw [Option.map_some]
      dsimp only
      generalize (if goUrls.isAbs parsed then parsed
        else (goBase.map fun base => goUrls.resolveReference base parsed).getD parsed) = url
      rw [filtered_getD]
      by_cases web : goUrls.scheme url = "http".toList ∨ goUrls.scheme url = "https".toList
      · have taken : ¬ (goUrls.scheme url ≠ "http".toList ∧ goUrls.scheme url ≠ "https".toList) :=
          fun both => web.elim both.1 both.2
        rw [if_neg taken, if_pos web]
      · rw [if_pos (not_or.mp web), if_neg web]

theorem SameAddress.resolved (same : SameAddress urls goUrls base goBase candidate)
    (lowers : GoArticle.Lowers toLower) : GoArticle.resolveImageURL goUrls toLower goBase candidate =
      Article.resolveImageUrlWithBase urls base candidate := by
  rw [resolveImageURL_eq lowers, resolveImageUrlWithBase_eq]
  by_cases passed : trim isWhitespace candidate = [] ∨
      Article.isData (trim isWhitespace candidate) = true
  · rw [if_pos passed, if_pos passed]
  · obtain ⟨some, plain⟩ := not_or.mp passed
    rw [if_neg passed, if_neg passed, same some (by simpa using plain)]

end Addresses

/-! ## Images -/

section Images
variable {Url GoUrl : Type} (urls : Article.UrlLibrary Url) (goUrls : GoArticle.UrlLibrary GoUrl)
  (base : Option Url) (goBase : Option GoUrl)

/-- What an attribute of an image names. -/
def Article.candidate (attrs : List Attribute) (name : String) : Text :=
  let value := (attributeValue attrs name).getD []
  if "srcset".toList.isSuffixOf name.toList then srcsetUrl value else value

/-- An element both cores take for the same images: its dimensions have one unit at most,
and its candidates stand for one address. -/
structure SameImages (tag : String) (attrs : List Attribute) : Prop where
  units : tag = "img" ∨ tag = "source" → ∀ name ∈ ["width", "height"],
    ∀ value ∈ Article.attributeValue attrs name, Article.OneUnit value
  addresses : tag = "img" ∨ tag = "source" → Article.tinyImage attrs = false →
    ∀ name ∈ Article.IMAGE_ATTRIBUTES,
      SameAddress urls goUrls base goBase (Article.candidate attrs name)

/-- A document both cores take for the same images. -/
def SeenAlike : Article.Node → Prop :=
  Article.Everywhere fun tag attrs _ => SameImages urls goUrls base goBase tag attrs

variable {urls goUrls base goBase} {toLower : Char → Char}

theorem SameImages.ownImages_eq {tag : String} {attrs : List Attribute}
    (same : SameImages urls goUrls base goBase tag attrs) (lowers : GoArticle.Lowers toLower) :
    GoArticle.ownImages goUrls toLower goBase .element tag attrs =
      Article.ownImages urls base tag attrs := by
  unfold GoArticle.ownImages Article.ownImages
  by_cases shown : tag = "img" ∨ tag = "source"
  · rw [tinyImage_eq (same.units shown)]
    cases tiny : Article.tinyImage attrs with
    | true => rw [if_neg (by simp), if_neg (by simp)]
    | false =>
      rw [if_pos ⟨rfl, shown, rfl⟩, if_pos ⟨shown, rfl⟩]
      exact List.map_congr_left fun name among =>
        (same.addresses shown tiny name among).resolved lowers
  · rw [if_neg (fun all => shown all.2.1), if_neg (fun all => shown all.1)]

theorem visitChildren_append {before after : List GoArticle.Node} :
    GoArticle.visitChildren goUrls toLower goBase (before ++ after) =
      if GoArticle.visitChildren goUrls toLower goBase before ≠ [] then
        GoArticle.visitChildren goUrls toLower goBase before
      else GoArticle.visitChildren goUrls toLower goBase after := by
  induction before with
  | nil => rw [List.nil_append, GoArticle.visitChildren, if_neg (by simp)]
  | cons child rest ih =>
    rw [List.cons_append, GoArticle.visitChildren, GoArticle.visitChildren, ih]
    by_cases found : GoArticle.visit goUrls toLower goBase child ≠ []
    · simp only [if_pos found]
    · simp only [if_neg found]

/-- A node that gives no images by itself. -/
theorem visit_other {type : GoArticle.NodeType} (other : type ≠ .element) {data : String}
    {attr : List Attribute} {children : List GoArticle.Node} :
    GoArticle.visit goUrls toLower goBase (.mk type data attr children) =
      GoArticle.visitChildren goUrls toLower goBase children := by
  have none : GoArticle.ownImages goUrls toLower goBase type data attr = [] := by
    unfold GoArticle.ownImages
    exact if_neg fun all => other all.1
  rw [GoArticle.visit, none]
  rfl

theorem visitChildren_single {child : GoArticle.Node} :
    GoArticle.visitChildren goUrls toLower goBase [child] =
      GoArticle.visit goUrls toLower goBase child := by
  rw [GoArticle.visitChildren, GoArticle.visitChildren]
  by_cases found : GoArticle.visit goUrls toLower goBase child = []
  · rw [if_neg (not_not.mpr found), found]
  · rw [if_pos found]

theorem visit_leaf {type : GoArticle.NodeType} (other : type ≠ .element) {data : String} :
    GoArticle.visit goUrls toLower goBase (.mk type data [] []) = [] := by
  rw [visit_other other, GoArticle.visitChildren]

theorem visit_ofDom (lowers : GoArticle.Lowers toLower) (dom : Article.Node) :
    SeenAlike urls goUrls base goBase dom →
    GoArticle.visit goUrls toLower goBase (.ofDom dom) = Article.firstImageUrl urls base dom := by
  refine @Article.Node.rec
    (fun node => SeenAlike urls goUrls base goBase node →
      GoArticle.visit goUrls toLower goBase (.ofDom node) = Article.firstImageUrl urls base node)
    (fun children => (∀ child ∈ children, SeenAlike urls goUrls base goBase child) →
      GoArticle.visitChildren goUrls toLower goBase (GoArticle.ofDoms children) =
        Article.firstChildImageUrl urls base children)
    (fun contents => (∀ held ∈ contents, SeenAlike urls goUrls base goBase held) →
      GoArticle.visitChildren goUrls toLower goBase (GoArticle.ofContents contents) =
        Article.firstContentsImageUrl urls base contents)
    ?document ?doctype ?comment ?processingInstruction ?text ?element ?nil ?cons ?none ?some dom
  case document =>
    intro children ih all
    rw [GoArticle.Node.ofDom, visit_other (by simp), ih all.document, Article.firstImageUrl]
  case doctype =>
    intro _
    rw [GoArticle.Node.ofDom, visit_leaf (by simp), Article.firstImageUrl]
  case comment =>
    intro contents _
    rw [GoArticle.Node.ofDom, visit_leaf (by simp), Article.firstImageUrl]
  case processingInstruction =>
    intro _
    rw [GoArticle.Node.ofDom, visit_leaf (by simp), Article.firstImageUrl]
  case text =>
    intro contents _
    rw [GoArticle.Node.ofDom, visit_leaf (by simp), Article.firstImageUrl]
  case element =>
    intro tag attrs children contents ofChildren ofContents all
    have inside : ∀ held ∈ contents, SeenAlike urls goUrls base goBase held := by
      rintro held rfl
      exact all.inside
    rw [GoArticle.Node.ofDom, GoArticle.visit, Article.firstImageUrl, all.own.ownImages_eq lowers]
    cases (Article.ownImages urls base tag attrs).find? (· ≠ []) with
    | some resolved => rfl
    | none =>
      dsimp only
      rw [visitChildren_append, ofChildren all.child, ofContents inside]
  case nil =>
    intro _
    rw [GoArticle.ofDoms, GoArticle.visitChildren, Article.firstChildImageUrl]
  case cons =>
    intro child children ofChild ofChildren all
    obtain ⟨first, rest⟩ := List.forall_mem_cons.mp all
    rw [GoArticle.ofDoms, GoArticle.visitChildren, Article.firstChildImageUrl, ofChild first,
      ofChildren rest]
  case none =>
    intro _
    rw [GoArticle.ofContents, GoArticle.visitChildren, Article.firstContentsImageUrl]
  case some =>
    intro held ih all
    have same := ih (all held rfl)
    rw [Article.firstContentsImageUrl, ← same]
    cases held with
    | document children =>
      rw [GoArticle.ofContents, GoArticle.Node.ofDom, visit_other (by simp)]
    | _ => exact visitChildren_single

end Images

/-! ## Enclosures -/

section Enclosures
variable {Url GoUrl : Type} {urls : Article.UrlLibrary Url} {goUrls : GoArticle.UrlLibrary GoUrl}
  {toLower : Char → Char}

theorem isImage_eq (lowers : GoArticle.Lowers toLower) {enclosure : Article.EnclosureInput}
    (plain : '\u0130' ∉ enclosure.mimeType) :
    "image/".toList.isPrefixOf
      ((trim isWhitespace ((enclosure.mimeType.splitOn ';').headD [])).map toLower) =
        enclosure.isImage :=
  lowers.begins (by simp) fun _ held => plain (mem_headD_splitOn (mem_trim held))

theorem firstImageEnclosureURL_eq (lowers : GoArticle.Lowers toLower) {articleUrl : Text}
    {enclosures : List Article.EnclosureInput}
    (plain : ∀ enclosure ∈ enclosures, '\u0130' ∉ enclosure.mimeType)
    (addresses : ∀ enclosure ∈ enclosures,
      SameAddress urls goUrls (urls.parse articleUrl) (goUrls.parse articleUrl) enclosure.url) :
    GoArticle.firstImageEnclosureURL goUrls toLower
        (enclosures.map fun enclosure => (enclosure.url, enclosure.mimeType)) articleUrl =
      Article.firstImageEnclosureUrl urls enclosures articleUrl := by
  unfold Article.firstImageEnclosureUrl
  dsimp only
  induction enclosures with
  | nil => rfl
  | cons enclosure rest ih =>
    obtain ⟨here, later⟩ := List.forall_mem_cons.mp plain
    obtain ⟨located, others⟩ := List.forall_mem_cons.mp addresses
    rw [List.map_cons, GoArticle.firstImageEnclosureURL, isImage_eq lowers here, ih later others]
    unfold GoArticle.resolveImageURLAgainst
    rw [located.resolved lowers]
    by_cases image : enclosure.isImage = true
    · rw [if_pos image, List.filter_cons_of_pos image, List.map_cons, List.find?_cons]
      by_cases found : Article.resolveImageUrlWithBase urls (urls.parse articleUrl) enclosure.url = []
      · simp [found]
      · simp [found]
    · rw [if_neg image, List.filter_cons_of_neg image, if_neg (by simp)]

end Enclosures

/-! ## Entries -/

section Entries
variable {Url GoUrl τ : Type}

/-- The article package of this core, as the mapping of entries calls it. -/
def Article.host (parseHtml : Text → Option Article.Node) (urls : Article.UrlLibrary Url)
    (toLowercase : String → String) : Host where
  extract content url limit :=
    let preview := extract parseHtml urls content.toList url.toList limit
    ⟨.ofList preview.text, .ofList preview.imageUrl⟩
  firstImageEnclosureUrl enclosures url :=
    .ofList (firstImageEnclosureUrl urls
      (enclosures.map fun enclosure => ⟨enclosure.1.toList, enclosure.2.toList⟩) url.toList)
  toLowercase

/-- The article package of the Go core. -/
def GoArticle.host (parse : Text → Option GoArticle.Node) (urls : GoArticle.UrlLibrary GoUrl)
    (toLower : Char → Char) (toLowercase : String → String) : Host where
  extract content url limit :=
    let preview := extract parse urls toLower content.toList url.toList limit
    ⟨.ofList preview.text, .ofList preview.imageURL⟩
  firstImageEnclosureUrl enclosures url :=
    .ofList (firstImageEnclosureURL urls toLower
      (enclosures.map fun enclosure => (enclosure.1.toList, enclosure.2.toList)) url.toList)
  toLowercase

/-- Parsers that make one document of a value; both follow one standard, and neither is
under test here. -/
structure SameDocuments (parseHtml : Text → Option Article.Node)
    (parse : Text → Option GoArticle.Node) : Prop where
  same : ∀ value, parse value = (parseHtml value).map GoArticle.Node.ofDom
  templated : ∀ value, ∀ dom ∈ parseHtml value, Article.Templated dom

variable {parseHtml : Text → Option Article.Node} {parse : Text → Option GoArticle.Node}
  {urls : Article.UrlLibrary Url} {goUrls : GoArticle.UrlLibrary GoUrl} {toLower : Char → Char}
  {value baseUrl : Text} {limit : Nat}

theorem SameDocuments.text_spaced (documents : SameDocuments parseHtml parse) :
    (Article.extract parseHtml urls value baseUrl limit).text =
      (GoArticle.extract (fun value => (parse value).map GoArticle.Node.spaced) goUrls toLower value
        baseUrl limit).text := by
  unfold Article.extract GoArticle.extract
  by_cases blank : trim isWhitespace value = []
  · rw [if_pos blank, if_pos blank]
  · rw [if_neg blank, if_neg blank]
    dsimp only
    rw [documents.same]
    cases parsed : parseHtml value with
    | none => exact (truncate_eq Article.plain_collapseWhitespace.1 limit).symm
    | some dom => exact previewText_spaced (documents.templated value dom parsed) limit

theorem SameDocuments.text_eq (documents : SameDocuments parseHtml parse)
    (captioned : ∀ dom ∈ parseHtml value, Article.Captioned dom) :
    (Article.extract parseHtml urls value baseUrl limit).text =
      (GoArticle.extract parse goUrls toLower value baseUrl limit).text := by
  rw [@text_spaced _ _ _ _ urls goUrls toLower _ _ _ documents]
  have kept : (parse value).map GoArticle.Node.spaced = parse value := by
    rw [documents.same]
    cases parsed : parseHtml value with
    | none => rfl
    | some dom =>
      rw [Option.map_some, Option.map_some, spaced_ofDom dom (captioned dom parsed)]
  unfold GoArticle.extract
  dsimp only
  rw [kept]

theorem SameDocuments.image_eq (documents : SameDocuments parseHtml parse)
    (lowers : GoArticle.Lowers toLower)
    (images : ∀ dom ∈ parseHtml value,
      SeenAlike urls goUrls (urls.parse baseUrl) (goUrls.parse baseUrl) dom) :
    (Article.extract parseHtml urls value baseUrl limit).imageUrl =
      (GoArticle.extract parse goUrls toLower value baseUrl limit).imageURL := by
  unfold Article.extract GoArticle.extract
  by_cases blank : trim isWhitespace value = []
  · rw [if_pos blank, if_pos blank]
  · rw [if_neg blank, if_neg blank]
    dsimp only
    rw [documents.same]
    cases parsed : parseHtml value with
    | none => rfl
    | some dom => exact (visit_ofDom lowers dom (images dom parsed)).symm

/-- What the two cores make of one entry: this core's preview is the Go core's with a space at
each image whose alternative text is empty, the same without such images, and the image is
the same where dimensions are plain and candidates stand for one address. -/
theorem same_entries_same_previews (moments : Inbox.Moments τ) (toLowercase : String → String)
    (documents : SameDocuments parseHtml parse) (lowers : GoArticle.Lowers toLower)
    (entry : EntryDto) :
    (entryToDomain (Article.host parseHtml urls toLowercase) entry).preview =
      (GoMiniflux.mapEntry (GoArticle.host (fun value => (parse value).map GoArticle.Node.spaced)
        goUrls toLower toLowercase) (.ofDto moments entry)).preview ∧
    ((∀ dom ∈ parseHtml entry.content.toList, Article.Captioned dom) →
      (entryToDomain (Article.host parseHtml urls toLowercase) entry).preview =
        (GoMiniflux.mapEntry (GoArticle.host parse goUrls toLower toLowercase)
          (.ofDto moments entry)).preview) ∧
    ((∀ dom ∈ parseHtml entry.content.toList,
        SeenAlike urls goUrls (urls.parse entry.url.toList) (goUrls.parse entry.url.toList) dom) →
      (∀ enclosure ∈ entry.enclosures, '\u0130' ∉ enclosure.mimeType.toList ∧
        SameAddress urls goUrls (urls.parse entry.url.toList) (goUrls.parse entry.url.toList)
          enclosure.url.toList) →
      (entryToDomain (Article.host parseHtml urls toLowercase) entry).imageUrl =
        (GoMiniflux.mapEntry (GoArticle.host parse goUrls toLower toLowercase)
          (.ofDto moments entry)).imageURL) := by
  refine ⟨congrArg String.ofList documents.text_spaced, fun captioned =>
    congrArg String.ofList (documents.text_eq captioned), fun images enclosures => ?_⟩
  have inline := @SameDocuments.image_eq _ _ _ _ urls goUrls toLower _ _ previewLimit documents
    lowers images
  have attached := @firstImageEnclosureURL_eq _ _ urls goUrls toLower lowers entry.url.toList
    (entry.enclosures.map fun enclosure => ⟨enclosure.url.toList, enclosure.mimeType.toList⟩)
    (List.forall_mem_map.mpr fun enclosure among => (enclosures enclosure among).1)
    (List.forall_mem_map.mpr fun enclosure among => (enclosures enclosure among).2)
  unfold entryToDomain GoMiniflux.mapEntry GoMiniflux.Entry.ofDto Article.host GoArticle.host
  dsimp only
  rw [enclosures_listed, ← inline]
  simp only [List.map_map, Function.comp_def] at attached ⊢
  rw [attached]

end Entries

/-! An article with a tracking pixel and an image, read by libraries that know absolute
addresses and paths, and one with an image between two letters. -/

def pixelAttributes : List Attribute :=
  [⟨"width", "1".toList⟩, ⟨"height", "1".toList⟩,
    ⟨"src", "https://tracker.example/pixel.gif".toList⟩]

def imageAttributes : List Attribute :=
  [⟨"src", "/images/article.jpg".toList⟩, ⟨"alt", "Article".toList⟩]

def trackedArticle : Article.Node :=
  .document [.element "html" [] [.element "head" [] [] none, .element "body" []
    [.element "p" [] [.text "Text".toList] none, .element "img" pixelAttributes [] none,
      .element "img" imageAttributes [] none] none] none]

def trackedEntry : EntryDto where
  id := 1
  feedId := 2
  title := "Article"
  url := "https://news.example/posts/1"
  commentsUrl := ""
  status := "unread"
  starred := false
  publishedAt := "2024-01-01T00:00:00Z"
  content := "<p>Text</p><img width=\"1\" height=\"1\" " ++
    "src=\"https://tracker.example/pixel.gif\"><img src=\"/images/article.jpg\" alt=\"Article\">"
  enclosures := []
  feed := none

def absolute (url : Text) : Bool := "https://".toList.isPrefixOf url

def newsOrigin : Text := "https://news.example".toList

def newsUrls : Article.UrlLibrary Text where
  parse url := if absolute url then some url else none
  join _ path := some (newsOrigin ++ path)
  scheme url := url.takeWhile (· ≠ ':')
  toText := id

def newsGoUrls : GoArticle.UrlLibrary Text where
  parse := some
  isAbs := absolute
  resolveReference _ path := newsOrigin ++ path
  scheme url := url.takeWhile (· ≠ ':')
  string := id

theorem newsUrls_same {base : Text} (candidate : Text) :
    SameAddress newsUrls newsGoUrls (some base) (some base) candidate := by
  intro _ _
  generalize trim isWhitespace candidate = candidate
  have located : (newsUrls.parse candidate).or ((some base).bind fun base =>
      newsUrls.join base candidate) = (newsGoUrls.parse candidate).map fun parsed =>
        if newsGoUrls.isAbs parsed then parsed
        else ((some base).map fun base => newsGoUrls.resolveReference base parsed).getD parsed := by
    unfold newsUrls newsGoUrls
    cases found : absolute candidate with
    | true => simp only [found, if_true, Option.some_or, Option.map_some]
    | false =>
      simp only [found, Bool.false_eq_true, if_false, Option.none_or, Option.bind_some,
        Option.map_some, Option.getD_some]
  unfold Article.UrlLibrary.address GoArticle.UrlLibrary.address
  dsimp only
  rw [located]
  rfl

/-- Lowercasing of ASCII and of the two letters that are lowered to it. -/
def lowerLatin (c : Char) : Char :=
  if c = '\u0130' then 'i' else if c = '\u212A' then 'k' else c.toLower

theorem lowerLatin_lowers : GoArticle.Lowers lowerLatin where
  ascii c within := by
    unfold lowerLatin
    rw [if_neg, if_neg]
    · rintro rfl
      exact absurd within (by decide)
    · rintro rfl
      exact absurd within (by decide)
  dotted := rfl
  kelvin := rfl
  other c beyond capital sign := by
    unfold lowerLatin
    rw [if_neg capital, if_neg sign, toLower_beyond beyond]
    exact beyond

theorem trackedArticle_templated : Article.Templated trackedArticle := by
  unfold Article.Templated trackedArticle
  simp [Article.everywhere_document, Article.everywhere_element, Article.everywhere_text]

theorem trackedArticle_captioned : Article.Captioned trackedArticle := by
  have bare : Article.attributeValue pixelAttributes "alt" = none := rfl
  have told : Article.attributeValue imageAttributes "alt" = some "Article".toList := rfl
  unfold Article.Captioned trackedArticle
  simp [Article.everywhere_document, Article.everywhere_element, Article.everywhere_text, bare, told]

theorem oneUnit_one : Article.OneUnit "1".toList := by
  intro number whole
  have length := congrArg List.length whole
  rw [List.length_append] at length
  have short : (trim isWhitespace "1".toList).length = 1 := rfl
  have unit : "px".toList.length = 2 := rfl
  omega

theorem trackedArticle_images {base : Text} :
    SeenAlike newsUrls newsGoUrls (some base) (some base) trackedArticle := by
  have images : ∀ tag attrs, (∀ name ∈ ["width", "height"],
      ∀ value ∈ Article.attributeValue attrs name, value = "1".toList) →
      SameImages newsUrls newsGoUrls (some base) (some base) tag attrs := by
    intro tag attrs ones
    refine ⟨fun _ name among value held => ?_, fun _ _ name _ => newsUrls_same _⟩
    rw [ones name among value held]
    exact oneUnit_one
  have bare := fun tag => images tag [] (by decide)
  have pixel := images "img" pixelAttributes (by decide)
  have shown := images "img" imageAttributes (by decide)
  unfold SeenAlike trackedArticle
  simp [Article.everywhere_document, Article.everywhere_element, Article.everywhere_text, bare,
    pixel, shown]

/-- Two letters around an image with an empty caption. -/
def dividedArticle : Article.Node := .document [
  .text "a".toList, .element "img" [⟨"src", "/line.gif".toList⟩, ⟨"alt", []⟩] [] none,
  .text "b".toList]

theorem dividedArticle_templated : Article.Templated dividedArticle := by
  unfold Article.Templated dividedArticle
  simp [Article.everywhere_document, Article.everywhere_element, Article.everywhere_text]

/-- Preview and image of the one article are the same. Of the other the two cores make texts
that differ by a space, and the same text with the image set apart. -/
theorem same_entries_same_previews_tracked :
    (entryToDomain (Article.host (fun _ => some trackedArticle) newsUrls id) trackedEntry).preview =
      (GoMiniflux.mapEntry (GoArticle.host (fun _ => some (.ofDom trackedArticle)) newsGoUrls
        lowerLatin id) (.ofDto ownTexts trackedEntry)).preview ∧
    (entryToDomain (Article.host (fun _ => some trackedArticle) newsUrls id) trackedEntry).imageUrl =
      (GoMiniflux.mapEntry (GoArticle.host (fun _ => some (.ofDom trackedArticle)) newsGoUrls
        lowerLatin id) (.ofDto ownTexts trackedEntry)).imageURL ∧
    Article.previewText dividedArticle previewLimit = "a b".toList ∧
    GoArticle.previewText (.ofDom dividedArticle) previewLimit = "ab".toList ∧
    (entryToDomain (Article.host (fun _ => some dividedArticle) newsUrls id) trackedEntry).preview =
      (GoMiniflux.mapEntry (GoArticle.host (fun _ => some (GoArticle.Node.ofDom dividedArticle).spaced)
        newsGoUrls lowerLatin id) (.ofDto ownTexts trackedEntry)).preview := by
  have documents : SameDocuments (fun _ => some trackedArticle)
      (fun _ => some (.ofDom trackedArticle)) :=
    ⟨fun _ => rfl, fun _ _ read => Option.some.inj read ▸ trackedArticle_templated⟩
  have divided : SameDocuments (fun _ => some dividedArticle)
      (fun _ => some (.ofDom dividedArticle)) :=
    ⟨fun _ => rfl, fun _ _ read => Option.some.inj read ▸ dividedArticle_templated⟩
  have told := @same_entries_same_previews _ _ _ _ _ newsUrls newsGoUrls _ ownTexts id documents
    lowerLatin_lowers trackedEntry
  have toldApart := @same_entries_same_previews _ _ _ _ _ newsUrls newsGoUrls _ ownTexts id divided
    lowerLatin_lowers trackedEntry
  refine ⟨told.2.1 ?_, told.2.2 ?_ ?_, by decide, by decide, toldApart.1⟩
  · rintro _ ⟨rfl⟩
    exact trackedArticle_captioned
  · rintro _ ⟨rfl⟩
    exact trackedArticle_images
  · intro enclosure among
    cases among

end FluxBar
