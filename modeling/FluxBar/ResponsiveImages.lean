import FluxBar.Article

/-! The images of `srcset` attributes. The value is cut at every comma, so what is taken for
the address of the last candidate is what follows the last comma inside it: the address itself
when it holds no comma, and a fragment of it otherwise. -/
namespace FluxBar.Article
open Words

/-! ## Lists of candidates -/

/-- A nonempty run of whitespace. -/
structure Gap where
  text : Text
  some : text ≠ []
  blank : ∀ c ∈ text, isWhitespace c = true

/-- A width or a density. -/
structure Descriptor where
  text : Text
  some : text ≠ []
  plain : ∀ c ∈ text, isWhitespace c = false ∧ c ≠ ','

/-- The address of a candidate: no whitespace in it, and no comma at its ends, though there
may be some within. -/
structure UrlToken where
  text : Text
  some : text ≠ []
  spaceless : ∀ c ∈ text, isWhitespace c = false
  starts : ',' ∉ text.head?
  ends : ',' ∉ text.getLast?

/-- A candidate of a `srcset`: its address, and perhaps a descriptor behind a gap. -/
structure Candidate where
  url : UrlToken
  descriptor : Option (Gap × Descriptor)

namespace Candidate
variable (candidate : Candidate)

/-- What follows the address. -/
def tail : Text := candidate.descriptor.elim [] fun described => described.1.text ++ described.2.text

def text : Text := candidate.url.text ++ candidate.tail

end Candidate

/-- A value of `srcset`: candidates joined by a comma and whitespace, as the standard reads
it. -/
structure Candidates where
  first : Candidate
  rest : List (Gap × Candidate)

namespace Candidates
variable (candidates : Candidates)

def text : Text :=
  candidates.first.text ++ candidates.rest.flatMap fun joined => ',' :: joined.1.text ++ joined.2.text

def all : List Candidate := candidates.first :: candidates.rest.map Prod.snd

def last : Candidate := (candidates.rest.getLast?.map Prod.snd).getD candidates.first

end Candidates

/-! ## What is read off a value -/

theorem not_isWhitespace_comma : isWhitespace ',' = false := rfl

theorem Gap.not_mem_comma (gap : Gap) : ',' ∉ gap.text := fun held => by
  have blank := gap.blank ',' held
  rw [not_isWhitespace_comma] at blank
  cases blank

namespace Candidate
variable (candidate : Candidate)

theorem not_mem_comma_tail : ',' ∉ candidate.tail := by
  unfold tail
  cases candidate.descriptor with
  | none => exact List.not_mem_nil
  | some described =>
    rw [Option.elim_some, List.mem_append]
    rintro (held | held)
    · exact described.1.not_mem_comma held
    · exact (described.2.plain ',' held).2 rfl

theorem isWhitespace_head_tail : ∀ c ∈ candidate.tail.head?, isWhitespace c = true := by
  unfold tail
  cases candidate.descriptor with
  | none => simp
  | some described =>
    obtain ⟨first, rest, shape⟩ := List.exists_cons_of_ne_nil described.1.some
    intro c held
    rw [Option.elim_some, shape, List.cons_append, List.head?_cons, Option.mem_some_iff] at held
    exact described.1.blank c (by simp [shape, held])

end Candidate

/-- The value up to its last part is passed over. -/
theorem srcsetUrl_last {front part word : Text} (cut : front = [] ∨ ∃ before, front = before ++ [','])
    (whole : ',' ∉ part) (found : (words isWhitespace part).head? = some word) :
    srcsetUrl (front ++ part) = word := by
  unfold srcsetUrl
  rcases cut with rfl | ⟨before, rfl⟩
  · rw [List.nil_append, List.splitOn_eq_singleton whole]
    simp [found]
  · rw [List.append_assoc, List.singleton_append, List.splitOn_append_cons_self,
      List.splitOn_eq_singleton whole, List.reverse_append]
    simp [found]

namespace Candidates
variable {candidates : Candidates}

theorem last_mem : candidates.last ∈ candidates.all := by
  unfold last all
  cases shape : candidates.rest.getLast? with
  | none => exact List.mem_cons_self
  | some joined =>
    exact List.mem_cons_of_mem _ (List.mem_map_of_mem (List.mem_of_getLast? shape))

/-- A value ends with its last candidate, behind whitespace and a comma if there is another. -/
theorem text_last : ∃ front gap, candidates.text = front ++ (gap ++ candidates.last.text) ∧
    (front = [] ∨ ∃ before, front = before ++ [',']) ∧ (∀ c ∈ gap, isWhitespace c = true) := by
  obtain ⟨first, rest⟩ := candidates
  rcases List.eq_nil_or_concat rest with rfl | ⟨before, joined, rfl⟩
  · exact ⟨[], [], by simp [text, last], .inl rfl, by simp⟩
  · refine ⟨_, joined.1.text, ?_, .inr ⟨first.text ++ before.flatMap fun joined =>
      ',' :: joined.1.text ++ joined.2.text, rfl⟩, joined.1.blank⟩
    simp [text, last]

/-- An address without a comma is read as it is. -/
theorem srcsetUrl_whole (whole : ',' ∉ candidates.last.url.text) :
    srcsetUrl candidates.text = candidates.last.url.text := by
  obtain ⟨front, gap, shape, cut, blank⟩ := @text_last candidates
  rw [shape]
  refine srcsetUrl_last cut ?_ ?_
  · simp only [List.mem_append, Candidate.text, not_or]
    refine ⟨fun held => ?_, whole, candidates.last.not_mem_comma_tail⟩
    have absurd := blank ',' held
    rw [not_isWhitespace_comma] at absurd
    cases absurd
  · rw [words_gap blank]
    exact words_first candidates.last.url.some candidates.last.url.spaceless
      candidates.last.isWhitespace_head_tail

/-- An address with commas is read from the last of them on, and the rest of it is lost. -/
theorem srcsetUrl_cut {before after : Text} (url : candidates.last.url.text = before ++ ',' :: after)
    (last : ',' ∉ after) : srcsetUrl candidates.text = after := by
  obtain ⟨front, gap, shape, -, -⟩ := @text_last candidates
  have some : after ≠ [] := by
    rintro rfl
    exact candidates.last.url.ends (by simp [url])
  have shape' : candidates.text =
      (front ++ gap ++ before ++ [',']) ++ (after ++ candidates.last.tail) := by
    rw [shape, Candidate.text, url]
    simp
  rw [shape']
  refine srcsetUrl_last (.inr ⟨_, rfl⟩) ?_ ?_
  · rw [List.mem_append, not_or]
    exact ⟨last, candidates.last.not_mem_comma_tail⟩
  · refine words_first some (fun c held => ?_) candidates.last.isWhitespace_head_tail
    exact candidates.last.url.spaceless c (by simp [url, held])

theorem srcsetUrl_eq_iff : srcsetUrl candidates.text = candidates.last.url.text ↔
    ',' ∉ candidates.last.url.text := by
  refine ⟨fun read held => ?_, srcsetUrl_whole⟩
  obtain ⟨after, before, shape, last⟩ := List.eq_append_cons_of_mem (List.mem_reverse.mpr held)
  have url : candidates.last.url.text = before.reverse ++ ',' :: after.reverse := by
    rw [← List.reverse_reverse candidates.last.url.text, shape]
    simp
  have cut := srcsetUrl_cut url (by simpa using last)
  rw [read] at cut
  have shorter := congrArg List.length (cut.symm.trans url)
  simp at shorter
  omega

end Candidates

/-! ## Where an image comes from -/

/-- A node in a document, the contents of templates included. -/
inductive Within (node : Node) : Node → Prop where
  | here : Within node node
  | document {children : List Node} {child : Node} : child ∈ children → Within node child →
      Within node (.document children)
  | child {tag : String} {attrs : List Attribute} {children : List Node} {contents : Option Node}
      {child : Node} : child ∈ children → Within node child →
      Within node (.element tag attrs children contents)
  | contents {tag : String} {attrs : List Attribute} {children : List Node} {contents : Node} :
      Within node contents → Within node (.element tag attrs children (some contents))

section Images
variable {Url : Type} (urls : UrlLibrary Url) (base : Option Url)

/-- An image that an attribute of some image or source in a document gives. -/
def Gives (dom : Node) (image : Text) : Prop :=
  ∃ tag attrs children contents name, Within (.element tag attrs children contents) dom ∧
    (tag = "img" ∨ tag = "source") ∧ tinyImage attrs = false ∧ name ∈ IMAGE_ATTRIBUTES ∧
    image = attributeImage urls base attrs name

variable {urls base}

theorem Gives.within {node dom : Node} {image : Text} (gives : Gives urls base node image)
    (step : ∀ element, Within element node → Within element dom) : Gives urls base dom image := by
  obtain ⟨tag, attrs, children, contents, name, inside, given⟩ := gives
  exact ⟨tag, attrs, children, contents, name, step _ inside, given⟩

theorem gives_own {tag : String} {attrs : List Attribute} {children : List Node}
    {contents : Option Node} {image : Text}
    (found : (ownImages urls base tag attrs).find? (· ≠ []) = some image) :
    Gives urls base (.element tag attrs children contents) image := by
  have listed := List.mem_of_find?_eq_some found
  unfold ownImages at listed
  split at listed
  · rename_i shown
    obtain ⟨name, among, rfl⟩ := List.mem_map.mp listed
    exact ⟨tag, attrs, children, contents, name, .here, shown.1, by simpa using shown.2, among, rfl⟩
  · cases listed

/-- The image of a document comes from an attribute in it, or from one in the contents of a
template. -/
theorem firstImageUrl_gives (dom : Node) :
    firstImageUrl urls base dom ≠ [] → Gives urls base dom (firstImageUrl urls base dom) := by
  refine @Node.rec
    (fun node => firstImageUrl urls base node ≠ [] →
      Gives urls base node (firstImageUrl urls base node))
    (fun children => firstChildImageUrl urls base children ≠ [] →
      ∃ child ∈ children, Gives urls base child (firstChildImageUrl urls base children))
    (fun contents => firstContentsImageUrl urls base contents ≠ [] →
      ∃ node, contents = some node ∧
        Gives urls base node (firstContentsImageUrl urls base contents))
    ?document ?doctype ?comment ?processingInstruction ?text ?element ?nil ?cons ?none ?some dom
  case document =>
    intro children ih found
    rw [firstImageUrl] at found ⊢
    obtain ⟨child, among, gives⟩ := ih found
    exact gives.within fun _ => .document among
  case doctype => exact fun found => absurd (by rw [firstImageUrl]) found
  case comment => exact fun _ found => absurd (by rw [firstImageUrl]) found
  case processingInstruction => exact fun found => absurd (by rw [firstImageUrl]) found
  case text => exact fun _ found => absurd (by rw [firstImageUrl]) found
  case element =>
    intro tag attrs children contents ofChildren ofContents found
    rw [firstImageUrl] at found ⊢
    cases own : (ownImages urls base tag attrs).find? (· ≠ []) with
    | some resolved => exact gives_own own
    | none =>
      rw [own] at found
      dsimp only at found ⊢
      by_cases inside : firstChildImageUrl urls base children ≠ []
      · rw [if_pos inside] at found ⊢
        obtain ⟨child, among, gives⟩ := ofChildren found
        exact gives.within fun _ => .child among
      · rw [if_neg inside] at found ⊢
        obtain ⟨node, rfl, gives⟩ := ofContents found
        exact gives.within fun _ => .contents
  case nil => exact fun found => absurd (by rw [firstChildImageUrl]) found
  case cons =>
    intro child children ofChild ofChildren found
    rw [firstChildImageUrl] at found ⊢
    by_cases first : firstImageUrl urls base child ≠ []
    · rw [if_pos first] at found ⊢
      exact ⟨child, List.mem_cons_self, ofChild found⟩
    · rw [if_neg first] at found ⊢
      obtain ⟨other, among, gives⟩ := ofChildren found
      exact ⟨other, List.mem_cons_of_mem child among, gives⟩
  case none => exact fun found => absurd (by rw [firstContentsImageUrl]) found
  case some =>
    intro node ih found
    rw [firstContentsImageUrl] at found ⊢
    exact ⟨node, rfl, ih found⟩

end Images

/-! ## What a value yields -/

/-- The address of the last candidate, so that the image is one of those listed, and none if
they are data only. -/
structure Candidates.Yields (candidates : Candidates) : Prop where
  url : srcsetUrl candidates.text = candidates.last.url.text
  listed : ∀ {Url : Type} (urls : UrlLibrary Url) (base : Option Url) (attrs : List Attribute),
    ∀ name ∈ ["data-srcset", "srcset"], attributeValue attrs name = some candidates.text →
      ∃ candidate ∈ candidates.all,
        attributeImage urls base attrs name = resolveImageUrlWithBase urls base candidate.url.text
  data : (∀ candidate ∈ candidates.all, isData candidate.url.text = true) →
    ∀ {Url : Type} (urls : UrlLibrary Url) (base : Option Url) (attrs : List Attribute),
      ∀ name ∈ ["data-srcset", "srcset"], attributeValue attrs name = some candidates.text →
        attributeImage urls base attrs name = []

theorem attributeImage_srcset {Url : Type} {urls : UrlLibrary Url} {base : Option Url}
    {attrs : List Attribute} {name : String} {value : Text}
    (responsive : name ∈ ["data-srcset", "srcset"]) (held : attributeValue attrs name = some value) :
    attributeImage urls base attrs name = resolveImageUrlWithBase urls base (srcsetUrl value) := by
  have ends : "srcset".toList.isSuffixOf name.toList = true := by
    simp only [List.mem_cons, List.not_mem_nil, or_false] at responsive
    rcases responsive with rfl | rfl <;> rfl
  unfold attributeImage
  dsimp only
  rw [held, Option.getD_some, if_pos ends]

theorem resolveImageUrlWithBase_data {Url : Type} {urls : UrlLibrary Url} {base : Option Url}
    {url : UrlToken} (data : isData url.text = true) :
    resolveImageUrlWithBase urls base url.text = [] := by
  unfold resolveImageUrlWithBase
  rw [(tidy_spaceless url.spaceless).trim_eq]
  exact if_pos (.inr data)

/-- A responsive image yields one of its own candidates exactly when the last address is
free of commas. Commas in the other addresses do no harm, for the last part is read. -/
theorem Candidates.yields_iff (candidates : Candidates) :
    candidates.Yields ↔ ',' ∉ candidates.last.url.text := by
  refine ⟨fun yields => srcsetUrl_eq_iff.mp yields.url, fun whole => ?_⟩
  have read := srcsetUrl_whole whole
  refine ⟨read, fun urls base attrs name responsive held => ?_,
    fun data _ urls base attrs name responsive held => ?_⟩
  · exact ⟨candidates.last, last_mem, by rw [attributeImage_srcset responsive held, read]⟩
  · rw [attributeImage_srcset responsive held, read]
    exact resolveImageUrlWithBase_data (data _ last_mem)

/-- One image, inline. -/
def inlineImage : Candidates where
  first := {
    url := ⟨"data:image/png;base64,AAAA".toList, by simp, by simp [isWhitespace], by simp, by simp⟩
    descriptor := some (⟨[' '], by simp, by simp [isWhitespace]⟩,
      ⟨['1', 'x'], by simp, by simp [isWhitespace]⟩) }
  rest := []

example : srcsetUrl inlineImage.text = "AAAA".toList := by decide

/-- An inline image has a comma in its address, and what is read begins behind it. -/
theorem inlineImage_not_yields : ¬ ∀ candidates : Candidates, candidates.Yields := fun yields =>
  Candidates.srcsetUrl_eq_iff.mp (yields inlineImage).url (by decide)

end FluxBar.Article
