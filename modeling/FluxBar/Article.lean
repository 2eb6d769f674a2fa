import FluxBar.Library.Words

/-! Article preview and image extraction. The HTML parser and the URL library are not of the
program: a document is whatever tree the parser gives. -/
namespace FluxBar.Article
open Words

/-- The scalar values of a string. -/
abbrev Text := List Char

/-- `char::is_whitespace`, the Unicode property `White_Space`. -/
def isWhitespace (c : Char) : Bool :=
  let scalar := c.toNat
  0x09 ≤ scalar && scalar ≤ 0x0D || scalar = 0x20 || scalar = 0x85 || scalar = 0xA0 ||
    scalar = 0x1680 || 0x2000 ≤ scalar && scalar ≤ 0x200A || scalar = 0x2028 || scalar = 0x2029 ||
    scalar = 0x202F || scalar = 0x205F || scalar = 0x3000

/-! ## Documents -/

/-- `Attribute` of the parsed document, by its local name. -/
structure Attribute where
  name : String
  value : Text
  deriving DecidableEq, Repr

/-- A node of the parsed document. Only documents and elements have children, and a template
its contents. -/
inductive Node where
  | document (children : List Node)
  | doctype
  | comment (contents : Text)
  | processingInstruction
  | text (contents : Text)
  | element (name : String) (attrs : List Attribute) (children : List Node)
      (templateContents : Option Node)

/-- `attribute`: the value of an attribute, the first of its name. -/
def attributeValue (attrs : List Attribute) (name : String) : Option Text :=
  (attrs.find? fun attr => attr.name = name).map fun attr => trim isWhitespace attr.value

def IGNORED_ELEMENTS : List String := ["head", "noscript", "script", "style", "template"]

def BLOCK_ELEMENTS : List String :=
  ["address", "article", "aside", "blockquote", "div", "figcaption", "figure", "footer", "h1", "h2",
    "h3", "h4", "h5", "h6", "header", "li", "main", "nav", "p", "pre", "section", "table", "td", "th",
    "tr"]

def IMAGE_ATTRIBUTES : List String := ["data-src", "data-original", "src", "data-srcset", "srcset"]

/-! ## Preview text -/

/-- What an element puts before its children: a break, the alternative text of an image
between spaces, and a break before a block. -/
def opening (output : Text) (tag : String) (attrs : List Attribute) : Text :=
  let output :=
    if tag = "br" then output ++ ['\n']
    else if tag = "img" then
      match attributeValue attrs "alt" with
      | some alt => output ++ [' '] ++ alt ++ [' ']
      | none => output
    else output
  if tag ∈ BLOCK_ELEMENTS then output ++ ['\n'] else output

mutual

def appendNodeText (output : Text) : Node → Text
  | .element tag attrs children _ =>
    if tag ∈ IGNORED_ELEMENTS then output
    else
      let output := appendChildrenText (opening output tag attrs) children
      if tag ∈ BLOCK_ELEMENTS then output ++ ['\n'] else output
  | .text contents => output ++ contents
  | .document children => appendChildrenText output children
  | .doctype | .comment _ | .processingInstruction => output

def appendChildrenText (output : Text) : List Node → Text
  | [] => output
  | child :: children => appendChildrenText (appendNodeText output child) children

end

def collapseWhitespace (value : Text) : Text := [' '].intercalate (words isWhitespace value)

def truncate (value : Text) (limit : Nat) : Text :=
  if limit = 0 ∨ value.length ≤ limit then value
  else trimEnd isWhitespace (value.take (limit - 1)) ++ ['…']

def normalizeLines (value : Text) (limit : Nat) : Text :=
  let lines := ((value.splitOn '\n').map collapseWhitespace).filter fun line => !line.isEmpty
  truncate (['\n'].intercalate lines) limit

/-! ## Images -/

/-- What the program uses of the URL library, which is a parameter: parsing, joining, the
scheme and the text. -/
structure UrlLibrary (Url : Type) where
  parse : Text → Option Url
  join : Url → Text → Option Url
  scheme : Url → Text
  toText : Url → Text

/-- `value.parse::<i32>()`, with an optional sign and at least one digit. -/
def parseI32 (value : Text) : Option Int :=
  let magnitude (digits : Text) : Option Int :=
    if digits ≠ [] ∧ digits.all Char.isDigit then some (Nat.ofDigitChars 10 digits 0) else none
  let parsed :=
    match value with
    | '-' :: digits => (magnitude digits).map fun value => -value
    | '+' :: digits => magnitude digits
    | digits => magnitude digits
  parsed.filter fun value => -0x80000000 ≤ value ∧ value ≤ 0x7fffffff

/-- A reversed text without the units it begins with. -/
def dropPx : Text → Text
  | 'x' :: 'p' :: rest => dropPx rest
  | other => other

def positiveDimension (value : Text) : Option Int :=
  let value := trim isWhitespace (dropPx (trim isWhitespace value).reverse).reverse
  (parseI32 value).filter fun d => d ≥ 0

def tinyImage (attrs : List Attribute) : Bool :=
  let width := (attributeValue attrs "width").bind positiveDimension
  let height := (attributeValue attrs "height").bind positiveDimension
  width.any (· ≤ 2) && height.any (· ≤ 2)

/-- `srcset_url`: the first word of the last part, between commas, that has one. -/
def srcsetUrl (value : Text) : Text :=
  ((value.splitOn ',').reverse.findSome? fun part => (words isWhitespace part).head?).getD []

section Images
variable {Url : Type} (urls : UrlLibrary Url) (base : Option Url)

def isData (candidate : Text) : Bool := "data:".toList.isPrefixOf (candidate.map Char.toLower)

def resolveImageUrlWithBase (candidate : Text) : Text :=
  let candidate := trim isWhitespace candidate
  if candidate = [] ∨ isData candidate then []
  else
    match (urls.parse candidate).or (base.bind fun base => urls.join base candidate) with
    | none => []
    | some parsed =>
      if urls.scheme parsed = "http".toList ∨ urls.scheme parsed = "https".toList then
        urls.toText parsed
      else []

/-- The image one attribute gives: its value, or the address read of it where it is a
`srcset`, resolved against the base. -/
def attributeImage (attrs : List Attribute) (name : String) : Text :=
  let candidate := (attributeValue attrs name).getD []
  resolveImageUrlWithBase urls base
    (if "srcset".toList.isSuffixOf name.toList then srcsetUrl candidate else candidate)

/-- The images an element gives by itself, in the order in which they are tried. -/
def ownImages (name : String) (attrs : List Attribute) : List Text :=
  if (name = "img" ∨ name = "source") ∧ !tinyImage attrs then
    IMAGE_ATTRIBUTES.map (attributeImage urls base attrs)
  else []

mutual

def firstImageUrl : Node → Text
  | .element name attrs children templateContents =>
    match (ownImages urls base name attrs).find? (· ≠ []) with
    | some resolved => resolved
    | none =>
      let candidate := firstChildImageUrl children
      if candidate ≠ [] then candidate else firstContentsImageUrl templateContents
  | .document children => firstChildImageUrl children
  | .doctype | .comment _ | .processingInstruction | .text _ => []

def firstChildImageUrl : List Node → Text
  | [] => []
  | child :: children =>
    let candidate := firstImageUrl child
    if candidate ≠ [] then candidate else firstChildImageUrl children

def firstContentsImageUrl : Option Node → Text
  | none => []
  | some contents => firstImageUrl contents

end

end Images

/-! ## Previews -/

/-- `Preview`: the text of an article in short, and the address of its first image. -/
structure Preview where
  text : Text
  imageUrl : Text
  deriving DecidableEq, Repr

/-- The text of a preview: what the traversal collects, put into lines of words, and cut to
the limit. -/
def previewText (dom : Node) (limit : Nat) : Text := normalizeLines (appendNodeText [] dom) limit

/-- `extract`; the parser gives nothing for a value it panics on, and then the value itself
is shortened. -/
def extract {Url : Type} (parseHtml : Text → Option Node) (urls : UrlLibrary Url)
    (value baseUrl : Text) (limit : Nat) : Preview :=
  if trim isWhitespace value = [] then ⟨[], []⟩
  else
    let base := urls.parse baseUrl
    match parseHtml value with
    | none => ⟨truncate (collapseWhitespace value) limit, []⟩
    | some dom => ⟨previewText dom limit, firstImageUrl urls base dom⟩

/-! ## Enclosures -/

/-- `EnclosureInput`: an attachment, as `first_image_enclosure_url` looks at it. -/
structure EnclosureInput where
  url : Text
  mimeType : Text
  deriving DecidableEq, Repr

/-- Whether an enclosure is told to be an image. -/
def EnclosureInput.isImage (enclosure : EnclosureInput) : Bool :=
  let mediaType := trim isWhitespace ((enclosure.mimeType.splitOn ';').headD [])
  "image/".toList.isPrefixOf (mediaType.map Char.toLower)

/-- `first_image_enclosure_url`: the first enclosed image whose address resolves. -/
def firstImageEnclosureUrl {Url : Type} (urls : UrlLibrary Url) (enclosures : List EnclosureInput)
    (articleUrl : Text) : Text :=
  let base := urls.parse articleUrl
  let resolved := (enclosures.filter EnclosureInput.isImage).map fun enclosure =>
    resolveImageUrlWithBase urls base enclosure.url
  (resolved.find? (· ≠ [])).getD []

end FluxBar.Article
