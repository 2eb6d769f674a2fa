import FluxBar.Article

/-! The article package of the Go core: previews and images of a document in the tree of its
own HTML parser, where what a template holds are its children. Parser and URL library are not
of the program. Of texts, white space and attributes are those of `Article`. -/
namespace FluxBar.GoArticle
open Words
open Article (Text Attribute isWhitespace)

/-! ## Documents -/

/-- `html.NodeType`. -/
inductive NodeType where
  | error
  | text
  | document
  | element
  | comment
  | doctype
  | raw
  deriving DecidableEq, Repr

/-- `html.Node`. -/
inductive Node where
  | mk (type : NodeType) (data : String) (attr : List Attribute) (children : List Node)

/-- `attribute`; one that is missing is empty. -/
def attributeValue (attr : List Attribute) (name : String) : Text :=
  ((attr.find? fun pair => pair.name = name).map fun pair =>
    trim isWhitespace pair.value).getD []

def blockElements : List String :=
  ["address", "article", "aside", "blockquote", "div", "figcaption", "figure", "footer", "h1", "h2",
    "h3", "h4", "h5", "h6", "header", "li", "main", "nav", "p", "pre", "section", "table", "td", "th",
    "tr"]

def ignoredElements : List String := ["head", "noscript", "script", "style", "template"]

/-! ## Preview text -/

/-- What an element puts before its children. -/
def opening (output : Text) (data : String) (attr : List Attribute) : Text :=
  let output :=
    if data = "br" then output ++ ['\n']
    else if data = "img" then
      let alt := attributeValue attr "alt"
      if alt ≠ [] then output ++ [' '] ++ alt ++ [' '] else output
    else output
  if data ∈ blockElements then output ++ ['\n'] else output

mutual

def appendNodeText (output : Text) : Node → Text
  | .mk type data attr children =>
    if type = .element ∧ data ∈ ignoredElements then output
    else if type = .text then output ++ data.toList
    else
      let output := if type = .element then opening output data attr else output
      let output := appendChildrenText output children
      if type = .element ∧ data ∈ blockElements then output ++ ['\n'] else output

def appendChildrenText (output : Text) : List Node → Text
  | [] => output
  | child :: siblings => appendChildrenText (appendNodeText output child) siblings

end

/-- `strings.Join(strings.Fields(value), " ")`. -/
def joinFields (value : Text) : Text := [' '].intercalate (words isWhitespace value)

/-- `truncate`; a negative limit is none. -/
def truncate (value : Text) (limit : Int) : Text :=
  if limit ≤ 0 ∨ value.length ≤ limit then value
  else trim isWhitespace (value.take (limit - 1).toNat) ++ ['…']

/-- The text `Extract` makes of a document. -/
def previewText (document : Node) (limit : Int) : Text :=
  let lines := (appendNodeText [] document).splitOn '\n'
  let cleaned := (lines.map joinFields).filter fun line => !line.isEmpty
  truncate (['\n'].intercalate cleaned) limit

/-! ## Images -/

/-- What the program uses of `net/url`. -/
structure UrlLibrary (Url : Type) where
  parse : Text → Option Url
  isAbs : Url → Bool
  resolveReference : Url → Url → Url
  scheme : Url → Text
  string : Url → Text

/-- `strconv.Atoi`, of 64 bits. -/
def atoi (value : Text) : Option Int :=
  let digits (value : Text) : Option Int :=
    if value ≠ [] ∧ value.all Char.isDigit then some (Nat.ofDigitChars 10 value 0) else none
  let parsed :=
    match value with
    | '+' :: rest => digits rest
    | '-' :: rest => (digits rest).map fun dimension => -dimension
    | rest => digits rest
  parsed.filter fun dimension =>
    -0x8000000000000000 ≤ dimension ∧ dimension ≤ 0x7fffffffffffffff

/-- `strings.TrimSuffix`. -/
def trimSuffix (value suffix : Text) : Text :=
  if suffix.isSuffixOf value then value.take (value.length - suffix.length) else value

/-- `positiveDimension`, which gives none where it is not ok. -/
def positiveDimension (value : Text) : Option Int :=
  (atoi (trimSuffix (trim isWhitespace value) "px".toList)).filter fun dimension => dimension ≥ 0

def tinyImage (attr : List Attribute) : Bool :=
  let width := positiveDimension (attributeValue attr "width")
  let height := positiveDimension (attributeValue attr "height")
  width.any (· ≤ 2) && height.any (· ≤ 2)

/-- `srcsetURL`: the first field of the last part that has one. -/
def srcsetURL (value : Text) : Text :=
  ((value.splitOn ',').reverse.findSome? fun part => (words isWhitespace part).head?).getD []

section Images
variable {Url : Type} (urls : UrlLibrary Url) (toLower : Char → Char) (base : Option Url)

/-- `resolveImageURL`; `toLower` is `unicode.ToLower`. -/
def resolveImageURL (candidate : Text) : Text :=
  let candidate := trim isWhitespace candidate
  if candidate = [] ∨ "data:".toList.isPrefixOf (candidate.map toLower) then []
  else
    match urls.parse candidate with
    | none => []
    | some parsed =>
      let parsed := if urls.isAbs parsed then parsed
        else (base.map fun base => urls.resolveReference base parsed).getD parsed
      if urls.scheme parsed ≠ "http".toList ∧ urls.scheme parsed ≠ "https".toList then []
      else urls.string parsed

/-- The image one attribute gives. -/
def attributeImage (attr : List Attribute) (name : String) : Text :=
  let candidate := attributeValue attr name
  resolveImageURL urls toLower base
    (if "srcset".toList.isSuffixOf name.toList then srcsetURL candidate else candidate)

/-- The images a node gives by itself, in the order in which they are tried. -/
def ownImages (type : NodeType) (data : String) (attr : List Attribute) : List Text :=
  if type = .element ∧ (data = "img" ∨ data = "source") ∧ !tinyImage attr then
    ["data-src", "data-original", "src", "data-srcset", "srcset"].map
      (attributeImage urls toLower base attr)
  else []

mutual

/-- `visit` of `firstImageURL`. -/
def visit : Node → Text
  | .mk type data attr children =>
    match (ownImages urls toLower base type data attr).find? (· ≠ []) with
    | some resolved => resolved
    | none => visitChildren children

def visitChildren : List Node → Text
  | [] => []
  | child :: siblings =>
    let candidate := visit child
    if candidate ≠ [] then candidate else visitChildren siblings

end

def firstImageURL (document : Node) (baseURL : Text) : Text :=
  visit urls toLower (urls.parse baseURL) document

/-- `ResolveImageURL`, the exported one. -/
def resolveImageURLAgainst (candidate baseURL : Text) : Text :=
  resolveImageURL urls toLower (urls.parse baseURL) candidate

/-- `firstImageEnclosureURL`, over the enclosures that are there, by url and media type. -/
def firstImageEnclosureURL (enclosures : List (Text × Text)) (articleURL : Text) : Text :=
  match enclosures with
  | [] => []
  | (url, mimeType) :: rest =>
    let mediaType := (trim isWhitespace ((mimeType.splitOn ';').headD [])).map toLower
    let imageURL :=
      if "image/".toList.isPrefixOf mediaType then resolveImageURLAgainst urls toLower url articleURL
      else []
    if imageURL ≠ [] then imageURL else firstImageEnclosureURL rest articleURL

end Images

/-! ## Previews -/

structure Preview where
  text : Text
  imageURL : Text
  deriving DecidableEq, Repr

/-- `Extract`; `html.Parse` gives nothing where it fails. -/
def extract {Url : Type} (parse : Text → Option Node) (urls : UrlLibrary Url)
    (toLower : Char → Char) (value baseURL : Text) (limit : Int) : Preview :=
  if trim isWhitespace value = [] then ⟨[], []⟩
  else
    match parse value with
    | none => ⟨truncate (joinFields value) limit, []⟩
    | some document =>
      ⟨previewText document limit, firstImageURL urls toLower document baseURL⟩

end FluxBar.GoArticle
