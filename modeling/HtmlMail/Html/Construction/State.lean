import HtmlMail.Html.Construction.Forest
import HtmlMail.Html.Token

/-!
# The state of construction

Which elements are open, which ones shape the text, and which rules are in force.

- `Mode` : the rules in force
- `State` : all that is known about the markup read so far
- `State.isOpenWithin` : whether an element is open, up to a boundary

The stack of open elements and the list of formatting elements are kept with the latest entry first.
-/

namespace HtmlMail.Html.Construction

open Dom

/-- The rules in force. -/
inductive Mode where
  | initial
  | beforeHtml
  | beforeHead
  | inHead
  | afterHead
  | inBody
  | text
  | inTable
  | inTableText
  | inCaption
  | inColumnGroup
  | inTableBody
  | inRow
  | inCell
  | inSelect
  | inSelectInTable
  | inTemplate
  | afterBody
  | inFrameset
  | afterFrameset
  | afterAfterBody
  | afterAfterFrameset
  deriving DecidableEq, Repr

/-- An entry of the list of formatting elements. -/
inductive FormattingEntry where
  /-- A boundary that formatting does not cross. -/
  | marker
  /-- An element with the tag it was made from. -/
  | element (node : Nat) (tag : Tag)
  deriving DecidableEq, Repr

/-- What is known about the markup read so far. -/
structure State where
  forest : Forest
  /-- The open elements, the innermost one first. -/
  stack : List Nat
  /-- The formatting elements, the latest one first. -/
  formatting : List FormattingEntry
  mode : Mode
  /-- The rules to go back to behind a text. -/
  returnMode : Mode
  /-- The rules for the content of the open templates, the innermost one first. -/
  templateModes : List Mode
  /-- The element for the head of the document. -/
  head? : Option Nat
  /-- The form that is open. -/
  form? : Option Nat
  /-- Whether the document may still become a set of frames. -/
  framesetOk : Bool
  /-- Whether the document is of an old kind, where tables stand inside paragraphs. -/
  isOldStyle : Bool
  /-- Whether what cannot stand in a table is put in front of it. -/
  fosters : Bool
  /-- Whether a line feed that follows at once is dropped. -/
  skipsLineFeed : Bool
  /-- Text in a table whose place is not yet decided, the latest first. -/
  pendingText : List Token
  /-- How the text that follows is read, if the last tag decided that. -/
  textMode? : Option TextMode
  /-- Whether the last tag interrupts reading, so that the text is taken up again behind it. -/
  interrupts : Bool
  deriving DecidableEq, Repr

/-- Before anything is read. -/
def State.initial : State where
  forest := .empty
  stack := []
  formatting := []
  mode := .initial
  returnMode := .initial
  templateModes := []
  head? := none
  form? := none
  framesetOk := true
  isOldStyle := false
  fosters := false
  skipsLineFeed := false
  pendingText := []
  textMode? := none
  interrupts := false

/-- The language and the name of an element. -/
structure ElementName where
  ns : Namespace
  name : String
  deriving DecidableEq, Repr

namespace ElementName

/-- Whether this is an element of hypertext with one of the names. -/
def isHtml (e : ElementName) (names : List String) : Bool := e.ns == .html && names.contains e.name

/-- Whether text in the element is text of hypertext. -/
def isMathmlTextPoint (e : ElementName) : Bool :=
  e.ns == .mathml && ["mi", "mo", "mn", "ms", "mtext"].contains e.name

/-- Whether the element can hold hypertext. -/
def isSvgHtmlPoint (e : ElementName) : Bool :=
  e.ns == .svg && ["foreignobject", "desc", "title"].contains e.name

/-- Whether the element is a boundary for the search of open elements. -/
def bounds (e : ElementName) : Bool :=
  e.isHtml ["applet", "caption", "html", "marquee", "object", "table", "td", "template", "th"] ||
    e.isMathmlTextPoint || e.isSvgHtmlPoint

/-- Whether the element is a boundary for the search of an open paragraph. -/
def boundsParagraph (e : ElementName) : Bool := e.bounds || e.isHtml ["button"]

/-- Whether the element is a boundary for the search of an open list item. -/
def boundsListItem (e : ElementName) : Bool := e.bounds || e.isHtml ["ol", "ul"]

/-- Whether the element is a boundary for the search of a part of a table. -/
def boundsTable (e : ElementName) : Bool := e.isHtml ["html", "table", "template"]

/-- Whether the element is a boundary for the search of an open selection. -/
def boundsSelect (e : ElementName) : Bool := !e.isHtml ["optgroup", "option"]

/-- The elements that structure a document and are never closed by an unrelated end tag. -/
def specialNames : List String :=
  ["address", "applet", "area", "article", "aside", "base", "basefont", "bgsound", "blockquote", "body",
    "br", "button", "caption", "center", "col", "colgroup", "dd", "details", "dir", "div", "dl", "dt",
    "embed", "fieldset", "figcaption", "figure", "footer", "form", "frame", "frameset", "h1", "h2", "h3",
    "h4", "h5", "h6", "head", "header", "hgroup", "hr", "html", "iframe", "img", "input", "isindex", "li",
    "link", "listing", "main", "marquee", "menu", "meta", "nav", "noembed", "noframes", "noscript",
    "object", "ol", "p", "param", "plaintext", "pre", "script", "section", "select", "source",
    "style", "summary", "table", "tbody", "td", "template", "textarea", "tfoot", "th", "thead", "title",
    "tr", "track", "ul", "wbr", "xmp"]

/-- Whether the element structures a document. -/
def isSpecial (e : ElementName) : Bool := e.isHtml specialNames

/-- The elements whose end tag may be missing. -/
def impliedEndNames : List String :=
  ["dd", "dt", "li", "optgroup", "option", "p", "rb", "rp", "rt", "rtc"]

/-- Those, and the parts of tables. -/
def thoroughEndNames : List String :=
  impliedEndNames ++ ["caption", "colgroup", "tbody", "td", "tfoot", "th", "thead", "tr"]

/-- The parts of a table that hold no text. -/
def tableNames : List String := ["table", "tbody", "tfoot", "thead", "tr"]

end ElementName

namespace State

/-- The language and the name of a node; other nodes than elements have no name. -/
def nameOf (s : State) (node : Nat) : ElementName :=
  match s.forest.content? node with
  | some (.element ns name _ _) => ⟨ns, name⟩
  | _ => ⟨.html, ""⟩

/-- The attributes of a node. -/
def attributesOf (s : State) (node : Nat) : List Attribute :=
  match s.forest.content? node with
  | some (.element _ _ attributes _) => attributes
  | _ => []

/-- Whether a node is an element of hypertext with one of the names. -/
def isHtml (s : State) (node : Nat) (names : List String) : Bool := (s.nameOf node).isHtml names

/-- The name of the innermost open element. -/
def currentName (s : State) : ElementName :=
  match s.stack with
  | [] => ⟨.html, ""⟩
  | node :: _ => s.nameOf node

/-- Whether the innermost open element is one of hypertext with one of the names. -/
def currentIs (s : State) (names : List String) : Bool := s.currentName.isHtml names

/-- The outermost open element. -/
def htmlNode (s : State) : Nat := s.stack.getLast?.getD Forest.document

/-- The open element for the body, if it is the second one. -/
def bodyNode? (s : State) : Option Nat :=
  match s.stack.reverse with
  | _ :: node :: _ => if s.isHtml node ["body"] then some node else none
  | _ => none

/-- Whether an element for which `wanted` holds is open, looked for from the innermost one on up to a
boundary, which may itself be wanted. -/
def isOpenWithin (s : State) (isBoundary : ElementName → Bool) (wanted : Nat → Bool) : Bool :=
  go s.stack
where
  /-- The search among the open elements that are left. -/
  go : List Nat → Bool
    | [] => false
    | node :: rest => wanted node || (!isBoundary (s.nameOf node) && go rest)

/-- Whether an element of hypertext with one of the names is open within a boundary. -/
def isOpenNamed (s : State) (isBoundary : ElementName → Bool) (names : List String) : Bool :=
  s.isOpenWithin isBoundary fun node => s.isHtml node names

/-- Whether a template is open. -/
def isInTemplate (s : State) : Bool := s.stack.any fun node => s.isHtml node ["template"]

/-- Whether an annotation in a formula says that it holds hypertext. -/
def isAnnotationPoint (s : State) (node : Nat) : Bool :=
  (s.attributesOf node).any fun a =>
    a.name == "encoding" &&
      (Text.eqIgnoringCase a.value "text/html" || Text.eqIgnoringCase a.value "application/xhtml+xml")

/-- Whether the innermost open element belongs to another language than hypertext. -/
def isInForeign (s : State) : Bool := s.currentName.ns != .html

/-- Whether a token falls under the rules for other languages than hypertext. -/
def isForeign (s : State) (token : Token) : Bool :=
  match s.stack, token with
  | [], _ | _, .endOfInput => false
  | node :: _, _ =>
    let e := s.nameOf node
    let isText := match token with
      | .blanks _ | .text _ | .null => true
      | _ => false
    let startName? := match token with
      | .tag tag => if tag.isEnd then none else some tag.name
      | _ => none
    let isAnnotation := e == ⟨.mathml, "annotation-xml"⟩
    -- Where an element can hold hypertext, what it can hold falls under the usual rules.
    if e.ns == .html then false
    else if e.isMathmlTextPoint &&
        (isText || startName?.any fun name => name ≠ "mglyph" && name ≠ "malignmark") then false
    else if e.isSvgHtmlPoint && (isText || startName?.isSome) then false
    else if isAnnotation && startName? == some "svg" then false
    else if isAnnotation && (isText || startName?.isSome) then !s.isAnnotationPoint node
    else true

/-- The rules for what stands in the open elements. -/
def resetMode (s : State) : Mode :=
  go s.stack
where
  /-- Whether a table is open among elements, up to a template. -/
  isInTable : List Nat → Bool
    | [] => false
    | node :: rest => !s.isHtml node ["template"] && (s.isHtml node ["table"] || isInTable rest)
  /-- The search among the open elements that are left. -/
  go : List Nat → Mode
    | [] => .inBody
    | node :: rest =>
      let e := s.nameOf node
      -- Only elements of hypertext decide.
      if e.ns != .html then go rest
      else match e.name with
        | "select" => if isInTable rest then .inSelectInTable else .inSelect
        | "td" | "th" => if rest.isEmpty then .inBody else .inCell
        | "tr" => .inRow
        | "tbody" | "thead" | "tfoot" => .inTableBody
        | "caption" => .inCaption
        | "colgroup" => .inColumnGroup
        | "table" => .inTable
        | "template" => s.templateModes.head?.getD .inBody
        | "head" => if rest.isEmpty then .inBody else .inHead
        | "body" => .inBody
        | "frameset" => .inFrameset
        | "html" => if s.head?.isSome then .afterHead else .beforeHead
        | _ => go rest

end State

/-- A step of construction. -/
abbrev Build := StateM State

end HtmlMail.Html.Construction
