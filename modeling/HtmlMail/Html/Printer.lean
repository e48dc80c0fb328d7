import HtmlMail.Html.Escape
import HtmlMail.Html.Markup

/-!
# Writing markup

- `Markup.print` : the text of a piece of markup
- `printDocument` : the text of a document
- `printOuter`, `printInner` : the text of a node, and of what is below it

Attribute values are always quoted, and an element that cannot have content is closed in its start tag.
-/

namespace HtmlMail.Html

open Dom

/-- The elements that cannot have content. -/
def voidElements : List String :=
  ["area", "base", "br", "col", "embed", "hr", "img", "input", "link", "meta", "param", "source",
    "track", "wbr"]

/-- The elements whose text is written without escapes; nothing else in them is written at all. -/
def rawTextElements : List String := ["script", "style"]

/-- An attribute with the blank in front of it. -/
def printAttribute (a : Attribute) : List Char :=
  [' '] ++ a.name.toList ++ ['=', '"'] ++ escapeAttribute a.value.toList ++ ['"']

/-- The text of a document type. -/
def printDoctype (name publicId systemId : String) : List Char :=
  "<!DOCTYPE ".toList ++ name.toList ++
    (if publicId = "" then [] else " PUBLIC \"".toList ++ publicId.toList ++ ['"']) ++
    (if systemId = "" then []
      else (if publicId = "" then " SYSTEM".toList else []) ++
        [' ', '"'] ++ systemId.toList ++ ['"']) ++
    ['>']

namespace Markup

/-- The text of a piece of markup as it stands in an element with raw text. -/
def rawText : Markup → List Char
  | text content => content.toList
  | _ => []

mutual

/-- The text of a piece of markup. -/
def print : Markup → List Char
  | doctype name publicId systemId => printDoctype name publicId systemId
  | element name attributes children =>
    let start := ['<'] ++ name.toList ++ attributes.flatMap printAttribute
    if voidElements.contains name then start ++ " />".toList
    else
      let content :=
        if rawTextElements.contains name then children.flatMap rawText else printAll children
      start ++ ['>'] ++ content ++ ['<', '/'] ++ name.toList ++ ['>']
  | text content => escapeText content.toList
  | comment content => "<!--".toList ++ content.toList ++ "-->".toList

/-- The text of pieces of markup one after the other. -/
def printAll : List Markup → List Char
  | [] => []
  | m :: rest => print m ++ printAll rest

end

end Markup

theorem printAll_append (F G : List Markup) :
    Markup.printAll (F ++ G) = Markup.printAll F ++ Markup.printAll G := by
  induction F with
  | nil => rfl
  | cons m F ih => rw [List.cons_append, Markup.printAll, Markup.printAll, ih, List.append_assoc]

/-- The text of a node. -/
def printOuter (tree : Tree) (node : NodeId) : String :=
  String.ofList (Markup.printAll (Markup.outer tree node))

/-- The text of what is below a node. -/
def printInner (tree : Tree) (node : NodeId) : String :=
  String.ofList (Markup.printAll (Markup.inner tree node))

/-- The text of a document. -/
def printDocument (doc : Document) : String :=
  String.ofList (Markup.printAll (Markup.ofDocument doc))

end HtmlMail.Html
