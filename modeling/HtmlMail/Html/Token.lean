import HtmlMail.Dom.Attributes
import HtmlMail.Text.AsciiCase

/-!
# Tokens of markup

What reading the text of markup yields, before it is known where everything belongs.

- `Token` : a tag, a comment, a document type, or a piece of text
- `Tag.opens`, `Tag.closes` : start tags and end tags by name
- `TextMode` : how a stretch of text is read
-/

namespace HtmlMail.Html

open Dom

/-- The characters that separate words in markup. -/
def isMarkupBlank (c : Char) : Bool :=
  c == ' ' || c == '\n' || c == '\t' || c == '\r' || c == '\x0c'

/-- A document type, with the parts that are written in it. -/
structure Doctype where
  name? : Option String
  publicId? : Option String
  systemId? : Option String
  /-- Whether it is not well formed. -/
  isFaulty : Bool
  deriving DecidableEq, Repr

/-- A start tag or an end tag. -/
structure Tag where
  isEnd : Bool
  /-- The name in lower case. -/
  name : String
  /-- Attributes with names in lower case, each name once. -/
  attributes : List Attribute
  /-- Whether a slash stands at its end. -/
  closesItself : Bool
  deriving DecidableEq, Repr

namespace Tag

/-- Whether this is a start tag with one of the names. -/
def opens (tag : Tag) (names : List String) : Bool := !tag.isEnd && names.contains tag.name

/-- Whether this is an end tag with one of the names. -/
def closes (tag : Tag) (names : List String) : Bool := tag.isEnd && names.contains tag.name

section Kind

variable {tag : Tag}

theorem opens_of_start (h : tag.isEnd = false) (names : List String) :
    tag.opens names = names.contains tag.name := by
  rw [opens, h, Bool.not_false, Bool.true_and]

theorem closes_of_start (h : tag.isEnd = false) (names : List String) : tag.closes names = false := by
  rw [closes, h, Bool.false_and]

theorem opens_of_end (h : tag.isEnd) (names : List String) : tag.opens names = false := by
  rw [opens, h, Bool.not_true, Bool.false_and]

theorem closes_of_end (h : tag.isEnd) (names : List String) :
    tag.closes names = names.contains tag.name := by
  rw [closes, h, Bool.true_and]

end Kind

/-- The value of an attribute. -/
def attribute? (tag : Tag) (name : String) : Option String :=
  (tag.attributes.find? (·.name == name)).map (·.value)

/-- The start tag of a name without attributes. -/
def start (name : String) : Tag := ⟨false, name, [], false⟩

end Tag

/-- A piece of markup. Text comes in runs that are blank throughout or not blank anywhere. -/
inductive Token where
  | doctype (d : Doctype)
  | tag (t : Tag)
  | comment (text : String)
  | blanks (text : String)
  | text (text : String)
  /-- A null character in text. -/
  | null
  /-- Something that is not well formed and leaves no other trace. -/
  | fault
  | endOfInput
  deriving DecidableEq, Repr

/-- How a stretch of text is read. -/
inductive TextMode where
  /-- As markup. -/
  | markup
  /-- As text with character references, up to an end tag of the name. -/
  | references (closing : String)
  /-- As plain text, up to an end tag of the name. -/
  | raw (closing : String)
  /-- As the text of a script, up to its end tag. -/
  | script
  /-- As plain text to the end. -/
  | plain
  deriving DecidableEq, Repr

end HtmlMail.Html
