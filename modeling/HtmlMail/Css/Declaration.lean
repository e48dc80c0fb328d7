import HtmlMail.Text.AsciiCase
import HtmlMail.Text.Blank
import HtmlMail.Text.Search

/-!
# Declarations

A declaration gives a property a value, and may be marked as important. Its text is `property: value`,
with `!important` at the end if it is marked.

- `Declaration.parse?` : the declaration a text denotes
- `Declaration.text` : how a declaration is written
- `Declaration.baseProperty` : the shorthand a longhand property belongs to
-/

namespace HtmlMail.Css

open Chars

/-- A property with its value. -/
structure Declaration where
  /-- The name of the property, in lower case. -/
  property : String
  /-- The value without the mark of importance. -/
  value : String
  /-- Whether the declaration is marked as important. -/
  important : Bool
  deriving DecidableEq, Repr

/-- The word that marks a declaration as important. -/
def importantMark : String := "!important"

/-- A value and whether it ends in the mark of importance, which is taken off. The mark may be written
in any case and with blanks around its exclamation mark. -/
def splitImportant (value : List Char) : List Char × Bool :=
  let trimmed := trim value
  match splitLast? ['!'] trimmed with
  | none => (trimmed, false)
  | some (before, after) =>
    if eqIgnoringCase (trim after) "important".toList then (trimEnd before, true)
    else (trimmed, false)

namespace Declaration

/-- The declaration of a property and a value, both without blanks around them, the property in lower
case. -/
def ofParts (property value : String) (important : Bool) : Declaration :=
  ⟨Text.lower (Text.trim property), Text.trim value, important⟩

/-- The declaration a text denotes: what stands before the first colon is the property and what follows
is the value. Neither may be empty. -/
def parse? (text : String) : Option Declaration :=
  match splitAtChar? ':' text.toList with
  | none => none
  | some (property, rest) =>
    let (value, important) := splitImportant rest
    if (trim property).isEmpty || value.isEmpty then none
    else some (ofParts (String.ofList property) (String.ofList value) important)

/-- The shorthand a longhand property belongs to, `padding` for `padding-top`: the part of the name
before the first hyphen. -/
def baseProperty (d : Declaration) : String :=
  String.ofList (d.property.toList.takeWhile (· != '-'))

/-- How a declaration is written. -/
def text (d : Declaration) : String :=
  d.property ++ ":" ++ d.value ++ (if d.important then importantMark else "")

end Declaration

end HtmlMail.Css
