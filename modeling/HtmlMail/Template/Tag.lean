import HtmlMail.Text.AsciiCase
import HtmlMail.Text.Search

/-!
# Tags

A tag stands for a value. In a template the tag `name` is written as the token `[#name#]`, and
`substitute` puts the values in place of the tokens, one tag after the other.

- `Tag.ofNameValue` : the tag of a name and a value; its name is never empty
- `Tag.token` : how a template spells the tag
- `Tag.flagState?` : the truth value of a tag that is a flag
- `substitute` : the values in place of the tokens
-/

namespace HtmlMail.Template

/-- How a token begins. -/
def tokenStart : String := "[#"

/-- How a token ends. -/
def tokenEnd : String := "#]"

/-- Why there is no tag. -/
inductive TagError where
  /-- Nothing is left of the name once the marks of a token are taken off. -/
  | emptyName
  deriving DecidableEq, Repr

/-- The wording of the error. -/
def TagError.message : TagError → String
  | .emptyName => "Tag name is empty"

/-- A named value for use in templates. -/
structure Tag where
  /-- The name as it stands between the marks of a token. -/
  name : String
  /-- What is written in place of the token. -/
  value : String
  /-- A tag can be told apart from the bare marks. -/
  name_ne_empty : name ≠ ""
  deriving DecidableEq, Repr

/-- A name without the marks of a token, each of which may stand there once. -/
def bareName (name : String) : String :=
  let opened := (tokenStart.toList.isPrefixOf? name.toList).getD name.toList
  String.ofList ((tokenEnd.toList.isSuffixOf? opened).getD opened)

namespace Tag

/-- The tag of a name, which may also be given in the form of its token, and a value. -/
def ofNameValue (name value : String) : Except TagError Tag :=
  if h : bareName name = "" then .error .emptyName else .ok ⟨bareName name, value, h⟩

/-- The tag of a name and a truth value. -/
def ofFlag (name : String) (state : Bool) : Except TagError Tag :=
  ofNameValue name (if state then "true" else "false")

/-- How a template spells the tag. -/
def token (tag : Tag) : String := tokenStart ++ tag.name ++ tokenEnd

/-- The truth value of a tag whose value is `true` or `false` in any case. -/
def flagState? (tag : Tag) : Option Bool :=
  if Text.eqIgnoringCase tag.value "true" then some true
  else if Text.eqIgnoringCase tag.value "false" then some false
  else none

end Tag

/-- The text with every token of the tag replaced by the tag's value. -/
def Tag.substituteIn (tag : Tag) (text : String) : String :=
  Text.replaceAll tag.token tag.value text

/-- The text with the tokens of all tags replaced, tag by tag: a value may hold tokens of the tags that
follow. -/
def substitute (tags : List Tag) (text : String) : String :=
  tags.foldl (fun text tag => tag.substituteIn text) text

end HtmlMail.Template
