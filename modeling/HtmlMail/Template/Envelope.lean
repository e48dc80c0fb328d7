import HtmlMail.Text.AsciiCase
import HtmlMail.Text.Blank
import HtmlMail.Text.Search

/-!
# Document envelopes

A mail is sent as a whole document. A body that is one already only gets the extra markup for its head,
and a document type if it has none; any other body is put into a new document.

- `documentStart?` : whether a text begins like a document, and how
- `wrap` : the whole document of a body
-/

namespace HtmlMail.Template

open Chars

/-- The document type of a new document. -/
def envelopeDoctype : String :=
  "<!DOCTYPE html PUBLIC \"-//W3C//DTD HTML 4.01 Transitional//EN\" \"http://www.w3.org/TR/html4/loose.dtd\">"

/-- What a document begins with. -/
inductive DocumentStart where
  | doctype
  | htmlElement
  deriving DecidableEq, Repr

/-- Whether a text continues with a blank or a closing angle bracket. -/
def endsName : List Char → Bool
  | [] => false
  | c :: _ => isBlank c || c == '>'

/-- What a text begins with, up to blanks in front, if it begins like a document. -/
def documentStart? (text : List Char) : Option DocumentStart :=
  let rest := trimStart text
  let startsWith (opening : String) : Bool :=
    (dropPrefixIgnoringCase? opening.toList rest).any endsName
  if startsWith "<!doctype" then some .doctype
  else if startsWith "<html" then some .htmlElement
  else none

/-- The text with `extra` put in front of the first `</head>`; without one it stays as it is. -/
def insertIntoHead (extra text : String) : String :=
  match Text.splitFirst? "</head>" text with
  | none => text
  | some (before, after) => before ++ extra ++ "</head>" ++ after

/-- The whole document of a body, with `head` as extra markup for the head. -/
def wrap (head body : String) : String :=
  match documentStart? body.toList with
  | none =>
    envelopeDoctype ++ "<html><head>" ++ head ++ "</head><body>" ++ body ++ "</body></html>"
  | some .doctype => insertIntoHead head body
  | some .htmlElement => envelopeDoctype ++ insertIntoHead head body

end HtmlMail.Template
