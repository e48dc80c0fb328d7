import HtmlMail.Text.Search
import HtmlMail.Url.Percent

/-!
# Form data in queries

The query of a URL holds pairs of a key and a value, in the form `application/x-www-form-urlencoded`.

- `Form.encode` : how a text is written in a query
- `Form.decode` : the text that was written
- `Form.pairs` : the pairs of a query
-/

namespace HtmlMail.Url.Form

open Chars

/-- The bytes that are written as they are. -/
def isPlain (b : UInt8) : Bool :=
  let c := Char.ofNat b.toNat
  c.isAlphanum || c == '*' || c == '-' || c == '.' || c == '_'

/-- How a byte is written: the blank as a plus sign, others plainly or by number. -/
def encodeByte (b : UInt8) : List Char :=
  if b = 0x20 then ['+'] else if isPlain b then [Char.ofNat b.toNat] else Percent.encodeByte b

/-- How a text is written. -/
def encode (text : String) : String :=
  String.ofList ((Utf8.encode text.toList).flatMap encodeByte)

/-- The text that was written. -/
def decode (s : List Char) : String :=
  let spaced := s.map fun c => if c = '+' then ' ' else c
  String.ofList (Utf8.decode (Percent.decode spaced))

/-- A pair that was written with an equals sign between its parts; without one the value is empty. -/
def decodePair (s : List Char) : String × String :=
  match splitAtChar? '=' s with
  | some (key, value) => (decode key, decode value)
  | none => (decode s, "")

/-- The pairs of a query, which stand between ampersands. -/
def pairs (query : String) : List (String × String) :=
  ((splitOnChar '&' query.toList).filter (!·.isEmpty)).map decodePair

end HtmlMail.Url.Form
