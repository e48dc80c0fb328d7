import HtmlMail.Html.Token
import HtmlMail.Text.AsciiCase

/-!
# Declarations of an encoding

A document can say in which encoding it is written: by an attribute `charset`, or by an attribute
`content` that stands for a field of a mail with a parameter `charset`.

- `namesCharset` : whether a text has such a parameter
- `Tag.declaresEncoding` : whether a tag says what the encoding is
-/

namespace HtmlMail.Html

open Chars

/-- What follows the parameter's name and its equals sign, if the parameter stands here. -/
def charsetValue? (s : List Char) : Option (List Char) :=
  (dropPrefixIgnoringCase? "charset".toList s).bind fun rest =>
    match rest.dropWhile isMarkupBlank with
    | '=' :: value => some (value.dropWhile isMarkupBlank)
    | _ => none

/-- Whether the value of a parameter begins here. A quote has to be closed. -/
def isCharsetValue : List Char → Bool
  | [] => false
  | c :: rest => if c = '"' ∨ c = '\'' then rest.contains c else true

/-- Whether a text has a parameter that names an encoding. The first one decides. -/
def namesCharset : List Char → Bool
  | [] => false
  | c :: rest =>
    match charsetValue? (c :: rest) with
    | some value => isCharsetValue value
    | none => namesCharset rest

/-- Whether a tag says what the encoding is. -/
def Tag.declaresEncoding (tag : Tag) : Bool :=
  (tag.attribute? "charset").isSome ||
    ((tag.attribute? "http-equiv").any (Text.eqIgnoringCase · "content-type") &&
      (tag.attribute? "content").any (namesCharset ·.toList))

end HtmlMail.Html
