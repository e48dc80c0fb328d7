/-!
# Escaping

Characters that would end a text or an attribute value are written as references.

- `escapeText` : text between tags
- `escapeAttribute` : a value between double quotes
-/

namespace HtmlMail.Html

/-- A character of a text. -/
def escapeTextChar : Char → List Char
  | '&' => "&amp;".toList
  | '<' => "&lt;".toList
  | '>' => "&gt;".toList
  | '\u00A0' => "&nbsp;".toList
  | c => [c]

/-- A character of an attribute value: the double quote is escaped too. -/
def escapeAttributeChar (c : Char) : List Char :=
  if c = '"' then "&quot;".toList else escapeTextChar c

/-- A text between tags. -/
def escapeText (s : List Char) : List Char := s.flatMap escapeTextChar

/-- An attribute value between double quotes. -/
def escapeAttribute (s : List Char) : List Char := s.flatMap escapeAttributeChar

@[simp] theorem escapeAttribute_append (s t : List Char) :
    escapeAttribute (s ++ t) = escapeAttribute s ++ escapeAttribute t := List.flatMap_append

end HtmlMail.Html
