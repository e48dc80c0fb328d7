import HtmlMail.Template.Conditional

/-!
# Subject lines

A subject is a single line: a line end of two characters disappears, any other line break becomes a
blank, and so does the entity `&nbsp;`; runs of blanks become one.

- `sanitizeSubject` : a text as a subject line
- `renderSubject` : the subject line of a template
-/

namespace HtmlMail.Template

open Chars

/-- The text on one line: a carriage return with a line feed goes, another line break is a blank. -/
def flattenLines : List Char → List Char
  | [] => []
  | '\r' :: '\n' :: rest => flattenLines rest
  | c :: rest => (if c = '\r' ∨ c = '\n' ∨ c = '\x0c' then ' ' else c) :: flattenLines rest

/-- The text with one blank for each run of blanks. -/
def squeezeBlanks : List Char → List Char
  | [] => []
  | [c] => [c]
  | c :: d :: rest =>
    if c = ' ' ∧ d = ' ' then squeezeBlanks (d :: rest) else c :: squeezeBlanks (d :: rest)

/-- A text as a subject line. -/
def sanitizeSubject (subject : String) : String :=
  String.ofList (squeezeBlanks (replaceAll "&nbsp;".toList [' '] (flattenLines subject.toList)))

/-- The subject line of a template. -/
def renderSubject (tags : List Tag) (template : String) : String :=
  sanitizeSubject (render tags template)

end HtmlMail.Template
