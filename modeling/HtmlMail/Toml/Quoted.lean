import HtmlMail.Text.Digits
import HtmlMail.Text.Scan

/-!
# Quoted texts

TOML has texts in double quotes, with escapes, and in single quotes, without. Three quotes instead of one
allow line ends.

- `quotedKey` : the texts that can be keys
- `quoted` : all four kinds
-/

namespace HtmlMail.Toml

open Chars

/-- Whether a character can stand for itself: no control but the tab. -/
def isPlain (c : Char) : Bool := c == '\t' || (0x20 ≤ c.toNat && c.toNat != 0x7F)

/-- Whether a character is white space within a line. -/
def isSpace (c : Char) : Bool := c == ' ' || c == '\t'

/-- White space within a line. -/
def spaces : Scan Unit := do let _ ← Scan.takeWhile isSpace

/-- A line end. -/
def newline : Scan Unit := Scan.exactly ['\n'] <|> Scan.exactly ['\r', '\n']

/-- A character given by its number. -/
def numbered (digits : Nat) : Scan Char := do
  let code ← Scan.ofOption (numeral? 16 (← Scan.take digits))
  if code.isValidChar then return Char.ofNat code else failure

/-- An escape. -/
def escape : Scan Char := do
  let _ ← Scan.char '\\'
  match ← Scan.satisfying fun _ => true with
  | 'b' => return '\x08'
  | 't' => return '\t'
  | 'n' => return '\n'
  | 'f' => return '\x0C'
  | 'r' => return '\r'
  | 'e' => return '\x1B'
  | '"' => return '"'
  | '\\' => return '\\'
  | 'x' => numbered 2
  | 'u' => numbered 4
  | 'U' => numbered 8
  | _ => failure

/-- A text in double quotes. -/
def basicText : Scan String := do
  let _ ← Scan.char '"'
  let body ← Scan.many
    (escape <|> Scan.satisfying fun c => isPlain c && c != '"' && c != '\\')
  let _ ← Scan.char '"'
  return String.ofList body

/-- A text in single quotes. -/
def literalText : Scan String := do
  let _ ← Scan.char '\''
  let body ← Scan.takeWhile fun c => isPlain c && c != '\''
  let _ ← Scan.char '\''
  return String.ofList body

/-- A backslash at the end of a line joins it to the next character that is not white space. -/
def lineJoint : Scan (List Char) := do
  let _ ← Scan.char '\\'
  spaces
  newline
  let _ ← Scan.many (newline <|> do let _ ← Scan.satisfying isSpace)
  return []

/-- A line end as part of a text, which keeps it as it is. -/
def lineEnd : Scan (List Char) :=
  (do return [← Scan.char '\n']) <|> (do return [← Scan.char '\r', ← Scan.char '\n'])

/-- A text between three marks. A line end right behind the first three is not part of it; up to two marks
are, anywhere, also in front of the last three. -/
def longText (mark : Char) (piece : Scan (List Char)) : Scan String := do
  let marks := [mark, mark, mark]
  Scan.exactly marks
  let _ ← optional newline
  let body ← Scan.many (do Scan.notAt (Scan.exactly marks); piece <|> lineEnd)
  Scan.exactly marks
  let fourth ← optional (Scan.char mark)
  let fifth ← optional (Scan.char mark)
  return String.ofList (body.flatten ++ fourth.toList ++ fifth.toList)

/-- A text between three double quotes. -/
def longBasicText : Scan String :=
  longText '"'
    ((do return [← escape]) <|> lineJoint <|>
      (do return [← Scan.satisfying fun c => isPlain c && c != '\\']))

/-- A text between three single quotes. -/
def longLiteralText : Scan String := longText '\'' (do return [← Scan.satisfying isPlain])

/-- A text that can be a key. -/
def quotedKey : Scan String := basicText <|> literalText

/-- A text of any kind. -/
def quoted : Scan String := longBasicText <|> longLiteralText <|> quotedKey

end HtmlMail.Toml
