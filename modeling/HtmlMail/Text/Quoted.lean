import HtmlMail.Text.Printable

/-!
# Quoted texts in messages

A message that names a text shows it in double quotes, one that names a single character shows it in
single quotes. The quote itself, the backslash and the usual controls are written with a backslash, and
any other character without a shape of its own is written by its number.

- `Text.quote` : a text in double quotes
- `Text.quoteChar` : a character in single quotes
-/

namespace HtmlMail.Chars

/-- One character inside quotes of the kind `mark`. -/
def escapeChar (mark c : Char) : List Char :=
  if c = mark then ['\\', c]
  else match c with
    | '\\' => ['\\', '\\']
    | '\n' => ['\\', 'n']
    | '\r' => ['\\', 'r']
    | '\t' => ['\\', 't']
    | '\x00' => ['\\', '0']
    | c => if isPrintable c then [c]
      else ['\\', 'u', '\x7b'] ++ hexNumeral c.toNat ++ ['\x7d']

end HtmlMail.Chars

namespace HtmlMail.Text

/-- A text in double quotes. -/
def quote (s : String) : String :=
  String.ofList (['"'] ++ s.toList.flatMap (Chars.escapeChar '"') ++ ['"'])

/-- A character in single quotes. -/
def quoteChar (c : Char) : String :=
  String.ofList (['\''] ++ Chars.escapeChar '\'' c ++ ['\''])

end HtmlMail.Text
