import HtmlMail.Text.AsciiCase
import HtmlMail.Text.Digits
import HtmlMail.Text.Search

/-!
# Numbers

TOML has integers in base ten, sixteen, eight and two, and floating-point numbers. Between two digits an
underscore may stand.

- `integer?` : the integer of a text
- `isFloat` : whether a text is a floating-point number
-/

namespace HtmlMail.Toml

open Chars

/-- The digits of a text, at least one, without the underscores between them. -/
def digits? (base : Nat) (s : List Char) : Option (List Char) :=
  let pieces := splitOnChar '_' s
  if pieces.all fun piece => !piece.isEmpty && piece.all (isDigitOf base) then some pieces.flatten
  else none

/-- A text without the sign in front, and whether that is a minus. -/
def splitSign : List Char → Bool × List Char
  | '-' :: rest => (true, rest)
  | '+' :: rest => (false, rest)
  | s => (false, s)

/-- The digits of a number in base ten, which begins with a zero only if it is zero. -/
def decimalDigits? (s : List Char) : Option (List Char) :=
  (digits? 10 s).filter fun digits => digits.length = 1 || digits.head? != some '0'

/-- The least integer and the first one that is too large. -/
def integerBounds : Int × Int := (-Int.pow 2 127, Int.pow 2 128)

/-- The integer of a text, whatever its size. Only numbers in base ten have a sign. -/
def unboundedInteger? (s : List Char) : Option Int :=
  let inBase (base : Nat) (rest : List Char) : Option Int :=
    ((digits? base rest).bind (numeral? base)).map Int.ofNat
  match s with
  | '0' :: 'x' :: rest => inBase 16 rest
  | '0' :: 'o' :: rest => inBase 8 rest
  | '0' :: 'b' :: rest => inBase 2 rest
  | _ =>
    let (negative, rest) := splitSign s
    ((decimalDigits? rest).bind (numeral? 10)).map fun n => if negative then -(n : Int) else n

/-- The integer of a text. -/
def integer? (s : List Char) : Option Int :=
  (unboundedInteger? s).filter fun n => integerBounds.1 ≤ n && n < integerBounds.2

/-- Numbers from here on are no longer rounded to the greatest floating-point number. -/
def floatBound : Nat := Nat.pow 2 1024 - Nat.pow 2 970

/-- Whether a number, given by its digits and the power of ten behind them, is below `floatBound`. -/
def isFinite (digits : List Char) (exponent : Int) : Bool :=
  let significant := digits.dropWhile (· = '0')
  let size := significant.length + exponent
  if significant.isEmpty || size < 300 then true
  else if 310 < size then false
  else
    let n := (numeral? 10 significant).getD 0
    n * Nat.pow 10 exponent.toNat < floatBound * Nat.pow 10 (-exponent).toNat

/-- The whole part, the fraction and the exponent of a number, each as it is written. -/
def splitFloat (s : List Char) : List Char × Option (List Char) × Option (List Char) :=
  let (mantissa, exponent?) := match splitAtChar? 'e' (lower s) with
    | some (before, after) => (before, some after)
    | none => (s, none)
  match splitAtChar? '.' mantissa with
  | some (whole, fraction) => (whole, some fraction, exponent?)
  | none => (mantissa, none, exponent?)

/-- The exponent of a number. -/
def exponent? (s : List Char) : Option Int :=
  let (negative, rest) := splitSign s
  ((digits? 10 rest).bind (numeral? 10)).map fun n => if negative then -(n : Int) else n

/-- Whether a text is a floating-point number: one with a fraction or an exponent that is not too large,
or one of the words for infinity and for no number. -/
def isFloat (s : List Char) : Bool :=
  let (_, rest) := splitSign s
  if rest = ['i', 'n', 'f'] || rest = ['n', 'a', 'n'] then true
  else
    let (whole, fraction?, power?) := splitFloat rest
    match decimalDigits? whole, fraction?, power? with
    | some _, none, none => false
    | some digits, none, some power => (exponent? power).any (isFinite digits)
    | some digits, some fraction, none => (digits? 10 fraction).any fun f => isFinite (digits ++ f) (-f.length)
    | some digits, some fraction, some power =>
      (digits? 10 fraction).any fun f =>
        (exponent? power).any fun e => isFinite (digits ++ f) (e - f.length)
    | none, _, _ => false

end HtmlMail.Toml
