/-!
# Numerals

Reading and writing natural numbers in base ten and sixteen.

- `Chars.digitValue?` : the value of one digit of a base up to sixteen
- `Chars.numeral?` : the value of a text that holds digits only
- `Chars.hexNumeral` : a number in base sixteen, small letters, no leading zeros
- `Chars.unsigned64?` : a decimal number below `2 ^ 64`, with an optional plus sign
-/

namespace HtmlMail.Chars

/-- The value of a character as a digit of base sixteen. -/
def hexValue? (c : Char) : Option Nat :=
  let n := c.toNat
  if 48 ≤ n ∧ n ≤ 57 then some (n - 48)
  else if 97 ≤ n ∧ n ≤ 102 then some (n - 87)
  else if 65 ≤ n ∧ n ≤ 70 then some (n - 55)
  else none

/-- The value of a character as a digit of `base`, a base up to sixteen. -/
def digitValue? (base : Nat) (c : Char) : Option Nat := (hexValue? c).filter (· < base)

/-- Whether a character is a digit of `base`. -/
def isDigitOf (base : Nat) (c : Char) : Bool := (digitValue? base c).isSome

/-- Reads on in a numeral whose digits so far have the value `acc`. -/
def numeralFrom? (base acc : Nat) : List Char → Option Nat
  | [] => some acc
  | c :: rest => (digitValue? base c).bind fun d => numeralFrom? base (acc * base + d) rest

/-- The value of a text made of digits of `base` only, at least one. -/
def numeral? (base : Nat) (s : List Char) : Option Nat :=
  if s.isEmpty then none else numeralFrom? base 0 s

/-- A number in base sixteen with small letters and no leading zeros. -/
def hexNumeral (n : Nat) : List Char := Nat.toDigits 16 n

/-- A decimal number below `2 ^ 64`; one plus sign may stand in front. -/
def unsigned64? (s : List Char) : Option Nat :=
  let digits := match s with
    | '+' :: rest => rest
    | _ => s
  (numeral? 10 digits).filter (· < Nat.pow 2 64)

end HtmlMail.Chars
