import HtmlMail.Text.Search

/-!
# Punycode

A label with characters beyond ASCII can be written in ASCII: the ASCII characters first, then a hyphen,
then the others as a run of numbers in base thirty-six that say what is inserted where.

- `Punycode.decode?` : the label that was written
-/

namespace HtmlMail.Url.Punycode

open Chars

/-- The base of the digits. -/
def base : Nat := 36

/-- The value of a digit: letters, then decimal digits. -/
def digit? (c : Char) : Option Nat :=
  let n := c.toLower.toNat
  if 97 ≤ n ∧ n ≤ 122 then some (n - 97)
  else if 48 ≤ n ∧ n ≤ 57 then some (n - 22)
  else none

/-- How far the thresholds move for the next number, by the size of the last one. -/
def adaptFrom (steps delta : Nat) : Nat :=
  if _h : 455 < delta then adaptFrom (steps + base) (delta / 35) else steps + base * delta / (delta + 38)
termination_by delta
decreasing_by omega

/-- The bias of the thresholds behind a number, with the length of the text so far. -/
def adapt (delta length : Nat) (isFirst : Bool) : Nat :=
  let halved := if isFirst then delta / 700 else delta / 2
  adaptFrom 0 (halved + halved / length)

/-- The threshold of a digit at a distance from the start of its number, from 1 to 26. -/
def threshold (distance bias : Nat) : Nat :=
  if distance ≤ bias then 1 else if bias + 26 ≤ distance then 26 else distance - bias

/-- What is known inside the run of numbers. -/
structure Progress where
  /-- The text so far. -/
  text : List Char
  /-- The code point that is inserted next. -/
  code : Nat
  /-- Where the last character was inserted, and one more. -/
  start : Nat
  /-- The position so far, counted through all code points. -/
  position : Nat
  /-- The weight of the next digit; one at the start of a number. -/
  weight : Nat
  /-- The distance of the next digit from the start of its number. -/
  distance : Nat
  bias : Nat

/-- Greater numbers are refused. -/
def limit : Nat := Nat.pow 2 32

/-- The text with a character inserted, where a number ends. -/
def Progress.insert? (p : Progress) (position : Nat) : Option Progress :=
  let length := p.text.length + 1
  -- Positions go round through the text; each round stands for one code point.
  let code := p.code + position / length
  let place := position % length
  if code < 0x110000 ∧ ¬(0xD800 ≤ code ∧ code ≤ 0xDFFF) then
    some ⟨p.text.take place ++ Char.ofNat code :: p.text.drop place, code, place + 1, place + 1, 1, base,
      adapt (position - p.start) length (p.start == 0)⟩
  else none

/-- Reads on in the run of numbers. -/
def decodeFrom? (p : Progress) : List Char → Option (List Char)
  | [] => if p.weight = 1 then some p.text else none
  | c :: rest =>
    (digit? c).bind fun d =>
      let position := p.position + d * p.weight
      let t := threshold p.distance p.bias
      if limit ≤ position then none
      else if d < t then (p.insert? position).bind fun p => decodeFrom? p rest
      else
        decodeFrom? { p with
          position := position, weight := p.weight * (base - t), distance := p.distance + base } rest

/-- The label that was written. -/
def decode? (s : List Char) : Option (List Char) :=
  let (plain, numbers) := match splitLast? ['-'] s with
    | some (before, after) => if before.isEmpty then ([], s) else (before, after)
    | none => ([], s)
  if plain.all (·.toNat < 0x80) then decodeFrom? ⟨plain, 0x80, 0, 0, 1, base, 72⟩ numbers else none

end HtmlMail.Url.Punycode
