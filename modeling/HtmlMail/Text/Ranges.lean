import HtmlMail.Text.Digits
import HtmlMail.Text.Search

/-!
# Ranges of characters

Properties of characters are given as tables of code points in base sixteen: single ones, or a first and
a last one joined by a hyphen, with blanks between the entries. Where each character of a range has a value,
a colon and the code points of the first value follow, joined by plus signs.

- `readRanges` : the ranges of a table
- `isInRanges` : whether a character lies in one of them
- `Row` : a range with values
- `Row.codes?` : the value of a character
-/

namespace HtmlMail.Chars

/-- Reads a range: a code point, or a first and a last one. -/
def readRange? (entry : List Char) : Option (Nat × Nat) :=
  match splitOnChar '-' entry with
  | [code] => (numeral? 16 code).map fun n => (n, n)
  | [first, last] => (numeral? 16 first).bind fun n => (numeral? 16 last).map fun m => (n, m)
  | _ => none

/-- Reads the lines of a table. -/
def readRanges (table : List String) : List (Nat × Nat) :=
  table.flatMap fun line => (splitOnChar ' ' line.toList).filterMap readRange?

/-- Whether a character lies in one of the ranges. -/
def isInRanges (ranges : List (Nat × Nat)) (c : Char) : Bool :=
  ranges.any fun (first, last) => first ≤ c.toNat && c.toNat ≤ last

/-- A range of characters with values. A value is a list of code points, and the last of them is as much
greater than that of the first value as the character is than the first one. -/
structure Row where
  first : Nat
  last : Nat
  /-- The value of the first character. -/
  codes : List Nat
  deriving DecidableEq, Repr

/-- The code points with the last one increased. -/
def increaseLast (n : Nat) : List Nat → List Nat
  | [] => []
  | [code] => [code + n]
  | code :: rest => code :: increaseLast n rest

/-- The value of a character in a row. -/
def Row.codes? (row : Row) (c : Char) : Option (List Nat) :=
  if row.first ≤ c.toNat ∧ c.toNat ≤ row.last then some (increaseLast (c.toNat - row.first) row.codes)
  else none

/-- Reads a range with values. -/
def readRow? (entry : List Char) : Option Row :=
  match splitOnChar ':' entry with
  | [range, codes] =>
    (readRange? range).map fun (first, last) =>
      ⟨first, last, (splitOnChar '+' codes).filterMap (numeral? 16)⟩
  | _ => none

/-- Reads the lines of a table with values. -/
def readRows (table : List String) : List Row :=
  table.flatMap fun line => (splitOnChar ' ' line.toList).filterMap readRow?

/-- The value of a character in one of the rows. -/
def codesIn? (rows : List Row) (c : Char) : Option (List Nat) := rows.findSome? (·.codes? c)

/-- The text of a character in one of the rows. -/
def textIn? (rows : List Row) (c : Char) : Option (List Char) :=
  (codesIn? rows c).map (·.map Char.ofNat)

end HtmlMail.Chars
