/-!
# Scanners

A scanner reads something from the front of a text and leaves the rest, or fails.

- `Scan` : scanners, as a monad with failure and choice
- `Scan.many` : a scanner again and again
- `Scan.sepEndBy` : a list with separators
- `Scan.whole?` : what a scanner reads from a text, if nothing is left
-/

namespace HtmlMail

/-- Scanners of values of type `α`. A choice between two of them starts at the same place. -/
abbrev Scan (α : Type) := StateT (List Char) Option α

namespace Scan

variable {α β : Type}

/-- The next character, if it has a property. -/
def satisfying (p : Char → Bool) : Scan Char
  | c :: rest => if p c then some (c, rest) else none
  | [] => none

/-- The given character. -/
def char (c : Char) : Scan Char := satisfying (· == c)

/-- The given text. -/
def exactly (text : List Char) : Scan Unit := fun s =>
  (text.isPrefixOf? s).map fun rest => ((), rest)

/-- All characters up to the first one without a property. -/
def takeWhile (p : Char → Bool) : Scan (List Char) := fun s => some (s.takeWhile p, s.dropWhile p)

/-- As many characters as are asked for. -/
def take (n : Nat) : Scan (List Char) := fun s =>
  if n ≤ s.length then some (s.take n, s.drop n) else none

/-- Fails where the scanner succeeds, and reads nothing. -/
def notAt (p : Scan α) : Scan Unit := fun s => if (p s).isSome then none else some ((), s)

/-- Succeeds at the end of the text only. -/
def done : Scan Unit
  | [] => some ((), [])
  | _ :: _ => none

/-- A value that may be missing stops the scanner if it is. -/
def ofOption (a? : Option α) : Scan α := fun s => a?.map fun a => (a, s)

/-- All that a scanner reads one after the other, up to where it fails or reads nothing, and the rest. -/
def manyFrom (p : Scan α) (s : List Char) : List α × List Char :=
  match p s with
  | some (a, rest) =>
    if _h : rest.length < s.length then
      let (more, left) := manyFrom p rest
      (a :: more, left)
    else ([], s)
  | none => ([], s)
termination_by s.length

/-- A scanner again and again, as often as it succeeds. -/
def many (p : Scan α) : Scan (List α) := fun s => some (manyFrom p s)

/-- A list with separators between its items, and perhaps one at its end. -/
def sepEndBy (item : Scan α) (sep : Scan β) : Scan (List α) := do
  match ← optional item with
  | none => return []
  | some first =>
    let others ← many (do let _ ← sep; item)
    let _ ← optional sep
    return first :: others

/-- What a scanner reads from a text, if nothing is left. -/
def whole? (p : Scan α) (s : List Char) : Option α := ((p <* done) s).map (·.1)

end Scan

end HtmlMail
