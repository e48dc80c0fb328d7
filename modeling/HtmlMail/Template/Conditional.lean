import HtmlMail.Template.Tag

/-!
# Conditional blocks

A flag decides what a template shows. Four marks belong to a flag `name`:

- `[#name#]` … `[#/name#]` encloses what is shown while the flag is set,
- `[#!name#]` … `[#/!name#]` encloses what is shown while it is not set.

A single `[#else#]` inside a block separates what is shown from what is shown otherwise. A block runs
from an opening mark to the first closing mark after it, so a block inside another one of the same name
is not recognised at once, which is why a flag is evaluated again until nothing changes.

- `resolveBlocks` : the blocks of one flag and one sense, resolved from the left
- `evaluate` : both senses of a flag
- `render` : the flags among the tags, then the tokens
-/

namespace HtmlMail.Template

open Chars

/-- The mark that opens a block. -/
def openingMark (name : List Char) (negated : Bool) : List Char :=
  ['[', '#'] ++ (if negated then ['!'] else []) ++ name ++ ['#', ']']

/-- The mark that closes a block. -/
def closingMark (name : List Char) (negated : Bool) : List Char :=
  ['[', '#', '/'] ++ (if negated then ['!'] else []) ++ name ++ ['#', ']']

/-- The mark between the two branches of a block. -/
def elseMark : List Char := "[#else#]".toList

/-- What a block with the content `inner` shows. Only content with exactly one `[#else#]` has a second
branch. -/
def chosenBranch (inner : List Char) (shown : Bool) : List Char :=
  match splitOn elseMark inner, shown with
  | [whenShown, _], true => whenShown
  | [_, otherwise], false => otherwise
  | _, true => inner
  | _, false => []

theorem openingMark_ne_nil (name : List Char) (negated : Bool) : openingMark name negated ≠ [] := by
  simp [openingMark]

theorem closingMark_ne_nil (name : List Char) (negated : Bool) : closingMark name negated ≠ [] := by
  simp [closingMark]

/-- The text with each block of one sense replaced by what it shows. An opening mark without a closing
one after it stays, and so does all that follows it.

The marks are sought as they are written, in a name of any length. A search by a pattern of both marks that refuses
patterns beyond a certain size would leave the text as it is at a name too long for it. That case is left out. -/
def resolveBlocks (name : List Char) (negated shown : Bool) (text : List Char) : List Char :=
  match _hopen : splitFirst? (openingMark name negated) text with
  | none => text
  | some (before, opened) =>
    match _hclose : splitFirst? (closingMark name negated) opened with
    | none => text
    | some (inner, after) =>
      before ++ chosenBranch inner shown ++ resolveBlocks name negated shown after
termination_by text.length
decreasing_by
  exact Nat.lt_trans (length_after_lt (closingMark_ne_nil name negated) _hclose)
    (length_after_lt (openingMark_ne_nil name negated) _hopen)

/-- The text with the blocks of a flag resolved, first those for the set flag, then the negated ones. -/
def evaluate (name : String) (state : Bool) (text : String) : String :=
  let name := name.toList
  -- What the set flag shows may hold negated blocks, which are then resolved too.
  String.ofList (resolveBlocks name true (!state) (resolveBlocks name false state text.toList))

/-- How often a flag is evaluated at most. -/
def maxPasses : Nat := 32

/-- Evaluates a flag until nothing changes, `passes` times at most. -/
def evaluateUpTo (name : String) (state : Bool) : Nat → String → String
  | 0, text => text
  | passes + 1, text =>
    let next := evaluate name state text
    if next = text then text else evaluateUpTo name state passes next

/-- The text with the blocks of a tag resolved, if the tag is a flag. -/
def Tag.resolveIn (tag : Tag) (text : String) : String :=
  match tag.flagState? with
  | none => text
  | some state => evaluateUpTo tag.name state maxPasses text

/-- A template with its conditional blocks resolved, flag by flag, and its tokens replaced. -/
def render (tags : List Tag) (template : String) : String :=
  substitute tags (tags.foldl (fun text tag => tag.resolveIn text) template)

end HtmlMail.Template
