import HtmlMail.Html.Construction.Insertion

/-!
# Formatting elements

Elements such as `b` and `a` shape the text behind them until their end tag, whatever elements begin and
end in between. Where such an element has been closed too early, it is opened anew; where its end tag
comes too late, the elements are taken apart and put together again.

- `reconstruct` : formatting elements that were closed too early are opened again
- `insertFormatting` : a new formatting element
- `adopt` : the end tag of a formatting element
-/

namespace HtmlMail.Html.Construction

open Dom

namespace State

/-- The place of the entry for a node in the list of formatting elements. -/
def formattingIndex? (s : State) (node : Nat) : Option Nat :=
  s.formatting.findIdx? fun
    | .element n _ => n == node
    | .marker => false

/-- The formatting elements behind the last marker, the latest first. -/
def formattingToMarker (s : State) : List (Nat × Tag) :=
  (s.formatting.takeWhile (· != .marker)).filterMap fun
    | .element node tag => some (node, tag)
    | .marker => none

/-- Whether an entry needs no new element: it is a marker, or its element is open. -/
def isSettled (s : State) : FormattingEntry → Bool
  | .marker => true
  | .element node _ => s.stack.contains node

/-- The state without the entry for a node. -/
def withoutFormatting (s : State) (node : Nat) : State :=
  match s.formattingIndex? node with
  | some i => { s with formatting := s.formatting.eraseIdx i }
  | none => s

/-- The state with another entry in place of the one for a node. -/
def replaceFormatting (s : State) (node : Nat) (entry : FormattingEntry) : State :=
  match s.formattingIndex? node with
  | some i => { s with formatting := s.formatting.set i entry }
  | none => s

end State

/-- Puts a marker behind the formatting elements. -/
def insertMarker : Build Unit := modify fun s => { s with formatting := .marker :: s.formatting }

/-- Drops the formatting elements behind the last marker, and the marker. -/
def clearToMarker : Build Unit := modify fun s =>
  { s with formatting := (s.formatting.dropWhile (· != .marker)).tail }

/-- Opens elements again for entries of the list of formatting elements, the earliest first. -/
def reopen : List FormattingEntry → Build Unit
  | [] => pure ()
  | .marker :: rest => reopen rest
  | .element node tag :: rest => do
    let new ← insertElementIn .html tag true
    modify fun s => s.replaceFormatting node (.element new tag)
    reopen rest

/-- Opens the latest formatting elements again if they are no longer open. -/
def reconstruct : Build Unit := do
  let s ← get
  reopen (s.formatting.takeWhile (!s.isSettled ·)).reverse

/-- Whether two lists of attributes differ in their order at most; names occur once in each. -/
def sameAttributes (as bs : List Attribute) : Bool :=
  as.length == bs.length && as.all bs.contains

/-- How often the same formatting element can stand in the list without a marker. -/
def maxRepeated : Nat := 3

/-- A new formatting element. Of too many that are the same, the earliest is forgotten. -/
def insertFormatting (tag : Tag) : Build Unit := do
  let repeated := (← get).formattingToMarker.filter fun (_, old) =>
    old.name == tag.name && sameAttributes old.attributes tag.attributes
  if maxRepeated ≤ repeated.length then
    if let some (earliest, _) := repeated.getLast? then modify (·.withoutFormatting earliest)
  let node ← insertElementIn .html tag true
  modify fun s => { s with formatting := .element node tag :: s.formatting }

/-- An end tag without rules of its own: the innermost element of the name is closed, unless a special
element stands in between. -/
def closeGeneric (name : String) : Build Unit := do
  let s ← get
  let inside := s.stack.takeWhile fun node => !s.isHtml node [name] && !(s.nameOf node).isSpecial
  match s.stack.drop inside.length with
  | [] => pure ()
  | node :: rest =>
    if s.isHtml node [name] then modify fun s => { s with stack := rest }

/-- The place in the list of formatting elements for the element that replaces a removed one. -/
inductive Bookmark where
  /-- In place of the entry itself. -/
  | inPlace
  /-- Right behind the entry for a node. -/
  | behind (node : Nat)
  deriving DecidableEq, Repr

/-- How many elements between the formatting element and the furthest block keep their formatting. -/
def maxRenewed : Nat := 3

/-- Goes up from a block through the elements between it and a formatting element. Each is renewed as long
as it is a formatting element and among the first ones, and takes up what was built so far; the others
are closed. The result is what was built last, with the bookmark. -/
def renewBetween (block : Nat) : List Nat → (count last : Nat) → Bookmark → Build (Nat × Bookmark)
  | [], _, last, bookmark => pure (last, bookmark)
  | node :: rest, count, last, bookmark => do
    let s ← get
    if maxRenewed < count then
      -- Too far out: the element loses its formatting and is closed.
      modify (·.withoutFormatting node)
      removeFromStack node
      renewBetween block rest (count + 1) last bookmark
    else
      match (s.formattingIndex? node).bind (s.formatting[·]?) with
      | some (.element _ tag) =>
        let new ← createElement .html tag.name tag.attributes
        modify fun s => { s.replaceFormatting node (.element new tag) with
          stack := s.stack.map fun n => if n = node then new else n }
        -- The first element that is renewed marks the place for the formatting element.
        let bookmark := if last = block then .behind new else bookmark
        modify fun s => { s with forest := s.forest.append new last }
        renewBetween block rest (count + 1) new bookmark
      | _ =>
        -- No formatting element: it is closed, and what was built so far goes further out.
        removeFromStack node
        renewBetween block rest (count + 1) last bookmark

/-- Puts the element that replaces a formatting element at the bookmark of the list. -/
def State.placeFormatting (s : State) (old : Nat) (entry : FormattingEntry) : Bookmark → State
  | .inPlace => s.replaceFormatting old entry
  | .behind node =>
    match s.formattingIndex? node with
    | some i => State.withoutFormatting { s with formatting := s.formatting.insertIdx i entry } old
    | none => s

/-- The list with `new` right in front of the first `mark`. -/
def insertAbove (mark new : Nat) (stack : List Nat) : List Nat :=
  stack.takeWhile (· != mark) ++ new :: stack.dropWhile (· != mark)

/-- One round of an end tag for a formatting element. `true` says that another one may follow. -/
def adoptOnce (name : String) : Build Bool := do
  let s ← get
  match s.formattingToMarker.find? (·.2.name == name) with
  | none =>
    closeGeneric name
    return false
  | some (node, tag) =>
    if !s.stack.contains node then
      -- The element is closed already; only its entry is left.
      modify (·.withoutFormatting node)
      return false
    else if !s.isOpenWithin ElementName.bounds (· == node) then return false
    else
      let inside := s.stack.takeWhile (· != node)
      match inside.reverse.find? fun n => (s.nameOf n).isSpecial with
      | none =>
        -- Nothing but text and other formatting inside: the element is closed with all that is in it.
        modify fun s => { s.withoutFormatting node with stack := s.stack.drop (inside.length + 1) }
        return false
      | some block =>
        let ancestor := (s.stack[inside.length + 1]?).getD s.htmlNode
        let between := (inside.dropWhile (· != block)).tail
        let (last, bookmark) ← renewBetween block between 1 block .inPlace
        -- The block leaves the formatting element and stands behind it,
        modify fun s => { s with forest := s.forest.detach last }
        modify fun s => s.putAt (s.placeIn ancestor) last
        -- and what was in the block is formatted by an element of its own.
        let new ← createElement .html tag.name tag.attributes
        modify fun s => { s with forest := (s.forest.moveChildren block new).append block new }
        modify (·.placeFormatting node (.element new tag) bookmark)
        removeFromStack node
        modify fun s => { s with stack := insertAbove block new s.stack }
        return true

/-- Up to `rounds` rounds of an end tag for a formatting element. -/
def adoptUpTo (name : String) : Nat → Build Unit
  | 0 => pure ()
  | rounds + 1 => do
    if ← adoptOnce name then adoptUpTo name rounds

/-- The end tag of a formatting element. -/
def adopt (name : String) : Build Unit := do
  let s ← get
  match s.stack with
  | node :: _ =>
    if s.isHtml node [name] && (s.formattingIndex? node).isNone then pop else adoptUpTo name 8
  | [] => pure ()

end HtmlMail.Html.Construction
