import HtmlMail.Html.Construction.State

/-!
# Where new nodes go

A new node usually becomes the last child of the innermost open element. In a table, text and elements
that cannot stand there are put in front of it, and the content of a template is kept apart.

- `State.place` : where a node goes
- `insertElement`, `insertText`, `insertComment` : new nodes at their place
- `popUntil`, `popImplied` : open elements are closed
-/

namespace HtmlMail.Html.Construction

open Dom

/-- Where a node goes. -/
inductive Place where
  | lastChildOf (parent : Nat)
  | before (sibling : Nat)
  deriving DecidableEq, Repr

namespace State

/-- Where the children of a node go. -/
def childrenPlace (s : State) (node : Nat) : Place :=
  match s.forest.content? node with
  | some (.element .html "template" _ (some content)) => .lastChildOf content
  | _ => .lastChildOf node

/-- Where what cannot stand in a table goes, looked for among open elements: in front of the innermost
table, if that has its place, or else at the end of the element around it. A template inside of the table
takes it up. -/
def fosterPlace (s : State) : List Nat → Place
  | [] => .lastChildOf s.htmlNode
  | node :: rest =>
    if s.isHtml node ["template"] then s.childrenPlace node
    else if s.isHtml node ["table"] then
      -- A table that was taken out of the document has no place to stand in front of.
      if (s.forest.parent? node).isSome then .before node
      else .lastChildOf (rest.head?.getD s.htmlNode)
    else s.fosterPlace rest

/-- Where a node goes whose parent should be `target`. -/
def placeIn (s : State) (target : Nat) : Place :=
  if s.fosters && s.isHtml target ElementName.tableNames then s.fosterPlace s.stack
  else s.childrenPlace target

/-- Where a node goes. -/
def place (s : State) : Place := s.placeIn (s.stack.head?.getD Forest.document)

/-- The state with a node put at a place. -/
def putAt (s : State) (place : Place) (node : Nat) : State :=
  match place with
  | .lastChildOf parent => { s with forest := s.forest.append parent node }
  | .before sibling => { s with forest := s.forest.insertBefore sibling node }

/-- The state with text at its place. -/
def withText (s : State) (text : String) : State :=
  match s.place with
  | .lastChildOf parent => { s with forest := s.forest.appendText parent text }
  | .before sibling => { s with forest := s.forest.insertTextBefore sibling text }

end State

/-- A new node without a place. -/
def createNode (content : Content) : Build Nat := modifyGet fun s =>
  let (node, forest) := s.forest.create content
  (node, { s with forest := forest })

/-- A new element without a place. -/
def createElement (ns : Namespace) (name : String) (attributes : List Attribute) : Build Nat := do
  let content? ← if ns = .html ∧ name = "template" then some <$> createNode .container else pure none
  createNode (.element ns name attributes content?)

/-- Makes a node the innermost open element. -/
def push (node : Nat) : Build Unit := modify fun s => { s with stack := node :: s.stack }

/-- Closes the innermost open element. -/
def pop : Build Unit := modify fun s => { s with stack := s.stack.tail }

/-- A new element at its place, which is open from then on if `stays`. -/
def insertElementIn (ns : Namespace) (tag : Tag) (stays : Bool) : Build Nat := do
  let node ← createElement ns tag.name tag.attributes
  modify fun s => s.putAt s.place node
  if stays then push node
  return node

/-- A new element of hypertext at its place, open from then on. -/
def insertElement (tag : Tag) : Build Unit := do
  let _ ← insertElementIn .html tag true

/-- A new element of hypertext at its place that is closed at once. -/
def insertVoid (tag : Tag) : Build Unit := do
  let _ ← insertElementIn .html tag false

/-- An element that the markup implies, open from then on. -/
def insertImplied (name : String) : Build Unit := insertElement (.start name)

/-- Text at its place. -/
def insertText (text : String) : Build Unit := modify (·.withText text)

/-- A comment at its place. -/
def insertComment (text : String) : Build Unit := do
  let node ← createNode (.comment text)
  modify fun s => s.putAt s.place node

/-- A comment at the end of a node. -/
def insertCommentIn (parent : Nat) (text : String) : Build Unit := do
  let node ← createNode (.comment text)
  modify fun s => { s with forest := s.forest.append parent node }

/-- Closes open elements up to one for which `wanted` holds, and that one as well. -/
def popUntil (wanted : ElementName → Bool) : Build Unit := modify fun s =>
  { s with stack := (s.stack.dropWhile fun node => !wanted (s.nameOf node)).tail }

/-- Closes open elements up to one of hypertext with one of the names, and that one as well. -/
def popUntilNamed (names : List String) : Build Unit := popUntil (·.isHtml names)

/-- Closes open elements up to one of hypertext with one of the names, which stays open. -/
def popUntilCurrent (names : List String) : Build Unit := modify fun s =>
  { s with stack := s.stack.dropWhile fun node => !s.isHtml node names }

/-- Closes the innermost open elements as long as they have one of the names, but not the name `except`. -/
def popImpliedOf (names : List String) (except : String) : Build Unit := modify fun s =>
  { s with stack := s.stack.dropWhile fun node =>
      s.isHtml node names && !s.isHtml node [except] }

/-- Closes the innermost open elements as long as their end tags may be missing. -/
def popImplied : Build Unit := popImpliedOf ElementName.impliedEndNames ""

/-- Closes an element and all in it, those whose end tags may be missing first. -/
def closeNamed (name : String) : Build Unit := do
  popImpliedOf ElementName.impliedEndNames name
  popUntilNamed [name]

/-- Closes the innermost paragraph. -/
def closeParagraph : Build Unit := closeNamed "p"

/-- Closes the innermost paragraph if it is open here. -/
def closeOpenParagraph : Build Unit := do
  if (← get).isOpenNamed ElementName.boundsParagraph ["p"] then closeParagraph

/-- Takes a node out of the open elements. -/
def removeFromStack (node : Nat) : Build Unit := modify fun s =>
  { s with stack := s.stack.erase node }

/-- Sets the rules in force. -/
def setMode (mode : Mode) : Build Unit := modify fun s => { s with mode := mode }

/-- Sets the rules in force by what is open. -/
def resetMode : Build Unit := modify fun s => { s with mode := s.resetMode }

/-- From here on the document cannot become a set of frames. -/
def forbidFrameset : Build Unit := modify fun s => { s with framesetOk := false }

/-- Reading is interrupted behind the tag. -/
def interrupt : Build Unit := modify fun s => { s with interrupts := true }

/-- An element whose content is text, read in a mode of its own. -/
def insertTextElement (tag : Tag) (mode : TextMode) : Build Unit := do
  insertElement tag
  modify fun s => { s with returnMode := s.mode, mode := .text, textMode? := some mode }

end HtmlMail.Html.Construction
