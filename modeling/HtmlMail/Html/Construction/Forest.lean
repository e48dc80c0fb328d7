import HtmlMail.Dom.Attributes

/-!
# Nodes under construction

While markup is read, nodes are created, moved and taken apart again. They are kept by number, each with
its parent and the list of its children; the document has the number zero. The content of a template is
kept under a node of its own, which is nobody's child.

- `Forest.create` : a new node without a parent
- `Forest.append`, `Forest.insertBefore` : a node gets its place
- `Forest.appendText`, `Forest.insertTextBefore` : text gets its place, joined to the text in front
- `Forest.detach`, `Forest.moveChildren` : nodes leave their place
-/

namespace HtmlMail.Html.Construction

open Dom

/-- The language an element belongs to. -/
inductive Namespace where
  | html
  | mathml
  | svg
  deriving DecidableEq, Repr

/-- What a node under construction holds. -/
inductive Content where
  /-- The document, or the content of a template. -/
  | container
  | doctype (name publicId systemId : String)
  /-- An element; `content?` is where the content of a template is kept. -/
  | element (ns : Namespace) (name : String) (attributes : List Attribute) (content? : Option Nat)
  | text (text : String)
  | comment (text : String)
  deriving DecidableEq, Repr

/-- A node under construction. -/
structure Cell where
  content : Content
  parent : Option Nat
  children : List Nat
  deriving DecidableEq, Repr

/-- Nodes under construction by number. -/
structure Forest where
  cells : Array Cell
  deriving DecidableEq, Repr

namespace Forest

/-- The number of the document. -/
def document : Nat := 0

/-- The document alone. -/
def empty : Forest := ⟨#[⟨.container, none, []⟩]⟩

/-- A new node without a parent, and its number. -/
def create (forest : Forest) (content : Content) : Nat × Forest :=
  (forest.cells.size, ⟨forest.cells.push ⟨content, none, []⟩⟩)

/-- What a node holds. -/
def content? (forest : Forest) (node : Nat) : Option Content :=
  forest.cells[node]?.map (·.content)

/-- The parent of a node. -/
def parent? (forest : Forest) (node : Nat) : Option Nat := forest.cells[node]?.bind (·.parent)

/-- The children of a node. -/
def children (forest : Forest) (node : Nat) : List Nat :=
  (forest.cells[node]?.map (·.children)).getD []

/-- The forest with one of its nodes changed. -/
def modify (forest : Forest) (node : Nat) (f : Cell → Cell) : Forest := ⟨forest.cells.modify node f⟩

/-- The list with `new` in front of the first `mark`. -/
def insertInFront (mark new : Nat) : List Nat → List Nat
  | [] => [new]
  | n :: rest => if n = mark then new :: n :: rest else n :: insertInFront mark new rest

/-- The forest in which a node has left its place. -/
def detach (forest : Forest) (node : Nat) : Forest :=
  match forest.parent? node with
  | none => forest
  | some parent =>
    (forest.modify parent fun c => { c with children := c.children.filter (· != node) }).modify node
      fun c => { c with parent := none }

/-- The forest in which a node is the last child of another one. -/
def append (forest : Forest) (parent node : Nat) : Forest :=
  ((forest.detach node).modify node fun c => { c with parent := some parent }).modify parent
    fun c => { c with children := c.children ++ [node] }

/-- The forest in which a node stands right in front of a sibling. -/
def insertBefore (forest : Forest) (sibling node : Nat) : Forest :=
  match forest.parent? sibling with
  | none => forest
  | some parent =>
    ((forest.detach node).modify node fun c => { c with parent := some parent }).modify parent
      fun c => { c with children := insertInFront sibling node c.children }

/-- The forest with text added to a node that holds text already, if it does. -/
def extendText? (forest : Forest) (node? : Option Nat) (text : String) : Option Forest :=
  node?.bind fun node =>
    match forest.content? node with
    | some (.text t) => some (forest.modify node fun c => { c with content := .text (t ++ text) })
    | _ => none

/-- The forest with text behind the last child of a node. -/
def appendText (forest : Forest) (parent : Nat) (text : String) : Forest :=
  (forest.extendText? (forest.children parent).getLast? text).getD
    (let (node, forest) := forest.create (.text text)
     forest.append parent node)

/-- The node in front of a node among its siblings. -/
def previous? (forest : Forest) (node : Nat) : Option Nat :=
  (forest.parent? node).bind fun parent =>
    ((forest.children parent).takeWhile (· != node)).getLast?

/-- The forest with text right in front of a node. -/
def insertTextBefore (forest : Forest) (sibling : Nat) (text : String) : Forest :=
  (forest.extendText? (forest.previous? sibling) text).getD
    (let (node, forest) := forest.create (.text text)
     forest.insertBefore sibling node)

/-- The forest in which all children of one node are the last children of another one. -/
def moveChildren (forest : Forest) (source target : Nat) : Forest :=
  (forest.children source).foldl (fun forest node => forest.append target node) forest

/-- The forest in which an element also has those attributes whose names it does not have yet. -/
def addMissingAttributes (forest : Forest) (node : Nat) (more : List Attribute) : Forest :=
  forest.modify node fun c =>
    match c.content with
    | .element ns name attributes content? =>
      let missing := more.filter fun a => !attributes.any (·.name == a.name)
      { c with content := .element ns name (attributes ++ missing) content? }
    | _ => c

end Forest

end HtmlMail.Html.Construction
