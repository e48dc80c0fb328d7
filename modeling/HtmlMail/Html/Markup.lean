import HtmlMail.Dom.Document

/-!
# Markup as a tree of values

Between its text and the numbered nodes of a document, markup is a plain tree: what reading a text
yields, and what writing one starts from.

- `Markup` : one node with all that is below it
- `Markup.addTo` : markup becomes nodes of a tree, numbered in document order
- `Markup.ofNode` : the markup that a node of a tree stands for
-/

namespace HtmlMail.Html

open Dom

/-- A node with all that is below it. -/
inductive Markup where
  | doctype (name publicId systemId : String)
  | element (name : String) (attributes : List Attribute) (children : List Markup)
  | text (content : String)
  | comment (content : String)

namespace Markup

/-- The tree in which a new node that holds `data` is the last child of another one, and its number. -/
def addNode (parent : NodeId) (data : NodeData) (tree : Tree) : Except TreeError (NodeId × Tree) := do
  let (node, tree) := tree.create data
  return (node, ← tree.append parent node)

mutual

/-- The tree in which a piece of markup is the last child of a node. -/
def addTo (parent : NodeId) : Markup → Tree → Except TreeError Tree
  | doctype name publicId systemId, tree =>
    (addNode parent (.doctype name publicId systemId) tree).map (·.2)
  | element name attributes children, tree => do
    let e : Element := { Element.ofName name with attributes := .ofList attributes }
    let (node, tree) ← addNode parent (.element e) tree
    addAllTo node children tree
  | text content, tree => (addNode parent (.text content) tree).map (·.2)
  | comment content, tree => (addNode parent (.comment content) tree).map (·.2)

/-- The tree in which pieces of markup are the last children of a node. -/
def addAllTo (parent : NodeId) : List Markup → Tree → Except TreeError Tree
  | [], tree => .ok tree
  | m :: rest, tree => do
    let tree ← addTo parent m tree
    addAllTo parent rest tree

end

/-- The markup that a node stands for, down to the depth `fuel`. The document stands for all that is
below it. -/
def ofNode (tree : Tree) : Nat → NodeId → List Markup
  | 0, _ => []
  | fuel + 1, node =>
    let below := (tree.children node).flatMap (ofNode tree fuel)
    match (tree.get? node).map Node.data with
    | none => []
    | some .document => below
    | some (.doctype name publicId systemId) => [doctype name publicId systemId]
    | some (.element e) => [element e.name e.attributes.entries below]
    | some (.text content) => [text content]
    | some (.comment content) => [comment content]

/-- The markup that a node stands for. -/
def outer (tree : Tree) (node : NodeId) : List Markup := ofNode tree tree.size node

/-- The markup that the children of a node stand for. -/
def inner (tree : Tree) (node : NodeId) : List Markup :=
  (tree.children node).flatMap (outer tree)

/-- The markup in an implied element: for `head` and `body` their content. -/
def unwrapped (tree : Tree) (node : NodeId) : List Markup :=
  match tree.tagName? node with
  | some "head" | some "body" => inner tree node
  | _ => outer tree node

/-- Whether a node is a document type. -/
def isDoctype (tree : Tree) (node : NodeId) : Bool :=
  match (tree.get? node).map Node.data with
  | some (.doctype ..) => true
  | _ => false

/-- The markup of a document. Of a fragment, the document type and the elements around its content are
left out. -/
def ofDocument (doc : Document) : List Markup :=
  if doc.isFragment then
    (doc.tree.children root).flatMap fun child =>
      if some child = doc.html? then (doc.tree.children child).flatMap (unwrapped doc.tree)
      else if isDoctype doc.tree child then []
      else outer doc.tree child
  else inner doc.tree root

end Markup

end HtmlMail.Html
