import HtmlMail.Dom.Attributes
import HtmlMail.Text.Blank

/-!
# Trees of nodes

The nodes of a document are numbered in the order of their creation, and each one knows its parent, its
first and last child and its two neighbours. The node `root` is the document; a node is created without
links and joins the tree by `Tree.append`.

- `Tree.create` : a new node without links
- `Tree.append` : a node becomes the last child of another one, or there is an error and no change
- `Tree.children`, `Tree.descendants` : the nodes below a node
- `Tree.elements` : the elements of the document in document order

Walks along the links are bounded by the number of nodes, which is enough wherever they do not run in a
circle.
-/

namespace HtmlMail.Dom

/-- The number of a node. -/
abbrev NodeId := Nat

/-- A name in lower case and attributes. -/
structure Element where
  name : String
  attributes : Attributes
  deriving DecidableEq, Repr

namespace Element

/-- The element of a name, without attributes. -/
def ofName (name : String) : Element := ⟨Text.lower name, ∅⟩

/-- The value of the attribute `id`. -/
def id? (e : Element) : Option String := e.attributes.get? "id"

/-- The words of the attribute `class`. -/
def classes (e : Element) : List String := Text.words ((e.attributes.get? "class").getD "")

/-- Whether a name is among the classes of an element. -/
def hasClass (e : Element) (name : String) : Bool := e.classes.contains name

end Element

/-- What a node holds. -/
inductive NodeData where
  | document
  | doctype (name publicId systemId : String)
  | element (e : Element)
  | text (content : String)
  | comment (content : String)
  deriving DecidableEq, Repr

/-- What a node holds with the attributes of an element changed. -/
def NodeData.mapAttributes (f : Attributes → Attributes) : NodeData → NodeData
  | element e => element { e with attributes := f e.attributes }
  | data => data

/-- A node with its links. -/
structure Node where
  data : NodeData
  parent : Option NodeId
  firstChild : Option NodeId
  lastChild : Option NodeId
  previous : Option NodeId
  next : Option NodeId
  deriving DecidableEq, Repr

namespace Node

/-- A node without links. -/
def unlinked (data : NodeData) : Node := ⟨data, none, none, none, none, none⟩

/-- The element a node holds. -/
def element? (node : Node) : Option Element :=
  match node.data with
  | .element e => some e
  | _ => none

/-- Whether a node holds an element. -/
def isElement (node : Node) : Bool := node.element?.isSome

/-- The text a node holds. -/
def text? (node : Node) : Option String :=
  match node.data with
  | .text content => some content
  | _ => none

end Node

/-- Why a tree stays as it is. -/
inductive TreeError where
  | notFound (node : NodeId)
  | hierarchy (parent child : NodeId)
  | notAnElement (node : NodeId)
  deriving DecidableEq, Repr

/-- How a node is named in a message. -/
def nodeLabel (node : NodeId) : String := "NodeId(" ++ toString node ++ ")"

/-- The wording of the error. -/
def TreeError.message : TreeError → String
  | .notFound node => "Node not found: " ++ nodeLabel node
  | .hierarchy parent child =>
    "Hierarchy request error: cannot append " ++ nodeLabel child ++ " to " ++ nodeLabel parent
  | .notAnElement node => "Node " ++ nodeLabel node ++ " is not an element"

/-- Nodes by number. -/
structure Tree where
  nodes : Array Node
  deriving DecidableEq, Repr

/-- The number of the document. -/
def root : NodeId := 0

namespace Tree

/-- The tree that holds the document alone. -/
def empty : Tree := ⟨#[.unlinked .document]⟩

/-- The number of nodes. -/
def size (tree : Tree) : Nat := tree.nodes.size

/-- The node of a number. -/
def get? (tree : Tree) (node : NodeId) : Option Node := tree.nodes[node]?

/-- The tree with one of its nodes changed. -/
def modify (tree : Tree) (node : NodeId) (f : Node → Node) : Tree := ⟨tree.nodes.modify node f⟩

@[simp] theorem size_modify (tree : Tree) (node : NodeId) (f : Node → Node) :
    (tree.modify node f).size = tree.size := Array.size_modify

/-- Only the changed node differs. -/
theorem get?_modify (tree : Tree) (node id : NodeId) (f : Node → Node) :
    (tree.modify node f).get? id = if node = id then (tree.get? id).map f else tree.get? id := by
  simp only [get?, modify, Array.getElem?_modify]

/-- The numbers in use are those below the number of nodes. -/
theorem lt_size_of_get? {tree : Tree} {id : NodeId} {node : Node} (h : tree.get? id = some node) :
    id < tree.size :=
  (Array.getElem?_eq_some_iff.1 h).1

/-- The number of a new node, and the tree with it. -/
def create (tree : Tree) (data : NodeData) : NodeId × Tree :=
  (tree.size, ⟨tree.nodes.push (.unlinked data)⟩)

/-- A new node has no links, and the others stay as they are. -/
theorem get?_create (tree : Tree) (data : NodeData) (id : NodeId) :
    (tree.create data).2.get? id =
      if id = tree.size then some (.unlinked data) else tree.get? id :=
  Array.getElem?_push

/-- A new element without attributes. -/
def createElement (tree : Tree) (name : String) : NodeId × Tree :=
  tree.create (.element (.ofName name))

/-- Links a node without a parent as the last child of `parent`, behind the node `last`. -/
def link (tree : Tree) (parent child : NodeId) (last : Option NodeId) : Tree :=
  let tree := tree.modify child fun node =>
    { node with parent := some parent, previous := last, next := none }
  let tree := match last with
    | some sibling => tree.modify sibling fun node => { node with next := some child }
    | none => tree
  tree.modify parent fun node =>
    { node with firstChild := some (node.firstChild.getD child), lastChild := some child }

/-- The tree in which `child` is the last child of `parent`. A node cannot be its own child, the
document is nobody's child, and a child has no parent so far. -/
def append (tree : Tree) (parent child : NodeId) : Except TreeError Tree :=
  if parent = child ∨ child = root then .error (.hierarchy parent child)
  else match tree.get? parent, tree.get? child with
    | none, _ => .error (.notFound parent)
    | some _, none => .error (.notFound child)
    | some p, some c =>
      if c.parent.isSome then .error (.hierarchy parent child)
      else .ok (tree.link parent child p.lastChild)

/-- The numbers met from `start` on along the links `step`, at most `fuel` of them. -/
def follow (tree : Tree) (step : Node → Option NodeId) : Nat → Option NodeId → List NodeId
  | 0, _ => []
  | _, none => []
  | fuel + 1, some id =>
    match tree.get? id with
    | none => []
    | some node => id :: tree.follow step fuel (step node)

/-- The children of a node in order. -/
def children (tree : Tree) (node : NodeId) : List NodeId :=
  tree.follow (·.next) tree.size ((tree.get? node).bind (·.firstChild))

/-- The element a node holds. -/
def element? (tree : Tree) (node : NodeId) : Option Element := (tree.get? node).bind (·.element?)

/-- Whether a node is an element. -/
def isElement (tree : Tree) (node : NodeId) : Bool := (tree.element? node).isSome

/-- The children of a node that are elements. -/
def elementChildren (tree : Tree) (node : NodeId) : List NodeId :=
  (tree.children node).filter tree.isElement

/-- The parent of a node. -/
def parent? (tree : Tree) (node : NodeId) : Option NodeId := (tree.get? node).bind (·.parent)

/-- The nodes above a node, from its parent upwards. -/
def ancestors (tree : Tree) (node : NodeId) : List NodeId :=
  tree.follow (·.parent) tree.size (tree.parent? node)

/-- The elements in front of a node among its siblings, the closest one first. -/
def elementsBefore (tree : Tree) (node : NodeId) : List NodeId :=
  (tree.follow (·.previous) tree.size ((tree.get? node).bind (·.previous))).filter tree.isElement

/-- The elements behind a node among its siblings, the closest one first. -/
def elementsAfter (tree : Tree) (node : NodeId) : List NodeId :=
  (tree.follow (·.next) tree.size ((tree.get? node).bind (·.next))).filter tree.isElement

/-- The closest element in front of a node among its siblings. -/
def previousElement? (tree : Tree) (node : NodeId) : Option NodeId :=
  (tree.elementsBefore node).head?

/-- The closest element behind a node among its siblings. -/
def nextElement? (tree : Tree) (node : NodeId) : Option NodeId := (tree.elementsAfter node).head?

/-- The nodes that a walk meets which still has the nodes of a list to visit: each one is followed by
what is below it. At most `fuel` nodes are met. -/
def walk (tree : Tree) : Nat → List NodeId → List NodeId
  | 0, _ => []
  | _, [] => []
  | fuel + 1, node :: rest => node :: tree.walk fuel (tree.children node ++ rest)

/-- The nodes below a node in document order. -/
def descendants (tree : Tree) (node : NodeId) : List NodeId :=
  tree.walk tree.size (tree.children node)

/-- The elements of the document in document order. -/
def elements (tree : Tree) : List NodeId := (tree.descendants root).filter tree.isElement

/-- The tag name of an element. -/
def tagName? (tree : Tree) (node : NodeId) : Option String := (tree.element? node).map (·.name)

/-- The elements of the document with one of the given tag names, in document order. -/
def elementsNamed (tree : Tree) (names : List String) : List NodeId :=
  tree.elements.filter fun node => (tree.tagName? node).any names.contains

/-- The value of an attribute of an element. -/
def attribute? (tree : Tree) (node : NodeId) (name : String) : Option String :=
  (tree.element? node).bind (·.attributes.get? name)

/-- The tree with the attributes of an element changed; any other node stays as it is. -/
def modifyAttributes (tree : Tree) (node : NodeId) (f : Attributes → Attributes) : Tree :=
  tree.modify node fun n =>
    match n.data with
    | .element e => { n with data := .element { e with attributes := f e.attributes } }
    | _ => n

/-- Changed attributes are all that differs. -/
theorem get?_modifyAttributes (tree : Tree) (node id : NodeId) (f : Attributes → Attributes) :
    (tree.modifyAttributes node f).get? id = (tree.get? id).map fun n =>
      { n with data := if node = id then n.data.mapAttributes f else n.data } := by
  rw [modifyAttributes, get?_modify]
  cases tree.get? id with
  | none => simp
  | some n =>
    obtain ⟨data, _⟩ := n
    split <;> cases data <;> rfl

/-- The tree with an attribute of an element set. -/
def setAttribute (tree : Tree) (node : NodeId) (name value : String) : Except TreeError Tree :=
  if tree.isElement node then .ok (tree.modifyAttributes node (·.insert name value))
  else .error (.notAnElement node)

/-- The tree without an attribute of an element. -/
def removeAttribute (tree : Tree) (node : NodeId) (name : String) : Tree :=
  tree.modifyAttributes node (·.erase name)

/-- The texts in a node and below it, joined in document order. -/
def textContent (tree : Tree) (node : NodeId) : String :=
  String.join ((node :: tree.descendants node).filterMap fun id => (tree.get? id).bind (·.text?))

end Tree

end HtmlMail.Dom
