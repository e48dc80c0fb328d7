import HtmlMail.Dom.Tree

/-!
# Documents

A document is a tree together with the places of its `html` and `body` elements, and the knowledge
whether its source was only a fragment: then the elements around the content are implied ones.

- `Document.empty` : the document without content
- `Document.locate` : the places of `html` and `body` found anew
- `Document.elementById?` : the first element with an `id`
-/

namespace HtmlMail.Dom

/-- A tree and what is known about it as a document. -/
structure Document where
  tree : Tree
  /-- The element `html`, once located. -/
  html? : Option NodeId
  /-- The element `body`, once located. -/
  body? : Option NodeId
  /-- Whether the source had none of the elements that make up a document. -/
  isFragment : Bool
  deriving DecidableEq, Repr

namespace Document

/-- The document without content. -/
def empty : Document := ⟨.empty, none, none, false⟩

/-- The first element child of a node with a tag name. -/
def childNamed? (tree : Tree) (node : NodeId) (name : String) : Option NodeId :=
  (tree.elementChildren node).find? fun child => tree.tagName? child == some name

/-- The document with its places found anew: the first `html` below the document node and the first
`body` below that. -/
def locate (doc : Document) : Document :=
  let html? := childNamed? doc.tree root "html"
  { doc with html? := html?, body? := html?.bind fun html => childNamed? doc.tree html "body" }

/-- The first element whose attribute `id` has the given value. -/
def elementById? (doc : Document) (id : String) : Option NodeId :=
  doc.tree.elements.find? fun node => (doc.tree.element? node).bind (·.id?) == some id

/-- The document with another tree; its places stay. -/
def withTree (doc : Document) (tree : Tree) : Document := { doc with tree := tree }

end Document

end HtmlMail.Dom
