import HtmlMail.Dom.Tree
import HtmlMail.Text.Search

/-!
# Selectors

A selector describes elements by their own properties and by what stands above them and in front of
them.

- `SimpleSelector` : one property: an identifier, a class, an attribute, a place among the siblings
- `CompoundSelector` : properties of one element
- `Selector` : compounds joined by combinators
- `Selector.specificity` : how strong the rules of a selector are
- `Selector.matchesNode` : whether a selector describes a node of a tree

A selector is a chain to the left: its last compound describes the element itself, and the combinator in
front of it says where the elements described by the rest are looked for.
-/

namespace HtmlMail.Css

open Dom

/-- Where the element described on the left stands, seen from the one on the right. -/
inductive Combinator where
  /-- Anywhere above: `a b`. -/
  | descendant
  /-- Directly above: `a > b`. -/
  | child
  /-- Directly in front among the sibling elements: `a + b`. -/
  | nextSibling
  /-- Anywhere in front among the sibling elements: `a ~ b`. -/
  | laterSibling
  deriving DecidableEq, Repr

/-- A place in the structure of the document. -/
inductive PseudoClass where
  | firstChild
  | lastChild
  | onlyChild
  | empty
  deriving DecidableEq, Repr

namespace PseudoClass

/-- The name after the colon. -/
def name : PseudoClass → String
  | firstChild => "first-child"
  | lastChild => "last-child"
  | onlyChild => "only-child"
  | empty => "empty"

/-- The pseudo-class of a name in any case. -/
def ofName? (text : String) : Option PseudoClass :=
  [firstChild, lastChild, onlyChild, empty].find? fun p => Text.eqIgnoringCase text p.name

/-- Whether a node is at the place. An element is empty if it has no element and nothing but blanks in
it. -/
def matchesNode (tree : Tree) (node : NodeId) : PseudoClass → Bool
  | firstChild => (tree.previousElement? node).isNone
  | lastChild => (tree.nextElement? node).isNone
  | onlyChild => (tree.previousElement? node).isNone && (tree.nextElement? node).isNone
  | empty => (tree.elementChildren node).isEmpty && Text.isBlank (tree.textContent node)

end PseudoClass

/-- How the value of an attribute is compared. -/
inductive AttributeOperator where
  /-- The value itself, or the value and a hyphen at the start: `|=`. -/
  | dashMatch
  /-- Anywhere in the value: `*=`. -/
  | substring
  /-- One of the words of the value: `~=`. -/
  | word
  /-- At the start of the value: `^=`. -/
  | start
  /-- Not the value; the attribute may be absent: `!=`. -/
  | different
  deriving DecidableEq, Repr

namespace AttributeOperator

/-- The character in front of the equals sign. -/
def sign : AttributeOperator → Char
  | dashMatch => '|'
  | substring => '*'
  | word => '~'
  | start => '^'
  | different => '!'

/-- The operator of a character in front of the equals sign. -/
def ofSign? (c : Char) : Option AttributeOperator :=
  [dashMatch, substring, word, start, different].find? (·.sign == c)

end AttributeOperator

/-- A condition on one attribute. -/
structure AttributeSelector where
  name : String
  operator : AttributeOperator
  expected : String
  deriving DecidableEq, Repr

/-- Whether a value meets the condition; `none` stands for an absent attribute. -/
def AttributeSelector.accepts (a : AttributeSelector) (value : Option String) : Bool :=
  match a.operator, value with
  | .different, _ => value != some a.expected
  | _, none => false
  | .dashMatch, some v => v == a.expected || Text.startsWith (a.expected ++ "-") v
  | .substring, some v => Text.contains a.expected v
  | .word, some v => (Text.words v).contains a.expected
  | .start, some v => Text.startsWith a.expected v

/-- One condition on an element. -/
inductive SimpleSelector where
  | id (name : String)
  | className (name : String)
  | attribute (a : AttributeSelector)
  | pseudoClass (p : PseudoClass)
  deriving DecidableEq, Repr

/-- Conditions on one element, by kind. -/
structure CompoundSelector where
  /-- The tag name, unless any will do. -/
  tag? : Option String
  ids : List String
  classes : List String
  attributes : List AttributeSelector
  pseudoClasses : List PseudoClass
  deriving DecidableEq, Repr

namespace CompoundSelector

/-- The compound of a tag name and further conditions; conditions of one kind keep their order. -/
def ofParts (tag? : Option String) (parts : List SimpleSelector) : CompoundSelector where
  tag? := tag?
  ids := parts.filterMap fun | .id name => some name | _ => none
  classes := parts.filterMap fun | .className name => some name | _ => none
  attributes := parts.filterMap fun | .attribute a => some a | _ => none
  pseudoClasses := parts.filterMap fun | .pseudoClass p => some p | _ => none

/-- The number of conditions that weigh as much as a class. -/
def classLevel (c : CompoundSelector) : Nat :=
  c.classes.length + c.attributes.length + c.pseudoClasses.length

/-- The weight of the compound, in words of 32 bits. -/
def specificity (c : CompoundSelector) : UInt32 :=
  UInt32.ofNat c.ids.length * 100 + UInt32.ofNat c.classLevel * 10 + (if c.tag?.isSome then 1 else 0)

/-- Whether a node is an element that meets all conditions. -/
def matchesNode (tree : Tree) (node : NodeId) (c : CompoundSelector) : Bool :=
  match tree.element? node with
  | none => false
  | some e =>
    c.tag?.all (Text.eqIgnoringCase e.name) &&
    c.ids.all (fun id => e.id? == some id) &&
    c.classes.all e.hasClass &&
    c.attributes.all (fun a => a.accepts (e.attributes.get? a.name)) &&
    c.pseudoClasses.all (·.matchesNode tree node)

end CompoundSelector

/-- Compounds joined by combinators. -/
inductive Selector where
  | compound (c : CompoundSelector)
  | combined (left : Selector) (combinator : Combinator) (right : CompoundSelector)
  deriving DecidableEq, Repr

/-- The nodes at which the left side of a combinator may be matched, seen from a node. -/
def Combinator.candidates (tree : Tree) (node : NodeId) : Combinator → List NodeId
  | .child => (tree.parent? node).toList
  | .descendant => tree.ancestors node
  | .nextSibling => (tree.previousElement? node).toList
  | .laterSibling => tree.elementsBefore node

namespace Selector

/-- How strong the rules of a selector are: a hundred for each identifier, ten for each class, attribute
and pseudo-class, one for each tag name, added up in words of 32 bits. -/
def specificity : Selector → UInt32
  | compound c => c.specificity
  | combined left _ right => left.specificity + right.specificity

/-- Whether a selector describes a node of a tree. -/
def matchesNode (tree : Tree) : Selector → NodeId → Bool
  | compound c, node => c.matchesNode tree node
  | combined left combinator right, node =>
    right.matchesNode tree node && (combinator.candidates tree node).any (left.matchesNode tree)

/-- The elements of a document that a selector describes, in document order. -/
def select (tree : Tree) (selector : Selector) : List NodeId :=
  tree.elements.filter (selector.matchesNode tree)

end Selector

end HtmlMail.Css
