import HtmlMail.Dom.Document
import HtmlMail.Proofs.Dom.Calls
import HtmlMail.Proofs.Dom.Order

/-!
# Walking through a document

`Tree.descendants` keeps a list of nodes that it has yet to visit, takes the first one off, and puts the
children of that one in its place. It stops when the list is empty; a bound on the number of rounds makes
it stop in any case. Below a grounded node the bound is never met: the loop ends on its own
(`Linked.walks_descendants`), and what it has listed by then is the pre-order of the recursion over the
children.

* `Tree.Walks` : a run of the loop that ends, without any bound;
* `Tree.walks_of_length_lt` : a bounded run that stays below its bound is such a run;
* `Tree.Preorder.unique` : there is one pre-order only;
* `Tree.exists_preorder_root` : the walk through a whole document, whatever its detached nodes look like, and
  what goes by it: the elements, the elements of some names, the element with an `id`, and the text.
-/

namespace HtmlMail.Dom

namespace Tree

variable {tree : Tree} {x : NodeId} {nodes l : List NodeId}

/-- **A walk that ends.** As long as there are nodes to visit, the first one is listed, and its children have
their turn before the others. -/
inductive Walks (tree : Tree) : List NodeId → List NodeId → Prop
  | done : Walks tree [] []
  | visit {x : NodeId} {rest l : List NodeId} (h : Walks tree (tree.children x ++ rest) l) :
      Walks tree (x :: rest) (x :: l)

/-- **A walk that has fuel to spare** has ended on its own. -/
theorem walks_of_length_lt : ∀ {fuel : Nat} {nodes : List NodeId},
    (tree.walk fuel nodes).length < fuel → tree.Walks nodes (tree.walk fuel nodes)
  | 0, _, h => absurd h (Nat.not_lt_zero _)
  | fuel + 1, [], _ => .done
  | fuel + 1, x :: rest, h => by
    rw [walk, List.length_cons] at h
    exact .visit (walks_of_length_lt (Nat.lt_of_succ_lt_succ h))

/-- There is one pre-order only. -/
theorem Preorder.unique (h : tree.Preorder nodes l) : ∀ {m : List NodeId}, tree.Preorder nodes m → l = m := by
  induction h with
  | none =>
    intro m hm
    cases hm
    rfl
  | cons _ _ hbelow hbeside =>
    intro m hm
    cases hm with
    | cons hbelow' hbeside' => rw [hbelow hbelow', hbeside hbeside']

/-- Below a grounded node the walk ends. -/
theorem Linked.walks_descendants (hl : Linked tree tree.children) (hx : tree.Grounded x) :
    tree.Walks (tree.children x) (tree.descendants x) :=
  walks_of_length_lt (hl.descendants_spec hx).2.2.2.2

namespace Reachable

variable (h : tree.Reachable)
include h

/-- What stands below the document is attached, and is not the document. -/
theorem ancestor_root_iff : tree.Ancestor root x ↔ x ≠ root ∧ tree.Attached x := by
  constructor
  · intro hx
    refine ⟨?_, hx.to_reflTransGen⟩
    rintro rfl
    exact h.grounded_root.not_ancestor_self hx
  · rintro ⟨hne, hx⟩
    exact (Relation.reflTransGen_iff_eq_or_transGen.1 hx).resolve_left hne

/-- The document has no text of its own. -/
theorem text?_root : (tree.get? root).bind (·.text?) = none := by
  obtain ⟨n, hn, hd, -⟩ := h.linked.document
  rw [hn, Option.bind_some, Node.text?, hd]

end Reachable

/-- What has a tag name is an element. -/
theorem isElement_of_any_tagName? {p : String → Bool} (h : (tree.tagName? x).any p) :
    tree.isElement x := by
  cases he : tree.element? x with
  | none => simp [tagName?, he] at h
  | some e => rw [isElement, he, Option.isSome_some]

/-- What has an attribute is an element. -/
theorem isElement_of_attribute? {name value : String} (h : tree.attribute? x name = some value) :
    tree.isElement x := by
  obtain ⟨e, he, -⟩ := Option.bind_eq_some_iff.1 h
  rw [isElement, he, Option.isSome_some]

/-- **Document order.** In a document that operations have produced, whatever detached nodes there are, the
children of the document have exactly one pre-order `l`. The walk from the document ends and lists `l`; the
nodes of `l` are the attached ones other than the document, each one once. All listings go by `l`: the elements,
the elements of some names, the first element with an `id`, and the text of the document. -/
theorem exists_preorder_root {doc : Document} (h : doc.tree.Reachable) :
    ∃ l, (∀ m, doc.tree.Preorder (doc.tree.children root) m ↔ m = l) ∧
      doc.tree.Walks (doc.tree.children root) l ∧ doc.tree.descendants root = l ∧ l.Nodup ∧
      (∀ x, x ∈ l ↔ x ≠ root ∧ doc.tree.Attached x) ∧
      doc.tree.elements = l.filter doc.tree.isElement ∧
      (∀ names, doc.tree.elementsNamed names =
        l.filter fun x => (doc.tree.tagName? x).any names.contains) ∧
      (∀ id, doc.elementById? id = l.find? fun x => doc.tree.attribute? x "id" == some id) ∧
      doc.tree.textContent root =
        String.join (l.filterMap fun x => (doc.tree.get? x).bind (·.text?)) := by
  have hl := h.linked
  obtain ⟨hpreorder, hmem, -, hnd, -⟩ := hl.descendants_spec h.grounded_root
  refine ⟨doc.tree.descendants root, fun m => ⟨fun hm => hm.unique hpreorder, fun hm => hm ▸ hpreorder⟩,
    hl.walks_descendants h.grounded_root, rfl, hnd, fun x => ?_, rfl, fun names => ?_, fun id => ?_, ?_⟩
  · rw [hmem, h.ancestor_root_iff]
  · rw [elementsNamed, elements, List.filter_filter]
    refine List.filter_congr fun x _ => ?_
    -- What has a tag name is an element, and below so is what has an attribute.
    rw [Bool.and_eq_left_iff_imp]
    exact fun hx => isElement_of_any_tagName? hx
  · rw [Document.elementById?, elements, List.find?_filter]
    congr 1
    funext x
    refine (decide_eq_decide.2 (and_iff_right_of_imp fun hx => ?_)).trans (Bool.decide_coe _)
    exact isElement_of_attribute? (eq_of_beq hx)
  · rw [textContent, List.filterMap_cons, h.text?_root]

/-- A paragraph whose text is spread over two levels, and two detached elements, each appended to the
other. -/
def besideCircle : Document where
  tree := afterCalls [.createElement "p", .createElement "b", .createText "y", .createText "x",
    .append 1 2, .append 2 4, .append 1 3, .append 0 1,
    .createElement "i", .createElement "u", .append 5 6, .append 6 5]
  html? := none
  body? := none
  isFragment := false

/-- The walk from the document does not see the circle, and takes the text in the order of the levels. -/
theorem preorder_besideCircle :
    besideCircle.tree.Reachable ∧
      besideCircle.tree.Preorder (besideCircle.tree.children root) [1, 2, 4, 3] ∧
      besideCircle.tree.elementsNamed ["b", "i"] = [2] ∧
      besideCircle.tree.textContent root = "xy" := by
  have h : besideCircle.tree.Reachable := reachable_afterCalls _
  obtain ⟨l, hpreorder, -, hwalk, -, -, -, hnames, -, htext⟩ := exists_preorder_root h
  have hl : l = [1, 2, 4, 3] := hwalk.symm.trans (by decide +kernel)
  subst hl
  refine ⟨h, (hpreorder _).2 rfl, (hnames _).trans ?_, htext.trans ?_⟩
  · decide +kernel
  · decide +kernel

end Tree

end HtmlMail.Dom
