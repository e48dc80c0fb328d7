import HtmlMail.Css.Inline
import HtmlMail.Proofs.Dom.Order
import Mathlib.Control.Monad.Basic

/-!
# What selectors mean

A selector is matched from its right end, with a search upwards or to the left at every combinator. What
it means is said here without a search: there is one node for each compound, the last of them the node in
question, every node has the properties its compound asks for, and any two neighbours stand to each other
as the combinator between them says (`Selector.Describes`).

* `Combinator.mem_candidates_iff` : a search meets the nodes that stand in the relation of its combinator;
* `Selector.matchesNode_iff` : matching finds the nodes of the chain whenever there are any, by induction
  on the selector, which is the chain read from the right;
* `Selector.selectText_iff_describes` : the selected elements are the attached ones that the selector
  describes, once each and in document order.

All of this is about attached nodes of reachable trees. The searches end there because the nodes above an
attached node end at the document.
-/

namespace HtmlMail.Css

open Dom

/-! ### The meaning of a selector -/

/-- **What a pseudo-class says** of a node: which elements stand among its siblings, or that it holds no
element and nothing but blanks. -/
def PseudoClass.Describes (tree : Tree) (node : NodeId) : PseudoClass → Prop
  | firstChild => ∀ a between, tree.InFront a between node → ¬ tree.isElement a
  | lastChild => ∀ a between, tree.InFront node between a → ¬ tree.isElement a
  | onlyChild =>
    (∀ a between, tree.InFront a between node → ¬ tree.isElement a) ∧
      ∀ a between, tree.InFront node between a → ¬ tree.isElement a
  | empty => (∀ a ∈ tree.children node, ¬ tree.isElement a) ∧ Text.isBlank (tree.textContent node)

/-- **What a compound says** of a node: it is an element, of the tag name up to ASCII case if one is given,
and it meets every other condition. -/
def CompoundSelector.Describes (tree : Tree) (node : NodeId) (c : CompoundSelector) : Prop :=
  ∃ e, tree.element? node = some e ∧
    (∀ tag, c.tag? = some tag → Text.lower e.name = Text.lower tag) ∧
    (∀ id ∈ c.ids, e.id? = some id) ∧
    (∀ name ∈ c.classes, name ∈ e.classes) ∧
    (∀ a ∈ c.attributes, a.accepts (e.attributes.get? a.name)) ∧
    ∀ p ∈ c.pseudoClasses, p.Describes tree node

/-- **What a combinator says** of the node on its left and the one on its right. -/
def Combinator.Relates (tree : Tree) : Combinator → NodeId → NodeId → Prop
  | .child, a, b => tree.IsParent a b
  | .descendant, a, b => tree.Ancestor a b
  | .nextSibling, a, b =>
    tree.isElement a ∧ ∃ between, tree.InFront a between b ∧ ∀ x ∈ between, ¬ tree.isElement x
  | .laterSibling, a, b => tree.isElement a ∧ ∃ between, tree.InFront a between b

namespace Selector

/-- The compounds of a selector in the order of its text. -/
def compounds : Selector → List CompoundSelector
  | compound c => [c]
  | combined left _ right => left.compounds ++ [right]

/-- The combinators of a selector in the order of its text. -/
def combinators : Selector → List Combinator
  | compound _ => []
  | combined left combinator _ => left.combinators ++ [combinator]

/-- **What a selector says** of a node: there are nodes for its compounds that end in the node, each one
described by its compound and related to the next one by the combinator between them. -/
def Describes (tree : Tree) (selector : Selector) (node : NodeId) : Prop :=
  ∃ n : ℕ → NodeId, n selector.combinators.length = node ∧
    (∀ (i : ℕ) (c : CompoundSelector), selector.compounds[i]? = some c → c.Describes tree (n i)) ∧
    ∀ (i : ℕ) (r : Combinator), selector.combinators[i]? = some r →
      r.Relates tree (n i) (n (i + 1))

end Selector

/-! ### One compound -/

section Compound

variable {tree : Tree} {node a b : NodeId} (hl : tree.Linked tree.children)
include hl

theorem PseudoClass.matchesNode_iff (p : PseudoClass) :
    p.matchesNode tree node ↔ p.Describes tree node := by
  have hfirst : (tree.previousElement? node).isNone ↔
      ∀ a between, tree.InFront a between node → ¬ tree.isElement a := by
    rw [Tree.previousElement?, Option.isNone_iff_eq_none, List.head?_eq_none_iff,
      List.eq_nil_iff_forall_not_mem]
    simp only [hl.mem_elementsBefore_iff, not_and, not_exists]
    exact ⟨fun h a between hb ha => h a ha between hb, fun h a ha between hb => h a between hb ha⟩
  have hlast : (tree.nextElement? node).isNone ↔
      ∀ a between, tree.InFront node between a → ¬ tree.isElement a := by
    rw [Tree.nextElement?, Option.isNone_iff_eq_none, List.head?_eq_none_iff,
      List.eq_nil_iff_forall_not_mem]
    simp only [hl.mem_elementsAfter_iff, not_and, not_exists]
    exact ⟨fun h a between hb ha => h a ha between hb, fun h a ha between hb => h a between hb ha⟩
  cases p with
  | firstChild => exact hfirst
  | lastChild => exact hlast
  | onlyChild =>
    rw [matchesNode, Bool.and_eq_true, hfirst, hlast]
    rfl
  | empty =>
    rw [matchesNode, Bool.and_eq_true, Tree.elementChildren, List.isEmpty_iff,
      List.filter_eq_nil_iff]
    rfl

theorem CompoundSelector.matchesNode_iff (c : CompoundSelector) :
    c.matchesNode tree node ↔ c.Describes tree node := by
  unfold CompoundSelector.matchesNode CompoundSelector.Describes
  cases tree.element? node with
  | none => simp
  | some e =>
    -- Tag names are compared in lower case.
    have htag : c.tag?.all (Text.eqIgnoringCase e.name) ↔
        ∀ tag, c.tag? = some tag → Text.lower e.name = Text.lower tag := by
      cases c.tag? with
      | none => simp
      | some tag =>
        simp [Text.eqIgnoringCase, Chars.eqIgnoringCase, Text.lower, String.ofList_inj]
    simp only [Bool.and_eq_true, htag, List.all_eq_true, Option.some.injEq, exists_eq_left',
      PseudoClass.matchesNode_iff hl, Element.hasClass, List.contains_iff_mem, beq_iff_eq, and_assoc]

/-! ### One combinator -/

/-- **A search meets the nodes of its relation.** -/
theorem Combinator.mem_candidates_iff (hb : tree.Attached b) (r : Combinator) :
    a ∈ r.candidates tree b ↔ r.Relates tree a b := by
  cases r with
  | child => exact Option.mem_toList
  | descendant => exact hl.mem_ancestors_iff hb
  | nextSibling =>
    rw [candidates, Option.mem_toList, hl.previousElement?_eq_some_iff]
    rfl
  | laterSibling => exact hl.mem_elementsBefore_iff

/-- What an attached node is related to is attached too. -/
theorem Combinator.Relates.attached {r : Combinator} (h : r.Relates tree a b)
    (hb : tree.Attached b) : tree.Attached a := by
  -- A sibling has the same parent, and that is attached.
  have sibling {between : List NodeId} (hf : tree.InFront a between b) : tree.Attached a := by
    obtain ⟨p, hpa, hpb⟩ := hl.parent?_of_inFront hf
    exact (hl.attached_of_ancestor (.single hpb) hb).tail hpa
  cases r with
  | child => exact hl.attached_of_ancestor (.single h) hb
  | descendant => exact hl.attached_of_ancestor h hb
  | nextSibling =>
    obtain ⟨-, between, hf, -⟩ := h
    exact sibling hf
  | laterSibling =>
    obtain ⟨-, between, hf⟩ := h
    exact sibling hf

end Compound

/-! ### Whole selectors -/

namespace Selector

variable {tree : Tree} {node : NodeId}

theorem length_compounds (s : Selector) : s.compounds.length = s.combinators.length + 1 := by
  induction s with
  | compound c => rfl
  | combined left r right ih => simp [compounds, combinators, ih]

theorem describes_compound (c : CompoundSelector) :
    (compound c).Describes tree node ↔ c.Describes tree node := by
  constructor
  · rintro ⟨n, rfl, hc, -⟩
    exact hc 0 c rfl
  · intro h
    refine ⟨fun _ => node, rfl, fun i d hd => ?_, fun i r hr => by simp [combinators] at hr⟩
    rw [compounds, List.getElem?_singleton] at hd
    split at hd
    · cases hd
      exact h
    · cases hd

/-- **The last link of a chain.** A longer selector describes a node if its right end does and the rest
describes a node on the left of it. -/
theorem describes_combined (left : Selector) (r : Combinator) (right : CompoundSelector) :
    (combined left r right).Describes tree node ↔
      right.Describes tree node ∧ ∃ a, r.Relates tree a node ∧ left.Describes tree a := by
  have hlen := left.length_compounds
  constructor
  · rintro ⟨n, rfl, hc, hr⟩
    rw [compounds] at hc
    rw [combinators] at hr
    rw [combinators, List.length_append, List.length_singleton]
    refine ⟨hc _ right ?_, n left.combinators.length, hr _ r List.getElem?_concat_length, n, rfl,
      fun i c hi => hc i c ?_, fun i q hi => hr i q ?_⟩
    · rw [← hlen, List.getElem?_concat_length]
    · rw [List.getElem?_append_left (List.getElem?_eq_some_iff.1 hi).1, hi]
    · rw [List.getElem?_append_left (List.getElem?_eq_some_iff.1 hi).1, hi]
  · rintro ⟨hright, a, hr, n, rfl, hc, hq⟩
    -- The chain of the left side goes on with the node.
    refine ⟨Function.update n (left.combinators.length + 1) node, ?_, ?_, ?_⟩
    · rw [combinators, List.length_append, List.length_singleton, Function.update_self]
    · intro i c hi
      rw [compounds] at hi
      rcases Nat.lt_or_ge i left.compounds.length with hlt | hge
      · rw [List.getElem?_append_left hlt] at hi
        rw [Function.update_of_ne (by omega)]
        exact hc i c hi
      · rw [List.getElem?_append_right hge, List.getElem?_singleton] at hi
        split at hi
        · cases hi
          rw [show i = left.combinators.length + 1 by omega, Function.update_self]
          exact hright
        · cases hi
    · intro i q hi
      rw [combinators] at hi
      rcases Nat.lt_or_ge i left.combinators.length with hlt | hge
      · rw [List.getElem?_append_left hlt] at hi
        rw [Function.update_of_ne (by omega), Function.update_of_ne (by omega)]
        exact hq i q hi
      · rw [List.getElem?_append_right hge, List.getElem?_singleton] at hi
        split at hi
        · cases hi
          obtain rfl : i = left.combinators.length := by omega
          rw [Function.update_self, Function.update_of_ne (by omega)]
          exact hr
        · cases hi

/-- **Matching finds a chain whenever there is one.** By induction on the selector: what a search does not
meet is not related to the node, so nothing is missed. -/
theorem matchesNode_iff (hl : tree.Linked tree.children) (s : Selector) :
    ∀ {node : NodeId}, tree.Attached node →
      (s.matchesNode tree node ↔ s.Describes tree node) := by
  induction s with
  | compound c =>
    intro node _
    rw [matchesNode, describes_compound, c.matchesNode_iff hl]
  | combined left r right ih =>
    intro node hn
    rw [matchesNode, describes_combined, Bool.and_eq_true, right.matchesNode_iff hl, List.any_eq_true]
    refine and_congr_right fun _ => exists_congr fun a => ?_
    rw [r.mem_candidates_iff hl hn]
    exact and_congr_right fun h => ih (h.attached hl hn)

/-- What a selector describes is an element. -/
theorem Describes.isElement {s : Selector} (h : s.Describes tree node) : tree.isElement node := by
  have key {c : CompoundSelector} (hc : c.Describes tree node) : tree.isElement node := by
    obtain ⟨e, he, -⟩ := hc
    rw [Tree.isElement, he, Option.isSome_some]
  cases s with
  | compound c => exact key ((describes_compound c).1 h)
  | combined left r right => exact key ((describes_combined left r right).1 h).1

/-- **Selectors select what they describe.** On the attached nodes of a reachable tree matching agrees with
the meaning of the selector, and the selection of its text holds the attached nodes that it describes,
once each and in document order. -/
theorem selectText_iff_describes (h : tree.Reachable) {text : String} {s : Selector}
    (hs : parse text = .ok s) :
    (∀ node, tree.Attached node → (s.matchesNode tree node ↔ s.Describes tree node)) ∧
      ∃ nodes, selectText tree text = .ok nodes ∧
        (∀ node, node ∈ nodes ↔ tree.Attached node ∧ s.Describes tree node) ∧
        nodes.Nodup ∧ nodes.Pairwise tree.Precedes := by
  have hmatch (node : NodeId) (hn : tree.Attached node) := s.matchesNode_iff h.linked hn
  refine ⟨hmatch, s.select tree, ?_, ?_, h.elements_nodup.filter _, h.elements_pairwise.filter _⟩
  · rw [selectText, hs]
    rfl
  · intro node
    rw [select, List.mem_filter, h.mem_elements_iff]
    constructor
    · rintro ⟨⟨hn, -⟩, hm⟩
      exact ⟨hn, (hmatch node hn).1 hm⟩
    · rintro ⟨hn, hd⟩
      exact ⟨⟨hn, hd.isElement⟩, (hmatch node hn).2 hd⟩

/-- A table with two cells in it. -/
def twoCells : Tree :=
  ⟨#[⟨.document, none, some 1, some 1, none, none⟩,
    ⟨.element (.ofName "table"), some 0, some 2, some 3, none, none⟩,
    ⟨.element (.ofName "td"), some 1, none, none, none, some 3⟩,
    ⟨.element (.ofName "td"), some 1, none, none, some 2, none⟩]⟩

theorem twoCells_reachable : twoCells.Reachable := by
  have h : Tree.Reachable Tree.empty := .refl
  have h := h.tail (.createElement "table")
  have h := h.tail (.createElement "td")
  have h := h.tail (.createElement "td")
  have h := h.tail (@Tree.Step.append _ 0 1 _ rfl)
  have h := h.tail (@Tree.Step.append _ 1 2 _ rfl)
  exact h.tail (@Tree.Step.append _ 1 3 _ rfl)

/-- A cell of a table behind another cell. -/
def laterCell : Selector :=
  .combined (.combined (.compound (.ofParts (some "table") [])) .child (.ofParts (some "td") []))
    .laterSibling (.ofParts (some "td") [])

/-- Of two cells the second one is selected: matching finds it, so there is a chain for it. -/
theorem selectText_laterCell :
    twoCells.Reachable ∧ parse "table > td ~ TD" = .ok laterCell ∧
      laterCell.Describes twoCells 3 ∧ ¬ laterCell.Describes twoCells 2 := by
  have hs : parse "table > td ~ TD" = .ok laterCell := by decide +kernel
  have hattached (node : NodeId) (hp : twoCells.IsParent 1 node) : twoCells.Attached node :=
    (show twoCells.Attached 1 from .single rfl).tail hp
  have hmatch := (selectText_iff_describes twoCells_reachable hs).1
  refine ⟨twoCells_reachable, hs, (hmatch 3 (hattached 3 rfl)).1 (by decide +kernel), fun h => ?_⟩
  have := (hmatch 2 (hattached 2 rfl)).2 h
  revert this
  decide +kernel

end Selector

end HtmlMail.Css
