import HtmlMail.Css.Selector.Basic
import HtmlMail.Proofs.Dom.Calls

/-!
# Elements side by side

The closest element in front of a node is looked for along the links to the previous sibling, and the closest one
behind it along the links to the next sibling. Both of them are said here with the list of the elements among the
children of the parent: they are the neighbours in that list, however many texts and comments lie between the elements.

* `Seeks` : looking for an element along some links, without a bound on the steps;
* `Follows.seeks` : along links that end it finds the first element that they lead to, by induction on the walk;
* `Linked.exists_children_eq` : the list of the children behind a list of elements, and with it the two neighbours of
  an element (`Linked.seeks_previous`, `Linked.seeks_next`);
* `neighbours_of_reachable` : the neighbours of an element, and the pseudo-classes that ask for them.
-/

namespace HtmlMail.Dom

namespace Tree

variable {tree : Tree} {kids : NodeId → List NodeId} {step : Node → Option NodeId} {start : Option NodeId}
  {found : Option NodeId} {e p : NodeId} {l xs ys : List NodeId}

/-! ### Looking for an element -/

/-- **Looking for an element** along the links `step`. It ends at the first element, with no element where the links
end or lead out of the tree, and otherwise goes on from the next node. -/
inductive Seeks (tree : Tree) (step : Node → Option NodeId) : Option NodeId → Option NodeId → Prop
  | nowhere : Seeks tree step none none
  | outside {id : NodeId} (h : tree.get? id = none) : Seeks tree step (some id) none
  | element {id : NodeId} {n : Node} (hn : tree.get? id = some n) (he : n.isElement) :
      Seeks tree step (some id) (some id)
  | onward {id : NodeId} {n : Node} {found : Option NodeId} (hn : tree.get? id = some n) (he : ¬ n.isElement)
      (h : Seeks tree step (step n) found) : Seeks tree step (some id) found

/-- What is found is determined by the start. -/
theorem Seeks.unique (h : tree.Seeks step start found) :
    ∀ {other}, tree.Seeks step start other → found = other := by
  induction h with
  | nowhere =>
    intro other ho
    cases ho
    rfl
  | outside hn =>
    intro other ho
    cases ho with
    | outside => rfl
    | element hn' => cases hn.symm.trans hn'
    | onward hn' => cases hn.symm.trans hn'
  | element hn he =>
    intro other ho
    cases ho with
    | outside hn' => cases hn.symm.trans hn'
    | element => rfl
    | onward hn' he' =>
      cases hn.symm.trans hn'
      exact absurd he he'
  -- Both searches go on from the same node.
  | onward hn he _ ih =>
    intro other ho
    cases ho with
    | outside hn' => cases hn.symm.trans hn'
    | element hn' he' =>
      cases hn.symm.trans hn'
      exact absurd he' he
    | onward hn' _ h' =>
      cases hn.symm.trans hn'
      exact ih h'

theorem isElement_of_get? {id : NodeId} {n : Node} (hn : tree.get? id = some n) :
    tree.isElement id = n.isElement := by
  rw [isElement, element?, hn, Option.bind_some, Node.isElement]

/-- **Along links that end** the first element is found that they lead to. -/
theorem Follows.seeks (h : tree.Follows step start l) : tree.Seeks step start (l.filter tree.isElement).head? := by
  induction h with
  | nowhere => exact .nowhere
  | @onward id n l hn _ ih =>
    by_cases he : n.isElement
    · rw [List.filter_cons_of_pos (by rwa [isElement_of_get? hn]), List.head?_cons]
      exact .element hn he
    · rw [List.filter_cons_of_neg (by rwa [isElement_of_get? hn])]
      exact .onward hn he ih

/-! ### The elements among the children -/

namespace Linked

/-- Where a list of elements is cut, the list of the children is cut, too. -/
theorem exists_children_eq (h : tree.elementChildren p = xs ++ e :: ys) :
    ∃ before after, tree.children p = before ++ e :: after ∧
      before.filter tree.isElement = xs ∧ after.filter tree.isElement = ys := by
  obtain ⟨front, rest, hk, hxs, hrest⟩ := List.filter_eq_append_iff.1 h
  -- What lies between the last element in front and `e` are no elements.
  obtain ⟨gap, after, rfl, hgap, -, hys⟩ := List.filter_eq_cons_iff.1 hrest
  refine ⟨front ++ gap, after, by rw [hk, List.append_assoc], ?_, hys⟩
  rw [List.filter_append, List.filter_eq_nil_iff.2 hgap, List.append_nil, hxs]

variable (hl : Linked tree tree.children)
include hl

/-- **The closest element in front** is the last one of those in front in the list. -/
theorem seeks_previous (h : tree.elementChildren p = xs ++ e :: ys) :
    tree.Seeks (·.previous) ((tree.get? e).bind (·.previous)) xs.getLast? ∧
      tree.previousElement? e = xs.getLast? := by
  obtain ⟨before, after, hk, rfl, -⟩ := exists_children_eq h
  obtain ⟨n, hn⟩ := hl.get?_of_mem (c := e) (p := p) (by rw [hk]; simp)
  have hlast : (before.reverse.filter tree.isElement).head? = (before.filter tree.isElement).getLast? := by
    rw [List.filter_reverse, List.head?_reverse]
  -- The links lead through what is in front of it in reverse.
  constructor
  · rw [hn, Option.bind_some, (hl.beside hk hn).1, ← hlast]
    exact (hl.follows_previous hk).seeks
  · rw [previousElement?, hl.elementsBefore_eq hk, hlast]

/-- **The closest element behind** is the first one of those behind in the list. -/
theorem seeks_next (h : tree.elementChildren p = xs ++ e :: ys) :
    tree.Seeks (·.next) ((tree.get? e).bind (·.next)) ys.head? ∧ tree.nextElement? e = ys.head? := by
  obtain ⟨before, after, hk, -, rfl⟩ := exists_children_eq h
  obtain ⟨n, hn⟩ := hl.get?_of_mem (c := e) (p := p) (by rw [hk]; simp)
  constructor
  · rw [hn, Option.bind_some, (hl.beside hk hn).2]
    rw [List.append_cons] at hk
    exact (hl.follows_next hk).seeks
  · rw [nextElement?, hl.elementsAfter_eq hk]

theorem nodup_elementChildren (p : NodeId) : (tree.elementChildren p).Nodup := (hl.nodup p).filter _

/-- An element is among the elements of its parent. -/
theorem mem_elementChildren (he : tree.isElement e) (hp : tree.parent? e = some p) : e ∈ tree.elementChildren p :=
  List.mem_filter.2 ⟨hl.mem_iff.2 hp, he⟩

end Linked

end Tree

end HtmlMail.Dom

namespace HtmlMail.Css

open Dom

variable {e : NodeId} {xs ys : List NodeId}

/-! ### The ends of a list -/

/-- In a list without repetition an entry is the first one exactly if nothing is in front of it. -/
theorem head?_eq_some_iff_eq_nil (hnd : (xs ++ e :: ys).Nodup) : (xs ++ e :: ys).head? = some e ↔ xs = [] := by
  cases xs with
  | nil => simp
  | cons x xs =>
    rw [List.cons_append] at hnd ⊢
    have hne : x ≠ e := fun h => (List.nodup_cons.1 hnd).1 (h ▸ List.mem_append_right xs List.mem_cons_self)
    simp [hne]

/-- In a list without repetition an entry is the last one exactly if nothing is behind it. -/
theorem getLast?_eq_some_iff_eq_nil (hnd : (xs ++ e :: ys).Nodup) :
    (xs ++ e :: ys).getLast? = some e ↔ ys = [] := by
  have hr : (xs ++ e :: ys).reverse = ys.reverse ++ e :: xs.reverse := by simp
  rw [← List.head?_reverse, hr, head?_eq_some_iff_eq_nil (hr ▸ List.nodup_reverse.2 hnd), List.reverse_eq_nil_iff]

/-- **Elements side by side.** In a reachable tree an element with a parent is once among the elements of that. Wherever
it stands there, looking for an element along the links to the previous sibling ends with the last one of those in
front, or without one if there is none, and along the links to the next sibling with the first one of those behind.
So the pseudo-classes say which places it has in the list: the first one, the last one, or both. -/
theorem neighbours_of_reachable {tree : Tree} (h : tree.Reachable) {e p : NodeId} (he : tree.isElement e)
    (hp : tree.parent? e = some p) :
    (tree.elementChildren p).count e = 1 ∧
    (∀ xs ys, tree.elementChildren p = xs ++ e :: ys →
      tree.previousElement? e = xs.getLast? ∧ tree.nextElement? e = ys.head? ∧
      (∀ found, tree.Seeks (·.previous) ((tree.get? e).bind (·.previous)) found ↔ found = xs.getLast?) ∧
      ∀ found, tree.Seeks (·.next) ((tree.get? e).bind (·.next)) found ↔ found = ys.head?) ∧
    (PseudoClass.firstChild.matchesNode tree e ↔ (tree.elementChildren p).head? = some e) ∧
    (PseudoClass.lastChild.matchesNode tree e ↔ (tree.elementChildren p).getLast? = some e) ∧
    (PseudoClass.onlyChild.matchesNode tree e ↔ tree.elementChildren p = [e]) := by
  have hl := h.linked
  have hmem := hl.mem_elementChildren he hp
  have hnd := hl.nodup_elementChildren p
  refine ⟨List.count_eq_one_of_mem hnd hmem, fun xs ys hk => ?_, ?_⟩
  · obtain ⟨hback, hprevious⟩ := hl.seeks_previous hk
    obtain ⟨hon, hnext⟩ := hl.seeks_next hk
    exact ⟨hprevious, hnext, fun found => ⟨fun hf => hf.unique hback, fun hf => hf ▸ hback⟩,
      fun found => ⟨fun hf => hf.unique hon, fun hf => hf ▸ hon⟩⟩
  · obtain ⟨xs, ys, hk⟩ := List.append_of_mem hmem
    have hfirst : (tree.previousElement? e).isNone ↔ xs = [] := by
      rw [(hl.seeks_previous hk).2, Option.isNone_iff_eq_none, List.getLast?_eq_none_iff]
    have hlast : (tree.nextElement? e).isNone ↔ ys = [] := by
      rw [(hl.seeks_next hk).2, Option.isNone_iff_eq_none, List.head?_eq_none_iff]
    rw [hk] at hnd ⊢
    refine ⟨hfirst.trans (head?_eq_some_iff_eq_nil hnd).symm,
      hlast.trans (getLast?_eq_some_iff_eq_nil hnd).symm, ?_⟩
    rw [PseudoClass.matchesNode, Bool.and_eq_true, hfirst, hlast]
    -- Nothing on either side is what makes the list that of the element alone.
    constructor
    · rintro ⟨rfl, rfl⟩
      rfl
    · intro halone
      simpa [List.append_eq_cons_iff] using halone

/-- A list with two items, and with a text and a comment between them. -/
def twoItems : Tree :=
  Tree.afterCalls [.createElement "ul", .createElement "li", .createText " ", .createComment "x",
    .createElement "li", .append 1 2, .append 1 3, .append 1 4, .append 1 5]

/-- The second item follows the first one and is the last child. -/
theorem neighbours_of_reachable_items :
    twoItems.previousElement? 5 = some 2 ∧ PseudoClass.lastChild.matchesNode twoItems 5 := by
  have hreachable : twoItems.Reachable := Tree.reachable_afterCalls _
  obtain ⟨-, hcut, -, hlast, -⟩ := neighbours_of_reachable hreachable (e := 5) (p := 1)
    (by decide +kernel) (by decide +kernel)
  exact ⟨(hcut [2] [] (by decide +kernel)).1, hlast.2 (by decide +kernel)⟩

end HtmlMail.Css
