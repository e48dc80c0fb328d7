import HtmlMail.Html.Markup
import HtmlMail.Proofs.Dom.Order
import Mathlib.Data.Finset.Card
import Mathlib.Order.Interval.Finset.Nat

/-!
# The markup of a node

`Markup.ofNode` goes down from a node to its children, to theirs, and so on; a bound on the depth makes it stop.
Below a grounded node no way down is as long as the tree is large, so a larger bound makes no difference.

* `Markup.ofNode_congr_depth` : two bounds that reach to the ground give the same markup;
* `Markup.ofNode_eq_outer` : the bound that `Markup.outer` takes is such a one;
* `Markup.IsAt`, `Markup.AreAt` : markup that stands at nodes of a tree, said without a bound;
* `Markup.IsAt.outer_eq` : it is the markup of these nodes.
-/

namespace HtmlMail.Html

open Dom Tree

namespace Markup

variable {tree : Tree} {x : NodeId}

/-- **Bounds that reach to the ground.** What counts is that the nodes above `x` and the bound for the nodes below
it are together not less than the tree. -/
theorem ofNode_congr_depth (hl : Linked tree tree.children) : ∀ x, tree.Grounded x →
    ∀ {l : List NodeId} {depth depth' : Nat}, tree.Climbs x l → tree.size ≤ l.length + depth →
      tree.size ≤ l.length + depth' → ofNode tree depth x = ofNode tree depth' x := by
  refine hl.induction_below fun x hx ih => ?_
  intro l depth depth' hclimb hdepth hdepth'
  -- The way up is shorter than the tree is large, so there is some depth left on both sides.
  have hlt := hl.length_climbs_lt hclimb
  obtain ⟨depth, rfl⟩ := Nat.exists_eq_succ_of_ne_zero (show depth ≠ 0 by omega)
  obtain ⟨depth', rfl⟩ := Nat.exists_eq_succ_of_ne_zero (show depth' ≠ 0 by omega)
  have hbelow : (tree.children x).flatMap (ofNode tree depth) =
      (tree.children x).flatMap (ofNode tree depth') := by
    refine List.flatMap_congr fun c hc => ?_
    refine ih c hc (hl.climbs_cons (hl.mem_iff.1 hc) hclimb) ?_ ?_
    · rw [List.length_cons]
      omega
    · rw [List.length_cons]
      omega
  rw [ofNode, ofNode, hbelow]

/-- **The markup of a grounded node** does not depend on the bound of the depth. -/
theorem ofNode_eq_outer (hl : Linked tree tree.children) (hx : tree.Grounded x) {depth : Nat}
    (hdepth : tree.size ≤ depth) : ofNode tree depth x = outer tree x := by
  obtain ⟨l, hclimb⟩ := hx
  exact ofNode_congr_depth hl x ⟨l, hclimb⟩ hclimb (Nat.le_add_left_of_le hdepth) (Nat.le_add_left ..)

/-! ### Markup at nodes of a tree -/

mutual

/-- Whether a piece of markup stands at a node: the node holds what the markup begins with, and what is below it stands
at its children. -/
def IsAt (tree : Tree) : Markup → NodeId → Prop
  | doctype name publicId systemId, x => (tree.get? x).map Node.data = some (.doctype name publicId systemId)
  | element name attributes children, x =>
    (tree.get? x).map Node.data = some (.element ⟨name, ⟨attributes⟩⟩) ∧ AreAt tree children (tree.children x)
  | text content, x => (tree.get? x).map Node.data = some (.text content)
  | comment content, x => (tree.get? x).map Node.data = some (.comment content)

/-- Whether pieces of markup stand at nodes, one at each. -/
def AreAt (tree : Tree) : List Markup → List NodeId → Prop
  | [], [] => True
  | m :: rest, x :: xs => IsAt tree m x ∧ AreAt tree rest xs
  | _, _ => False

end

mutual

/-- Whether markup stands at a node can be computed. -/
instance decidableIsAt (tree : Tree) : ∀ (m : Markup) (x : NodeId), Decidable (IsAt tree m x)
  | .element _ _ children, x =>
    have := decidableAreAt tree children (tree.children x)
    inferInstanceAs (Decidable (_ = _ ∧ AreAt tree children _))
  | .doctype .., _ => inferInstanceAs (Decidable (_ = _))
  | .text _, _ => inferInstanceAs (Decidable (_ = _))
  | .comment _, _ => inferInstanceAs (Decidable (_ = _))

instance decidableAreAt (tree : Tree) : ∀ (F : List Markup) (xs : List NodeId), Decidable (AreAt tree F xs)
  | [], [] => inferInstanceAs (Decidable True)
  | m :: rest, x :: xs =>
    have := decidableIsAt tree m x
    have := decidableAreAt tree rest xs
    inferInstanceAs (Decidable (IsAt tree m x ∧ AreAt tree rest xs))
  | [], _ :: _ => inferInstanceAs (Decidable False)
  | _ :: _, [] => inferInstanceAs (Decidable False)

end

mutual

/-- The number of nodes on the longest way down. -/
def depth : Markup → Nat
  | element _ _ children => depthAll children + 1
  | _ => 1

/-- The number of nodes on the longest way down in pieces of markup. -/
def depthAll : List Markup → Nat
  | [] => 0
  | m :: rest => max (depth m) (depthAll rest)

end

/-- What the node of a piece of markup holds. -/
def data : Markup → NodeData
  | doctype name publicId systemId => .doctype name publicId systemId
  | element name attributes _ => .element ⟨name, ⟨attributes⟩⟩
  | text content => .text content
  | comment content => .comment content

theorem IsAt.data_eq {m : Markup} (h : IsAt tree m x) : (tree.get? x).map Node.data = some m.data := by
  cases m with
  | element => exact h.1
  | doctype => exact h
  | text => exact h
  | comment => exact h

/-- A node that holds an element is one. -/
theorem element?_of_data {e : Element} (h : (tree.get? x).map Node.data = some (.element e)) :
    tree.element? x = some e := by
  obtain ⟨node, hnode, hdata⟩ := Option.map_eq_some_iff.1 h
  rw [element?, hnode, Option.bind_some, Node.element?, hdata]

/-- Other nodes are none. -/
theorem isElement_of_data {data : NodeData} (h : (tree.get? x).map Node.data = some data)
    (hdata : ∀ e, data ≠ .element e) : tree.isElement x = false := by
  obtain ⟨node, hnode, rfl⟩ := Option.map_eq_some_iff.1 h
  rw [isElement, element?, hnode, Option.bind_some, Node.element?]
  split
  · next e he => exact absurd he (hdata e)
  · rfl

mutual

/-- Only one piece of markup stands at a node. -/
theorem IsAt.unique : ∀ {m m' : Markup} {x : NodeId}, IsAt tree m x → IsAt tree m' x → m = m'
  | m, m', x, h, h' => by
    have hdata : m.data = m'.data := Option.some.inj (h.data_eq.symm.trans h'.data_eq)
    match m, m', hdata with
    | doctype .., doctype .., rfl => rfl
    | text _, text _, rfl => rfl
    | comment _, comment _, rfl => rfl
    | element name attributes children, element _ _ children', rfl =>
      rw [AreAt.unique h.2 h'.2]

theorem AreAt.unique : ∀ {F G : List Markup} {xs : List NodeId}, AreAt tree F xs → AreAt tree G xs → F = G
  | [], [], _, _, _ => rfl
  | [], _ :: _, [], _, h => h.elim
  | [], _ :: _, _ :: _, h, _ => h.elim
  | _ :: _, [], [], h, _ => h.elim
  | _ :: _, [], _ :: _, _, h => h.elim
  | _ :: _, _ :: _, [], h, _ => h.elim
  | _ :: _, _ :: _, _ :: _, ⟨hm, hF⟩, ⟨hm', hG⟩ => by rw [IsAt.unique hm hm', AreAt.unique hF hG]

end

mutual

/-- A bound not below the depth of the markup gives it. -/
theorem IsAt.ofNode_eq : ∀ {m : Markup} {x : NodeId} {bound : Nat}, IsAt tree m x → m.depth ≤ bound →
    ofNode tree bound x = [m]
  | m, x, 0, _, hbound => by cases m <;> simp [depth] at hbound
  | doctype .., x, bound + 1, h, _ => by rw [ofNode, show _ = _ from h]
  | text _, x, bound + 1, h, _ => by rw [ofNode, show _ = _ from h]
  | comment _, x, bound + 1, h, _ => by rw [ofNode, show _ = _ from h]
  | element name attributes children, x, bound + 1, h, hbound => by
    rw [IsAt] at h
    rw [depth] at hbound
    have hbelow := AreAt.flatMap_ofNode_eq h.2 (Nat.le_of_succ_le_succ hbound)
    rw [ofNode, h.1, hbelow]

theorem AreAt.flatMap_ofNode_eq : ∀ {F : List Markup} {xs : List NodeId} {bound : Nat}, AreAt tree F xs →
    depthAll F ≤ bound → xs.flatMap (ofNode tree bound) = F
  | [], [], _, _, _ => List.flatMap_nil
  | [], _ :: _, _, h, _ => h.elim
  | _ :: _, [], _, h, _ => h.elim
  | m :: F, x :: xs, bound, ⟨hm, hF⟩, hbound => by
    rw [depthAll, Nat.max_le] at hbound
    rw [List.flatMap_cons, IsAt.ofNode_eq hm hbound.1, AreAt.flatMap_ofNode_eq hF hbound.2, List.singleton_append]

end

mutual

/-- On the way down every smaller depth is met. -/
theorem IsAt.exists_of_le : ∀ {m : Markup} {x : NodeId} {k : Nat}, IsAt tree m x → 1 ≤ k → k ≤ m.depth →
    ∃ m' y, IsAt tree m' y ∧ m'.depth = k
  | m, x, k, h, hpos, hk => by
    rcases Nat.lt_or_eq_of_le hk with hlt | rfl
    · match m with
      | element name attributes children =>
        rw [IsAt] at h
        rw [depth] at hlt
        exact AreAt.exists_of_le h.2 hpos (Nat.le_of_lt_succ hlt)
      | doctype .. | text _ | comment _ =>
        simp only [depth] at hlt
        omega
    · exact ⟨m, x, h, rfl⟩

theorem AreAt.exists_of_le : ∀ {F : List Markup} {xs : List NodeId} {k : Nat}, AreAt tree F xs → 1 ≤ k →
    k ≤ depthAll F → ∃ m' y, IsAt tree m' y ∧ m'.depth = k
  | [], _, k, _, hpos, hk => by
    rw [depthAll] at hk
    omega
  | _ :: _, [], _, h, _, _ => h.elim
  | m :: F, x :: xs, k, ⟨hm, hF⟩, hpos, hk => by
    rw [depthAll] at hk
    rcases le_max_iff.1 hk with hk | hk
    · exact IsAt.exists_of_le hm hpos hk
    · exact AreAt.exists_of_le hF hpos hk

end

theorem IsAt.lt_size {m : Markup} (h : IsAt tree m x) : x < tree.size := by
  obtain ⟨node, hnode, -⟩ := Option.map_eq_some_iff.1 h.data_eq
  exact lt_size_of_get? hnode

/-- **Markup is not deeper than the tree is large.** The nodes on the longest way down differ, because the markup at them
has different depths. -/
theorem IsAt.depth_le_size {m : Markup} (h : IsAt tree m x) : m.depth ≤ tree.size := by
  have hmeets (k : Nat) : ∃ part node, k ∈ Finset.Icc 1 m.depth → IsAt tree part node ∧ part.depth = k := by
    by_cases hk : k ∈ Finset.Icc 1 m.depth
    · obtain ⟨hpos, hle⟩ := Finset.mem_Icc.1 hk
      obtain ⟨part, node, hpart⟩ := IsAt.exists_of_le h hpos hle
      exact ⟨part, node, fun _ => hpart⟩
    · exact ⟨m, x, fun hin => absurd hin hk⟩
  -- Each depth is met at a node of its own, so there are as many nodes as depths.
  choose part node hpart using hmeets
  have hmaps : Set.MapsTo node (Finset.Icc 1 m.depth) (Finset.range tree.size) := fun k hk =>
    Finset.mem_coe.2 (Finset.mem_range.2 (hpart k hk).1.lt_size)
  have hinj : Set.InjOn node (Finset.Icc 1 m.depth) := by
    intro k hk l hl hsame
    obtain ⟨hat, hdepth⟩ := hpart k hk
    obtain ⟨hat', hdepth'⟩ := hpart l hl
    rw [hsame] at hat
    rw [← hdepth, ← hdepth', hat.unique hat']
  have hcard := Finset.card_le_card_of_injOn node hmaps hinj
  rwa [Nat.card_Icc, Nat.add_sub_cancel, Finset.card_range] at hcard

/-- **The markup at a node** is the markup that the node stands for. -/
theorem IsAt.outer_eq {m : Markup} (h : IsAt tree m x) : outer tree x = [m] := h.ofNode_eq h.depth_le_size

theorem AreAt.flatMap_outer : ∀ {F : List Markup} {xs : List NodeId}, AreAt tree F xs → xs.flatMap (outer tree) = F
  | [], [], _ => List.flatMap_nil
  | [], _ :: _, h => h.elim
  | _ :: _, [], h => h.elim
  | m :: F, x :: xs, ⟨hm, hF⟩ => by
    rw [List.flatMap_cons, hm.outer_eq, hF.flatMap_outer, List.singleton_append]

end Markup

end HtmlMail.Html
