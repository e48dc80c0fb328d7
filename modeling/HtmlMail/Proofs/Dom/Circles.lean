import HtmlMail.Proofs.Dom.Frame
import HtmlMail.Proofs.Dom.Traversal
import HtmlMail.Proofs.Html.NodeMarkup
import Mathlib.Data.Fintype.EquivFin
import Mathlib.Tactic.TFAE

/-!
# Circles

A node can be appended to a node that stands below it, as long as it has no parent itself: the checks of `append`
look at the two nodes and not at what is above them. Such a call closes a circle, and a circle stays, since no
operation takes a parent away. Nothing else makes one (`Tree.acyclic_apply_iff`).

The nodes of a circle are never attached, and walks from the document do not meet them. Walks from a node of the
circle do not end. So the following are the same for a tree that calls have produced
(`Tree.tfae_acyclic`): no call has closed a circle; no node stands above itself; every walk upwards ends; every
walk downwards ends.

`Tree.ancestor_afterCalls_circle` is the smallest circle, made of two nodes.
-/

namespace HtmlMail.Dom

namespace Tree

variable {tree tree' : Tree} {parent child a b x y : NodeId} {nodes l : List NodeId}

/-- No node stands above itself. -/
def Acyclic (tree : Tree) : Prop := ∀ x, ¬ tree.Ancestor x x

/-- A call closes a circle if it succeeds in appending a node to one that stands below it. -/
def Call.ClosesCircle (tree : Tree) : Call → Prop
  | append parent child => tree.CanAppend parent child ∧ tree.Ancestor child parent
  | _ => False

/-! ### What a call does to the nodes above -/

theorem acyclic_congr (h : ∀ id, tree'.parent? id = tree.parent? id) :
    tree'.Acyclic ↔ tree.Acyclic := by
  have hparent : tree'.IsParent = tree.IsParent := by
    funext p c
    rw [IsParent, IsParent, h]
  rw [Acyclic, Acyclic, Ancestor, Ancestor, hparent]

section Append

variable (h : tree.append parent child = .ok tree')
include h

/-- Appending makes one more node a parent. -/
theorem isParent_append_iff : tree'.IsParent a b ↔ tree.IsParent a b ∨ a = parent ∧ b = child := by
  obtain ⟨-, -, p, c, -, hc, hno, rfl⟩ := append_eq_ok_iff.1 h
  rw [IsParent, Linked.parent?_link hc]
  split
  · next hb =>
    subst hb
    have hnone : ¬ tree.IsParent a b :=
      not_isParent_of_parent?_eq_none ((Linked.parent?_of_get? hc).trans hno)
    rw [Option.some_inj]
    exact ⟨fun h => .inr ⟨h.symm, rfl⟩, fun h => (h.resolve_left hnone).1.symm⟩
  · next hb => exact ⟨.inl, fun h => h.resolve_right fun h => hb h.2⟩

/-- What stands above a node still does after an append. -/
theorem Ancestor.append (hab : tree.Ancestor a b) : tree'.Ancestor a b :=
  Relation.TransGen.mono (fun _ _ hp => (isParent_append_iff h).2 (.inl hp)) _ _ hab

/-- **What stands above a node after an append** stood there before, or is above it by way of the new child. -/
theorem ancestor_or_of_append (hab : tree'.Ancestor a b) :
    tree.Ancestor a b ∨ tree.Within a parent ∧ tree.Within child b := by
  induction hab with
  | single hp =>
    rcases (isParent_append_iff h).1 hp with hp | ⟨rfl, rfl⟩
    · exact .inl (.single hp)
    · exact .inr ⟨.refl, .refl⟩
  | tail _ hp ih =>
    rcases (isParent_append_iff h).1 hp with hp | ⟨rfl, rfl⟩
    · exact ih.imp (·.tail hp) fun ⟨ha, hc⟩ => ⟨ha, hc.tail hp⟩
    · -- The last step is the new one, so all that is above the parent is above the child.
      exact .inr ⟨ih.elim (·.to_reflTransGen) (·.1), .refl⟩

/-- **Appending keeps circles away** unless the child stands above its new parent. -/
theorem acyclic_append_iff :
    tree'.Acyclic ↔ tree.Acyclic ∧ ¬ tree.Ancestor child parent := by
  constructor
  · refine fun hac => ⟨fun x hx => hac x (hx.append h), fun hx => hac child ?_⟩
    exact (hx.append h).tail ((isParent_append_iff h).2 (.inr ⟨rfl, rfl⟩))
  · rintro ⟨hac, habove⟩ x hx
    rcases ancestor_or_of_append h hx with hx | ⟨hxp, hcx⟩
    · exact hac x hx
    · -- The circle leads from the child to its parent.
      rcases Relation.reflTransGen_iff_eq_or_transGen.1 (hcx.trans hxp) with he | ha
      · exact (append_eq_ok_iff.1 h).1 he
      · exact habove ha

end Append

/-- **What a call does to circles.** A call leaves the tree without circles exactly if there was none before and
it closes none. -/
theorem acyclic_apply_iff (tree : Tree) (call : Call) :
    (call.apply tree).Acyclic ↔ tree.Acyclic ∧ ¬ call.ClosesCircle tree := by
  cases call with
  | append parent child =>
    cases h : tree.append parent child with
    | ok tree' =>
      have hcan := exists_append_eq_ok_iff.1 ⟨tree', h⟩
      rw [Call.apply_append_of_ok h, acyclic_append_iff h, Call.ClosesCircle, and_iff_right hcan]
    | error e =>
      have hcan : ¬ tree.CanAppend parent child := fun hcan => by
        obtain ⟨tree', h'⟩ := exists_append_eq_ok_iff.2 hcan
        rw [h] at h'
        cases h'
      rw [Call.apply_append_of_error h, Call.ClosesCircle]
      exact (and_iff_left fun hc => hcan hc.1).symm
  -- All other calls leave the parents as they are, and close no circle.
  | createElement name => exact (acyclic_congr (Linked.parent?_create tree _)).trans (and_iff_left id).symm
  | createText content => exact (acyclic_congr (Linked.parent?_create tree _)).trans (and_iff_left id).symm
  | createComment content => exact (acyclic_congr (Linked.parent?_create tree _)).trans (and_iff_left id).symm
  | createDoctype name publicId systemId =>
    exact (acyclic_congr (Linked.parent?_create tree _)).trans (and_iff_left id).symm
  | setAttribute node name value =>
    refine Iff.trans ?_ (and_iff_left id).symm
    rw [Call.apply, setAttribute]
    split
    · next h =>
      split at h
      · cases h
        exact acyclic_congr fun _ => (attributesChanged_modifyAttributes tree node _).parent?_eq
      · cases h
    · exact Iff.rfl
  | removeAttribute node name =>
    exact (acyclic_congr fun _ =>
      (attributesChanged_modifyAttributes tree node _).parent?_eq).trans (and_iff_left id).symm

/-- **Circles come from calls that close them**, and from nothing else. -/
theorem acyclic_afterCalls_iff (calls : List Call) : (afterCalls calls).Acyclic ↔
    ∀ before call after, calls = before ++ call :: after → ¬ call.ClosesCircle (afterCalls before) := by
  induction calls using List.reverseRecOn with
  | nil =>
    refine ⟨fun _ before call after he => by simp at he, fun _ x hx => ?_⟩
    obtain ⟨p, -, hp⟩ := Relation.TransGen.tail'_iff.1 hx
    exact absurd (Linked.empty.mem_iff.2 hp) List.not_mem_nil
  | append_singleton calls last ih =>
    rw [afterCalls_concat, acyclic_apply_iff, ih]
    constructor
    · rintro ⟨hcalls, hlast⟩ before call after he
      -- The call is the last one, or one of those before it.
      rcases List.eq_nil_or_concat after with rfl | ⟨after, d, rfl⟩
      · obtain ⟨rfl, hcall⟩ := List.append_inj' he rfl
        obtain ⟨rfl, -⟩ := List.cons.inj hcall
        exact hlast
      · rw [List.concat_eq_append, ← List.cons_append, ← List.append_assoc] at he
        exact hcalls before call after (List.append_inj' he rfl).1
    · intro h
      refine ⟨fun before call after he => h before call (after ++ [last]) ?_, h calls last [] rfl⟩
      rw [he, List.append_assoc, List.cons_append]

/-! ### Walks that end -/

/-- **Without circles every node is grounded**: there are only so many nodes to climb. -/
theorem Acyclic.grounded (hac : tree.Acyclic) (hl : Linked tree tree.children) (x : NodeId) :
    tree.Grounded x := by
  let above (a b : Fin tree.size) : Prop := tree.Ancestor a b
  have : IsTrans (Fin tree.size) above := ⟨fun _ _ _ => Relation.TransGen.trans⟩
  have : Std.Irrefl above := ⟨fun a => hac a⟩
  have hwf : WellFounded above := Finite.wellFounded_of_trans_of_irrefl above
  have key (a : Fin tree.size) : tree.Grounded a := by
    induction a using hwf.induction with
    | _ a ih =>
      cases hp : tree.parent? a with
      | none => exact ⟨[], climbs_nil hp⟩
      | some p =>
        obtain ⟨n, hn⟩ := hl.parent_mem hp
        obtain ⟨l, h⟩ := ih ⟨p, lt_size_of_get? hn⟩ (.single hp)
        exact ⟨p :: l, hl.climbs_cons hp h⟩
  by_cases hx : x < tree.size
  · exact key ⟨x, hx⟩
  · -- Past the end of the tree there are no parents.
    refine ⟨[], climbs_nil ?_⟩
    rw [parent?, get?, Array.getElem?_eq_none (Nat.le_of_not_lt hx), Option.bind_none]

/-- A walk that ends comes to each of its nodes, and from there on it is shorter. -/
theorem Walks.exists_of_mem (h : tree.Walks nodes l) (hx : x ∈ nodes) :
    ∃ rest m, tree.Walks (tree.children x ++ rest) m ∧ m.length < l.length := by
  induction h with
  | done => cases hx
  | @visit y rest l h ih =>
    rcases List.mem_cons.1 hx with rfl | hx
    · exact ⟨rest, l, h, Nat.lt_succ_self _⟩
    · obtain ⟨rest, m, hm, hlt⟩ := ih (List.mem_append_right _ hx)
      exact ⟨rest, m, hm, Nat.lt_succ_of_lt hlt⟩

/-- A walk that ends comes to whatever stands below, and from there on it is shorter. -/
theorem Walks.exists_of_ancestor (hl : Linked tree tree.children) (hxy : tree.Ancestor x y) :
    ∀ {rest l : List NodeId}, tree.Walks (tree.children x ++ rest) l →
      ∃ rest m, tree.Walks (tree.children y ++ rest) m ∧ m.length < l.length := by
  -- Down the parents, and at each of them what is left to walk gets shorter.
  induction hxy with
  | single hp =>
    intro rest l h
    exact h.exists_of_mem (List.mem_append_left _ (hl.mem_iff.2 hp))
  | tail _ hp ih =>
    intro rest l h
    obtain ⟨rest, m, hm, hlt⟩ := ih h
    obtain ⟨rest, m', hm', hlt'⟩ := hm.exists_of_mem (List.mem_append_left _ (hl.mem_iff.2 hp))
    exact ⟨rest, m', hm', hlt'.trans hlt⟩

/-- **A walk through a circle does not end**: it would come to its start again and be shorter than it is. -/
theorem Walks.not_ancestor_self (hl : Linked tree tree.children) {rest : List NodeId}
    (h : tree.Walks (tree.children x ++ rest) l) : ¬ tree.Ancestor x x := by
  intro hx
  induction hn : l.length using Nat.strong_induction_on generalizing rest l with
  | _ n ih =>
    obtain ⟨rest, m, hm, hlt⟩ := Walks.exists_of_ancestor hl hx h
    exact ih m.length (hn ▸ hlt) hm rfl

/-- **Circles and walks.** For the tree that calls leave behind the following are the same: no call has closed a
circle; no node stands above itself; the walk upwards from every node ends; the walk downwards from every
node ends. And then the markup of every node, which is read off on a way down, is the same for all bounds of
the depth that are not less than the tree. -/
theorem tfae_acyclic (calls : List Call) :
    List.TFAE [
      ∀ before call after, calls = before ++ call :: after → ¬ call.ClosesCircle (afterCalls before),
      ∀ x, ¬ (afterCalls calls).Ancestor x x,
      ∀ x, (afterCalls calls).Climbs x ((afterCalls calls).ancestors x),
      ∀ x, (afterCalls calls).Walks ((afterCalls calls).children x)
        ((afterCalls calls).descendants x)] ∧
    ((∀ x, ¬ (afterCalls calls).Ancestor x x) → ∀ x depth, (afterCalls calls).size ≤ depth →
      Html.Markup.ofNode (afterCalls calls) depth x = Html.Markup.outer (afterCalls calls) x) := by
  have hl := (reachable_afterCalls calls).linked
  constructor
  · tfae_have 1 ↔ 2 := (acyclic_afterCalls_iff calls).symm
    tfae_have 2 → 3 := by
      intro hac x
      obtain ⟨l, h⟩ := Acyclic.grounded hac hl x
      rwa [hl.ancestors_eq h]
    tfae_have 3 → 4 := fun hclimbs x => hl.walks_descendants ⟨_, hclimbs x⟩
    -- What a walk through the children of `x` lists cannot have `x` in it.
    tfae_have 4 → 2 := by
      intro hwalks x
      have h := hwalks x
      rw [← List.append_nil ((afterCalls calls).children x)] at h
      exact h.not_ancestor_self hl
    tfae_finish
  · intro hac x depth hdepth
    exact Html.Markup.ofNode_eq_outer hl (Acyclic.grounded hac hl x) hdepth

/-- Two elements, each appended to the other. -/
def circle : List Call :=
  [.createElement "a", .createElement "b", .append 1 2, .append 2 1]

/-- **A circle of two nodes**: the second append succeeds, though the child stands above its parent. -/
theorem ancestor_afterCalls_circle : (afterCalls circle).Ancestor 1 1 := by
  have hdown : (afterCalls circle).parent? 2 = some 1 := by decide +kernel
  have hup : (afterCalls circle).parent? 1 = some 2 := by decide +kernel
  exact .head hdown (.single hup)

end Tree

end HtmlMail.Dom
