import HtmlMail.Dom.Tree
import Mathlib.Data.List.Basic
import Mathlib.Data.List.Nodup
import Mathlib.Data.List.Perm.Subperm
import Mathlib.Logic.Function.Basic
import Mathlib.Logic.Relation

/-!
# The links of reachable trees

A node carries five links, and they say the same thing several times over: what a parent lists as its
children is what the children know of their parent and of each other. `Tree.Linked` says so, with the
lists of children as a parameter `kids`:

* the first and the last child of a node are the ends of its list;
* a node is in the list of `p` exactly if `p` is its parent, and it is there once;
* the neighbours of a node are its neighbours in the list of its parent, and a node without a parent
  has none.

The operations that change a tree are collected in `Tree.Step`. Each one keeps the links in order
(`Linked.of_step`): only `append` touches them, and it puts the child at the end of one list. Hence every
tree that the operations produce has its links in order (`Reachable.linked`), and there the lists are the
ones that `Tree.children` reads off (`Linked.children_eq`).

Nothing here says that a parent stands above its child: the operations can close a circle of nodes that
are not below the document.
-/

namespace HtmlMail.Dom

namespace Tree

variable {tree tree' : Tree} {kids : NodeId → List NodeId} {p c node parent child : NodeId} {n : Node}

/-! ### The operations -/

/-- One use of an operation that changes a tree. -/
inductive Step (tree : Tree) : Tree → Prop
  | createElement (name : String) : Step tree (tree.createElement name).2
  | createText (content : String) : Step tree (tree.create (.text content)).2
  | createComment (content : String) : Step tree (tree.create (.comment content)).2
  | createDoctype (name publicId systemId : String) :
      Step tree (tree.create (.doctype name publicId systemId)).2
  | append {parent child : NodeId} {tree' : Tree} (h : tree.append parent child = .ok tree') :
      Step tree tree'
  | setAttribute {node : NodeId} {name value : String} {tree' : Tree}
      (h : tree.setAttribute node name value = .ok tree') : Step tree tree'
  | removeAttribute (node : NodeId) (name : String) : Step tree (tree.removeAttribute node name)

/-- **Reachable trees**: what any sequence of operations makes of the tree that holds the document
alone. -/
def Reachable (tree : Tree) : Prop := Relation.ReflTransGen Step empty tree

/-- A node after a child has been linked to a parent, behind the node `last`. -/
def linkedNode (parent child : NodeId) (last : Option NodeId) (id : NodeId) (n : Node) : Node where
  data := n.data
  parent := if id = child then some parent else n.parent
  firstChild := if id = parent then some (n.firstChild.getD child) else n.firstChild
  lastChild := if id = parent then some child else n.lastChild
  previous := if id = child then last else n.previous
  next := if last = some id then some child else if id = child then none else n.next

/-- The links after `link`, node by node. -/
theorem get?_link (tree : Tree) (parent child : NodeId) (last : Option NodeId) (id : NodeId) :
    (tree.link parent child last).get? id
      = (tree.get? id).map (linkedNode parent child last id) := by
  cases hn : tree.get? id with
  | none => cases last <;> simp [link, get?_modify, hn]
  | some n =>
    cases last with
    -- No child so far: the parent and the new child are all that changes.
    | none =>
      by_cases hc : child = id <;> by_cases hp : parent = id <;>
        simp [link, get?_modify, linkedNode, hn, hc, hp, eq_comm (a := id)]
    | some l =>
      by_cases hc : child = id <;> by_cases hp : parent = id <;> by_cases hl : l = id <;>
        simp [link, get?_modify, linkedNode, hn, hc, hp, hl, eq_comm (a := id)]

/-- **When a node can be appended**, and what becomes of the tree. -/
theorem append_eq_ok_iff :
    tree.append parent child = .ok tree' ↔
      parent ≠ child ∧ child ≠ root ∧ ∃ p c, tree.get? parent = some p ∧ tree.get? child = some c ∧
        c.parent = none ∧ tree' = tree.link parent child p.lastChild := by
  unfold append
  constructor
  · -- All checks but the last one fail, and behind that one nothing can go wrong.
    intro h
    split at h
    · cases h
    · next hne =>
      split at h
      · cases h
      · cases h
      · next p c hp hc =>
        split at h
        · cases h
        · next hno =>
          cases h
          exact ⟨fun h => hne (.inl h), fun h => hne (.inr h), p, c, hp, hc,
            by simpa using hno, rfl⟩
  · rintro ⟨hpc, hcr, p, c, hp, hc, hno, rfl⟩
    simp [hpc, hcr, hp, hc, hno]

/-! ### Links in order -/

/-- **The links of a tree are in order**: they are those of the lists of children `kids`. -/
structure Linked (tree : Tree) (kids : NodeId → List NodeId) : Prop where
  /-- The first and the last child are the ends of the list. -/
  ends {p : NodeId} {n : Node} : tree.get? p = some n →
    n.firstChild = (kids p).head? ∧ n.lastChild = (kids p).getLast?
  /-- The list of a node holds those whose parent it is. -/
  mem_iff {p c : NodeId} : c ∈ kids p ↔ tree.parent? c = some p
  /-- Nothing is listed twice. -/
  nodup (p : NodeId) : (kids p).Nodup
  /-- The neighbours of a node are its neighbours in the list. -/
  beside {p c : NodeId} {n : Node} {before after : List NodeId} :
    kids p = before ++ c :: after → tree.get? c = some n →
      n.previous = before.getLast? ∧ n.next = after.head?
  /-- A node without a parent has no neighbours. -/
  alone {c : NodeId} {n : Node} : tree.get? c = some n → n.parent = none →
    n.previous = none ∧ n.next = none
  /-- Parents are nodes of the tree. -/
  parent_mem {p c : NodeId} : tree.parent? c = some p → ∃ n, tree.get? p = some n
  /-- The document has no parent. -/
  document : ∃ n, tree.get? root = some n ∧ n.data = .document ∧ n.parent = none

namespace Linked

theorem parent?_of_get? (h : tree.get? node = some n) : tree.parent? node = n.parent := by
  rw [parent?, h, Option.bind_some]

theorem get?_of_parent? (h : tree.parent? c = some p) :
    ∃ n, tree.get? c = some n ∧ n.parent = some p :=
  Option.bind_eq_some_iff.1 h

/-- A child is not its own parent's last child before it is linked: it has no parent yet. -/
theorem not_mem_of_parent_eq_none (hl : Linked tree kids) (hc : tree.get? c = some n)
    (hno : n.parent = none) (p : NodeId) : c ∉ kids p := by
  intro hmem
  have := hl.mem_iff.1 hmem
  rw [parent?_of_get? hc, hno] at this
  cases this

/-- Past the end of the tree nothing is listed. -/
theorem kids_eq_nil (hl : Linked tree kids) (hn : tree.get? p = none) : kids p = [] := by
  refine List.eq_nil_iff_forall_not_mem.2 fun c hc => ?_
  obtain ⟨n, hp⟩ := hl.parent_mem (hl.mem_iff.1 hc)
  rw [hn] at hp
  cases hp

/-- **Changes of content leave the links alone.** -/
theorem of_data (hl : Linked tree kids) (g : NodeId → NodeData → NodeData)
    (hget : ∀ id, tree'.get? id = (tree.get? id).map fun n => { n with data := g id n.data })
    (hdoc : ∀ id, g id .document = .document) : Linked tree' kids := by
  -- The links of a node are those of the node it comes from.
  have back {id : NodeId} {n' : Node} (h : tree'.get? id = some n') :
      ∃ n, tree.get? id = some n ∧ { n with data := g id n.data } = n' := by
    rw [hget] at h
    exact Option.map_eq_some_iff.1 h
  have hpar (id : NodeId) : tree'.parent? id = tree.parent? id := by
    rw [parent?, parent?, hget]
    cases tree.get? id <;> rfl
  constructor
  case ends =>
    intro p n' h
    obtain ⟨n, hn, rfl⟩ := back h
    have he := hl.ends hn
    exact he
  case mem_iff =>
    intro p c
    rw [hpar]
    exact hl.mem_iff
  case nodup => exact hl.nodup
  case beside =>
    intro p c n' before after hk h
    obtain ⟨n, hn, rfl⟩ := back h
    have hb := hl.beside hk hn
    exact hb
  case alone =>
    intro c n' h hno
    obtain ⟨n, hn, rfl⟩ := back h
    have ha := hl.alone hn hno
    exact ha
  case parent_mem =>
    intro p c h
    rw [hpar] at h
    obtain ⟨n, hn⟩ := hl.parent_mem h
    refine ⟨{ n with data := g p n.data }, ?_⟩
    rw [hget, hn, Option.map_some]
  case document =>
    obtain ⟨n, hn, hd, hno⟩ := hl.document
    refine ⟨{ n with data := g root n.data }, ?_, ?_, hno⟩
    · rw [hget, hn, Option.map_some]
    · exact hd ▸ hdoc root

/-- The document alone has no links. -/
theorem empty : Linked Tree.empty fun _ => [] := by
  -- The document is the only node.
  have hget (id : NodeId) (n : Node) (h : Tree.empty.get? id = some n) :
      id = root ∧ n = .unlinked .document := by
    rw [Tree.empty, get?, List.getElem?_toArray] at h
    obtain ⟨hid, hn⟩ := List.getElem?_eq_some_iff.1 h
    obtain rfl : id = 0 := Nat.lt_one_iff.1 hid
    exact ⟨rfl, hn.symm⟩
  have hpar (id : NodeId) : Tree.empty.parent? id = none := by
    cases hn : Tree.empty.get? id with
    | none => rw [parent?, hn, Option.bind_none]
    | some n => rw [parent?_of_get? hn, (hget id n hn).2]; rfl
  constructor
  case ends =>
    intro p n h
    rw [(hget p n h).2]
    exact ⟨rfl, rfl⟩
  case mem_iff =>
    intro p c
    rw [hpar]
    simp
  case nodup => exact fun _ => List.nodup_nil
  case beside =>
    intro p c n before after hk
    simp at hk
  case alone =>
    intro c n h _
    rw [(hget c n h).2]
    exact ⟨rfl, rfl⟩
  case parent_mem =>
    intro p c h
    rw [hpar] at h
    cases h
  case document => exact ⟨.unlinked .document, rfl, rfl, rfl⟩

theorem get?_size (tree : Tree) : tree.get? tree.size = none := Array.getElem?_eq_none (Nat.le_refl _)

/-- A new node has no parent, and the others keep theirs. -/
theorem parent?_create (tree : Tree) (data : NodeData) (id : NodeId) :
    (tree.create data).2.parent? id = tree.parent? id := by
  rw [parent?, parent?, get?_create]
  split
  · next h => rw [h, get?_size]; rfl
  · rfl

/-- **A new node is linked to nothing**, and the lists of children stay as they are. -/
theorem create (hl : Linked tree kids) (data : NodeData) : Linked (tree.create data).2 kids := by
  have hroot : root ≠ tree.size := by
    obtain ⟨n, hn, -, -⟩ := hl.document
    exact Nat.ne_of_lt (lt_size_of_get? hn)
  have hnone := get?_size tree
  -- The new node is past the end of the tree, so it was in no list and had none.
  have hkids : kids tree.size = [] := hl.kids_eq_nil hnone
  constructor
  case ends =>
    intro p n h
    rw [get?_create] at h
    split at h
    · next hp =>
      cases h
      rw [hp, hkids]
      exact ⟨rfl, rfl⟩
    · exact hl.ends h
  case mem_iff =>
    intro p c
    rw [parent?_create]
    exact hl.mem_iff
  case nodup => exact hl.nodup
  case beside =>
    intro p c n before after hk h
    have hc : tree.parent? c = some p := hl.mem_iff.1 (by rw [hk]; simp)
    rw [get?_create, if_neg] at h
    · exact hl.beside hk h
    · rintro rfl
      rw [parent?, hnone] at hc
      cases hc
  case alone =>
    intro c n h hno
    rw [get?_create] at h
    split at h
    · cases h
      exact ⟨rfl, rfl⟩
    · exact hl.alone h hno
  case parent_mem =>
    intro p c h
    rw [parent?_create] at h
    obtain ⟨n, hn⟩ := hl.parent_mem h
    refine ⟨n, ?_⟩
    rw [get?_create, if_neg (Nat.ne_of_lt (lt_size_of_get? hn)), hn]
  case document =>
    obtain ⟨n, hn, hd, hno⟩ := hl.document
    exact ⟨n, by rw [get?_create, if_neg hroot, hn], hd, hno⟩

section Append

variable {pn cn : Node} {before after : List NodeId}

/-- A linked node is one from before with other links. -/
theorem exists_of_get?_link {last : Option NodeId} {n' : Node}
    (h : (tree.link parent child last).get? node = some n') :
    ∃ n, tree.get? node = some n ∧ linkedNode parent child last node n = n' := by
  rw [get?_link] at h
  exact Option.map_eq_some_iff.1 h

/-- Linking gives one node a parent. -/
theorem parent?_link (hcn : tree.get? child = some cn) (parent : NodeId) (last : Option NodeId)
    (id : NodeId) : (tree.link parent child last).parent? id
      = if id = child then some parent else tree.parent? id := by
  rw [parent?, parent?, get?_link]
  split
  · next hid => rw [hid, hcn, Option.map_some, Option.bind_some, linkedNode, if_pos rfl]
  · next hid =>
    cases tree.get? id with
    | none => rfl
    | some n => rw [Option.map_some, Option.bind_some, Option.bind_some, linkedNode, if_neg hid]

/-- The last child of a node is not listed for another one. -/
theorem getLast?_ne_of_mem (hl : Linked tree kids) (hc : c ∈ kids p) (hp : p ≠ parent) :
    (kids parent).getLast? ≠ some c := by
  intro hlast
  have hparent := hl.mem_iff.1 (List.mem_of_getLast? hlast)
  rw [hl.mem_iff.1 hc] at hparent
  exact hp (Option.some.inj hparent)

/-- The follower of a listed node, once the list has grown at its end. -/
theorem head?_append_singleton {l : List NodeId} (hk : l = before ++ c :: after) (hnd : l.Nodup) :
    (after ++ [child]).head? = if l.getLast? = some c then some child else after.head? := by
  subst hk
  rcases List.eq_nil_or_concat after with rfl | ⟨rest, last, rfl⟩
  · rw [List.getLast?_concat, if_pos rfl]
    rfl
  · rw [List.concat_eq_append] at hnd ⊢
    -- The last of the list is behind `c`, so it is another node.
    have hne : last ≠ c := by
      rintro rfl
      have hc := (List.nodup_cons.1 (List.nodup_append.1 hnd).2.1).1
      exact hc (List.mem_append_right rest List.mem_cons_self)
    have hlast : (before ++ c :: (rest ++ [last])).getLast? = some last := by
      rw [← List.cons_append, ← List.append_assoc, List.getLast?_concat]
    rw [hlast, if_neg fun h => hne (Option.some.inj h)]
    cases rest <;> rfl

/-- The links of the child that has been linked. -/
theorem beside_link_self (hnew : child ∉ kids parent) (hk : kids parent ++ [child] = before ++ [child])
    (n : Node) : (linkedNode parent child (kids parent).getLast? child n).previous = before.getLast? ∧
      (linkedNode parent child (kids parent).getLast? child n).next = none := by
  have hne : (kids parent).getLast? ≠ some child := fun h => hnew (List.mem_of_getLast? h)
  rw [← List.append_cancel_right hk]
  simp [linkedNode, hne]

/-- The links of a child that was there already. Its follower is the new child if it was the last one. -/
theorem beside_link_of_mem (hl : Linked tree kids) (hnew : child ∉ kids parent)
    (hk : kids parent = before ++ c :: after) (hn : tree.get? c = some n) :
    (linkedNode parent child (kids parent).getLast? c n).previous = before.getLast? ∧
      (linkedNode parent child (kids parent).getLast? c n).next = (after ++ [child]).head? := by
  have hne : c ≠ child := by
    rintro rfl
    exact hnew (by rw [hk]; simp)
  obtain ⟨hprevious, hnext⟩ := hl.beside hk hn
  rw [head?_append_singleton hk (hl.nodup parent)]
  simp only [linkedNode, if_neg hne]
  exact ⟨hprevious, by rw [hnext]⟩

/-- The links of a child of another node. -/
theorem beside_link_of_ne (hl : Linked tree kids) (hnew : child ∉ kids p) (hp : p ≠ parent)
    (hk : kids p = before ++ c :: after) (hn : tree.get? c = some n) :
    (linkedNode parent child (kids parent).getLast? c n).previous = before.getLast? ∧
      (linkedNode parent child (kids parent).getLast? c n).next = after.head? := by
  have hmem : c ∈ kids p := by rw [hk]; simp
  have hne : c ≠ child := fun h => hnew (h ▸ hmem)
  simp only [linkedNode, if_neg hne, if_neg (hl.getLast?_ne_of_mem hmem hp)]
  exact hl.beside hk hn

/-- Only the parent has another first or last child. -/
theorem ends_link (hl : Linked tree kids) (hn : tree.get? p = some n) :
    (linkedNode parent child (kids parent).getLast? p n).firstChild =
        (Function.update kids parent (kids parent ++ [child]) p).head? ∧
      (linkedNode parent child (kids parent).getLast? p n).lastChild =
        (Function.update kids parent (kids parent ++ [child]) p).getLast? := by
  have he := hl.ends hn
  by_cases hp : p = parent
  · -- The new child is the last one, and the first one of a parent that had none.
    subst hp
    rw [Function.update_self, List.getLast?_append]
    simp only [linkedNode, if_pos, he.1]
    cases kids p <;> simp
  · rw [Function.update_of_ne hp]
    simp only [linkedNode, if_neg hp]
    exact he

/-- Only the child is listed anew, and only it has another parent. -/
theorem mem_iff_link (hl : Linked tree kids) (hcn : tree.get? child = some cn) (hno : cn.parent = none)
    (last : Option NodeId) : c ∈ Function.update kids parent (kids parent ++ [child]) p ↔
      (tree.link parent child last).parent? c = some p := by
  rw [parent?_link hcn]
  by_cases hp : p = parent
  · subst hp
    rw [Function.update_self, List.mem_append, List.mem_singleton, hl.mem_iff]
    by_cases hc : c = child
    · simp [hc]
    · simp [hc]
  · -- In the other lists nothing changes: the child was in none of them.
    rw [Function.update_of_ne hp, hl.mem_iff]
    by_cases hc : c = child
    · rw [if_pos hc, hc, parent?_of_get? hcn, hno]
      simp [Ne.symm hp]
    · rw [if_neg hc]

/-- The neighbours of a node are those in the lists that have grown. -/
theorem beside_link (hl : Linked tree kids) (hnew : ∀ p, child ∉ kids p)
    (hk : Function.update kids parent (kids parent ++ [child]) p = before ++ c :: after)
    (hn : tree.get? c = some n) :
    (linkedNode parent child (kids parent).getLast? c n).previous = before.getLast? ∧
      (linkedNode parent child (kids parent).getLast? c n).next = after.head? := by
  by_cases hp : p = parent
  · subst hp
    rw [Function.update_self] at hk
    rcases List.eq_nil_or_concat after with rfl | ⟨after, last, rfl⟩
    · -- Nothing follows, so this is the new child.
      obtain rfl : child = c := by simpa using (List.append_inj' hk rfl).2
      exact beside_link_self (hnew p) hk n
    · -- Something follows, and the new child is the last of that.
      rw [List.concat_eq_append, ← List.cons_append, ← List.append_assoc] at hk
      obtain ⟨hold, hc⟩ := List.append_inj' hk rfl
      obtain rfl : child = last := by simpa using hc
      rw [List.concat_eq_append]
      exact hl.beside_link_of_mem (hnew p) hold hn
  · rw [Function.update_of_ne hp] at hk
    exact hl.beside_link_of_ne (hnew p) hp hk hn

/-- A node that is still without a parent is nobody's neighbour. -/
theorem alone_link (hl : Linked tree kids) (hn : tree.get? c = some n)
    (hno : (linkedNode parent child (kids parent).getLast? c n).parent = none) :
    (linkedNode parent child (kids parent).getLast? c n).previous = none ∧
      (linkedNode parent child (kids parent).getLast? c n).next = none := by
  by_cases hc : c = child
  · simp [linkedNode, hc] at hno
  · simp only [linkedNode, if_neg hc] at hno ⊢
    have hlast : (kids parent).getLast? ≠ some c := fun h =>
      hl.not_mem_of_parent_eq_none hn hno parent (List.mem_of_getLast? h)
    rw [if_neg hlast]
    exact hl.alone hn hno

/-- **A linked child goes to the end of one list**, and the other lists stay as they are. -/
theorem append (hl : Linked tree kids) (h : tree.append parent child = .ok tree') :
    Linked tree' (Function.update kids parent (kids parent ++ [child])) := by
  obtain ⟨hpc, hcr, pn, cn, hpn, hcn, hno, rfl⟩ := append_eq_ok_iff.1 h
  rw [(hl.ends hpn).2]
  -- The child is in no list so far, for it has no parent.
  have hnew (p : NodeId) : child ∉ kids p := hl.not_mem_of_parent_eq_none hcn hno p
  constructor
  case ends =>
    intro p n' h
    obtain ⟨n, hn, rfl⟩ := exists_of_get?_link h
    exact hl.ends_link hn
  case mem_iff => exact hl.mem_iff_link hcn hno _
  case nodup =>
    intro p
    by_cases hp : p = parent
    · subst hp
      rw [Function.update_self, ← List.concat_eq_append]
      exact (hl.nodup p).concat (hnew p)
    · rw [Function.update_of_ne hp]
      exact hl.nodup p
  case beside =>
    intro p c n' before after hk h
    obtain ⟨n, hn, rfl⟩ := exists_of_get?_link h
    exact hl.beside_link hnew hk hn
  case alone =>
    intro c n' h hno'
    obtain ⟨n, hn, rfl⟩ := exists_of_get?_link h
    exact hl.alone_link hn hno'
  case parent_mem =>
    intro p c h
    rw [parent?_link hcn] at h
    -- A parent is the one of before, or the one that the child has got.
    obtain ⟨n, hn⟩ : ∃ n, tree.get? p = some n := by
      split at h
      · cases h
        exact ⟨pn, hpn⟩
      · exact hl.parent_mem h
    exact ⟨_, by rw [get?_link, hn, Option.map_some]⟩
  case document =>
    obtain ⟨n, hn, hd, hrno⟩ := hl.document
    refine ⟨linkedNode parent child (kids parent).getLast? root n, ?_, hd, ?_⟩
    · rw [get?_link, hn, Option.map_some]
    · simp only [linkedNode, if_neg (Ne.symm hcr)]
      exact hrno

end Append

/-- Changed attributes are no links. -/
theorem modifyAttributes (hl : Linked tree kids) (node : NodeId) (f : Attributes → Attributes) :
    Linked (tree.modifyAttributes node f) kids :=
  hl.of_data (fun id data => if node = id then data.mapAttributes f else data)
    (get?_modifyAttributes tree node · f)
    (fun id => by split <;> rfl)

/-- **Every operation keeps the links in order**, with lists of children that may have grown. -/
theorem of_step (hl : Linked tree kids) (h : Step tree tree') : ∃ kids', Linked tree' kids' := by
  cases h with
  | createElement name => exact ⟨kids, hl.create _⟩
  | createText content => exact ⟨kids, hl.create _⟩
  | createComment content => exact ⟨kids, hl.create _⟩
  | createDoctype name publicId systemId => exact ⟨kids, hl.create _⟩
  | append h => exact ⟨_, hl.append h⟩
  | setAttribute h =>
    unfold Tree.setAttribute at h
    split at h
    · cases h
      exact ⟨kids, hl.modifyAttributes _ _⟩
    · cases h
  | removeAttribute node name => exact ⟨kids, hl.modifyAttributes _ _⟩

end Linked

/-- Every tree that the operations produce has its links in order, for some lists of children. -/
theorem Reachable.exists_linked (h : tree.Reachable) : ∃ kids, Linked tree kids := by
  induction h with
  | refl => exact ⟨_, Linked.empty⟩
  | tail _ hstep ih =>
    obtain ⟨kids, hl⟩ := ih
    exact hl.of_step hstep

/-! ### Walks along the links -/

variable {step : Node → Option NodeId} {start : Option NodeId} {l : List NodeId}

@[simp] theorem follow_none (step : Node → Option NodeId) (fuel : Nat) :
    tree.follow step fuel none = [] := by
  cases fuel <;> rfl

/-- **A walk that ends.** From a start the links `step` lead through the nodes of a list, and from the last
one on to nowhere. -/
inductive Follows (tree : Tree) (step : Node → Option NodeId) : Option NodeId → List NodeId → Prop
  | nowhere : Follows tree step none []
  | onward {id : NodeId} {n : Node} {l : List NodeId} (hn : tree.get? id = some n)
      (h : Follows tree step (step n) l) : Follows tree step (some id) (id :: l)

/-- Nodes that lead on to one another, and the last one to nowhere, are a walk that ends. -/
theorem follows_of_links : ∀ {l : List NodeId},
    (∀ before c after, l = before ++ c :: after →
      ∃ n, tree.get? c = some n ∧ step n = after.head?) →
    tree.Follows step l.head? l
  | [], _ => .nowhere
  | c :: rest, hstep => by
    obtain ⟨n, hn, hnext⟩ := hstep [] c rest rfl
    refine .onward hn ?_
    rw [hnext]
    refine follows_of_links fun before d after hl => ?_
    exact hstep (c :: before) d after (by rw [hl, List.cons_append])

namespace Follows

/-- **Fuel that outlasts a walk** plays no part in it. -/
theorem follow_eq (h : tree.Follows step start l) : ∀ {fuel : Nat}, l.length ≤ fuel →
    tree.follow step fuel start = l := by
  induction h with
  | nowhere => exact fun _ => follow_none _ _
  | @onward id n l hn _ ih =>
    intro fuel hlen
    obtain ⟨fuel, rfl⟩ := Nat.exists_eq_add_of_le' (Nat.le_trans (Nat.succ_pos _) hlen)
    rw [follow, hn]
    dsimp only
    rw [ih (Nat.le_of_succ_le_succ hlen)]

/-- The links leave no choice. -/
theorem unique (h : tree.Follows step start l) : ∀ {m : List NodeId}, tree.Follows step start m → l = m := by
  induction h with
  | nowhere =>
    intro m hm
    cases hm
    rfl
  | onward hn _ ih =>
    intro m hm
    cases hm with
    | onward hn' hm =>
      obtain rfl := Option.some.inj (hn.symm.trans hn')
      rw [ih hm]

/-- A walk goes on from each of its nodes. -/
theorem of_append (h : tree.Follows step start l) : ∀ {before after : List NodeId},
    l = before ++ c :: after → ∃ n, tree.get? c = some n ∧ tree.Follows step (step n) after := by
  induction h with
  | nowhere =>
    intro before after he
    simp at he
  | @onward id n l hn h ih =>
    intro before after he
    -- The walk passes through each node of its list, so it goes on behind `c`.
    cases before with
    | nil =>
      obtain ⟨rfl, rfl⟩ := List.cons.inj he
      exact ⟨n, hn, h⟩
    | cons d before => exact ih (List.cons.inj he).2

/-- A walk meets nodes of the tree. -/
theorem get?_of_mem (h : tree.Follows step start l) (hc : c ∈ l) : ∃ n, tree.get? c = some n := by
  obtain ⟨before, after, he⟩ := List.append_of_mem hc
  obtain ⟨n, hn, -⟩ := h.of_append he
  exact ⟨n, hn⟩

/-- **A walk that ends meets no node twice**: it would go on from there as it did before, and be shorter than
it is. -/
theorem nodup (h : tree.Follows step start l) : l.Nodup := by
  induction h with
  | nowhere => exact List.nodup_nil
  | @onward id n l hn h ih =>
    refine List.nodup_cons.2 ⟨fun hid => ?_, ih⟩
    obtain ⟨before, after, he⟩ := List.append_of_mem hid
    obtain ⟨n', hn', hafter⟩ := h.of_append he
    obtain rfl := Option.some.inj (hn.symm.trans hn')
    have hlen := congrArg List.length (h.unique hafter)
    rw [he, List.length_append, List.length_cons] at hlen
    omega

end Follows

/-- Different nodes of a tree are no more than the tree has. -/
theorem length_le_size {l : List NodeId} (hnd : l.Nodup) (hl : ∀ c ∈ l, ∃ n, tree.get? c = some n) :
    l.length ≤ tree.size := by
  have hsub : l ⊆ List.range tree.size := fun c hc => by
    obtain ⟨n, hn⟩ := hl c hc
    exact List.mem_range.2 (lt_size_of_get? hn)
  simpa using (hnd.subperm hsub).length_le

namespace Linked

/-- What is listed is a node of the tree. -/
theorem get?_of_mem (hl : Linked tree kids) (hc : c ∈ kids p) : ∃ n, tree.get? c = some n :=
  let ⟨n, hn, _⟩ := get?_of_parent? (hl.mem_iff.1 hc)
  ⟨n, hn⟩

/-- A list of children is not longer than the tree is large. -/
theorem length_le (hl : Linked tree kids) (p : NodeId) : (kids p).length ≤ tree.size :=
  length_le_size (hl.nodup p) fun _ hc => hl.get?_of_mem hc

/-- **From a child on**, the links to the next node lead through the rest of the list. -/
theorem follows_next (hl : Linked tree kids) {before l : List NodeId} (hk : kids p = before ++ l) :
    tree.Follows (·.next) l.head? l := by
  refine follows_of_links fun ahead c after he => ?_
  have hsplit : kids p = (before ++ ahead) ++ c :: after := by rw [hk, he, List.append_assoc]
  obtain ⟨n, hn⟩ := hl.get?_of_mem (c := c) (p := p) (by rw [hsplit]; simp)
  exact ⟨n, hn, (hl.beside hsplit hn).2⟩

/-- **From a child back**, the links to the previous node lead through the list before it. -/
theorem follows_previous (hl : Linked tree kids) {l after : List NodeId} (hk : kids p = l ++ after) :
    tree.Follows (·.previous) l.getLast? l.reverse := by
  rw [← List.head?_reverse]
  refine follows_of_links fun ahead c behind he => ?_
  have hsplit : kids p = behind.reverse ++ c :: (ahead.reverse ++ after) := by
    have hb := congrArg List.reverse he
    rw [List.reverse_reverse, List.reverse_append, List.reverse_cons] at hb
    rw [hk, hb]
    simp
  obtain ⟨n, hn⟩ := hl.get?_of_mem (c := c) (p := p) (by rw [hsplit]; simp)
  exact ⟨n, hn, by rw [(hl.beside hsplit hn).1, List.getLast?_reverse]⟩

/-- The first child of a node is the first one of its list, also past the end of the tree. -/
theorem firstChild_eq (hl : Linked tree kids) (p : NodeId) :
    (tree.get? p).bind (·.firstChild) = (kids p).head? := by
  cases hn : tree.get? p with
  | some n => exact (hl.ends hn).1
  | none => rw [hl.kids_eq_nil hn]; rfl

/-- The last child of a node is the last one of its list, also past the end of the tree. -/
theorem lastChild_eq (hl : Linked tree kids) (p : NodeId) :
    (tree.get? p).bind (·.lastChild) = (kids p).getLast? := by
  cases hn : tree.get? p with
  | some n => exact (hl.ends hn).2
  | none => rw [hl.kids_eq_nil hn]; rfl

/-- **The lists are those that the tree spells out.** -/
theorem children_eq (hl : Linked tree kids) (p : NodeId) : tree.children p = kids p := by
  rw [children, hl.firstChild_eq]
  exact (hl.follows_next (List.nil_append _).symm).follow_eq (hl.length_le p)

/-- **The elements in front of a child** are those in front of it in the list, read backwards. -/
theorem elementsBefore_eq (hl : Linked tree kids) {before after : List NodeId}
    (hk : kids p = before ++ c :: after) :
    tree.elementsBefore c = before.reverse.filter tree.isElement := by
  obtain ⟨n, hn⟩ := hl.get?_of_mem (c := c) (p := p) (by rw [hk]; simp)
  have hlen : before.reverse.length ≤ tree.size := by
    have h := hl.length_le p
    rw [hk, List.length_append] at h
    rw [List.length_reverse]
    exact Nat.le_of_add_right_le h
  rw [elementsBefore, hn, Option.bind_some, (hl.beside hk hn).1,
    (hl.follows_previous hk).follow_eq hlen]

/-- **The elements behind a child** are those behind it in the list. -/
theorem elementsAfter_eq (hl : Linked tree kids) {before after : List NodeId}
    (hk : kids p = before ++ c :: after) :
    tree.elementsAfter c = after.filter tree.isElement := by
  obtain ⟨n, hn⟩ := hl.get?_of_mem (c := c) (p := p) (by rw [hk]; simp)
  have hlen : after.length ≤ tree.size := by
    have h := hl.length_le p
    rw [hk, List.length_append, List.length_cons] at h
    omega
  have hnext := (hl.beside hk hn).2
  rw [List.append_cons] at hk
  rw [elementsAfter, hn, Option.bind_some, hnext, (hl.follows_next hk).follow_eq hlen]

/-- A node without a parent has no elements in front of it. -/
theorem elementsBefore_eq_nil (hl : Linked tree kids) (h : tree.parent? c = none) :
    tree.elementsBefore c = [] := by
  cases hn : tree.get? c with
  | none => simp [elementsBefore, hn, follow_none]
  | some n =>
    rw [parent?_of_get? hn] at h
    simp [elementsBefore, hn, (hl.alone hn h).1, follow_none]

/-- A node without a parent has no elements behind it. -/
theorem elementsAfter_eq_nil (hl : Linked tree kids) (h : tree.parent? c = none) :
    tree.elementsAfter c = [] := by
  cases hn : tree.get? c with
  | none => simp [elementsAfter, hn, follow_none]
  | some n =>
    rw [parent?_of_get? hn] at h
    simp [elementsAfter, hn, (hl.alone hn h).2, follow_none]

end Linked

/-- **The links of reachable trees are in order**, and the lists of children are what `children` reads
off them. -/
theorem Reachable.linked (h : tree.Reachable) : Linked tree tree.children := by
  obtain ⟨kids, hl⟩ := h.exists_linked
  rwa [show tree.children = kids from funext hl.children_eq]

end Tree

end HtmlMail.Dom
