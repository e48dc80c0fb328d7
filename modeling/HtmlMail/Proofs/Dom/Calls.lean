import HtmlMail.Proofs.Dom.Links
import Mathlib.Data.List.Induction

/-!
# Calls that may fail

The operations of a tree are called with whatever numbers the caller has at hand, also with numbers that are no
nodes, and a call that fails must leave the tree as it is. `Tree.append` answers with an error and no tree at
all, so it cannot go wrong there; a tree that is changed in place can. Appending in place
(`Tree.appendInPlace`) reads and writes one link after the other, and an error stops it where it stands. It
comes to the same as `append` (`Tree.appendInPlace_eq`), because its last check stands in front of its first
write.

* `Tree.Call`, `Tree.afterCalls` : calls with arbitrary values, and the tree that any number of them leaves
  behind, the failed ones included;
* `Tree.reachable_iff_exists_calls` : these trees are the reachable ones;
* `Tree.InOrder` : what the five links of each node have to do with one another, said by walks that end;
* `Tree.inOrder_afterCalls` : the links are in order after any calls, and the next `append` does all of its
  work or nothing.
-/

namespace HtmlMail.Dom

namespace Tree

variable {tree tree' : Tree} {parent child p a b : NodeId} {kids : NodeId → List NodeId}

/-! ### Appending in place -/

/-- **Appending in place**: the two nodes are looked up one after the other, and the links are set one after
the other. -/
def appendInPlace (parent child : NodeId) : EStateM TreeError Tree NodeId := do
  if parent = child ∨ child = root then throw (.hierarchy parent child)
  let some p := (← get).get? parent | throw (.notFound parent)
  let some c := (← get).get? child | throw (.notFound child)
  if c.parent.isSome then throw (.hierarchy parent child)
  modifyThe Tree fun tree => tree.modify child fun node =>
    { node with parent := some parent, previous := p.lastChild, next := none }
  if let some sibling := p.lastChild then
    modifyThe Tree fun tree => tree.modify sibling fun node => { node with next := some child }
  modifyThe Tree fun tree => tree.modify parent fun node =>
    { node with firstChild := some (node.firstChild.getD child), lastChild := some child }
  return child

/-- **Appending in place is all or nothing**: it does what `append` does, and where `append` has no tree to
show, the tree is the one from before. -/
theorem appendInPlace_eq (tree : Tree) (parent child : NodeId) :
    appendInPlace parent child tree =
      match tree.append parent child with
      | .ok tree' => .ok child tree'
      | .error e => .error e tree := by
  -- Reading the tree leaves it where it is.
  have hget (f : Tree → EStateM TreeError Tree NodeId) (t : Tree) : (get >>= f) t = f t t := rfl
  unfold append
  by_cases hne : parent = child ∨ child = root
  · rw [if_pos hne]
    simp only [appendInPlace, if_pos hne]
    rfl
  rw [if_neg hne]
  simp only [appendInPlace, if_neg hne, hget]
  cases tree.get? parent with
  | none => rfl
  | some p =>
    simp only [hget]
    cases tree.get? child with
    | none => rfl
    | some c =>
      cases hc : c.parent with
      | some q =>
        simp only [hc, Option.isSome_some, if_true]
        rfl
      | none =>
        -- All checks are passed, and from here on nothing can fail.
        simp only [hc, Option.isSome_none, Bool.false_eq_true, if_false, link]
        cases p.lastChild <;> rfl

/-! ### Sequences of calls -/

/-- A call of an operation with any values. -/
inductive Call where
  | createElement (name : String)
  | createText (content : String)
  | createComment (content : String)
  | createDoctype (name publicId systemId : String)
  | append (parent child : NodeId)
  | setAttribute (node : NodeId) (name value : String)
  | removeAttribute (node : NodeId) (name : String)

/-- The tree that a call leaves behind, whether it fails or not. -/
def Call.apply (tree : Tree) : Call → Tree
  | createElement name => (tree.createElement name).2
  | createText content => (tree.create (.text content)).2
  | createComment content => (tree.create (.comment content)).2
  | createDoctype name publicId systemId => (tree.create (.doctype name publicId systemId)).2
  | append parent child =>
    match appendInPlace parent child tree with
    | .ok _ tree' => tree'
    | .error _ tree' => tree'
  | setAttribute node name value =>
    match tree.setAttribute node name value with
    | .ok tree' => tree'
    | .error _ => tree
  | removeAttribute node name => tree.removeAttribute node name

/-- **The tree after calls** that begin at the tree which holds the document alone. -/
def afterCalls (calls : List Call) : Tree := calls.foldl Call.apply empty

/-- The last call is applied to what the others leave behind. -/
theorem afterCalls_concat (calls : List Call) (call : Call) :
    afterCalls (calls ++ [call]) = call.apply (afterCalls calls) := by
  rw [afterCalls, afterCalls, List.foldl_append, List.foldl_cons, List.foldl_nil]

theorem Call.apply_append_of_ok (h : tree.append parent child = .ok tree') :
    (append parent child).apply tree = tree' := by
  rw [apply, appendInPlace_eq, h]

theorem Call.apply_append_of_error {e : TreeError} (h : tree.append parent child = .error e) :
    (append parent child).apply tree = tree := by
  rw [apply, appendInPlace_eq, h]

/-- A call that does not fail is a step, and one that fails is none. -/
theorem Call.step_or_eq (tree : Tree) (call : Call) :
    Step tree (call.apply tree) ∨ call.apply tree = tree := by
  cases call with
  | createElement name => exact .inl (.createElement name)
  | createText content => exact .inl (.createText content)
  | createComment content => exact .inl (.createComment content)
  | createDoctype name publicId systemId => exact .inl (.createDoctype name publicId systemId)
  | append parent child =>
    cases h : tree.append parent child with
    | ok tree' =>
      rw [apply_append_of_ok h]
      exact .inl (.append h)
    -- What is refused leaves the tree alone.
    | error e => exact .inr (apply_append_of_error h)
  | setAttribute node name value =>
    cases h : tree.setAttribute node name value with
    | ok tree' =>
      rw [apply, h]
      exact .inl (.setAttribute h)
    | error e => exact .inr (by rw [apply, h])
  | removeAttribute node name => exact .inl (.removeAttribute node name)

/-- Every step is what some call does. -/
theorem Step.exists_call (h : Step tree tree') : ∃ call : Call, tree' = call.apply tree := by
  cases h with
  | createElement name => exact ⟨.createElement name, rfl⟩
  | createText content => exact ⟨.createText content, rfl⟩
  | createComment content => exact ⟨.createComment content, rfl⟩
  | createDoctype name publicId systemId => exact ⟨.createDoctype name publicId systemId, rfl⟩
  | @append parent child _ h => exact ⟨.append parent child, (Call.apply_append_of_ok h).symm⟩
  | @setAttribute node name value _ h =>
    exact ⟨.setAttribute node name value, by rw [Call.apply, h]⟩
  | removeAttribute node name => exact ⟨.removeAttribute node name, rfl⟩

/-- Calls lead to reachable trees. -/
theorem reachable_afterCalls (calls : List Call) : (afterCalls calls).Reachable := by
  -- From the end, since it is the last call that makes a step or none.
  induction calls using List.reverseRecOn with
  | nil => exact .refl
  | append_singleton calls call ih =>
    rw [afterCalls_concat]
    rcases call.step_or_eq (afterCalls calls) with h | h
    · exact ih.tail h
    · rwa [h]

/-- **The reachable trees** are those that sequences of calls leave behind. -/
theorem reachable_iff_exists_calls : tree.Reachable ↔ ∃ calls, tree = afterCalls calls := by
  constructor
  · intro h
    induction h with
    | refl => exact ⟨[], rfl⟩
    | tail _ hstep ih =>
      obtain ⟨calls, rfl⟩ := ih
      obtain ⟨call, rfl⟩ := hstep.exists_call
      exact ⟨calls ++ [call], (afterCalls_concat calls call).symm⟩
  · rintro ⟨calls, rfl⟩
    exact reachable_afterCalls calls

/-! ### What the links of a node say -/

/-- **Links in order.** Walking along the links lists the children of every node, in both directions, and
the links say the same of who is whose child and who stands next to whom. -/
structure InOrder (tree : Tree) : Prop where
  /-- From the first child on, the links to the next node list the children and end. -/
  forward (p : NodeId) :
    tree.Follows (·.next) ((tree.get? p).bind (·.firstChild)) (tree.children p)
  /-- From the last child back, the links to the previous node list them in reverse and end. -/
  backward (p : NodeId) :
    tree.Follows (·.previous) ((tree.get? p).bind (·.lastChild)) (tree.children p).reverse
  /-- The last child is the last one listed. -/
  lastChild (p : NodeId) : (tree.get? p).bind (·.lastChild) = (tree.children p).getLast?
  /-- The nodes listed are those whose parent it is. -/
  mem_children {p c : NodeId} : c ∈ tree.children p ↔ tree.parent? c = some p
  /-- Nothing is listed twice. -/
  nodup (p : NodeId) : (tree.children p).Nodup
  /-- The links to the next node and to the previous one undo each other. -/
  next_iff_previous {a b : NodeId} :
    (tree.get? a).bind (·.next) = some b ↔ (tree.get? b).bind (·.previous) = some a
  /-- The document has no parent. -/
  parent?_root : tree.parent? root = none

namespace Linked

/-- A neighbour is a neighbour in the list of a parent. -/
theorem next_eq_some_iff (hl : Linked tree kids) : (tree.get? a).bind (·.next) = some b ↔
    ∃ p before after, kids p = before ++ a :: b :: after := by
  constructor
  · intro h
    obtain ⟨n, hn, hnext⟩ := Option.bind_eq_some_iff.1 h
    -- A node without a parent has nothing beside it, and in the list of a parent `b` comes right behind `a`.
    cases hp : n.parent with
    | none =>
      rw [(hl.alone hn hp).2] at hnext
      cases hnext
    | some p =>
      obtain ⟨before, after, hk⟩ :=
        List.append_of_mem (hl.mem_iff.2 ((parent?_of_get? hn).trans hp))
      rw [(hl.beside hk hn).2] at hnext
      obtain ⟨after, rfl⟩ := List.head?_eq_some_iff.1 hnext
      exact ⟨p, before, after, hk⟩
  · rintro ⟨p, before, after, hk⟩
    obtain ⟨n, hn⟩ := hl.get?_of_mem (c := a) (p := p) (by rw [hk]; simp)
    rw [hn, Option.bind_some, (hl.beside hk hn).2, List.head?_cons]

theorem previous_eq_some_iff (hl : Linked tree kids) : (tree.get? b).bind (·.previous) = some a ↔
    ∃ p before after, kids p = before ++ a :: b :: after := by
  constructor
  · intro h
    obtain ⟨n, hn, hprevious⟩ := Option.bind_eq_some_iff.1 h
    cases hp : n.parent with
    | none =>
      rw [(hl.alone hn hp).1] at hprevious
      cases hprevious
    | some p =>
      obtain ⟨before, after, hk⟩ :=
        List.append_of_mem (hl.mem_iff.2 ((parent?_of_get? hn).trans hp))
      rw [(hl.beside hk hn).1] at hprevious
      obtain ⟨before, rfl⟩ := List.getLast?_eq_some_iff.1 hprevious
      exact ⟨p, before, after, by rw [hk, List.append_assoc, List.singleton_append]⟩
  · rintro ⟨p, before, after, hk⟩
    rw [List.append_cons] at hk
    obtain ⟨n, hn⟩ := hl.get?_of_mem (c := b) (p := p) (by rw [hk]; simp)
    rw [hn, Option.bind_some, (hl.beside hk hn).1, List.getLast?_concat]

/-- Links that agree with lists of children are in order. -/
theorem inOrder (hl : Linked tree tree.children) : InOrder tree where
  forward p := by
    rw [hl.firstChild_eq]
    exact hl.follows_next (List.nil_append _).symm
  backward p := by
    rw [hl.lastChild_eq]
    exact hl.follows_previous (List.append_nil _).symm
  lastChild := hl.lastChild_eq
  mem_children := hl.mem_iff
  nodup := hl.nodup
  next_iff_previous := hl.next_eq_some_iff.trans hl.previous_eq_some_iff.symm
  parent?_root := by
    obtain ⟨n, hn, -, hno⟩ := hl.document
    rw [parent?_of_get? hn, hno]

end Linked

/-! ### What appending does -/

/-- What `append` asks of its two nodes. -/
structure CanAppend (tree : Tree) (parent child : NodeId) : Prop where
  parent_lt : parent < tree.size
  child_lt : child < tree.size
  child_ne_root : child ≠ root
  child_ne_parent : child ≠ parent
  parent?_child : tree.parent? child = none

/-- `tree'` is `tree` with `child` as the last child of `parent`, and with nothing else changed. -/
structure Appended (parent child : NodeId) (tree tree' : Tree) : Prop where
  children_parent : tree'.children parent = tree.children parent ++ [child]
  children_of_ne {p : NodeId} : p ≠ parent → tree'.children p = tree.children p
  data (id : NodeId) : (tree'.get? id).map (·.data) = (tree.get? id).map (·.data)

theorem exists_get?_of_lt_size (h : p < tree.size) : ∃ n, tree.get? p = some n :=
  ⟨_, Array.getElem?_eq_getElem h⟩

theorem exists_append_eq_ok_iff :
    (∃ tree', tree.append parent child = .ok tree') ↔ tree.CanAppend parent child := by
  constructor
  · rintro ⟨tree', h⟩
    obtain ⟨hpc, hcr, p, c, hp, hc, hno, -⟩ := append_eq_ok_iff.1 h
    exact ⟨lt_size_of_get? hp, lt_size_of_get? hc, hcr, hpc.symm,
      by rw [Linked.parent?_of_get? hc, hno]⟩
  · rintro ⟨hp, hc, hcr, hpc, hno⟩
    obtain ⟨p, hp⟩ := exists_get?_of_lt_size hp
    obtain ⟨c, hc⟩ := exists_get?_of_lt_size hc
    rw [Linked.parent?_of_get? hc] at hno
    exact ⟨_, append_eq_ok_iff.2 ⟨hpc.symm, hcr, p, c, hp, hc, hno, rfl⟩⟩

theorem Linked.appended (hl : Linked tree tree.children) (h : tree.append parent child = .ok tree') :
    Appended parent child tree tree' := by
  have hl' := hl.append h
  constructor
  · rw [hl'.children_eq, Function.update_self]
  · intro p hp
    rw [hl'.children_eq, Function.update_of_ne hp]
  · intro id
    obtain ⟨-, -, p, c, -, -, -, rfl⟩ := append_eq_ok_iff.1 h
    rw [get?_link, Option.map_map]
    rfl

/-- **Links in order after any calls.** After any calls with any values, failed ones included, the links of
all nodes are in order, and the next `append` does all of its work or nothing: in place it succeeds exactly for
two different nodes of which the second one is not the document and has no parent, then the second one is
the last child of the first and nothing else has changed, and else the tree is the one from before. -/
theorem inOrder_afterCalls (calls : List Call) :
    (afterCalls calls).InOrder ∧ ∀ parent child : NodeId,
      ((afterCalls calls).CanAppend parent child →
        ∃ tree', (afterCalls calls).append parent child = .ok tree' ∧
          appendInPlace parent child (afterCalls calls) = .ok child tree' ∧
          Appended parent child (afterCalls calls) tree') ∧
      (¬ (afterCalls calls).CanAppend parent child →
        ∃ e, (afterCalls calls).append parent child = .error e ∧
          appendInPlace parent child (afterCalls calls) = .error e (afterCalls calls)) := by
  have hl := (reachable_afterCalls calls).linked
  refine ⟨hl.inOrder, fun parent child => ⟨fun hcan => ?_, fun hcan => ?_⟩⟩
  · obtain ⟨tree', h⟩ := exists_append_eq_ok_iff.2 hcan
    exact ⟨tree', h, by rw [appendInPlace_eq, h], hl.appended h⟩
  · -- Where one of the conditions fails, so does the call.
    cases h : (afterCalls calls).append parent child with
    | ok tree' => exact absurd (exists_append_eq_ok_iff.1 ⟨tree', h⟩) hcan
    | error e => exact ⟨e, rfl, by rw [appendInPlace_eq, h]⟩

end Tree

end HtmlMail.Dom
