import HtmlMail.Proofs.Dom.Links

/-!
# Document order

The walk upwards from a node ends exactly if no circle of nodes stands above it, and then nothing occurs on
it twice. The nodes below such a *grounded* node are a tree, whatever the rest of the nodes looks like. Three
readings of that tree agree:

* `Ancestor`, `Within` : what stands above what, one parent at a time;
* `Precedes` : document order, said with ancestors and with the order of siblings, and `Preorder` : document
  order as a recursion over the children;
* `Tree.descendants` : the walk that lists what is below a node.

The walk lists what is below a grounded node once each, in document order (`Linked.descendants_spec`). The
attached nodes are grounded, because their walks end at the document, and for the document itself that makes
`Tree.elements` the attached elements in document order (`Reachable.mem_elements_iff`,
`Reachable.elements_pairwise`, `Reachable.elements_nodup`).

The walk is bounded by the number of nodes, so its proof counts: a visit of the nodes below `x` uses up as
many steps as it lists nodes (`Visits`), and these are different nodes of the tree.
-/

namespace HtmlMail.Dom

namespace Tree

variable {tree : Tree} {kids : NodeId → List NodeId} {a b c p x y : NodeId} {l m : List NodeId}

/-! ### Above and below -/

/-- `p` is the parent of `c`. -/
def IsParent (tree : Tree) (p c : NodeId) : Prop := tree.parent? c = some p

/-- `a` stands somewhere above `b`. -/
def Ancestor (tree : Tree) : NodeId → NodeId → Prop := Relation.TransGen tree.IsParent

/-- `b` is `a` or stands somewhere below it. -/
def Within (tree : Tree) : NodeId → NodeId → Prop := Relation.ReflTransGen tree.IsParent

/-- **Attached nodes**: the document and what stands below it. -/
def Attached (tree : Tree) (x : NodeId) : Prop := tree.Within root x

/-- **Document order**: a node comes before what stands below it, and before what stands within a later
sibling. -/
inductive Precedes (tree : Tree) : NodeId → NodeId → Prop
  | above {a b : NodeId} (h : tree.Ancestor a b) : Precedes tree a b
  | beside {p u v a b : NodeId} (h : [u, v].Sublist (tree.children p)) (ha : tree.Within u a)
      (hb : tree.Within v b) : Precedes tree a b

/-- The nodes above an attached node, from its parent to the document. -/
inductive Path (tree : Tree) : NodeId → List NodeId → Prop
  | document : Path tree root []
  | child {c p : NodeId} {l : List NodeId} (hp : tree.IsParent p c) (h : Path tree p l) :
      Path tree c (p :: l)

theorem not_isParent_of_parent?_eq_none (h : tree.parent? c = none) : ¬ tree.IsParent p c := by
  rw [IsParent, h]
  nofun

theorem exists_path_of_attached (h : tree.Attached x) : ∃ l, tree.Path x l := by
  induction h with
  | refl => exact ⟨[], .document⟩
  | tail _ hp ih =>
    obtain ⟨l, hl⟩ := ih
    exact ⟨_, .child hp hl⟩

namespace Path

theorem attached (h : tree.Path x l) : tree.Attached x := by
  induction h with
  | document => exact .refl
  | child hp _ ih => exact ih.tail hp

/-- A path goes on from each of its nodes. -/
theorem of_append (h : tree.Path x l) : ∀ {before after : List NodeId},
    l = before ++ a :: after → tree.Path a after := by
  induction h with
  | document =>
    intro before after he
    simp at he
  | child hp h ih =>
    intro before after he
    cases before with
    | nil =>
      obtain ⟨rfl, rfl⟩ := List.cons.inj he
      exact h
    | cons d before =>
      obtain ⟨-, he⟩ := List.cons.inj he
      exact ih he

end Path

/-! ### The walk upwards -/

/-- The nodes above a node, from its parent on to one that has no parent. -/
def Climbs (tree : Tree) (x : NodeId) (l : List NodeId) : Prop :=
  tree.Follows (·.parent) (tree.parent? x) l

/-- **Grounded nodes**: the walk upwards from them ends. -/
def Grounded (tree : Tree) (x : NodeId) : Prop := ∃ l, tree.Climbs x l

theorem climbs_nil (h : tree.parent? x = none) : tree.Climbs x [] := by
  rw [Climbs, h]
  exact .nowhere

/-- A climb is at its end, or it goes on to the parent. -/
theorem Climbs.cases (h : tree.Climbs x l) : l = [] ∧ tree.parent? x = none ∨
    ∃ p m, l = p :: m ∧ tree.IsParent p x ∧ tree.Climbs p m := by
  unfold Climbs at h
  generalize hs : tree.parent? x = start at h
  cases h with
  | nowhere => exact .inl ⟨rfl, rfl⟩
  | onward hn h => exact .inr ⟨_, _, rfl, hs, by rwa [Climbs, Linked.parent?_of_get? hn]⟩

namespace Climbs

/-- A climb goes on from each of its nodes. -/
theorem of_append (h : tree.Climbs x l) {before after : List NodeId} (he : l = before ++ a :: after) :
    tree.Climbs a after := by
  obtain ⟨n, hn, hafter⟩ := Follows.of_append h he
  rwa [Climbs, Linked.parent?_of_get? hn]

/-- The nodes of a climb are those above its start. -/
theorem mem_iff (h : tree.Climbs x l) : a ∈ l ↔ tree.Ancestor a x := by
  induction l generalizing x with
  | nil =>
    -- At the end of the climb there is no parent, so nothing is above.
    obtain ⟨-, hno⟩ | ⟨p, m, he, -⟩ := h.cases
    · refine ⟨fun h => absurd h List.not_mem_nil, fun h => ?_⟩
      obtain ⟨p, -, hp⟩ := Relation.TransGen.tail'_iff.1 h
      exact absurd hp (not_isParent_of_parent?_eq_none hno)
    · cases he
  | cons q l ih =>
    obtain ⟨he, -⟩ | ⟨p, m, he, hp, hm⟩ := h.cases
    · cases he
    · obtain ⟨rfl, rfl⟩ := List.cons.inj he
      rw [List.mem_cons, ih hm]
      constructor
      · rintro (rfl | h)
        · exact .single hp
        · exact .tail h hp
      · intro h
        obtain ⟨r, hr, hrx⟩ := Relation.TransGen.tail'_iff.1 h
        obtain rfl : r = q := Option.some.inj (hrx.symm.trans hp)
        exact Relation.reflTransGen_iff_eq_or_transGen.1 hr |>.imp_left Eq.symm

/-- A climb passes through every node that its start stands within. -/
theorem exists_append_of_within (h : tree.Climbs x l) (ha : tree.Within a x) :
    ∃ before after, x :: l = before ++ a :: after ∧ tree.Climbs a after := by
  rcases Relation.reflTransGen_iff_eq_or_transGen.1 ha with rfl | ha
  · exact ⟨[], l, rfl, h⟩
  · obtain ⟨before, after, he⟩ := List.append_of_mem (h.mem_iff.2 ha)
    exact ⟨x :: before, after, by rw [he, List.cons_append], h.of_append he⟩

/-- **A climb does not come back to its start**: it would go on from there and be shorter than it is. -/
theorem not_mem (h : tree.Climbs x l) : x ∉ l := by
  intro hx
  obtain ⟨before, after, hl⟩ := List.append_of_mem hx
  have hlen := congrArg List.length (Follows.unique h (h.of_append hl))
  rw [hl, List.length_append, List.length_cons] at hlen
  omega

end Climbs

/-- No grounded node stands above itself. -/
theorem Grounded.not_ancestor_self (h : tree.Grounded x) : ¬ tree.Ancestor x x := by
  obtain ⟨l, hl⟩ := h
  exact fun hx => hl.not_mem (hl.mem_iff.2 hx)

namespace Linked

theorem parent?_root (hl : Linked tree kids) : tree.parent? root = none := by
  obtain ⟨n, hn, -, hno⟩ := hl.document
  rw [parent?_of_get? hn, hno]

theorem climbs_cons (hl : Linked tree kids) (hp : tree.IsParent p c) (h : tree.Climbs p l) :
    tree.Climbs c (p :: l) := by
  obtain ⟨n, hn⟩ := hl.parent_mem hp
  rw [Climbs, parent?_of_get? hn] at h
  rw [Climbs, hp]
  exact .onward hn h

/-- What stands within a grounded node is grounded. -/
theorem grounded_of_within (hl : Linked tree kids) (hx : tree.Grounded x) (h : tree.Within x y) :
    tree.Grounded y := by
  induction h with
  | refl => exact hx
  | tail _ hp ih =>
    obtain ⟨l, h⟩ := ih
    exact ⟨_, hl.climbs_cons hp h⟩

/-- A path to the document is a climb. -/
theorem climbs_of_path (hl : Linked tree kids) (h : tree.Path x l) : tree.Climbs x l := by
  induction h with
  | document => exact climbs_nil hl.parent?_root
  | child hp _ ih => exact hl.climbs_cons hp ih

/-- **Attached nodes are grounded**: their walks upwards end at the document. -/
theorem grounded_of_attached (hl : Linked tree kids) (hx : tree.Attached x) : tree.Grounded x := by
  obtain ⟨l, h⟩ := exists_path_of_attached hx
  exact ⟨l, hl.climbs_of_path h⟩

/-- Different nodes that leave out one more node are less than the tree has. -/
theorem length_lt_size (hl : Linked tree kids) (hnd : l.Nodup) (hx : x ∉ l)
    (hmem : ∀ c ∈ l, ∃ n, tree.get? c = some n) (hget : ∀ c ∈ l, ∃ n, tree.get? x = some n) :
    l.length < tree.size := by
  cases l with
  | nil =>
    obtain ⟨n, hn, -⟩ := hl.document
    exact Nat.lt_of_le_of_lt (Nat.zero_le _) (lt_size_of_get? hn)
  -- With `x` in front, the nodes are still different ones.
  | cons c l =>
    refine length_le_size (List.nodup_cons.2 ⟨hx, hnd⟩) fun d hd => ?_
    rcases List.mem_cons.1 hd with rfl | hd
    · exact hget c List.mem_cons_self
    · exact hmem d hd

/-- A climb is shorter than the tree is large. -/
theorem length_climbs_lt (hl : Linked tree kids) (h : tree.Climbs x l) : l.length < tree.size := by
  refine hl.length_lt_size (Follows.nodup h) h.not_mem (fun c => Follows.get?_of_mem h) fun c hc => ?_
  obtain ⟨p, -, hp⟩ := Relation.TransGen.tail'_iff.1 (h.mem_iff.1 hc)
  obtain ⟨n, hn, -⟩ := get?_of_parent? hp
  exact ⟨n, hn⟩

/-- **The walk upwards** from a grounded node is its climb. -/
theorem ancestors_eq (hl : Linked tree kids) (h : tree.Climbs x l) : tree.ancestors x = l :=
  Follows.follow_eq h (Nat.le_of_lt (hl.length_climbs_lt h))

/-- **What stands above an attached node** is what the walk upwards meets. -/
theorem mem_ancestors_iff (hl : Linked tree kids) (h : tree.Attached x) :
    a ∈ tree.ancestors x ↔ tree.Ancestor a x := by
  obtain ⟨l, hp⟩ := hl.grounded_of_attached h
  rw [hl.ancestors_eq hp, hp.mem_iff]

/-- What stands above an attached node is attached. -/
theorem attached_of_ancestor (hl : Linked tree kids) (h : tree.Ancestor a x)
    (hx : tree.Attached x) : tree.Attached a := by
  obtain ⟨l, hp⟩ := exists_path_of_attached hx
  have hc := hl.climbs_of_path hp
  obtain ⟨before, after, he⟩ := List.append_of_mem (hc.mem_iff.2 h)
  exact (hp.of_append he).attached

/-- **Induction from the leaves upwards**: a climb cannot grow beyond the size of the tree. -/
theorem induction_below (hl : Linked tree kids) {motive : NodeId → Prop}
    (step : ∀ x, tree.Grounded x → (∀ c ∈ kids x, motive c) → motive x) :
    ∀ x, tree.Grounded x → motive x := by
  -- By induction on what the climb of `x` is short of the size of the tree.
  have key : ∀ (k : Nat) (x : NodeId) (l : List NodeId), tree.Climbs x l →
      tree.size ≤ l.length + k → motive x := by
    intro k
    induction k with
    | zero =>
      intro x l h hk
      have hlt := hl.length_climbs_lt h
      omega
    | succ k ih =>
      intro x l h hk
      refine step x ⟨l, h⟩ fun c hc => ih c (x :: l) (hl.climbs_cons (hl.mem_iff.1 hc) h) ?_
      rw [List.length_cons]
      omega
  intro x hx
  obtain ⟨l, h⟩ := hx
  exact key tree.size x l h (Nat.le_add_left _ _)

/-- **Siblings hold nothing in common.** The climb from a node within both would pass through either one at
the same distance from its end. -/
theorem eq_of_within {u v : NodeId} (hx : tree.Grounded x) (hu : tree.IsParent p u)
    (hv : tree.IsParent p v) (hux : tree.Within u x) (hvx : tree.Within v x) : u = v := by
  obtain ⟨l, h⟩ := hx
  -- The climb passes through a sibling that `x` is within, and goes on to the parent.
  have pass {w : NodeId} (hw : tree.IsParent p w) (hwx : tree.Within w x) :
      ∃ before m, x :: l = before ++ w :: p :: m ∧ tree.Climbs p m := by
    obtain ⟨before, after, he, hwa⟩ := h.exists_append_of_within hwx
    obtain ⟨-, hno⟩ | ⟨q, m, rfl, hq, hm⟩ := hwa.cases
    · exact absurd hw (not_isParent_of_parent?_eq_none hno)
    · obtain rfl := Option.some.inj (hw.symm.trans hq)
      exact ⟨before, m, he, hm⟩
  obtain ⟨before, m, he, hm⟩ := pass hu hux
  obtain ⟨before', m', he', hm'⟩ := pass hv hvx
  obtain rfl := Follows.unique hm hm'
  exact (List.cons.inj (List.append_inj' (he.symm.trans he') rfl).2).1

/-- Document order puts no grounded node in front of itself. -/
theorem not_precedes_self (hl : Linked tree tree.children) (hx : tree.Grounded x) :
    ¬ tree.Precedes x x := by
  intro h
  cases h with
  | above h => exact hx.not_ancestor_self h
  | @beside p u v _ _ h hu hv =>
    have hnd : [u, v].Nodup := (hl.nodup p).sublist h
    have hpu := hl.mem_iff.1 (h.subset (List.mem_cons_self ..))
    have hpv := hl.mem_iff.1 (h.subset (List.mem_cons_of_mem _ (List.mem_cons_self ..)))
    rw [eq_of_within hx hpu hpv hu hv] at hnd
    simp at hnd

end Linked

/-! ### The walk downwards -/

@[simp] theorem walk_nil (tree : Tree) (fuel : Nat) : tree.walk fuel [] = [] := by
  cases fuel <;> rfl

/-- A walk that has `nodes` to visit spends one step on each node of `l`, and then goes on. -/
def Visits (tree : Tree) (nodes l : List NodeId) : Prop :=
  ∀ fuel rest, tree.walk (l.length + fuel) (nodes ++ rest) = l ++ tree.walk fuel rest

namespace Visits

theorem nil : tree.Visits [] [] := by
  intro fuel rest
  rw [List.length_nil, Nat.zero_add, List.nil_append, List.nil_append]

/-- A visit of a node is followed by visits below it. -/
theorem cons (hx : tree.Visits (tree.children x) l) {nodes : List NodeId}
    (h : tree.Visits nodes m) : tree.Visits (x :: nodes) (x :: l ++ m) := by
  intro fuel rest
  have hlen : (x :: l ++ m).length + fuel = (l.length + (m.length + fuel)) + 1 := by
    rw [List.length_append, List.length_cons]
    omega
  rw [hlen, List.cons_append, walk, hx, h, List.cons_append, List.cons_append, List.append_assoc]

end Visits

/-- **Pre-order** of nodes that stand side by side, as a recursion: each node is followed by the pre-order of
its children, and then the next node has its turn. -/
inductive Preorder (tree : Tree) : List NodeId → List NodeId → Prop
  | none : Preorder tree [] []
  | cons {x : NodeId} {nodes below beside : List NodeId} (hbelow : Preorder tree (tree.children x) below)
      (hbeside : Preorder tree nodes beside) : Preorder tree (x :: nodes) (x :: below ++ beside)

namespace Preorder

/-- The walk goes in pre-order. -/
theorem visits {nodes : List NodeId} (h : tree.Preorder nodes l) : tree.Visits nodes l := by
  induction h with
  | none => exact .nil
  | cons _ _ hbelow hbeside => exact hbelow.cons hbeside

/-- Pre-orders of several nodes follow one another. -/
theorem flatMap {below : NodeId → List NodeId} : ∀ {nodes : List NodeId},
    (∀ c ∈ nodes, tree.Preorder (tree.children c) (below c)) →
    tree.Preorder nodes (nodes.flatMap fun c => c :: below c)
  | [], _ => .none
  | c :: nodes, h => by
    rw [List.flatMap_cons]
    exact .cons (h c (List.mem_cons_self ..))
      (flatMap fun d hd => h d (List.mem_cons_of_mem _ hd))

end Preorder

namespace Linked

variable (hl : Linked tree tree.children)
include hl

/-- What stands below a node stands within one of its children. -/
theorem ancestor_iff_exists_child :
    tree.Ancestor x y ↔ ∃ c ∈ tree.children x, y = c ∨ tree.Ancestor c y := by
  rw [Ancestor, Relation.TransGen.head'_iff]
  refine exists_congr fun c => and_congr hl.mem_iff.symm ?_
  exact Relation.reflTransGen_iff_eq_or_transGen

/-- **Pre-order lists** below a grounded node what stands below it, in document order. -/
theorem exists_preorder : ∀ x, tree.Grounded x → ∃ l, tree.Preorder (tree.children x) l ∧
    (∀ y, y ∈ l ↔ tree.Ancestor x y) ∧ (x :: l).Pairwise tree.Precedes := by
  refine hl.induction_below fun x hx ih => ?_
  choose! below hpreorder hmem hpair using ih
  have hmem' (y : NodeId) :
      (y ∈ (tree.children x).flatMap fun c => c :: below c) ↔ tree.Ancestor x y := by
    rw [List.mem_flatMap, hl.ancestor_iff_exists_child]
    refine exists_congr fun c => and_congr_right fun hc => ?_
    rw [List.mem_cons, hmem c hc]
  refine ⟨_, Preorder.flatMap hpreorder, hmem', List.pairwise_cons.2 ⟨?_, ?_⟩⟩
  · intro y hy
    exact .above ((hmem' y).1 hy)
  · -- Within one child the order is known, and across two children it is the order of these.
    rw [List.pairwise_flatMap]
    refine ⟨hpair, List.pairwise_iff_forall_sublist.2 fun {u v} huv a ha b hb => ?_⟩
    have within {w z : NodeId} (hw : w ∈ tree.children x) (hz : z ∈ w :: below w) :
        tree.Within w z := by
      rw [List.mem_cons, hmem w hw] at hz
      exact Relation.reflTransGen_iff_eq_or_transGen.2 hz
    exact .beside huv (within (huv.subset (by simp)) ha) (within (huv.subset (by simp)) hb)

/-- **The walk downwards** has fuel to spare, since it lists different nodes of the tree and not the one that
it starts from. -/
theorem descendants_spec (hx : tree.Grounded x) :
    tree.Preorder (tree.children x) (tree.descendants x) ∧
      (∀ y, y ∈ tree.descendants x ↔ tree.Ancestor x y) ∧
      (x :: tree.descendants x).Pairwise tree.Precedes ∧ (tree.descendants x).Nodup ∧
      (tree.descendants x).length < tree.size := by
  obtain ⟨l, hpreorder, hmem, hpair⟩ := hl.exists_preorder x hx
  have hground {y : NodeId} (hy : y ∈ l) : tree.Grounded y :=
    hl.grounded_of_within hx ((hmem y).1 hy).to_reflTransGen
  -- What is listed twice would come before itself.
  have hnd : l.Nodup := by
    refine (List.Pairwise.and_mem.1 (List.pairwise_cons.1 hpair).2).imp ?_
    rintro a b ⟨ha, -, hab⟩ rfl
    exact hl.not_precedes_self (hground ha) hab
  have hlen : l.length < tree.size := by
    have hself : x ∉ l := fun h => hx.not_ancestor_self ((hmem x).1 h)
    refine hl.length_lt_size hnd hself (fun c hc => ?_) fun c hc => ?_
    · obtain ⟨p, -, hp⟩ := Relation.TransGen.tail'_iff.1 ((hmem c).1 hc)
      obtain ⟨n, hn, -⟩ := get?_of_parent? hp
      exact ⟨n, hn⟩
    · obtain ⟨d, hd, -⟩ := Relation.TransGen.head'_iff.1 ((hmem c).1 hc)
      exact hl.parent_mem hd
  have heq : tree.descendants x = l := by
    have h := hpreorder.visits (tree.size - l.length) []
    rw [Nat.add_sub_cancel' (Nat.le_of_lt hlen)] at h
    rw [descendants]
    simpa using h
  rw [heq]
  exact ⟨hpreorder, hmem, hpair, hnd, hlen⟩

end Linked

/-! ### Siblings -/

/-- `a` stands in front of `b` among the children of some node, with the nodes `between` between them. -/
def InFront (tree : Tree) (a : NodeId) (between : List NodeId) (b : NodeId) : Prop :=
  ∃ p before after, tree.children p = before ++ a :: (between ++ b :: after)

namespace Linked

variable (hl : Linked tree tree.children)
include hl

/-- A node without a parent has no siblings. -/
theorem parent?_of_inFront {between : List NodeId} (h : tree.InFront a between b) :
    ∃ p, tree.IsParent p a ∧ tree.IsParent p b := by
  obtain ⟨p, before, after, hk⟩ := h
  exact ⟨p, hl.mem_iff.1 (by rw [hk]; simp), hl.mem_iff.1 (by rw [hk]; simp)⟩

/-- A child stands at one place of one list. -/
theorem cut_unique {q : NodeId} {before after before' after' : List NodeId}
    (hp : tree.children p = before ++ c :: after) (hq : tree.children q = before' ++ c :: after') :
    before = before' ∧ after = after' := by
  have hpc : tree.IsParent p c := hl.mem_iff.1 (by rw [hp]; simp)
  have hqc : tree.IsParent q c := hl.mem_iff.1 (by rw [hq]; simp)
  -- A node has one parent, and stands there once.
  obtain rfl := Option.some.inj (hpc.symm.trans hqc)
  have hnd := hl.nodup p
  rw [hp] at hnd
  obtain ⟨-, hcons, hdisj⟩ := List.nodup_append.1 hnd
  have hb : c ∉ before := fun h => hdisj c h c (List.mem_cons_self ..) rfl
  have ha : c ∉ after := (List.nodup_cons.1 hcons).1
  rw [hp] at hq
  obtain ⟨h1, -, h2⟩ := (List.append_cons_inj_of_notMem hb ha).1 hq
  exact ⟨h1, h2⟩

/-- What stands in front of a child is cut out of the list before it. -/
theorem inFront_iff_before {before after between : List NodeId}
    (hk : tree.children p = before ++ b :: after) :
    tree.InFront a between b ↔ ∃ first, before = first ++ a :: between := by
  constructor
  · rintro ⟨q, first, last, hq⟩
    rw [← List.cons_append, ← List.append_assoc] at hq
    exact ⟨first, (hl.cut_unique hk hq).1⟩
  · rintro ⟨first, rfl⟩
    exact ⟨p, first, after, by rw [hk]; simp⟩

/-- What stands behind a child is cut out of the list after it. -/
theorem inFront_iff_after {before after between : List NodeId}
    (hk : tree.children p = before ++ a :: after) :
    tree.InFront a between b ↔ ∃ last, after = between ++ b :: last := by
  constructor
  · rintro ⟨q, first, last, hq⟩
    exact ⟨last, (hl.cut_unique hk hq).2⟩
  · rintro ⟨last, rfl⟩
    exact ⟨p, before, last, hk⟩

/-- **The walk to the left** meets the elements in front of a node. -/
theorem mem_elementsBefore_iff :
    a ∈ tree.elementsBefore b ↔ tree.isElement a ∧ ∃ between, tree.InFront a between b := by
  cases hp : tree.parent? b with
  | none =>
    rw [hl.elementsBefore_eq_nil hp]
    refine ⟨fun h => absurd h List.not_mem_nil, fun ⟨_, between, h⟩ => ?_⟩
    obtain ⟨p, -, hpb⟩ := hl.parent?_of_inFront h
    exact absurd hpb (not_isParent_of_parent?_eq_none hp)
  -- What is in front of `b` stands in front of it in the list of their parent.
  | some p =>
    obtain ⟨before, after, hk⟩ := List.append_of_mem (hl.mem_iff.2 hp)
    rw [hl.elementsBefore_eq hk, List.mem_filter, List.mem_reverse, and_comm,
      List.mem_iff_append, exists_comm]
    simp only [hl.inFront_iff_before hk]

/-- **The walk to the right** meets the elements behind a node. -/
theorem mem_elementsAfter_iff :
    b ∈ tree.elementsAfter a ↔ tree.isElement b ∧ ∃ between, tree.InFront a between b := by
  cases hp : tree.parent? a with
  | none =>
    rw [hl.elementsAfter_eq_nil hp]
    refine ⟨fun h => absurd h List.not_mem_nil, fun ⟨_, between, h⟩ => ?_⟩
    obtain ⟨p, hpa, -⟩ := hl.parent?_of_inFront h
    exact absurd hpa (not_isParent_of_parent?_eq_none hp)
  | some p =>
    obtain ⟨before, after, hk⟩ := List.append_of_mem (hl.mem_iff.2 hp)
    rw [hl.elementsAfter_eq hk, List.mem_filter, and_comm, List.mem_iff_append]
    simp only [hl.inFront_iff_after hk]

/-- **The closest element to the left** has no element between it and the node. -/
theorem previousElement?_eq_some_iff :
    tree.previousElement? b = some a ↔ tree.isElement a ∧
      ∃ between, tree.InFront a between b ∧ ∀ x ∈ between, ¬ tree.isElement x := by
  cases hp : tree.parent? b with
  | none =>
    rw [previousElement?, hl.elementsBefore_eq_nil hp, List.head?_nil]
    refine ⟨fun h => absurd h (by simp), fun ⟨_, between, h, _⟩ => ?_⟩
    obtain ⟨p, -, hpb⟩ := hl.parent?_of_inFront h
    exact absurd hpb (not_isParent_of_parent?_eq_none hp)
  | some p =>
    obtain ⟨before, after, hk⟩ := List.append_of_mem (hl.mem_iff.2 hp)
    rw [previousElement?, hl.elementsBefore_eq hk, List.head?_filter,
      List.find?_eq_some_iff_append]
    refine and_congr_right fun _ => ?_
    simp only [hl.inFront_iff_before hk]
    -- The walk reads the list backwards, so the first element it meets is the last one there.
    constructor
    · rintro ⟨ahead, behind, he, hno⟩
      have hb := congrArg List.reverse he
      rw [List.reverse_reverse, List.reverse_append, List.reverse_cons, List.append_assoc] at hb
      exact ⟨ahead.reverse, ⟨behind.reverse, hb⟩, by simpa using hno⟩
    · rintro ⟨between, ⟨first, rfl⟩, hno⟩
      exact ⟨between.reverse, first.reverse, by simp, by simpa using hno⟩

end Linked

namespace Reachable

variable (h : tree.Reachable)
include h

/-- The document is no element. -/
theorem isElement_root : tree.isElement root = false := by
  obtain ⟨n, hn, hd, -⟩ := h.linked.document
  simp [isElement, element?, hn, Node.element?, hd]

/-- The walk from the document ends. -/
theorem grounded_root : tree.Grounded root := h.linked.grounded_of_attached .refl

/-- **The elements of a document** are the attached ones. -/
theorem mem_elements_iff : x ∈ tree.elements ↔ tree.Attached x ∧ tree.isElement x := by
  rw [elements, List.mem_filter, (h.linked.descendants_spec h.grounded_root).2.1]
  refine and_congr_left fun hx => ⟨Relation.TransGen.to_reflTransGen, fun ha => ?_⟩
  rcases Relation.reflTransGen_iff_eq_or_transGen.1 ha with rfl | ha
  · rw [h.isElement_root] at hx
    cases hx
  · exact ha

/-- The elements are listed in document order. -/
theorem elements_pairwise : tree.elements.Pairwise tree.Precedes :=
  (List.pairwise_cons.1 (h.linked.descendants_spec h.grounded_root).2.2.1).2.filter _

/-- No element is listed twice. -/
theorem elements_nodup : tree.elements.Nodup :=
  (h.linked.descendants_spec h.grounded_root).2.2.2.1.filter _

end Reachable

end Tree

end HtmlMail.Dom
