import HtmlMail.Html.Reader
import HtmlMail.Proofs.Dom.Calls
import HtmlMail.Proofs.Html.NodeMarkup

/-!
# The numbers of nodes

Markup becomes nodes in the order in which it is written: each piece gets the next number, and what is below it the
numbers behind that. So the nodes below a node have the numbers that follow its own, and nothing goes wrong on the way,
because a new node has no parent yet.

What is kept of the markup are its elements with names in lower case and with every attribute once.

* `Markup.kept`, `Markup.numbers` : what is kept of markup, and the numbers that it gets;
* `Markup.IsFrom`, `Markup.AreFrom` : markup whose nodes are numbered from some number on;
* `Markup.exists_addAllTo_eq_ok` : markup becomes nodes, numbered in order;
* `exists_readDocument_eq`, `ofDocument_readDocument` : the document of a text holds what is kept of its markup.
-/

namespace HtmlMail.Html

open Dom Tree

namespace Markup

mutual

/-- The number of nodes of a piece of markup. -/
def count : Markup → Nat
  | element _ _ children => countAll children + 1
  | _ => 1

/-- The number of nodes of pieces of markup. -/
def countAll : List Markup → Nat
  | [] => 0
  | m :: rest => count m + countAll rest

end

mutual

/-- What is kept of a piece of markup. -/
def kept : Markup → Markup
  | element name attributes children =>
    element (Text.lower name) (Attributes.ofList attributes).entries (keptAll children)
  | doctype name publicId systemId => doctype name publicId systemId
  | text content => text content
  | comment content => comment content

/-- What is kept of pieces of markup. -/
def keptAll : List Markup → List Markup
  | [] => []
  | m :: rest => kept m :: keptAll rest

end

/-- The numbers of pieces of markup next to each other, the first of which is `x`. -/
def numbers : Nat → List Markup → List Nat
  | _, [] => []
  | x, m :: rest => x :: numbers (x + m.count) rest

mutual

/-- Whether what is kept of a piece of markup stands at a node, and the nodes below are numbered from there on. -/
def IsFrom (tree : Tree) : Markup → Nat → Prop
  | element name attributes children, x =>
    (tree.get? x).map Node.data = some (.element ⟨Text.lower name, .ofList attributes⟩) ∧
      tree.children x = numbers (x + 1) children ∧ AreFrom tree children (x + 1)
  | doctype name publicId systemId, x => (tree.get? x).map Node.data = some (.doctype name publicId systemId)
  | text content, x => (tree.get? x).map Node.data = some (.text content)
  | comment content, x => (tree.get? x).map Node.data = some (.comment content)

/-- Whether what is kept of pieces of markup stands at nodes that are numbered from some number on. -/
def AreFrom (tree : Tree) : List Markup → Nat → Prop
  | [], _ => True
  | m :: rest, x => IsFrom tree m x ∧ AreFrom tree rest (x + m.count)

end

variable {tree tree' tree'' : Tree} {parent x y : Nat} {m : Markup} {F G : List Markup}

theorem countAll_append (F G : List Markup) : countAll (F ++ G) = countAll F + countAll G := by
  induction F with
  | nil => rw [List.nil_append, countAll, Nat.zero_add]
  | cons m F ih => rw [List.cons_append, countAll, countAll, ih, Nat.add_assoc]

mutual

theorem IsFrom.isAt : ∀ {m : Markup} {x : Nat}, IsFrom tree m x → IsAt tree m.kept x
  | element .., x, h => by
    rw [IsFrom] at h
    rw [kept, IsAt]
    exact ⟨h.1, h.2.1 ▸ AreFrom.areAt h.2.2⟩
  | doctype .., _, h => h
  | text _, _, h => h
  | comment _, _, h => h

theorem AreFrom.areAt : ∀ {F : List Markup} {x : Nat}, AreFrom tree F x → AreAt tree (keptAll F) (numbers x F)
  | [], _, _ => by rw [keptAll, numbers, AreAt]; trivial
  | m :: F, x, h => by
    rw [AreFrom] at h
    rw [keptAll, numbers, AreAt]
    exact ⟨IsFrom.isAt h.1, AreFrom.areAt h.2⟩

end

/-- Whether nodes with numbers in a range are in a tree as in another one. -/
def SameFrom (low high : Nat) (tree tree' : Tree) : Prop := ∀ y, low ≤ y → y < high →
  (tree'.get? y).map Node.data = (tree.get? y).map Node.data ∧ tree'.children y = tree.children y

mutual

theorem IsFrom.congr : ∀ {m : Markup} {x : Nat}, SameFrom x (x + m.count) tree tree' → IsFrom tree m x →
    IsFrom tree' m x
  | element .., x, hsame, h => by
    rw [count] at hsame
    rw [IsFrom] at h ⊢
    have hx := hsame x (Nat.le_refl x) (by omega)
    refine ⟨hx.1.trans h.1, hx.2.trans h.2.1, AreFrom.congr (fun y hy hlt => hsame y ?_ ?_) h.2.2⟩ <;> omega
  | doctype .., x, hsame, h => (hsame x (Nat.le_refl x) (Nat.lt_succ_self x)).1.trans h
  | text _, x, hsame, h => (hsame x (Nat.le_refl x) (Nat.lt_succ_self x)).1.trans h
  | comment _, x, hsame, h => (hsame x (Nat.le_refl x) (Nat.lt_succ_self x)).1.trans h

theorem AreFrom.congr : ∀ {F : List Markup} {x : Nat}, SameFrom x (x + countAll F) tree tree' → AreFrom tree F x →
    AreFrom tree' F x
  | [], _, _, _ => by rw [AreFrom]; trivial
  | m :: F, x, hsame, h => by
    rw [countAll] at hsame
    rw [AreFrom] at h ⊢
    have hm : SameFrom x (x + m.count) tree tree' := fun y hy hlt => hsame y hy (by omega)
    have hF : SameFrom (x + m.count) (x + m.count + countAll F) tree tree' := fun y hy hlt =>
      hsame y (by omega) (by omega)
    exact ⟨IsFrom.congr hm h.1, AreFrom.congr hF h.2⟩

end

/-! ### Markup becomes nodes -/

/-- What a tree is like to which pieces of markup were added as the last children of a node. -/
structure Added (parent : Nat) (F : List Markup) (tree tree' : Tree) : Prop where
  linked : Linked tree' tree'.children
  size : tree'.size = tree.size + countAll F
  children : tree'.children parent = tree.children parent ++ numbers tree.size F
  others : ∀ x, x < tree.size → x ≠ parent → tree'.children x = tree.children x
  data : ∀ x, x < tree.size → (tree'.get? x).map Node.data = (tree.get? x).map Node.data
  areFrom : AreFrom tree' F tree.size

theorem Added.refl (hl : Linked tree tree.children) (parent : Nat) : Added parent [] tree tree where
  linked := hl
  size := rfl
  children := (List.append_nil _).symm
  others _ _ _ := rfl
  data _ _ := rfl
  areFrom := by rw [AreFrom]; trivial

theorem numbers_append (x : Nat) (F G : List Markup) :
    numbers x (F ++ G) = numbers x F ++ numbers (x + countAll F) G := by
  induction F generalizing x with
  | nil => rfl
  | cons m F ih => rw [List.cons_append, numbers, numbers, ih, countAll, Nat.add_assoc, List.cons_append]

theorem areFrom_append : AreFrom tree (F ++ G) x ↔ AreFrom tree F x ∧ AreFrom tree G (x + countAll F) := by
  induction F generalizing x with
  | nil => simp [AreFrom, countAll]
  | cons m F ih => rw [List.cons_append, AreFrom, AreFrom, ih, countAll, and_assoc, Nat.add_assoc]

theorem Added.trans (hparent : parent < tree.size) (hF : Added parent F tree tree') (hG : Added parent G tree' tree'') :
    Added parent (F ++ G) tree tree'' where
  linked := hG.linked
  size := by rw [hG.size, hF.size, countAll_append, Nat.add_assoc]
  children := by rw [hG.children, hF.children, hF.size, numbers_append, List.append_assoc]
  others x hx hne := (hG.others x (by rw [hF.size]; omega) hne).trans (hF.others x hx hne)
  data x hx := (hG.data x (by rw [hF.size]; omega)).trans (hF.data x hx)
  areFrom := by
    rw [areFrom_append]
    refine ⟨hF.areFrom.congr fun y hy hlt => ?_, hF.size ▸ hG.areFrom⟩
    rw [← hF.size] at hlt
    exact ⟨hG.data y hlt, hG.others y hlt (by omega)⟩

theorem size_append {child : Nat} (h : tree.append parent child = .ok tree') : tree'.size = tree.size := by
  obtain ⟨-, -, p, c, -, -, -, rfl⟩ := append_eq_ok_iff.1 h
  unfold link
  cases p.lastChild <;> simp only [size_modify]

/-- A single new node. -/
theorem exists_addNode_eq_ok (hl : Linked tree tree.children) (hparent : parent < tree.size) (data : NodeData) :
    ∃ tree', addNode parent data tree = .ok (tree.size, tree') ∧ Linked tree' tree'.children ∧
      tree'.size = tree.size + 1 ∧ tree'.children parent = tree.children parent ++ [tree.size] ∧
      (∀ x, x ≠ parent → tree'.children x = tree.children x) ∧
      ∀ x : Nat, (tree'.get? x).map Node.data = if x = tree.size then some data else (tree.get? x).map Node.data := by
  have hcreated := hl.create data
  have hchildren (x : Nat) : (tree.create data).2.children x = tree.children x := hcreated.children_eq x
  have hsize : (tree.create data).2.size = tree.size + 1 := Array.size_push _
  have hnone : tree.parent? tree.size = none := by
    rw [parent?, Linked.get?_size]
    rfl
  -- The new node has no parent yet, so nothing forbids to append it.
  have hcan : (tree.create data).2.CanAppend parent tree.size :=
    { parent_lt := hsize ▸ Nat.lt_succ_of_lt hparent
      child_lt := hsize ▸ Nat.lt_succ_self tree.size
      child_ne_root := Nat.ne_of_gt (Nat.zero_lt_of_lt hparent)
      child_ne_parent := Nat.ne_of_gt hparent
      parent?_child := by rw [Linked.parent?_create, hnone] }
  have hcreated' : Linked (tree.create data).2 (tree.create data).2.children := (funext hchildren) ▸ hcreated
  obtain ⟨tree', htree'⟩ := exists_append_eq_ok_iff.2 hcan
  have happended := hcreated'.appended htree'
  have hlinked' := hcreated'.append htree'
  refine ⟨tree', ?_, ?_, ?_, ?_, fun x hx => ?_, fun x => ?_⟩
  · show (do return (tree.size, ← (tree.create data).2.append parent tree.size) : Except TreeError (Nat × Tree)) = _
    rw [htree']
    rfl
  · have hsame := funext hlinked'.children_eq
    rwa [← hsame] at hlinked'
  · rw [size_append htree', hsize]
  · rw [happended.children_parent, hchildren]
  · rw [happended.children_of_ne hx, hchildren]
  · rw [happended.data, get?_create]
    split <;> rfl

/-- A single new node without anything below it. -/
theorem exists_added_addNode (hl : Linked tree tree.children) (hparent : parent < tree.size) {data : NodeData}
    (hcount : m.count = 1) (hm : ∀ tree', (tree'.get? tree.size).map Node.data = some data → IsFrom tree' m tree.size) :
    ∃ tree', (addNode parent data tree).map (·.2) = .ok tree' ∧ Added parent [m] tree tree' := by
  obtain ⟨tree', htree', hlinked, hsize, hchildren, hothers, hdata⟩ := exists_addNode_eq_ok hl hparent data
  refine ⟨tree', by rw [htree']; rfl, hlinked, ?_, hchildren, fun x _ hne => hothers x hne, fun x hx => ?_, ?_⟩
  · rw [hsize, countAll, countAll, hcount]
  · rw [hdata, if_neg (Nat.ne_of_lt hx)]
  · rw [AreFrom, AreFrom]
    exact ⟨hm tree' (by rw [hdata, if_pos rfl]), trivial⟩

mutual

/-- **A piece of markup becomes nodes.** -/
theorem exists_addTo_eq_ok : ∀ {m : Markup} {parent : Nat} {tree : Tree}, Linked tree tree.children →
    parent < tree.size → ∃ tree', addTo parent m tree = .ok tree' ∧ Added parent [m] tree tree'
  | .doctype .., _, _, hl, hparent => by
    rw [addTo]
    exact exists_added_addNode hl hparent rfl fun _ h => h
  | .text _, _, _, hl, hparent => by
    rw [addTo]
    exact exists_added_addNode hl hparent rfl fun _ h => h
  | .comment _, _, _, hl, hparent => by
    rw [addTo]
    exact exists_added_addNode hl hparent rfl fun _ h => h
  | .element name attributes children, parent, tree, hl, hparent => by
    obtain ⟨near, hnear, hlinked, hsize, hchildren, hothers, hdata⟩ :=
      exists_addNode_eq_ok hl hparent (.element { Element.ofName name with attributes := .ofList attributes })
    have hlt : tree.size < near.size := by omega
    obtain ⟨tree', htree', hadded⟩ := exists_addAllTo_eq_ok (F := children) hlinked hlt
    have hnone : near.children tree.size = [] := by
      rw [hothers _ (Nat.ne_of_gt hparent)]
      exact hl.kids_eq_nil (Linked.get?_size tree)
    -- From the number of the element on everything is new, and what is below stays.
    refine ⟨tree', ?_, hadded.linked, ?_, ?_, fun x hx hne => ?_, fun x hx => ?_, ?_, ?_⟩
    · rw [addTo]
      dsimp only
      rw [hnear]
      exact htree'
    · rw [hadded.size, hsize, countAll, countAll, count]
      omega
    · rw [hadded.others parent (by omega) (by omega), hchildren]
      rfl
    · rw [hadded.others x (by omega) (by omega), hothers x hne]
    · rw [hadded.data x (by omega), hdata, if_neg (Nat.ne_of_lt hx)]
    · rw [IsFrom]
      refine ⟨?_, ?_, hsize ▸ hadded.areFrom⟩
      · rw [hadded.data tree.size (by omega), hdata, if_pos rfl]
        rfl
      · rw [hadded.children, hnone, hsize]
        rfl
    · trivial

/-- **Markup becomes nodes**, and nothing goes wrong on the way. -/
theorem exists_addAllTo_eq_ok : ∀ {F : List Markup} {parent : Nat} {tree : Tree}, Linked tree tree.children →
    parent < tree.size → ∃ tree', addAllTo parent F tree = .ok tree' ∧ Added parent F tree tree'
  | [], parent, tree, hl, _ => ⟨tree, by rw [addAllTo], .refl hl parent⟩
  | m :: F, parent, tree, hl, hparent => by
    obtain ⟨near, hnear, hm⟩ := exists_addTo_eq_ok (m := m) hl hparent
    have hparent' : parent < near.size := by rw [hm.size]; omega
    obtain ⟨tree', htree', hF⟩ := exists_addAllTo_eq_ok (F := F) hm.linked hparent'
    refine ⟨tree', ?_, hm.trans hparent hF⟩
    rw [addAllTo, hnear]
    exact htree'

end

/-- Markup becomes a tree of its own. -/
theorem exists_added_empty (F : List Markup) :
    ∃ tree, addAllTo root F .empty = .ok tree ∧ Added root F .empty tree := by
  have hempty : Linked Tree.empty Tree.empty.children := by
    have hl := Linked.empty
    rwa [← show Tree.empty.children = fun _ => [] from funext hl.children_eq] at hl
  exact exists_addAllTo_eq_ok hempty Nat.one_pos

/-- **The markup of a tree** that was made of markup is what was kept of that. -/
theorem exists_addAllTo_empty (F : List Markup) : ∃ tree, addAllTo root F .empty = .ok tree ∧
    tree.size = countAll F + 1 ∧ AreAt tree (keptAll F) (tree.children root) := by
  obtain ⟨tree, htree, hadded⟩ := exists_added_empty F
  refine ⟨tree, htree, by rw [hadded.size, Nat.add_comm]; rfl, ?_⟩
  rw [hadded.children]
  exact hadded.areFrom.areAt

end Markup

/-- **Reading a text** makes a document of all of its markup. -/
theorem exists_readDocument_eq (html : String) : ∃ tree,
    Markup.AreAt tree (Markup.keptAll (readMarkupTree html)) (tree.children root) ∧
    readDocument html =
      { (Document.withTree .empty tree).locate with isFragment := isFragmentText html.toList } := by
  obtain ⟨tree, htree, -, hat⟩ := Markup.exists_addAllTo_empty (readMarkupTree html)
  refine ⟨tree, hat, ?_⟩
  rw [readDocument, readDocument?, htree]
  rfl

/-- The markup of a document that is not only a fragment. -/
theorem ofDocument_readDocument {html : String} (h : (readDocument html).isFragment = false) :
    Markup.ofDocument (readDocument html) = Markup.keptAll (readMarkupTree html) := by
  obtain ⟨tree, hat, hread⟩ := exists_readDocument_eq html
  rw [Markup.ofDocument, h, if_neg Bool.false_ne_true, ← hat.flatMap_outer, hread]
  rfl

end HtmlMail.Html
