import HtmlMail.Proofs.Dom.AttributeNames
import HtmlMail.Proofs.Dom.Traversal
import HtmlMail.Proofs.Html.Numbering

/-!
# Documents are numbered in document order

Markup becomes nodes while it is walked through, so the number of a node says when the walk has come to it. A walk through
the nodes comes to them in the same order if nothing else hangs below the document, and that is so: every node is a child
of the document or of an element that stands in the markup, and a node is nobody else's child.

* `Markup.AreFrom.exists_of_lt` : every number belongs to a piece of markup, and to a child of the document or an element;
* `Markup.AreFrom.preorder` : the pre-order of the nodes is that of their numbers;
* `Markup.IsBuiltFrom` : what a tree is like that is made of markup;
* `readDocument?_isBuiltFrom` : every text is read as such a tree, and reading does not fail.
-/

namespace HtmlMail.Html

open Dom Tree

namespace Markup

variable {tree : Tree} {x y : Nat} {m : Markup} {F : List Markup}

/-! ### Every number belongs to a node -/

mutual

/-- The numbers behind that of a piece of markup belong to what is below it. -/
theorem IsFrom.exists_of_lt : ∀ {m : Markup} {x : Nat}, IsFrom tree m x → x < y → y < x + m.count →
    (∃ part, IsFrom tree part y) ∧ ∃ p, tree.isElement p ∧ y ∈ tree.children p
  | element name attributes children, x, h, hlow, hhigh => by
    rw [IsFrom] at h
    rw [count] at hhigh
    obtain ⟨hpart, hchild | hbelow⟩ := AreFrom.exists_of_lt h.2.2 hlow (by omega)
    · refine ⟨hpart, x, ?_, h.2.1 ▸ hchild⟩
      rw [isElement, element?_of_data h.1, Option.isSome_some]
    · exact ⟨hpart, hbelow⟩
  | doctype .., x, _, hlow, hhigh | text _, x, _, hlow, hhigh | comment _, x, _, hlow, hhigh =>
    absurd (Nat.lt_succ_iff.1 hhigh) (Nat.not_le_of_lt hlow)

/-- **Every number belongs to a piece of markup**, which is one of those next to each other or a child of an element. -/
theorem AreFrom.exists_of_lt : ∀ {F : List Markup} {x : Nat}, AreFrom tree F x → x ≤ y → y < x + countAll F →
    (∃ part, IsFrom tree part y) ∧ (y ∈ numbers x F ∨ ∃ p, tree.isElement p ∧ y ∈ tree.children p)
  | [], x, _, hlow, hhigh => absurd hhigh (Nat.not_lt_of_le hlow)
  | m :: F, x, h, hlow, hhigh => by
    rw [AreFrom] at h
    rw [countAll] at hhigh
    rw [numbers]
    -- The number is one of a later part, that of this part or one of those below it.
    by_cases hbehind : x + m.count ≤ y
    · obtain ⟨hpart, hplace⟩ := AreFrom.exists_of_lt h.2 hbehind (by omega)
      exact ⟨hpart, hplace.imp_left (List.mem_cons_of_mem x)⟩
    rcases Nat.eq_or_lt_of_le hlow with rfl | hlow
    · exact ⟨⟨m, h.1⟩, .inl List.mem_cons_self⟩
    · obtain ⟨hpart, hbelow⟩ := IsFrom.exists_of_lt h.1 hlow (Nat.lt_of_not_le hbehind)
      exact ⟨hpart, .inr hbelow⟩

end

/-! ### The order of the numbers -/

/-- The nodes of a tree that are neither the document nor elements have no children. -/
def HasLeaves (tree : Tree) : Prop := ∀ x, x ≠ root → tree.isElement x = false → tree.children x = []

/-- A piece of markup has a number of its own. -/
theorem count_pos (m : Markup) : 0 < m.count := by
  cases m with
  | element name attributes children =>
    rw [count]
    exact Nat.succ_pos _
  | doctype => exact Nat.one_pos
  | text => exact Nat.one_pos
  | comment => exact Nat.one_pos

mutual

/-- What is below a piece of markup has the numbers behind its own. -/
theorem IsFrom.preorder (hleaves : HasLeaves tree) : ∀ {m : Markup} {x : Nat}, 0 < x → IsFrom tree m x →
    Preorder tree (tree.children x) (List.range' (x + 1) (m.count - 1))
  | element name attributes children, x, _, h => by
    rw [IsFrom] at h
    rw [h.2.1, count, Nat.add_sub_cancel]
    exact AreFrom.preorder hleaves (Nat.succ_pos x) h.2.2
  | doctype .., x, hpos, h | text _, x, hpos, h | comment _, x, hpos, h => by
    rw [hleaves x (Nat.ne_of_gt hpos) (isElement_of_data h nofun)]
    exact .none

/-- **The pre-order** of nodes that are numbered from some number on is the order of their numbers. -/
theorem AreFrom.preorder (hleaves : HasLeaves tree) : ∀ {F : List Markup} {x : Nat}, 0 < x → AreFrom tree F x →
    Preorder tree (numbers x F) (List.range' x (countAll F))
  | [], _, _, _ => .none
  | m :: F, x, hpos, h => by
    rw [AreFrom] at h
    -- The first number is that of the piece itself, then come those of what is below it, then those of the other pieces.
    have hrange : List.range' x (countAll (m :: F)) =
        x :: List.range' (x + 1) (m.count - 1) ++ List.range' (x + m.count) (countAll F) :=
      calc List.range' x (countAll (m :: F))
          = List.range' x m.count ++ List.range' (x + m.count) (countAll F) := by
            rw [countAll, List.range'_append_1]
        _ = x :: List.range' (x + 1) (m.count - 1) ++ List.range' (x + m.count) (countAll F) := by
            rw [← List.range'_succ, Nat.sub_add_cancel m.count_pos]
    rw [numbers, hrange]
    exact .cons (IsFrom.preorder hleaves hpos h.1) (AreFrom.preorder hleaves (Nat.add_pos_left hpos _) h.2)

end

/-! ### The tree of markup -/

/-- **A tree that is built from markup**, node by node in document order. -/
structure IsBuiltFrom (tree : Tree) (F : List Markup) : Prop where
  /-- The first node is the document. -/
  document : (tree.get? root).map Node.data = some .document
  /-- The walk from the document ends. -/
  walks : tree.Walks (tree.children root) (tree.descendants root)
  /-- It comes to all other nodes, each one once, in the order of their numbers. -/
  descendants : tree.descendants root = List.range' 1 (tree.size - 1)
  /-- The children of a node are those of its piece of markup, with the same content. -/
  areAt : AreAt tree (keptAll F) (tree.children root)
  /-- What has no content in markup has no children. -/
  leaves : HasLeaves tree
  /-- No two attributes of an element have the same name in any case. -/
  attributes : ∀ x e, tree.element? x = some e → e.attributes.lowerNames.Nodup

/-- The nodes of a tree of markup are the document and those of the markup, and each of these is a child of the document or
of an element. -/
theorem Added.exists_isFrom (h : Added root F .empty tree) (hroot : y ≠ root) (hy : y < tree.size) :
    (∃ part, IsFrom tree part y) ∧ ∃ p, (p = root ∨ tree.isElement p) ∧ y ∈ tree.children p := by
  have hlow : 1 ≤ y := Nat.one_le_iff_ne_zero.2 hroot
  have hhigh : y < 1 + countAll F := h.size ▸ hy
  obtain ⟨hpart, hchild | ⟨p, hp, hchild⟩⟩ := h.areFrom.exists_of_lt hlow hhigh
  · refine ⟨hpart, root, .inl rfl, ?_⟩
    rw [h.children]
    exact List.mem_append_right _ hchild
  · exact ⟨hpart, p, .inr hp, hchild⟩

/-- Every child is a child of the document or of an element, so other nodes have no children. -/
theorem Added.hasLeaves (h : Added root F .empty tree) : HasLeaves tree := by
  intro x hroot helement
  refine List.eq_nil_iff_forall_not_mem.2 fun y hy => ?_
  have hparent := h.linked.mem_iff.1 hy
  have hnot : y ≠ root := by
    rintro rfl
    rw [h.linked.parent?_root] at hparent
    cases hparent
  obtain ⟨node, hnode, -⟩ := Linked.get?_of_parent? hparent
  obtain ⟨-, p, hp, hchild⟩ := h.exists_isFrom hnot (lt_size_of_get? hnode)
  -- A node has one parent only.
  obtain rfl : x = p := Option.some.inj (hparent.symm.trans (h.linked.mem_iff.1 hchild))
  rcases hp with rfl | hp
  · exact hroot rfl
  · rw [helement] at hp
    cases hp

/-- The attributes of an element were inserted one after the other. -/
theorem IsFrom.nodup_lowerNames {e : Element} (h : IsFrom tree m x) (he : tree.element? x = some e) :
    e.attributes.lowerNames.Nodup := by
  have hnot {data : NodeData} (hdata : (tree.get? x).map Node.data = some data) (hno : ∀ e, data ≠ .element e) : False := by
    have hfalse := isElement_of_data hdata hno
    rw [isElement, he] at hfalse
    cases hfalse
  cases m with
  | element name attributes children =>
    rw [IsFrom] at h
    -- Attributes are taken up under lower-case names, of which none occurs twice.
    obtain rfl := Option.some.inj ((element?_of_data h.1).symm.trans he)
    exact Attributes.nodup_lowerNames_ofList attributes
  | doctype => exact (hnot h nofun).elim
  | text => exact (hnot h nofun).elim
  | comment => exact (hnot h nofun).elim

/-- **A tree that markup was added to** is built from it. -/
theorem Added.isBuiltFrom (h : Added root F .empty tree) : IsBuiltFrom tree F := by
  have hground : tree.Grounded root := h.linked.grounded_of_attached .refl
  have hdocument : (tree.get? root).map Node.data = some .document := by
    obtain ⟨node, hnode, hdata, -⟩ := h.linked.document
    rw [hnode, Option.map_some, hdata]
  have hchildren : tree.children root = numbers 1 F := by
    rw [h.children]
    rfl
  have hsize : tree.size = 1 + countAll F := h.size
  refine ⟨hdocument, h.linked.walks_descendants hground, ?_, ?_, h.hasLeaves, fun x e he => ?_⟩
  · have hpreorder := AreFrom.preorder h.hasLeaves Nat.one_pos h.areFrom
    rw [hsize, Nat.add_sub_cancel_left]
    exact (h.linked.descendants_spec hground).1.unique (hchildren ▸ hpreorder)
  · rw [hchildren]
    exact h.areFrom.areAt
  · obtain ⟨node, hnode, -⟩ := Option.bind_eq_some_iff.1 he
    -- The document is no element, so this one was added for a part of the markup.
    have hroot : x ≠ root := by
      rintro rfl
      have hfalse := isElement_of_data hdocument nofun
      rw [isElement, he] at hfalse
      cases hfalse
    obtain ⟨⟨part, hpart⟩, -⟩ := h.exists_isFrom hroot (lt_size_of_get? hnode)
    exact hpart.nodup_lowerNames he

end Markup

/-- **Reading builds a tree in document order.** Whatever pieces of markup there are, they become a tree without an error, and
so does the markup of any text: it is read as a document, and no node fails to be appended on the way. In this tree

* the walk from the document lists the numbers from one on up to the last one, in increasing order, so every node is below
  the document and comes before all nodes with larger numbers;
* the children of a node are those of its piece of markup in the same order, with the same content and, but for the case of
  its letters, the same name; neither a text nor a comment nor a document type has children;
* no two attributes of an element have names that are the same in lower case.

Nothing is left out of the markup of a text: what looks like a processing instruction in it is read as a comment. -/
theorem readDocument?_isBuiltFrom :
    (∀ F, ∃ tree, Markup.addAllTo root F .empty = .ok tree ∧ Markup.IsBuiltFrom tree F) ∧
    ∀ html, ∃ doc, readDocument? html = .ok doc ∧ Markup.IsBuiltFrom doc.tree (readMarkupTree html) := by
  refine ⟨fun F => ?_, fun html => ?_⟩
  · obtain ⟨tree, htree, hadded⟩ := Markup.exists_added_empty F
    exact ⟨tree, htree, hadded.isBuiltFrom⟩
  · obtain ⟨tree, htree, hadded⟩ := Markup.exists_added_empty (readMarkupTree html)
    refine ⟨{ (Document.withTree .empty tree).locate with isFragment := isFragmentText html.toList }, ?_,
      hadded.isBuiltFrom⟩
    rw [readDocument?, htree]
    rfl

end HtmlMail.Html
