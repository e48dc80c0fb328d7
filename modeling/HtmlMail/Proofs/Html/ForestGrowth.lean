import HtmlMail.Html.Reader
import HtmlMail.Proofs.Html.NodeMarkup
import HtmlMail.Proofs.Html.UniqueReading

/-!
# Markup put into a forest

Where nothing is moved, nodes are made in the order in which they are written, and each becomes the last child of the
innermost open element. `Forest.add` is what comes of it for a whole piece of markup, and reading the forest gives the
markup back, unless two texts stand side by side, which are joined.

* `Forest.addNode`, `Forest.add`, `Forest.addAll` : markup behind the last child of a node;
* `Forest.Holds`, `Forest.HoldAll` : markup that stands at nodes of a forest, said without a bound;
* `Forest.Grown` : what a forest is like in which pieces of markup were added to a node;
* `Forest.grown_addAll`, `ofForest_addAll` : markup that is added is read again;
* `Forest.appendText_appendText` : text that comes in parts is one text.
-/

namespace HtmlMail.Html

open Dom

namespace Markup

/-- What the node of a piece of markup holds while markup is read. -/
def content : Markup → Construction.Content
  | doctype name publicId systemId => .doctype name publicId systemId
  | element name attributes _ => .element .html name attributes none
  | text t => .text t
  | comment t => .comment t

mutual

/-- Whether nowhere below a piece of markup two texts stand side by side. -/
def IsApart : Markup → Prop
  | element _ _ children => AreApart children
  | _ => True

/-- Whether no two texts stand side by side in pieces of markup and below them. -/
def AreApart : List Markup → Prop
  | [] => True
  | m :: rest => IsApart m ∧ (m.isText → ∀ next ∈ rest.head?, ¬ next.isText) ∧ AreApart rest

end

end Markup

namespace Construction.Forest

variable {forest forest' forest'' : Forest} {parent node low low' : Nat} {content : Content}

/-! ### Adding markup -/

/-- The forest with a new node behind the last child of another one. -/
def addNode (parent : Nat) (content : Content) (forest : Forest) : Forest :=
  (forest.create content).2.append parent forest.cells.size

mutual

/-- The forest with a piece of markup behind the last child of a node. -/
def add (parent : Nat) : Markup → Forest → Forest
  | .doctype name publicId systemId, forest => forest.addNode parent (.doctype name publicId systemId)
  | .element name attributes children, forest =>
    addAll forest.cells.size children (forest.addNode parent (.element .html name attributes none))
  | .text t, forest => forest.appendText parent t
  | .comment t, forest => forest.addNode parent (.comment t)

/-- The forest with pieces of markup behind the last child of a node. -/
def addAll (parent : Nat) : List Markup → Forest → Forest
  | [], forest => forest
  | m :: rest, forest => addAll parent rest (add parent m forest)

end

theorem addAll_append (F G : List Markup) (forest : Forest) :
    addAll parent (F ++ G) forest = addAll parent G (addAll parent F forest) := by
  induction F generalizing forest with
  | nil => rw [List.nil_append, addAll]
  | cons m F ih => rw [List.cons_append, addAll, addAll, ih]

/-! ### The cells of a forest -/

@[simp] theorem size_modify (node : Nat) (f : Cell → Cell) : (forest.modify node f).cells.size = forest.cells.size :=
  Array.size_modify

theorem getElem?_modify (node x : Nat) (f : Cell → Cell) :
    (forest.modify node f).cells[x]? = if node = x then forest.cells[x]?.map f else forest.cells[x]? :=
  Array.getElem?_modify

/-- A new node is the only one that is not as it was, and its parent has one more child. -/
theorem getElem?_addNode (h : parent < forest.cells.size) (content : Content) (x : Nat) :
    (forest.addNode parent content).cells[x]? =
      if x = forest.cells.size then some ⟨content, some parent, []⟩
      else if parent = x then forest.cells[x]?.map fun c => { c with children := c.children ++ [forest.cells.size] }
      else forest.cells[x]? := by
  have hpush (y : Nat) : (forest.create content).2.cells[y]? =
      if y = forest.cells.size then some ⟨content, none, []⟩ else forest.cells[y]? := Array.getElem?_push
  -- The new node is nowhere yet, so nothing is detached.
  have hno : (forest.create content).2.parent? forest.cells.size = none := by rw [parent?, hpush, if_pos rfl]; rfl
  rw [addNode, append, detach, hno, getElem?_modify, getElem?_modify, hpush]
  rcases eq_or_ne x forest.cells.size with rfl | hx
  · rw [if_neg h.ne, if_pos rfl, if_pos rfl, if_pos rfl]
    rfl
  · rw [if_neg hx, if_neg hx, if_neg hx.symm]

@[simp] theorem size_addNode (parent : Nat) (content : Content) :
    (forest.addNode parent content).cells.size = forest.cells.size + 1 := by
  have hcreate : (forest.create content).2.cells.size = forest.cells.size + 1 := Array.size_push _
  rw [addNode, append, size_modify, size_modify, detach]
  split
  · exact hcreate
  · rw [size_modify, size_modify, hcreate]

/-- Whether the last child of a node is a text. -/
def endsInText (forest : Forest) (node : Nat) : Bool :=
  (forest.children node).getLast?.any fun child =>
    match forest.content? child with
    | some (.text _) => true
    | _ => false

/-- Behind anything but a text, a text is a new node. -/
theorem appendText_of_not_endsInText (h : ¬ forest.endsInText parent) (t : String) :
    forest.appendText parent t = forest.addNode parent (.text t) := by
  -- Without a text at the end there is none to extend.
  have hnone : forest.extendText? (forest.children parent).getLast? t = none := by
    rw [extendText?]
    cases hlast : (forest.children parent).getLast? with
    | none => rfl
    | some child =>
      rw [endsInText, hlast, Option.any_some] at h
      rw [Option.bind_some]
      split
      · next hchild =>
        rw [hchild] at h
        exact absurd rfl h
      · rfl
  rw [appendText, hnone]
  rfl

/-! ### Markup at nodes of a forest -/

mutual

/-- Whether a piece of markup stands at a node: the node holds what the markup begins with, and what is below it stands
at its children. Nodes are numbered from above to below, beginning not before `low`. -/
def Holds (forest : Forest) (low : Nat) : Markup → Nat → Prop
  | .doctype name publicId systemId, x => low ≤ x ∧ forest.content? x = some (.doctype name publicId systemId)
  | .element name attributes children, x =>
    low ≤ x ∧ forest.content? x = some (.element .html name attributes none) ∧
      HoldAll forest (x + 1) children (forest.children x)
  | .text t, x => low ≤ x ∧ forest.content? x = some (.text t)
  | .comment t, x => low ≤ x ∧ forest.content? x = some (.comment t)

/-- Whether pieces of markup stand at nodes, one at each. -/
def HoldAll (forest : Forest) (low : Nat) : List Markup → List Nat → Prop
  | [], [] => True
  | m :: rest, x :: xs => Holds forest low m x ∧ HoldAll forest low rest xs
  | _, _ => False

end

theorem content?_eq (forest : Forest) (x : Nat) : forest.content? x = forest.cells[x]?.map (·.content) := rfl

theorem children_eq (forest : Forest) (x : Nat) : forest.children x = (forest.cells[x]?.map (·.children)).getD [] := rfl

theorem lt_size_of_content? (h : forest.content? node = some content) : node < forest.cells.size := by
  obtain ⟨cell, hcell, -⟩ := Option.map_eq_some_iff.1 h
  exact (Array.getElem?_eq_some_iff.1 hcell).1

mutual

/-- Markup stands where it stood as long as the nodes from `low` on are as they were. -/
theorem Holds.frame : ∀ {m : Markup} {x low : Nat},
    (∀ y, low ≤ y → y < forest.cells.size → forest'.cells[y]? = forest.cells[y]?) → forest.Holds low m x →
      forest'.Holds low m x
  | .doctype .., x, _, hframe, h => by
    rw [Holds] at h ⊢
    rwa [content?_eq, hframe x h.1 (lt_size_of_content? h.2)]
  | .text _, x, _, hframe, h => by
    rw [Holds] at h ⊢
    rwa [content?_eq, hframe x h.1 (lt_size_of_content? h.2)]
  | .comment _, x, _, hframe, h => by
    rw [Holds] at h ⊢
    rwa [content?_eq, hframe x h.1 (lt_size_of_content? h.2)]
  | .element .., x, _, hframe, h => by
    rw [Holds] at h ⊢
    have hcell := hframe x h.1 (lt_size_of_content? h.2.1)
    -- What is below has higher numbers, so it is in the part that stays.
    have hbelow := HoldAll.frame (fun y hy => hframe y (h.1.trans (Nat.le_of_succ_le hy))) h.2.2
    refine ⟨h.1, ?_, ?_⟩
    · rw [content?_eq, hcell]
      exact h.2.1
    · rwa [children_eq forest', hcell]

theorem HoldAll.frame : ∀ {F : List Markup} {xs : List Nat} {low : Nat},
    (∀ y, low ≤ y → y < forest.cells.size → forest'.cells[y]? = forest.cells[y]?) → forest.HoldAll low F xs →
      forest'.HoldAll low F xs
  | [], [], _, _, _ => by rw [HoldAll]; trivial
  | [], _ :: _, _, _, h => h.elim
  | _ :: _, [], _, _, h => h.elim
  | m :: F, x :: xs, _, hframe, h => by
    rw [HoldAll] at h ⊢
    exact ⟨Holds.frame hframe h.1, HoldAll.frame hframe h.2⟩

end

theorem Holds.le {m : Markup} (h : forest.Holds low m node) : low ≤ node := by
  cases m <;> exact h.1

theorem Holds.mono (hlow : low' ≤ low) {m : Markup} (h : forest.Holds low m node) : forest.Holds low' m node := by
  cases m <;> exact ⟨hlow.trans h.1, h.2⟩

theorem HoldAll.mono (hlow : low' ≤ low) : ∀ {F : List Markup} {xs : List Nat}, forest.HoldAll low F xs →
    forest.HoldAll low' F xs
  | [], [], _ => by rw [HoldAll]; trivial
  | [], _ :: _, h => h.elim
  | _ :: _, [], h => h.elim
  | m :: F, x :: xs, h => by
    rw [HoldAll] at h ⊢
    exact ⟨h.1.mono hlow, h.2.mono hlow⟩

theorem HoldAll.append : ∀ {F G : List Markup} {xs ys : List Nat}, forest.HoldAll low F xs → forest.HoldAll low G ys →
    forest.HoldAll low (F ++ G) (xs ++ ys)
  | [], G, [], ys, _, hG => hG
  | [], _, _ :: _, _, h, _ => h.elim
  | _ :: _, _, [], _, h, _ => h.elim
  | m :: F, G, x :: xs, ys, hF, hG => by
    rw [HoldAll] at hF
    rw [List.cons_append, List.cons_append, HoldAll]
    exact ⟨hF.1, hF.2.append hG⟩

theorem Holds.lt_size {m : Markup} (h : forest.Holds low m node) : node < forest.cells.size := by
  cases m with
  | element => exact lt_size_of_content? h.2.1
  | doctype => exact lt_size_of_content? h.2
  | text => exact lt_size_of_content? h.2
  | comment => exact lt_size_of_content? h.2

mutual

/-- Because numbers grow on the way down, there are as many nodes as it is long. -/
theorem Holds.add_depth_le : ∀ {m : Markup} {x low : Nat}, forest.Holds low m x → x + m.depth ≤ forest.cells.size
  | .doctype .., _, _, h => h.lt_size
  | .text _, _, _, h => h.lt_size
  | .comment _, _, _, h => h.lt_size
  | .element .., _, _, h => by
    have hlt := h.lt_size
    rw [Holds] at h
    have hbelow := HoldAll.add_depthAll_le hlt h.2.2
    rw [Markup.depth]
    omega

theorem HoldAll.add_depthAll_le : ∀ {F : List Markup} {xs : List Nat} {low : Nat}, low ≤ forest.cells.size →
    forest.HoldAll low F xs → low + Markup.depthAll F ≤ forest.cells.size
  | [], _, _, hlow, _ => by rwa [Markup.depthAll]
  | _ :: _, [], _, _, h => h.elim
  | m :: F, x :: xs, low, hlow, h => by
    rw [HoldAll] at h
    have hm := h.1.add_depth_le
    have hF := h.2.add_depthAll_le hlow
    have hle := h.1.le
    rw [Markup.depthAll]
    omega

end

mutual

/-- A bound not below the depth of the markup gives it. -/
theorem Holds.ofForest_eq : ∀ {m : Markup} {x low bound : Nat}, forest.Holds low m x → m.depth ≤ bound →
    Markup.ofForest forest bound x = [m]
  | m, _, _, 0, _, hbound => by cases m <;> simp [Markup.depth] at hbound
  | .doctype .., _, _, _ + 1, h, _ => by rw [Markup.ofForest, show _ = _ from h.2]
  | .text _, _, _, _ + 1, h, _ => by rw [Markup.ofForest, show _ = _ from h.2]
  | .comment _, _, _, _ + 1, h, _ => by rw [Markup.ofForest, show _ = _ from h.2]
  | .element .., _, _, bound + 1, h, hbound => by
    rw [Holds] at h
    rw [Markup.depth] at hbound
    have hbelow := HoldAll.flatMap_ofForest_eq h.2.2 (Nat.le_of_succ_le_succ hbound)
    rw [Markup.ofForest, h.2.1, hbelow]

theorem HoldAll.flatMap_ofForest_eq : ∀ {F : List Markup} {xs : List Nat} {low bound : Nat}, forest.HoldAll low F xs →
    Markup.depthAll F ≤ bound → xs.flatMap (Markup.ofForest forest bound) = F
  | [], [], _, _, _, _ => List.flatMap_nil
  | [], _ :: _, _, _, h, _ => h.elim
  | _ :: _, [], _, _, h, _ => h.elim
  | m :: F, x :: xs, _, bound, h, hbound => by
    rw [HoldAll] at h
    rw [Markup.depthAll, Nat.max_le] at hbound
    rw [List.flatMap_cons, h.1.ofForest_eq hbound.1, h.2.flatMap_ofForest_eq hbound.2, List.singleton_append]

end

/-! ### Added markup -/

/-- What a forest is like in which pieces of markup were added to a node: they stand at its last children, and all the
other nodes are as they were. -/
structure Grown (parent : Nat) (F : List Markup) (forest forest' : Forest) : Prop where
  size_le : forest.cells.size ≤ forest'.cells.size
  frame : ∀ x, x < forest.cells.size → x ≠ parent → forest'.cells[x]? = forest.cells[x]?
  content : forest'.content? parent = forest.content? parent
  children : ∃ xs, forest'.children parent = forest.children parent ++ xs ∧ forest'.HoldAll forest.cells.size F xs

theorem Grown.refl (parent : Nat) (forest : Forest) : Grown parent [] forest forest where
  size_le := Nat.le_refl _
  frame _ _ _ := rfl
  content := rfl
  children := ⟨[], (List.append_nil _).symm, by rw [HoldAll]; trivial⟩

theorem Grown.trans {F G : List Markup} (hparent : parent < forest.cells.size) (hF : Grown parent F forest forest')
    (hG : Grown parent G forest' forest'') : Grown parent (F ++ G) forest forest'' where
  size_le := hF.size_le.trans hG.size_le
  frame x hx hne := (hG.frame x (hx.trans_le hF.size_le) hne).trans (hF.frame x hx hne)
  content := hG.content.trans hF.content
  children := by
    obtain ⟨xs, hxs, hholds⟩ := hF.children
    obtain ⟨ys, hys, hholds'⟩ := hG.children
    refine ⟨xs ++ ys, by rw [hys, hxs, List.append_assoc], .append ?_ (hholds'.mono hF.size_le)⟩
    exact hholds.frame fun y hy hlt => hG.frame y hlt (Nat.ne_of_gt (hparent.trans_le hy))

/-- A new node without children. -/
theorem grown_addNode (hparent : parent < forest.cells.size) {m : Markup}
    (hm : ∀ forest' : Forest, forest'.content? forest.cells.size = some content →
      forest'.children forest.cells.size = [] → forest'.Holds forest.cells.size m forest.cells.size) :
    Grown parent [m] forest (forest.addNode parent content) where
  size_le := by
    rw [size_addNode]
    exact Nat.le_succ _
  frame x hx hne := by rw [getElem?_addNode hparent, if_neg hx.ne, if_neg hne.symm]
  content := by
    rw [content?_eq, getElem?_addNode hparent, if_neg hparent.ne, if_pos rfl, Option.map_map]
    rfl
  children := by
    refine ⟨[forest.cells.size], ?_, ?_, trivial⟩
    · obtain ⟨cell, hcell⟩ : ∃ cell, forest.cells[parent]? = some cell := ⟨_, Array.getElem?_eq_getElem hparent⟩
      rw [children_eq, getElem?_addNode hparent, if_neg hparent.ne, if_pos rfl, children_eq, hcell]
      rfl
    · refine hm _ ?_ ?_
      · rw [content?_eq, getElem?_addNode hparent, if_pos rfl]
        rfl
      · rw [children_eq, getElem?_addNode hparent, if_pos rfl]
        rfl

/-- What is added to a new element is below it. -/
theorem Grown.below {name : String} {attributes : List Attribute} {children : List Markup}
    (h : Grown parent [.element name attributes []] forest forest') (hparent : parent < forest.cells.size)
    (hsize : forest'.cells.size = forest.cells.size + 1) (hnone : forest'.children forest.cells.size = [])
    (hbelow : Grown forest.cells.size children forest' forest'') :
    Grown parent [.element name attributes children] forest forest'' where
  size_le := h.size_le.trans hbelow.size_le
  frame x hx hne := (hbelow.frame x (hx.trans_le h.size_le) hx.ne).trans (h.frame x hx hne)
  content := by
    rw [content?_eq, hbelow.frame parent (hparent.trans_le h.size_le) hparent.ne]
    exact h.content
  children := by
    obtain ⟨xs, hxs, hholds⟩ := h.children
    obtain ⟨ys, hys, hholds'⟩ := hbelow.children
    refine ⟨xs, ?_, ?_⟩
    · rw [children_eq, hbelow.frame parent (hparent.trans_le h.size_le) hparent.ne]
      exact hxs
    · match xs, hholds with
      | [x], hholds =>
        -- The only new node is the element.
        obtain ⟨hlow, hcontent, -⟩ := hholds.1
        have hx : x = forest.cells.size := by
          have hlt := lt_size_of_content? hcontent
          omega
        subst hx
        refine ⟨⟨Nat.le_refl _, ?_, ?_⟩, trivial⟩
        · rw [hbelow.content, hcontent]
        · rw [hys, hnone, List.nil_append, ← hsize]
          exact hholds'

/-- Whether the last child of a node is a text can be seen by what was added last. -/
theorem Grown.endsInText_eq {m : Markup} (h : Grown parent [m] forest forest') :
    forest'.endsInText parent = m.isText := by
  obtain ⟨xs, hxs, hholds⟩ := h.children
  match xs, hholds with
  | [x], hholds =>
    rw [endsInText, hxs, List.getLast?_concat, Option.any_some]
    have hm := hholds.1
    have hcontent : forest'.content? x = some m.content := by
      cases m with
      | element => exact hm.2.1
      | doctype => exact hm.2
      | text => exact hm.2
      | comment => exact hm.2
    rw [hcontent]
    cases m <;> rfl

mutual

/-- **A piece of markup that is added** stands at the last child. -/
theorem grown_add : ∀ {m : Markup} {parent : Nat} {forest : Forest}, m.IsApart → parent < forest.cells.size →
    (m.isText → ¬ forest.endsInText parent) → Grown parent [m] forest (forest.add parent m)
  | .doctype name publicId systemId, parent, forest, _, hparent, _ => by
    rw [add]
    refine grown_addNode hparent fun _ hcontent _ => ?_
    rw [Holds]
    exact ⟨Nat.le_refl _, hcontent⟩
  | .comment t, parent, forest, _, hparent, _ => by
    rw [add]
    refine grown_addNode hparent fun _ hcontent _ => ?_
    rw [Holds]
    exact ⟨Nat.le_refl _, hcontent⟩
  | .text t, parent, forest, _, hparent, hbehind => by
    rw [add, appendText_of_not_endsInText (hbehind rfl)]
    refine grown_addNode hparent fun _ hcontent _ => ?_
    rw [Holds]
    exact ⟨Nat.le_refl _, hcontent⟩
  | .element name attributes children, parent, forest, hapart, hparent, _ => by
    rw [Markup.IsApart] at hapart
    rw [add]
    -- First the element is added alone, and then its children grow in it.
    have hnode : Grown parent [.element name attributes []] forest
        (forest.addNode parent (.element .html name attributes none)) := by
      refine grown_addNode hparent fun _ hcontent hchildren => ?_
      rw [Holds, hchildren]
      exact ⟨Nat.le_refl _, hcontent, trivial⟩
    generalize hforest : forest.addNode parent (.element .html name attributes none) = grown at hnode ⊢
    have hnew : grown.cells[forest.cells.size]? = some ⟨.element .html name attributes none, some parent, []⟩ := by
      rw [← hforest, getElem?_addNode hparent, if_pos rfl]
    have hsize : grown.cells.size = forest.cells.size + 1 := by rw [← hforest, size_addNode]
    have hchildren : grown.children forest.cells.size = [] := by rw [children_eq, hnew]; rfl
    have hempty : ¬ grown.endsInText forest.cells.size := by
      rw [endsInText, hchildren]
      exact Bool.false_ne_true
    have hbelow := grown_addAll hapart (hsize ▸ Nat.lt_succ_self _) fun _ _ _ => hempty
    exact hnode.below hparent hsize hchildren hbelow

theorem grown_addAll : ∀ {F : List Markup} {parent : Nat} {forest : Forest}, Markup.AreApart F →
    parent < forest.cells.size → (∀ m ∈ F.head?, m.isText → ¬ forest.endsInText parent) →
      Grown parent F forest (forest.addAll parent F)
  | [], parent, forest, _, _, _ => by
    rw [addAll]
    exact .refl parent forest
  | m :: F, parent, forest, hapart, hparent, hbehind => by
    rw [Markup.AreApart] at hapart
    obtain ⟨hm, hnext, hF⟩ := hapart
    rw [addAll]
    have hgrown := grown_add hm hparent (hbehind m rfl)
    have hrest : Grown parent F (forest.add parent m) ((forest.add parent m).addAll parent F) := by
      -- What follows a text is no text, so it does not run into it.
      refine grown_addAll hF (hparent.trans_le hgrown.size_le) fun next hhead htext => ?_
      rw [hgrown.endsInText_eq]
      exact fun htext' => hnext htext' next hhead htext
    exact hgrown.trans hparent hrest

end

/-- **Added markup is read again.** -/
theorem ofForest_addAll {F : List Markup} (hapart : Markup.AreApart F) {bound : Nat}
    (hbound : (empty.addAll document F).cells.size ≤ bound) :
    Markup.ofForest (empty.addAll document F) bound document = F := by
  have hgrown := grown_addAll hapart (show document < empty.cells.size from Nat.zero_lt_one) fun _ _ _ =>
    Bool.false_ne_true
  obtain ⟨xs, hxs, hholds⟩ := hgrown.children
  -- No part is deeper than there are nodes, so the bound is never reached.
  have hdepth := hholds.add_depthAll_le hgrown.size_le
  obtain ⟨bound, rfl⟩ : ∃ b, bound = b + 1 :=
    Nat.exists_eq_succ_of_ne_zero (Nat.ne_of_gt (Nat.zero_lt_one.trans_le (hgrown.size_le.trans hbound)))
  have hsize : empty.cells.size = 1 := rfl
  rw [Markup.ofForest, hgrown.content, hxs]
  exact hholds.flatMap_ofForest_eq (by omega)

/-! ### Text in parts -/

theorem ext_getElem? (h : ∀ x : Nat, forest.cells[x]? = forest'.cells[x]?) : forest = forest' := by
  cases forest
  cases forest'
  exact congrArg Forest.mk (Array.ext_getElem? h)

/-- A text goes on where the last child is a text. -/
theorem appendText_of_getLast? {t : String} (hlast : (forest.children parent).getLast? = some node)
    (hnode : forest.content? node = some (.text t)) (u : String) :
    forest.appendText parent u = forest.modify node fun c => { c with content := .text (t ++ u) } := by
  rw [appendText, extendText?, hlast, Option.bind_some, hnode]
  rfl

theorem exists_of_endsInText (h : forest.endsInText parent) :
    ∃ child t, (forest.children parent).getLast? = some child ∧ forest.content? child = some (.text t) := by
  rw [endsInText, Option.any_eq_true] at h
  obtain ⟨child, hlast, hchild⟩ := h
  split at hchild
  · next t ht => exact ⟨child, t, hlast, ht⟩
  · cases hchild

/-- **Text that comes in parts** is one text. -/
theorem appendText_appendText (hparent : parent < forest.cells.size) (t u : String) :
    (forest.appendText parent t).appendText parent u = forest.appendText parent (t ++ u) := by
  by_cases hends : forest.endsInText parent
  · -- The text at the end takes in both.
    obtain ⟨child, before, hlast, hchild⟩ := exists_of_endsInText hends
    rw [appendText_of_getLast? hlast hchild, appendText_of_getLast? hlast hchild]
    generalize hmore : forest.modify child (fun c => { c with content := .text (before ++ t) }) = more
    have hcell (x : Nat) : more.cells[x]? =
        if child = x then forest.cells[x]?.map fun c => { c with content := .text (before ++ t) }
        else forest.cells[x]? := by rw [← hmore, getElem?_modify]
    have hlast' : (more.children parent).getLast? = some child := by
      rw [← hlast, children_eq, children_eq, hcell]
      split
      · rw [Option.map_map]
        rfl
      · rfl
    have hchild' : more.content? child = some (.text (before ++ t)) := by
      obtain ⟨cell, hcell', -⟩ := Option.map_eq_some_iff.1 hchild
      rw [content?_eq, hcell, if_pos rfl, hcell']
      rfl
    rw [appendText_of_getLast? hlast' hchild']
    refine ext_getElem? fun x => ?_
    rw [getElem?_modify, getElem?_modify, hcell]
    split
    · rw [Option.map_map, String.append_assoc]
      rfl
    · rfl
  · -- The first text is a new node, and that takes in the second one.
    rw [appendText_of_not_endsInText hends, appendText_of_not_endsInText hends]
    have hcell := getElem?_addNode hparent (.text t)
    generalize forest.addNode parent (.text t) = more at hcell ⊢
    have hlast' : (more.children parent).getLast? = some forest.cells.size := by
      obtain ⟨cell, hold⟩ : ∃ cell, forest.cells[parent]? = some cell := ⟨_, Array.getElem?_eq_getElem hparent⟩
      rw [children_eq, hcell, if_neg hparent.ne, if_pos rfl, hold]
      exact List.getLast?_concat
    have hchild' : more.content? forest.cells.size = some (.text t) := by
      rw [content?_eq, hcell, if_pos rfl]
      rfl
    rw [appendText_of_getLast? hlast' hchild']
    refine ext_getElem? fun x => ?_
    rw [getElem?_modify, hcell, getElem?_addNode hparent]
    rcases eq_or_ne x forest.cells.size with rfl | hne
    · rw [if_pos rfl, if_pos rfl, if_pos rfl]
      rfl
    · rw [if_neg hne.symm, if_neg hne, if_neg hne]

/-! ### What stays -/

/-- Whether the elements of a forest are also elements of another one. -/
def Keeps (forest forest' : Forest) : Prop := ∀ x ns name as content?,
  forest.content? x = some (.element ns name as content?) → forest'.content? x = some (.element ns name as content?)

theorem Keeps.refl (forest : Forest) : forest.Keeps forest := fun _ _ _ _ _ h => h

theorem content?_addNode (hparent : parent < forest.cells.size) (hx : node < forest.cells.size) :
    (forest.addNode parent content).content? node = forest.content? node := by
  rw [content?_eq, getElem?_addNode hparent, if_neg hx.ne, content?_eq]
  split
  · rw [Option.map_map]
    rfl
  · rfl

theorem content?_addNode_self (hparent : parent < forest.cells.size) :
    (forest.addNode parent content).content? forest.cells.size = some content := by
  rw [content?_eq, getElem?_addNode hparent, if_pos rfl]
  rfl

theorem keeps_addNode (hparent : parent < forest.cells.size) (content : Content) :
    forest.Keeps (forest.addNode parent content) := fun x _ _ _ _ hx => by
  rw [content?_addNode hparent (lt_size_of_content? hx)]
  exact hx

theorem keeps_appendText (hparent : parent < forest.cells.size) (t : String) :
    forest.Keeps (forest.appendText parent t) := by
  by_cases hends : forest.endsInText parent
  · obtain ⟨child, before, hlast, hchild⟩ := exists_of_endsInText hends
    intro x ns name as content? hx
    -- The text that grows is no element.
    have hne : child ≠ x := by
      rintro rfl
      rw [hchild] at hx
      cases hx
    rw [appendText_of_getLast? hlast hchild, content?_eq, getElem?_modify, if_neg hne]
    exact hx
  · rw [appendText_of_not_endsInText hends]
    exact keeps_addNode hparent _

end Construction.Forest

end HtmlMail.Html
