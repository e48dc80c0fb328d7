import HtmlMail.Proofs.Html.ForestGrowth

/-!
# The first node

The first node that is made while markup is read is the first child of the document: a comment, a document type, or the
document element. It stays there as long as it is not moved itself, nothing is put in front of it, and the children of
the document are not given to another node.

* `Content.isFront` : what the first node can hold;
* `Forest.HasFront` : the first node is where it belongs;
* `Forest.HasFront.append`, `Forest.HasFront.insertBefore`, `Forest.HasFront.moveChildren` and their like : what may be
  done with the other nodes.
-/

namespace HtmlMail.Html

open Dom

namespace Construction

/-- Whether a document can begin with a node that holds this. -/
def Content.isFront : Content → Bool
  | .doctype .. | .comment _ => true
  | .element ns name _ _ => ns == .html && name == "html"
  | .container | .text _ => false

namespace Forest

variable {forest forest' : Forest} {node source x : Nat}

/-- The number of the first node that is made. -/
def front : Nat := 1

/-- **The first node is where it belongs**: the document begins with it, and it stands nowhere else. -/
structure HasFront (forest : Forest) : Prop where
  container : forest.content? document = some .container
  isFront : (forest.content? front).any Content.isFront
  head? : (forest.children document).head? = some front
  only : ∀ node, front ∈ forest.children node → node = document

theorem HasFront.lt_size (h : forest.HasFront) : front < forest.cells.size := by
  obtain ⟨content, hcontent, -⟩ := (Option.any_eq_true _ _).1 h.isFront
  exact lt_size_of_content? hcontent

/-- What counts is what the nodes hold, and the first node among children. -/
theorem HasFront.congr (h : forest.HasFront) (hcontainer : forest'.content? document = forest.content? document)
    (hfront : (forest.content? front).any Content.isFront → (forest'.content? front).any Content.isFront)
    (hhead : (forest.children document).head? = some front → (forest'.children document).head? = some front)
    (honly : ∀ x, front ∈ forest'.children x → front ∈ forest.children x) : forest'.HasFront where
  container := hcontainer.trans h.container
  isFront := hfront h.isFront
  head? := hhead h.head?
  only x hx := h.only x (honly x hx)

/-! ### Changed cells -/

theorem content?_modify (forest : Forest) {f : Cell → Cell} (h : ∀ c, (f c).content = c.content) (node x : Nat) :
    (forest.modify node f).content? x = forest.content? x := by
  rw [content?_eq, content?_eq, getElem?_modify]
  split
  · rw [Option.map_map]
    exact congrArg (Option.map · _) (funext h)
  · rfl

theorem children_modify (forest : Forest) {f : Cell → Cell} (h : ∀ c, (f c).children = c.children) (node x : Nat) :
    (forest.modify node f).children x = forest.children x := by
  rw [children_eq, children_eq, getElem?_modify]
  split
  · rw [Option.map_map]
    exact congrArg (fun g => (Option.map g _).getD []) (funext h)
  · rfl

/-- A node gets other children, but the first node stays the first one. -/
theorem HasFront.withChildren (h : forest.HasFront) (node : Nat) {g : List Nat → List Nat}
    (hhead : ∀ rest, (g (front :: rest)).head? = some front) (hmem : ∀ l, front ∈ g l → front ∈ l) :
    (forest.modify node fun c => { c with children := g c.children }).HasFront := by
  have hsame := content?_modify forest (f := fun c => { c with children := g c.children })
    (fun _ => rfl) node
  refine h.congr (hsame _) (fun hfront => by rwa [hsame]) (fun hold => ?_) fun x hx => ?_
  · rw [children_eq] at hold ⊢
    rw [getElem?_modify]
    split
    · obtain ⟨rest, hrest⟩ := List.head?_eq_some_iff.1 hold
      cases hcell : forest.cells[document]? with
      | none =>
        rw [hcell] at hrest
        cases hrest
      | some c =>
        rw [hcell] at hrest
        have hchildren : c.children = front :: rest := hrest
        show (g c.children).head? = some front
        rw [hchildren]
        exact hhead rest
    · exact hold
  · -- No node comes to have the first one as a child.
    rw [children_eq, getElem?_modify] at hx
    rw [children_eq]
    split at hx
    · cases hcell : forest.cells[x]? with
      | none =>
        rw [hcell] at hx
        exact hx
      | some c =>
        rw [hcell] at hx
        exact hmem c.children hx
    · exact hx

theorem HasFront.withParent (h : forest.HasFront) (node : Nat) (parent : Option Nat) :
    (forest.modify node fun c => { c with parent := parent }).HasFront := by
  have hcontent := content?_modify forest (f := fun c => { c with parent := parent }) (fun _ => rfl) node
  have hchildren := children_modify forest (f := fun c => { c with parent := parent }) (fun _ => rfl) node
  refine h.congr (hcontent _) (fun hfront => by rwa [hcontent]) (fun hhead => by rwa [hchildren]) fun x hx => ?_
  rwa [hchildren] at hx

/-- A node that holds something else, where the document and its first node still hold what they can. -/
theorem HasFront.withContent (h : forest.HasFront) (node : Nat) {f : Cell → Cell}
    (hchildren : ∀ c, (f c).children = c.children)
    (hcontainer : ∀ c, forest.cells[node]? = some c → c.content = .container → (f c).content = .container)
    (hfront : ∀ c, forest.cells[node]? = some c → c.content.isFront → (f c).content.isFront) :
    (forest.modify node f).HasFront := by
  have hsame := children_modify forest hchildren node
  refine h.congr ?_ (fun hold => ?_) (fun hhead => by rwa [hsame]) fun x hx => by rwa [hsame] at hx
  · have hdocument := h.container
    rw [content?_eq] at hdocument ⊢
    rw [getElem?_modify, content?_eq, hdocument]
    obtain ⟨c, hc, hcontent⟩ := Option.map_eq_some_iff.1 hdocument
    split
    · next heq =>
      subst heq
      rw [hc]
      exact congrArg some (hcontainer c hc hcontent)
    · exact hdocument
  · -- The first node may be the one that is changed.
    rw [content?_eq] at hold ⊢
    rw [getElem?_modify]
    split
    · next heq =>
      subst heq
      obtain ⟨c, hc⟩ : ∃ c, forest.cells[front]? = some c := ⟨_, Array.getElem?_eq_getElem h.lt_size⟩
      rw [hc] at hold ⊢
      exact hfront c hc hold
    · exact hold

/-! ### New and moved nodes -/

theorem HasFront.create (h : forest.HasFront) (content : Content) : (forest.create content).2.HasFront := by
  have hpush (x : Nat) : (forest.create content).2.cells[x]? =
      if x = forest.cells.size then some ⟨content, none, []⟩ else forest.cells[x]? := Array.getElem?_push
  -- The new node comes behind all others, which stay as they are.
  have hold {x : Nat} (hx : x < forest.cells.size) : (forest.create content).2.cells[x]? = forest.cells[x]? := by
    rw [hpush, if_neg hx.ne]
  have hdocument : (forest.create content).2.cells[document]? = forest.cells[document]? :=
    hold (Nat.zero_lt_one.trans h.lt_size)
  refine h.congr ?_ (fun hfront => ?_) (fun hhead => ?_) fun x hx => ?_
  · rw [content?_eq, hdocument, content?_eq]
  · rwa [content?_eq, hold h.lt_size]
  · rwa [children_eq, hdocument]
  · rw [children_eq, hpush] at hx
    split at hx
    · cases hx
    · exact hx

theorem create_ne_front (h : forest.HasFront) (content : Content) : (forest.create content).1 ≠ front :=
  h.lt_size.ne'

/-- A node that leaves its place. -/
theorem HasFront.detach (h : forest.HasFront) (hnode : node ≠ front) : (forest.detach node).HasFront := by
  rw [Forest.detach]
  split
  · exact h
  · refine (h.withChildren _ (fun rest => ?_) fun l hl => (List.mem_filter.1 hl).1).withParent _ _
    rw [List.filter_cons, if_pos (bne_iff_ne.2 hnode.symm), List.head?_cons]

/-- A node that goes behind the children of another one. -/
theorem HasFront.append (h : forest.HasFront) (hnode : node ≠ front) (parent : Nat) :
    (forest.append parent node).HasFront := by
  refine ((h.detach hnode).withParent node (some parent)).withChildren parent (g := (· ++ [node])) (fun _ => rfl)
    fun l hl => ?_
  exact (List.mem_append.1 hl).resolve_right fun heq => hnode (List.mem_singleton.1 heq).symm

theorem mem_insertInFront {mark new : Nat} {l : List Nat} (hx : x ∈ insertInFront mark new l) : x = new ∨ x ∈ l := by
  induction l with
  | nil => exact .inl (List.mem_singleton.1 hx)
  | cons n rest ih =>
    rw [insertInFront] at hx
    split at hx
    · exact List.mem_cons.1 hx
    · rcases List.mem_cons.1 hx with rfl | hx
      · exact .inr List.mem_cons_self
      · exact (ih hx).imp_right (List.mem_cons_of_mem n)

/-- A node that goes in front of another one. -/
theorem HasFront.insertBefore (h : forest.HasFront) (hnode : node ≠ front) {sibling : Nat} (hsibling : sibling ≠ front) :
    (forest.insertBefore sibling node).HasFront := by
  rw [Forest.insertBefore]
  split
  · exact h
  · refine ((h.detach hnode).withParent node _).withChildren _ (fun rest => ?_) fun l hl => ?_
    · rw [insertInFront, if_neg hsibling.symm, List.head?_cons]
    · exact (mem_insertInFront hl).resolve_left hnode.symm

/-- Text that is joined to a text: neither the document nor its first node holds one. -/
theorem HasFront.extendText? (h : forest.HasFront) {node? : Option Nat} {text : String}
    (hforest : forest.extendText? node? text = some forest') : forest'.HasFront := by
  obtain ⟨node, -, hnode⟩ := Option.bind_eq_some_iff.1 hforest
  split at hnode
  · next t ht =>
    rw [← Option.some.inj hnode]
    have hcell (c : Cell) (hc : forest.cells[node]? = some c) : c.content = .text t := by
      rw [content?_eq, hc] at ht
      exact Option.some.inj ht
    -- A text is neither a container nor the front.
    refine h.withContent node (fun _ => rfl) (fun c hc hcontainer => ?_) fun c hc hfront => ?_
    · rw [hcell c hc] at hcontainer
      cases hcontainer
    · rw [hcell c hc] at hfront
      cases hfront
  · cases hnode

theorem HasFront.appendText (h : forest.HasFront) (parent : Nat) (text : String) :
    (forest.appendText parent text).HasFront := by
  rw [Forest.appendText]
  cases hforest : forest.extendText? (forest.children parent).getLast? text with
  | some extended => exact h.extendText? hforest
  | none => exact (h.create (.text text)).append (create_ne_front h (.text text)) parent

theorem HasFront.insertTextBefore (h : forest.HasFront) {sibling : Nat} (hsibling : sibling ≠ front) (text : String) :
    (forest.insertTextBefore sibling text).HasFront := by
  rw [Forest.insertTextBefore]
  cases hforest : forest.extendText? (forest.previous? sibling) text with
  | some extended => exact h.extendText? hforest
  | none => exact (h.create (.text text)).insertBefore (create_ne_front h (.text text)) hsibling

theorem HasFront.appendAll {nodes : List Nat} (h : forest.HasFront) (hnodes : front ∉ nodes) (target : Nat) :
    (nodes.foldl (fun forest node => forest.append target node) forest).HasFront := by
  induction nodes generalizing forest with
  | nil => exact h
  | cons node rest ih =>
    rw [List.mem_cons, not_or] at hnodes
    exact ih (h.append (Ne.symm hnodes.1) target) hnodes.2

/-- Children move, but not those of the document. -/
theorem HasFront.moveChildren (h : forest.HasFront) (hsource : source ≠ document) (target : Nat) :
    (forest.moveChildren source target).HasFront :=
  h.appendAll (fun hmem => hsource (h.only source hmem)) target

theorem HasFront.addMissingAttributes (h : forest.HasFront) (node : Nat) (more : List Attribute) :
    (forest.addMissingAttributes node more).HasFront := by
  refine h.withContent node (fun c => ?_) (fun c _ hcontainer => ?_) fun c _ hfront => ?_
  · split <;> rfl
  · rw [hcontainer]
    exact hcontainer
  · split
    · next hcontent =>
      rw [hcontent] at hfront
      exact hfront
    · exact hfront

end Forest

end Construction

end HtmlMail.Html
