import HtmlMail.Dom.Tree
import Mathlib.Data.List.Basic

/-!
# What an attribute has no part in

Setting an attribute changes the value of that attribute on that element. To say that it changes nothing
else, and that nothing which does not look at the attribute can tell the difference, a tree is compared
after the attribute has been left out of all its elements.

* `Attributes.get?_insert` : what a name stands for after another one has been set;
* `Attributes.withoutAll_insert`, `Attributes.map_name_insert` : what setting an attribute leaves alone;
* `Tree.AttributesChanged` : changes of attributes, which leave the links, the names of the elements and the
  texts alone, so that every walk over the tree goes the same way;
* `Tree.attribute?_modifyAttributes` : what a change does to the element itself;
* `Tree.without` : a tree with an attribute left out everywhere, and `Tree.without_modifyAttributes` : the
  frame of every change to that attribute.
-/

namespace HtmlMail.Dom

/-! ### Attributes of one element -/

namespace Attributes

variable {as : Attributes} {m n value : String} {names : List String}

/-- A name in another case names the same entries. -/
theorem isNamed_congr (a : Attribute) (h : Text.eqIgnoringCase m n) : a.isNamed m = a.isNamed n := by
  have he : Chars.lower m.toList = Chars.lower n.toList := eq_of_beq h
  rw [Attribute.isNamed, Attribute.isNamed, Text.eqIgnoringCase, Text.eqIgnoringCase,
    Chars.eqIgnoringCase, Chars.eqIgnoringCase, he]

/-- An entry goes by one name only. -/
theorem isNamed_of_isNamed {a : Attribute} (hm : a.isNamed m) (hn : a.isNamed n) :
    Text.eqIgnoringCase m n := by
  have hm : Chars.lower a.name.toList = Chars.lower m.toList := eq_of_beq hm
  have hn : Chars.lower a.name.toList = Chars.lower n.toList := eq_of_beq hn
  rw [Text.eqIgnoringCase, Chars.eqIgnoringCase, ← hm, ← hn]
  exact beq_self_eq_true _

theorem find?_replaceValue (l : List Attribute) : ((replaceValue m value l).find? (·.isNamed n)).map (·.value)
    = if Text.eqIgnoringCase m n ∧ l.any (·.isNamed m) then some value
      else (l.find? (·.isNamed n)).map (·.value) := by
  induction l with
  | nil => simp [replaceValue]
  | cons a rest ih =>
    rw [replaceValue]
    by_cases hm : a.isNamed m
    · -- This is the entry whose value is exchanged; its name stays.
      rw [if_pos hm, List.any_cons, hm, Bool.true_or]
      have hname (v : String) : Attribute.isNamed ⟨a.name, v⟩ n = a.isNamed n := rfl
      rw [List.find?_cons, List.find?_cons, hname]
      by_cases he : Text.eqIgnoringCase m n
      · rw [if_pos ⟨he, rfl⟩, ← isNamed_congr a he, hm]
        rfl
      · have hn : a.isNamed n = false := Bool.eq_false_iff.2 fun hn => he (isNamed_of_isNamed hm hn)
        rw [if_neg fun h => he h.1, hn]
    · have hf : a.isNamed m = false := Bool.eq_false_iff.2 hm
      rw [if_neg hm, List.any_cons, hf, Bool.false_or, List.find?_cons, List.find?_cons]
      by_cases hn : a.isNamed n
      · have he : ¬ Text.eqIgnoringCase m n := fun he => hm (by rw [isNamed_congr a he, hn])
        rw [if_neg fun h => he h.1, hn]
      · rw [Bool.eq_false_iff.2 hn]
        exact ih

/-- **A set attribute** is there in any case of its name, and every other one is as it was. -/
theorem get?_insert (as : Attributes) (m value n : String) :
    (as.insert m value).get? n = if Text.eqIgnoringCase m n then some value else as.get? n := by
  unfold insert
  by_cases hc : as.contains m
  · rw [if_pos hc]
    show ((replaceValue m value as.entries).find? (·.isNamed n)).map (·.value) = _
    -- That `m` is there is what the exchange asks for.
    rw [find?_replaceValue]
    simp only [show as.entries.any (·.isNamed m) = true from hc, and_true]
    rfl
  · rw [if_neg hc]
    show ((as.entries ++ [Attribute.mk m value]).find? (·.isNamed n)).map (·.value) = _
    rw [List.find?_append, List.find?_singleton]
    have hnew : Attribute.isNamed ⟨m, value⟩ n = Text.eqIgnoringCase m n := rfl
    rw [hnew]
    by_cases he : Text.eqIgnoringCase m n
    · -- Nothing in front of the new entry goes by its name.
      have hnone : as.entries.find? (·.isNamed n) = none := by
        rw [List.find?_eq_none]
        intro a ha hn
        rw [← isNamed_congr a he] at hn
        exact hc (List.any_eq_true.2 ⟨a, ha, hn⟩)
      rw [hnone, if_pos he, if_pos he]
      rfl
    · rw [if_neg he, if_neg he, Option.or_none]
      rfl

/-- There is an attribute where its name stands for something. -/
theorem contains_eq_isSome (as : Attributes) (name : String) : as.contains name = (as.get? name).isSome := by
  rw [Bool.eq_iff_iff, contains, get?, Option.isSome_map, find?, List.find?_isSome, List.any_eq_true]

/-- The attributes without the entries of a name. -/
def without (as : Attributes) (name : String) : Attributes :=
  ⟨as.entries.filter fun a => !a.isNamed name⟩

/-- The other attributes are still there. -/
theorem get?_without (h : ¬ Text.eqIgnoringCase m n) : (as.without m).get? n = as.get? n := by
  rw [get?, get?, find?, find?, without, List.find?_filter]
  congr 2
  funext a
  by_cases hn : a.isNamed n
  · have hm : a.isNamed m = false := Bool.eq_false_iff.2 fun hm => h (isNamed_of_isNamed hm hn)
    rw [hm, hn]
    rfl
  · simp [hn]

/-- The exchange of a value is not seen by those who leave the name out. -/
theorem filter_replaceValue (m value : String) (l : List Attribute) :
    (replaceValue m value l).filter (fun a => !a.isNamed m) = l.filter fun a => !a.isNamed m := by
  induction l with
  | nil => rfl
  | cons a rest ih =>
    rw [replaceValue]
    by_cases hm : a.isNamed m
    · have hname : Attribute.isNamed ⟨a.name, value⟩ m = true := hm
      rw [if_pos hm, List.filter_cons, List.filter_cons, hname, hm]
      rfl
    · rw [if_neg hm, List.filter_cons, List.filter_cons, ih]

/-- Setting an attribute leaves the others alone. -/
theorem without_insert (as : Attributes) (m value : String) :
    (as.insert m value).without m = as.without m := by
  unfold insert without
  split
  · rw [filter_replaceValue]
  · have hself : Attribute.isNamed ⟨m, value⟩ m = true := beq_self_eq_true _
    rw [List.filter_append, List.filter_singleton, hself]
    simp

/-- The attributes without the entries of several names. -/
def withoutAll (as : Attributes) (names : List String) : Attributes :=
  ⟨as.entries.filter fun a => !names.any a.isNamed⟩

/-- Setting one of the attributes leaves the others alone. -/
theorem withoutAll_insert (as : Attributes) (value : String) (hm : m ∈ names) :
    (as.insert m value).withoutAll names = as.withoutAll names := by
  have hone (as : Attributes) : (as.without m).withoutAll names = as.withoutAll names := by
    rw [withoutAll, withoutAll, without, List.filter_filter]
    congr 2
    funext a
    by_cases ha : a.isNamed m
    · rw [List.any_eq_true.2 ⟨m, hm, ha⟩]
      rfl
    · simp [ha]
  rw [← hone, without_insert, hone]

/-- An exchanged value leaves all names alone. -/
theorem map_name_replaceValue (m value : String) (l : List Attribute) :
    (replaceValue m value l).map (·.name) = l.map (·.name) := by
  induction l with
  | nil => rfl
  | cons a rest ih =>
    rw [replaceValue]
    split
    · rfl
    · rw [List.map_cons, List.map_cons, ih]

/-- A set attribute is a new one at the end, or one that keeps its place and the spelling of its name. -/
theorem map_name_insert (as : Attributes) (m value : String) :
    as.entries.map (·.name) <+: (as.insert m value).entries.map (·.name) := by
  unfold insert
  split
  · exact ⟨[], (List.append_nil _).trans (map_name_replaceValue m value as.entries).symm⟩
  · rw [List.map_append]
    exact List.prefix_append _ _

end Attributes

/-! ### Trees -/

namespace Tree

variable {tree tree' tree'' : Tree} {f g : NodeId → Attributes → Attributes} {name : String}
  {node id : NodeId}

/-- **Changed attributes.** The attributes of every element are changed by `f`, and nothing else is. -/
structure AttributesChanged (f : NodeId → Attributes → Attributes) (tree tree' : Tree) : Prop where
  size : tree'.size = tree.size
  get? (id : NodeId) :
    tree'.get? id = (tree.get? id).map fun n => { n with data := n.data.mapAttributes (f id) }

theorem mapAttributes_self (data : NodeData) : (data.mapAttributes fun as => as) = data := by
  cases data <;> rfl

theorem mapAttributes_mapAttributes (f g : Attributes → Attributes) (data : NodeData) :
    (data.mapAttributes f).mapAttributes g = data.mapAttributes fun as => g (f as) := by
  cases data <;> rfl

namespace AttributesChanged

theorem refl (tree : Tree) : AttributesChanged (fun _ as => as) tree tree where
  size := rfl
  get? id := by
    simp only [mapAttributes_self]
    exact Option.map_id'.symm

theorem trans (hf : AttributesChanged f tree tree') (hg : AttributesChanged g tree' tree'') :
    AttributesChanged (fun id as => g id (f id as)) tree tree'' where
  size := hg.size.trans hf.size
  get? id := by
    rw [hg.get?, hf.get?, Option.map_map]
    congr 1
    funext n
    simp only [Function.comp_apply, mapAttributes_mapAttributes]

section Links

/-- A walk along the links does not look at attributes. -/
theorem follow_eq (h : AttributesChanged f tree tree') {step : Node → Option NodeId}
    (hstep : ∀ (n : Node) (data : NodeData), step { n with data := data } = step n) (fuel : Nat)
    (start : Option NodeId) : tree'.follow step fuel start = tree.follow step fuel start := by
  induction fuel generalizing start with
  | zero => rw [follow, follow]
  | succ fuel ih =>
    cases start with
    | none => rfl
    | some id =>
      rw [follow, follow, h.get?]
      cases tree.get? id with
      | none => rfl
      | some n => exact congrArg (id :: ·) ((ih _).trans (by rw [hstep]))

theorem bind_get?_eq (h : AttributesChanged f tree tree') {α : Type} {step : Node → Option α}
    (hstep : ∀ n : Node, step { n with data := n.data.mapAttributes (f id) } = step n) :
    (tree'.get? id).bind step = (tree.get? id).bind step := by
  rw [h.get?]
  cases tree.get? id with
  | none => rfl
  | some n => exact hstep n

theorem children_eq (h : AttributesChanged f tree tree') : tree'.children id = tree.children id := by
  rw [children, children, h.size, h.follow_eq fun _ _ => rfl, h.bind_get?_eq fun _ => rfl]

theorem parent?_eq (h : AttributesChanged f tree tree') : tree'.parent? id = tree.parent? id :=
  h.bind_get?_eq fun _ => rfl

theorem ancestors_eq (h : AttributesChanged f tree tree') : tree'.ancestors id = tree.ancestors id := by
  rw [ancestors, ancestors, h.size, h.follow_eq fun _ _ => rfl, h.parent?_eq]

theorem descendants_eq (h : AttributesChanged f tree tree') :
    tree'.descendants id = tree.descendants id := by
  have hwalk (fuel : Nat) (nodes : List NodeId) : tree'.walk fuel nodes = tree.walk fuel nodes := by
    induction fuel generalizing nodes with
    | zero => rw [walk, walk]
    | succ fuel ih =>
      cases nodes with
      | nil => rfl
      | cons n rest => rw [walk, walk, h.children_eq, ih]
  rw [descendants, descendants, h.size, h.children_eq, hwalk]

end Links

section Contents

/-- An element keeps its name. -/
theorem element?_eq (h : AttributesChanged f tree tree') : tree'.element? id =
    (tree.element? id).map fun e => { e with attributes := f id e.attributes } := by
  rw [element?, element?, h.get?]
  cases tree.get? id with
  | none => rfl
  | some n =>
    obtain ⟨data, -⟩ := n
    cases data <;> rfl

theorem isElement_eq (h : AttributesChanged f tree tree') : tree'.isElement = tree.isElement := by
  funext id
  rw [isElement, isElement, h.element?_eq, Option.isSome_map]

theorem tagName?_eq (h : AttributesChanged f tree tree') : tree'.tagName? id = tree.tagName? id := by
  rw [tagName?, tagName?, h.element?_eq, Option.map_map]
  rfl

theorem elements_eq (h : AttributesChanged f tree tree') : tree'.elements = tree.elements := by
  rw [elements, elements, h.descendants_eq, h.isElement_eq]

theorem elementsBefore_eq (h : AttributesChanged f tree tree') :
    tree'.elementsBefore id = tree.elementsBefore id := by
  rw [elementsBefore, elementsBefore, h.size, h.follow_eq fun _ _ => rfl, h.bind_get?_eq fun _ => rfl,
    h.isElement_eq]

theorem elementsAfter_eq (h : AttributesChanged f tree tree') :
    tree'.elementsAfter id = tree.elementsAfter id := by
  rw [elementsAfter, elementsAfter, h.size, h.follow_eq fun _ _ => rfl, h.bind_get?_eq fun _ => rfl,
    h.isElement_eq]

theorem elementChildren_eq (h : AttributesChanged f tree tree') :
    tree'.elementChildren id = tree.elementChildren id := by
  rw [elementChildren, elementChildren, h.children_eq, h.isElement_eq]

theorem textContent_eq (h : AttributesChanged f tree tree') :
    tree'.textContent id = tree.textContent id := by
  have htext (i : NodeId) : (tree'.get? i).bind (·.text?) = (tree.get? i).bind (·.text?) := by
    refine h.bind_get?_eq fun n => ?_
    obtain ⟨data, -⟩ := n
    cases data <;> rfl
  rw [textContent, textContent, h.descendants_eq]
  simp only [htext]

end Contents

end AttributesChanged

/-! ### Changes to one element -/

theorem attributesChanged_modifyAttributes (tree : Tree) (node : NodeId)
    (f : Attributes → Attributes) :
    AttributesChanged (fun id as => if node = id then f as else as) tree
      (tree.modifyAttributes node f) where
  size := size_modify ..
  get? id := by
    rw [get?_modifyAttributes]
    split
    · rfl
    · simp only [mapAttributes_self]

/-- **The effect of a change** on the attributes of the elements. -/
theorem attribute?_modifyAttributes {f : Attributes → Attributes} :
    (tree.modifyAttributes node f).attribute? id name =
      if node = id then (tree.element? id).bind fun e => (f e.attributes).get? name
      else tree.attribute? id name := by
  rw [attribute?, attribute?, (tree.attributesChanged_modifyAttributes node f).element?_eq]
  cases tree.element? id with
  | none => simp
  | some e => split <;> rfl

/-- **Changes to several elements**, each one once. -/
theorem attributesChanged_foldl (f : NodeId → Attributes → Attributes) : ∀ {nodes : List NodeId},
    nodes.Nodup → ∀ tree, AttributesChanged (fun id as => if id ∈ nodes then f id as else as) tree
      (nodes.foldl (fun tree node => tree.modifyAttributes node (f node)) tree)
  | [], _, tree => by
    simp only [List.not_mem_nil, if_false]
    exact .refl tree
  | node :: rest, hnd, tree => by
    obtain ⟨hnode, hrest⟩ := List.nodup_cons.1 hnd
    have hchange := (tree.attributesChanged_modifyAttributes node (f node)).trans
      (attributesChanged_foldl f hrest (tree.modifyAttributes node (f node)))
    -- The first node is not among the rest, so it is changed once.
    have hsame (id : NodeId) (as : Attributes) : (if id ∈ rest then
        f id (if node = id then f node as else as) else if node = id then f node as else as) =
        if id ∈ node :: rest then f id as else as := by
      by_cases he : node = id
      · subst he
        rw [if_neg hnode, if_pos rfl, if_pos List.mem_cons_self]
      · simp only [if_neg he, List.mem_cons, Ne.symm he, false_or]
    simp only [hsame] at hchange
    exact hchange

/-! ### Trees without an attribute -/

/-- The tree with an attribute left out of all its elements. -/
def without (tree : Tree) (name : String) : Tree :=
  ⟨tree.nodes.map fun n => { n with data := n.data.mapAttributes (·.without name) }⟩

theorem attributesChanged_without (tree : Tree) (name : String) :
    AttributesChanged (fun _ as => as.without name) tree (tree.without name) where
  size := Array.size_map ..
  get? _ := Array.getElem?_map

theorem ext_get? (h : ∀ id, tree.get? id = tree'.get? id) : tree = tree' := by
  obtain ⟨nodes⟩ := tree
  obtain ⟨nodes'⟩ := tree'
  exact congrArg Tree.mk (Array.ext_getElem? fun i => h i)

/-- **The frame of a change**: a change that leaves the other attributes of an element alone leaves
everything alone but the one attribute. -/
theorem without_modifyAttributes {f : Attributes → Attributes}
    (hf : ∀ as, (f as).without name = as.without name) :
    (tree.modifyAttributes node f).without name = tree.without name := by
  apply ext_get?
  intro id
  -- First the change and then the omission is the omission alone.
  have hchange := (tree.attributesChanged_modifyAttributes node f).trans
    ((tree.modifyAttributes node f).attributesChanged_without name)
  have hsame (as : Attributes) : (if node = id then f as else as).without name = as.without name := by
    split
    · exact hf as
    · rfl
  rw [hchange.get?, (tree.attributesChanged_without name).get?]
  simp only [hsame]

end Tree

end HtmlMail.Dom
