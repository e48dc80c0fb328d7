import HtmlMail.Css.Inline
import HtmlMail.Proofs.Dom.Frame
import HtmlMail.Proofs.Dom.Order

/-!
# Inlining, one element at a time

Rules are matched against a tree in which stronger rules have already left their declarations. That makes
no difference as long as no selector looks at the attribute `style`: inlining changes nothing else
(`without_applyRules`), and such selectors describe the same nodes before and after
(`Selector.matchesNode_without`).

So every element can be looked at on its own. Its style after inlining is its own one with the declarations
of the rules merged in that describe it in the tree as it was (`attribute?_inlineCss`).

* `Selector.Tests` : the attributes a selector looks at, apart from `id` and `class`
* `Rule.Describes` : the nodes the declarations of a rule are meant for
* `mergedStyles` : a style with the declarations of several rules merged in
-/

namespace HtmlMail.Css

open Dom

/-! ### Selectors that do not look at an attribute -/

/-- Whether a compound has a condition on an attribute. -/
def CompoundSelector.Tests (name : String) (c : CompoundSelector) : Prop :=
  ∃ a ∈ c.attributes, Text.eqIgnoringCase name a.name

/-- Whether a selector has a condition on an attribute. -/
def Selector.Tests (name : String) : Selector → Prop
  | compound c => c.Tests name
  | combined left _ right => left.Tests name ∨ right.Tests name

/-- Whether the selector of a rule has a condition on an attribute. -/
def Rule.Tests (name : String) (rule : Rule) : Prop :=
  ∃ s, Selector.parse rule.selector = .ok s ∧ s.Tests name

instance (name : String) (c : CompoundSelector) : Decidable (c.Tests name) :=
  inferInstanceAs (Decidable (∃ a ∈ c.attributes, Text.eqIgnoringCase name a.name))

instance Selector.decidableTests (name : String) : (s : Selector) → Decidable (s.Tests name)
  | compound c => inferInstanceAs (Decidable (c.Tests name))
  | combined left _ right =>
    @instDecidableOr (left.Tests name) (right.Tests name) (decidableTests name left) inferInstance

instance (name : String) (rule : Rule) : Decidable (rule.Tests name) :=
  match h : Selector.parse rule.selector with
  | .error _ => isFalse fun ⟨_, hs, _⟩ => nomatch h.symm.trans hs
  | .ok s => decidable_of_iff (s.Tests name)
    ⟨fun ht => ⟨s, h, ht⟩, fun ⟨_, hs, ht⟩ => Except.ok.inj (h.symm.trans hs) ▸ ht⟩

section Matching

variable {tree tree' : Tree} {node : NodeId}

theorem PseudoClass.matchesNode_without (name : String) (p : PseudoClass) :
    p.matchesNode (tree.without name) node = p.matchesNode tree node := by
  have h := tree.attributesChanged_without name
  have hprevious : (tree.without name).previousElement? node = tree.previousElement? node := by
    rw [Tree.previousElement?, h.elementsBefore_eq, Tree.previousElement?]
  have hnext : (tree.without name).nextElement? node = tree.nextElement? node := by
    rw [Tree.nextElement?, h.elementsAfter_eq, Tree.nextElement?]
  cases p with
  | firstChild => rw [matchesNode, matchesNode, hprevious]
  | lastChild => rw [matchesNode, matchesNode, hnext]
  | onlyChild => rw [matchesNode, matchesNode, hprevious, hnext]
  | empty => rw [matchesNode, matchesNode, h.elementChildren_eq, h.textContent_eq]

theorem CompoundSelector.matchesNode_without {c : CompoundSelector} (h : ¬ c.Tests "style") :
    c.matchesNode (tree.without "style") node = c.matchesNode tree node := by
  unfold CompoundSelector.matchesNode
  rw [(tree.attributesChanged_without "style").element?_eq]
  cases tree.element? node with
  | none => rfl
  | some e =>
    -- The conditions on identifier and classes look at attributes too, but not at this one.
    have hid : e.id? = Element.id? { e with attributes := e.attributes.without "style" } :=
      (Attributes.get?_without (by decide)).symm
    have hclass : e.hasClass = Element.hasClass { e with attributes := e.attributes.without "style" } := by
      funext name
      rw [Element.hasClass, Element.hasClass, Element.classes, Element.classes,
        Attributes.get?_without (by decide)]
    have hattributes : c.attributes.all (fun a => a.accepts ((e.attributes.without "style").get? a.name))
        = c.attributes.all fun a => a.accepts (e.attributes.get? a.name) := by
      rw [Bool.eq_iff_iff, List.all_eq_true, List.all_eq_true]
      refine forall₂_congr fun a ha => ?_
      rw [Attributes.get?_without fun he => h ⟨a, ha, he⟩]
    have hpseudo : (fun p : PseudoClass => p.matchesNode (tree.without "style") node)
        = fun p => p.matchesNode tree node := funext fun p => p.matchesNode_without "style"
    simp only [Option.map_some, hid, hclass, hattributes, hpseudo]

theorem Combinator.candidates_without (name : String) (r : Combinator) :
    r.candidates (tree.without name) node = r.candidates tree node := by
  have h := tree.attributesChanged_without name
  cases r with
  | child => rw [candidates, candidates, h.parent?_eq]
  | descendant => exact h.ancestors_eq
  | nextSibling =>
    rw [candidates, candidates, Tree.previousElement?, h.elementsBefore_eq, Tree.previousElement?]
  | laterSibling => exact h.elementsBefore_eq

/-- **Styles make no difference** to a selector that does not look at them. -/
theorem Selector.matchesNode_without : ∀ {s : Selector} {node : NodeId}, ¬ s.Tests "style" →
    s.matchesNode (tree.without "style") node = s.matchesNode tree node
  | compound _, _, h => CompoundSelector.matchesNode_without h
  | combined left r right, node, h => by
    obtain ⟨hleft, hright⟩ := not_or.1 h
    have hany : left.matchesNode (tree.without "style") = left.matchesNode tree :=
      funext fun a => matchesNode_without hleft
    rw [matchesNode, matchesNode, CompoundSelector.matchesNode_without hright, r.candidates_without,
      hany]

end Matching

/-! ### The frame -/

section Frame

variable {tree : Tree}

/-- **Merging into styles changes nothing but styles**, also when it stops halfway. -/
theorem without_styleNodes (declarations : String) (nodes : List NodeId) :
    ∀ tree, (styleNodes declarations nodes tree).2.without "style" = tree.without "style" := by
  induction nodes with
  | nil => exact fun tree => rfl
  | cons node rest ih =>
    intro tree
    rw [styleNodes, Tree.setAttribute]
    split
    · next h =>
      split at h
      · cases h
      · rfl
    · next tree' h =>
      split at h
      · cases h
        exact (ih _).trans (Tree.without_modifyAttributes fun as => as.without_insert "style" _)
      · cases h

theorem without_applyRule (engine : SelectorEngine) (rule : Rule) :
    (applyRule engine tree rule).2.without "style" = tree.without "style" := by
  unfold applyRule
  split
  · rfl
  · exact without_styleNodes ..

/-- **Inlining changes nothing but styles**, whatever finds the elements. -/
theorem without_applyRules (engine : SelectorEngine) (rules : List Rule) :
    ∀ tree, (applyRules engine rules tree).2.without "style" = tree.without "style" := by
  induction rules with
  | nil => exact fun tree => rfl
  | cons rule rest ih => exact fun tree => (ih _).trans (without_applyRule engine rule)

end Frame

/-! ### The style of one element -/

/-- Whether a rule is meant for a node. -/
def Rule.Describes (tree : Tree) (node : NodeId) (rule : Rule) : Bool :=
  (Selector.parse rule.selector).toOption.any (·.matchesNode tree node)

/-- The attribute `style` with the declarations of rules merged in, the strongest rule first. -/
def mergedStyles (current : Option String) (rules : List String) : Option String :=
  rules.foldl (fun current declarations => some (mergedStyle current declarations)) current

section Element

variable {tree original : Tree} {node : NodeId} {rule : Rule} {rules : List Rule}

/-- **The nodes of a rule get its declarations**, once each, and the others stay as they are. -/
theorem attribute?_styleNodes (declarations : String) : ∀ {nodes : List NodeId} {tree : Tree},
    nodes.Nodup → (∀ n ∈ nodes, tree.isElement n) → ∀ node,
      (styleNodes declarations nodes tree).2.attribute? node "style" =
        if node ∈ nodes then some (mergedStyle (tree.attribute? node "style") declarations)
        else tree.attribute? node "style"
  | [], tree, _, _, node => by
    rw [styleNodes, if_neg List.not_mem_nil]
  | n :: rest, tree, hnd, hel, node => by
    obtain ⟨hn, hrest⟩ := List.nodup_cons.1 hnd
    have hset (value : String) : tree.setAttribute n "style" value
        = .ok (tree.modifyAttributes n (·.insert "style" value)) :=
      if_pos (hel n List.mem_cons_self)
    have hone (value : String) (m : NodeId) :
        (tree.modifyAttributes n (·.insert "style" value)).attribute? m "style" =
          if n = m then some value else tree.attribute? m "style" := by
      rw [Tree.attribute?_modifyAttributes]
      split
      · next h =>
        obtain ⟨e, he⟩ := Option.isSome_iff_exists.1 (hel n List.mem_cons_self)
        rw [← h, he]
        exact (Attributes.get?_insert ..).trans (if_pos (by decide))
      · rfl
    rw [styleNodes, hset]
    dsimp only
    rw [attribute?_styleNodes declarations hrest ?_ node, hone]
    · -- The first node is not among the rest, so its style stays as it has been set.
      by_cases hm : node = n
      · subst hm
        rw [if_neg hn, if_pos rfl, if_pos List.mem_cons_self]
      · simp only [if_neg (Ne.symm hm), List.mem_cons, hm, false_or]
    · intro m hm
      rw [(tree.attributesChanged_modifyAttributes n _).isElement_eq]
      exact hel m (List.mem_cons_of_mem n hm)

/-- The elements that are selected do not depend on styles either. -/
theorem Selector.select_of_without_eq {s : Selector} (hsame : tree.without "style" = original.without "style")
    (hs : ¬ s.Tests "style") : s.select tree = original.elements.filter (s.matchesNode original) := by
  have helements : tree.elements = original.elements := by
    rw [← (tree.attributesChanged_without "style").elements_eq, hsame,
      (original.attributesChanged_without "style").elements_eq]
  have hmatch (n : NodeId) : s.matchesNode tree n = s.matchesNode original n := by
    rw [← Selector.matchesNode_without hs, hsame, Selector.matchesNode_without hs]
  rw [Selector.select, helements, funext hmatch]

/-- **One rule.** The rule is matched against a tree that may have got other styles in the meantime. -/
theorem attribute?_applyRule (hsame : tree.without "style" = original.without "style")
    (hnd : original.elements.Nodup)
    (htests : ¬ rule.Tests "style")
    (hnode : node ∈ original.elements) :
    (applyRule selectText tree rule).2.attribute? node "style" =
      if rule.Describes original node then
        some (mergedStyle (tree.attribute? node "style") rule.declarations)
      else tree.attribute? node "style" := by
  rw [applyRule, selectText, Rule.Describes]
  cases hs : Selector.parse rule.selector with
  | error e => exact (if_neg Bool.false_ne_true).symm
  | ok s =>
    -- The rules so far have changed styles only, which the selector does not look at.
    have hselect := Selector.select_of_without_eq hsame fun ht => htests ⟨s, hs, ht⟩
    have hel : ∀ n ∈ s.select tree, tree.isElement n := by
      intro n hn
      exact (List.mem_filter.1 (List.mem_of_mem_filter hn)).2
    refine (attribute?_styleNodes rule.declarations (by rw [hselect]; exact hnd.filter _) hel node).trans ?_
    simp only [hselect, List.mem_filter, hnode, true_and]
    rfl

/-- **All rules**: an element gets the declarations of those that describe it, one after the other. -/
theorem attribute?_applyRules (hnd : original.elements.Nodup) (hnode : node ∈ original.elements)
    (htests : ∀ rule ∈ rules, ¬ rule.Tests "style") :
    ∀ {tree : Tree}, tree.without "style" = original.without "style" →
      (applyRules selectText rules tree).2.attribute? node "style" =
        mergedStyles (tree.attribute? node "style")
          ((rules.filter (·.Describes original node)).map (·.declarations)) := by
  induction rules with
  | nil => exact fun _ => rfl
  | cons rule rest ih =>
    intro tree hsame
    -- The other rules meet a tree that still differs from the original one in styles only.
    have hstep := attribute?_applyRule hsame hnd (htests rule List.mem_cons_self) hnode
    have hrest := ih (fun r hr => htests r (List.mem_cons_of_mem rule hr))
      ((without_applyRule selectText rule).trans hsame)
    refine hrest.trans ?_
    rw [hstep, List.filter_cons]
    split
    · rfl
    · rfl

/-- **The style of an element after inlining.** Its own one, with the declarations of the rules merged in
that describe it in the tree as it was. -/
theorem attribute?_inlineCss {css : String} (hr : tree.Reachable) (ha : tree.Attached node)
    (he : tree.isElement node) (htests : ∀ rule ∈ Rule.ofStylesheet css, ¬ rule.Tests "style") :
    (inlineCss css tree).attribute? node "style" = mergedStyles (tree.attribute? node "style")
      (((strongestFirst (Rule.ofStylesheet css)).filter (·.Describes tree node)).map
        (·.declarations)) :=
  attribute?_applyRules hr.elements_nodup (hr.mem_elements_iff.2 ⟨ha, he⟩)
    (fun rule hrule => htests rule (List.mem_mergeSort.1 hrule)) rfl

end Element

end HtmlMail.Css
