import HtmlMail.Proofs.Css.Cascade

/-!
# Inlining with any engine

What finds the elements of a selector need not be the usual engine. It may answer with an error, with nodes that are
no elements or no nodes at all, with the same node twice, and it is asked about a tree that stronger rules have
already been applied to. Whatever it answers, inlining changes nothing but the styles of elements that it named, and
a rule counts exactly if the answer to it was usable (`inlineWith_frame`).

* `encounters` : the rules in the order of their application, each with the tree that it meets;
* `Rule.Finds` : the answers that make a rule count;
* `applyRule_fst_iff`, `attribute?_applyRule_of_ne` : one rule;
* `fst_applyRules`, `exists_encounter_of_ne` : all rules, by induction on them.
-/

namespace HtmlMail.Css

open Dom

/-- **The rules with the trees that they meet**: each one meets what the rules in front of it leave behind. -/
def encounters (engine : SelectorEngine) : List Rule → Tree → List (Rule × Tree)
  | [], _ => []
  | rule :: rest, tree => (rule, tree) :: encounters engine rest (applyRule engine tree rule).2

/-- **A usable answer**: the engine finds some nodes for a rule, and all of them are elements. -/
def Rule.Finds (engine : SelectorEngine) (tree : Tree) (rule : Rule) : Prop :=
  ∃ nodes, engine tree rule.selector = .ok nodes ∧ nodes ≠ [] ∧ ∀ node ∈ nodes, tree.isElement node

instance (engine : SelectorEngine) (tree : Tree) (rule : Rule) : Decidable (rule.Finds engine tree) :=
  match h : engine tree rule.selector with
  | .error _ => isFalse fun ⟨_, hn, _⟩ => nomatch h.symm.trans hn
  | .ok nodes => decidable_of_iff (nodes ≠ [] ∧ ∀ node ∈ nodes, tree.isElement node)
    ⟨fun hn => ⟨nodes, h, hn⟩, fun ⟨_, hn, hall⟩ => Except.ok.inj (h.symm.trans hn) ▸ hall⟩

/-- Whether a rule describes some element of the document. -/
def Rule.Applies (tree : Tree) (rule : Rule) : Prop :=
  ∃ node, tree.Attached node ∧ tree.isElement node ∧ rule.Describes tree node

section Engines

variable {engine : SelectorEngine} {tree tree' original : Tree} {node : NodeId} {nodes : List NodeId} {rule : Rule}
  {rules : List Rule} {declarations : String}

/-! ### The nodes of one rule -/

/-- Trees that differ in an attribute only have the same elements. -/
theorem isElement_eq_of_without_eq {name : String} (h : tree'.without name = tree.without name) :
    tree'.isElement = tree.isElement := by
  rw [← (tree'.attributesChanged_without name).isElement_eq, h, (tree.attributesChanged_without name).isElement_eq]

/-- **The work on the nodes of a rule is finished** if all of them are elements. -/
theorem fst_styleNodes_iff (declarations : String) : ∀ {nodes : List NodeId} {tree : Tree},
    (styleNodes declarations nodes tree).1 ↔ ∀ node ∈ nodes, tree.isElement node
  | [], tree => by simp [styleNodes]
  | n :: rest, tree => by
    rw [styleNodes, Tree.setAttribute, List.forall_mem_cons]
    by_cases hn : tree.isElement n
    · -- What the others are does not change with the style of the first one.
      have hsame := (tree.attributesChanged_modifyAttributes n
        (·.insert "style" (mergedStyle (tree.attribute? n "style") declarations))).isElement_eq
      rw [if_pos hn]
      dsimp only
      rw [fst_styleNodes_iff declarations, hsame]
      exact (and_iff_right hn).symm
    · rw [if_neg hn]
      simp [hn]

/-- **A node that is not named keeps its style**, and so does one that is no element. -/
theorem attribute?_styleNodes_of_ne : ∀ {nodes : List NodeId} {tree : Tree},
    (styleNodes declarations nodes tree).2.attribute? node "style" ≠ tree.attribute? node "style" →
      node ∈ nodes ∧ tree.isElement node
  | [], tree, h => absurd rfl h
  | n :: rest, tree, h => by
    rw [styleNodes, Tree.setAttribute] at h
    by_cases hn : tree.isElement n
    · rw [if_pos hn] at h
      dsimp only at h
      by_cases hnode : node = n
      · subst hnode
        exact ⟨List.mem_cons_self, hn⟩
      · have hchange := tree.attributesChanged_modifyAttributes n
          (·.insert "style" (mergedStyle (tree.attribute? n "style") declarations))
        -- The first change is to another node, so the value changes with the rest of the nodes.
        have hkept : (tree.modifyAttributes n
            (·.insert "style" (mergedStyle (tree.attribute? n "style") declarations))).attribute? node "style" =
            tree.attribute? node "style" := by
          rw [Tree.attribute?_modifyAttributes, if_neg (Ne.symm hnode)]
        obtain ⟨hrest, helement⟩ := attribute?_styleNodes_of_ne (by rwa [hkept])
        rw [hchange.isElement_eq] at helement
        exact ⟨List.mem_cons_of_mem n hrest, helement⟩
    · rw [if_neg hn] at h
      exact absurd rfl h

/-! ### One rule -/

/-- **A rule counts** exactly if the engine's answer to it is usable. -/
theorem applyRule_fst_iff : (applyRule engine tree rule).1 ↔ rule.Finds engine tree := by
  unfold applyRule Rule.Finds
  cases engine tree rule.selector with
  | error e => simp
  | ok nodes =>
    simp only [Bool.and_eq_true, fst_styleNodes_iff, Bool.not_eq_true', List.isEmpty_eq_false_iff, Except.ok.injEq,
      exists_eq_left', and_comm]

/-- **A rule changes the styles of elements that the engine named**, also if it does not count. -/
theorem attribute?_applyRule_of_ne
    (h : (applyRule engine tree rule).2.attribute? node "style" ≠ tree.attribute? node "style") :
    tree.isElement node ∧ ∃ nodes, engine tree rule.selector = .ok nodes ∧ node ∈ nodes := by
  unfold applyRule at h
  cases hfound : engine tree rule.selector with
  | error e =>
    rw [hfound] at h
    exact absurd rfl h
  | ok nodes =>
    rw [hfound] at h
    obtain ⟨hnode, helement⟩ := attribute?_styleNodes_of_ne h
    exact ⟨helement, nodes, rfl, hnode⟩

/-! ### All rules -/

/-- **The rules that count** are those to which the engine has a usable answer when their turn comes. -/
theorem fst_applyRules (rules : List Rule) : ∀ tree,
    (applyRules engine rules tree).1 = (encounters engine rules tree).countP fun p => p.1.Finds engine p.2 := by
  induction rules with
  | nil => exact fun _ => rfl
  | cons rule rest ih =>
    intro tree
    rw [applyRules, encounters, List.countP_cons]
    simp only [ih, decide_eq_true_eq, ← applyRule_fst_iff]
    exact Nat.add_comm _ _

/-- **A changed style** belongs to an element that the engine named for one of the rules. -/
theorem exists_encounter_of_ne (rules : List Rule) : ∀ {tree : Tree},
    (applyRules engine rules tree).2.attribute? node "style" ≠ tree.attribute? node "style" →
      tree.isElement node ∧ ∃ p ∈ encounters engine rules tree, ∃ nodes,
        engine p.2 p.1.selector = .ok nodes ∧ node ∈ nodes := by
  induction rules with
  | nil => exact fun h => absurd rfl h
  | cons rule rest ih =>
    intro tree h
    by_cases hfirst : (applyRule engine tree rule).2.attribute? node "style" = tree.attribute? node "style"
    · -- The style is changed by a later rule.
      have hlater : (applyRules engine rest (applyRule engine tree rule).2).2.attribute? node "style" ≠
          (applyRule engine tree rule).2.attribute? node "style" := by
        rw [hfirst]
        exact h
      obtain ⟨helement, p, hp, hnamed⟩ := ih hlater
      rw [isElement_eq_of_without_eq (without_applyRule engine rule)] at helement
      exact ⟨helement, p, List.mem_cons_of_mem _ hp, hnamed⟩
    · obtain ⟨helement, hnamed⟩ := attribute?_applyRule_of_ne hfirst
      exact ⟨helement, (rule, tree), List.mem_cons_self, hnamed⟩

/-! ### The usual engine -/

theorem Rule.applies_iff (hr : tree.Reachable) :
    rule.Applies tree ↔ ∃ node ∈ tree.elements, rule.Describes tree node := by
  simp only [Applies, hr.mem_elements_iff, and_assoc]

/-- **Selectors that do not look at styles** find the same elements whatever has been inlined before. -/
theorem Rule.finds_selectText_iff (hr : original.Reachable) (hsame : tree.without "style" = original.without "style")
    (htests : ¬ rule.Tests "style") : rule.Finds selectText tree ↔ rule.Applies original := by
  rw [applies_iff hr, Finds, selectText]
  unfold Rule.Describes
  cases hs : Selector.parse rule.selector with
  | error e => simp [Except.map, Except.toOption]
  | ok s =>
    -- Only styles have changed, so the selector finds what it finds in the original.
    have hselect := Selector.select_of_without_eq hsame fun ht => htests ⟨s, hs, ht⟩
    have hall : ∀ node ∈ original.elements.filter (s.matchesNode original), tree.isElement node := by
      intro node hnode
      rw [isElement_eq_of_without_eq hsame]
      exact (hr.mem_elements_iff.1 (List.mem_of_mem_filter hnode)).2
    simp only [Except.map, Except.ok.injEq, exists_eq_left', hselect, and_iff_left hall]
    simp [Except.toOption, List.filter_eq_nil_iff]

open Classical in
theorem countP_encounters (hr : original.Reachable) : ∀ {rules : List Rule} {tree : Tree},
    (∀ rule ∈ rules, ¬ rule.Tests "style") → tree.without "style" = original.without "style" →
      (encounters selectText rules tree).countP (fun p => p.1.Finds selectText p.2) =
        rules.countP (·.Applies original)
  | [], _, _, _ => rfl
  | rule :: rest, tree, htests, hsame => by
    have hrest := countP_encounters hr (fun r hr => htests r (List.mem_cons_of_mem rule hr))
      ((without_applyRule selectText rule).trans hsame)
    have hfirst := Rule.finds_selectText_iff hr hsame (htests rule List.mem_cons_self)
    rw [encounters, List.countP_cons, List.countP_cons, hrest]
    simp only [decide_eq_true_eq, hfirst]

end Engines

open Classical in
/-- **Inlining touches nothing but styles**, whatever the engine answers. It changes the styles of elements only that
the engine has named for an accepted rule, and the number of rules applied is that of the rules to which the engine
had a usable answer, each asked about the tree as it was when its turn came. With the usual engine, and selectors that
do not look at styles, these are the rules that describe some element of the document as it was. -/
theorem inlineWith_frame (engine : SelectorEngine) (css : String) (tree : Tree) :
    (inlineWith engine css tree).2.without "style" = tree.without "style" ∧
      (∀ node, (inlineWith engine css tree).2.attribute? node "style" ≠ tree.attribute? node "style" →
        tree.isElement node ∧ ∃ p ∈ encounters engine (strongestFirst (Rule.ofStylesheet css)) tree, ∃ nodes,
          engine p.2 p.1.selector = .ok nodes ∧ node ∈ nodes) ∧
      (inlineWith engine css tree).1 = (encounters engine (strongestFirst (Rule.ofStylesheet css)) tree).countP
        (fun p => p.1.Finds engine p.2) ∧
      (tree.Reachable → (∀ rule ∈ Rule.ofStylesheet css, ¬ rule.Tests "style") →
        (inlineWith selectText css tree).1 = (Rule.ofStylesheet css).countP (·.Applies tree)) := by
  refine ⟨without_applyRules .., fun node h => exists_encounter_of_ne _ h, fst_applyRules .., fun hr htests => ?_⟩
  -- The sorting does not change how many rules apply.
  have hperm : (strongestFirst (Rule.ofStylesheet css)).Perm (Rule.ofStylesheet css) := List.mergeSort_perm ..
  calc (inlineWith selectText css tree).1
      = (encounters selectText (strongestFirst (Rule.ofStylesheet css)) tree).countP
          (fun p => p.1.Finds selectText p.2) := fst_applyRules ..
    _ = (strongestFirst (Rule.ofStylesheet css)).countP (·.Applies tree) :=
        countP_encounters hr (fun rule hrule => htests rule (hperm.mem_iff.1 hrule)) rfl
    _ = (Rule.ofStylesheet css).countP (·.Applies tree) := hperm.countP_eq _

/-- An engine that names an element, the document and a node past the end for one of the selectors. -/
def haltingEngine : SelectorEngine := fun tree text =>
  if text = "#a" then .ok [1, root, 7] else selectText tree text

/-- The rule that the engine spoils has left its declarations in the paragraph, but does not count. -/
theorem inlineWith_frame_paragraph :
    (paragraph "").Reachable ∧ (∀ rule ∈ Rule.ofStylesheet alignments, ¬ rule.Tests "style") ∧
      (inlineWith haltingEngine alignments (paragraph "")).2.attribute? 1 "style" ≠
        (paragraph "").attribute? 1 "style" ∧
      (paragraph "").isElement 1 ∧ (inlineWith haltingEngine alignments (paragraph "")).1 = 1 ∧
      (inlineWith selectText alignments (paragraph "")).1 = 2 := by
  have hrules : strongestFirst (Rule.ofStylesheet alignments) =
      [⟨"#a", "text-align:end;Text-Align:left !important", 100, 0⟩, ⟨"p", "text-align:start!important", 1, 1⟩] := by
    rw [ofStylesheet_alignments, strongestFirst, List.mergeSort_of_pairwise (by decide)]
  have hr := paragraph_reachable ""
  obtain ⟨-, hchanged, hcount, hall⟩ := inlineWith_frame haltingEngine alignments (paragraph "")
  have hne : (inlineWith haltingEngine alignments (paragraph "")).2.attribute? 1 "style" ≠
      (paragraph "").attribute? 1 "style" := by
    rw [inlineWith, hrules]
    decide +kernel
  refine ⟨hr, not_tests_alignments, hne, (hchanged 1 hne).1, ?_, ?_⟩
  · rw [hcount, hrules]
    decide +kernel
  · rw [hall hr not_tests_alignments, ofStylesheet_alignments]
    simp only [Rule.applies_iff hr]
    decide +kernel

end HtmlMail.Css
