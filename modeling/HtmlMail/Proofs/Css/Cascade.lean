import HtmlMail.Proofs.Css.Merging
import Mathlib.Control.Monad.Basic
import Mathlib.Data.List.Nodup

/-!
# Inlining follows the cascade

The cascade of a node (`cascade`) holds every declaration that is meant for it, the strongest first: those of
its own style, then those of the rules that describe it, from the strongest rule to the weakest; what is
written later in a style or a rule is stronger than what is written earlier. Inlining gives the node the
winner of every property that no shorthand stands in the way of (`get?_inlineCss`).

* `Rule.Outranks` : the order of the rules, by specificity and then by place. No two rules of a stylesheet
  are alike in it (`strongestFirst_pairwise`), because no two have the same place (`map_order_ofStylesheet`).
-/

namespace HtmlMail.Css

open Dom

/-! ### The order of the rules -/

/-- **A rule outranks another one** if its selector is the more specific one, or is as specific and stands
later. -/
def Rule.Outranks (a b : Rule) : Prop :=
  b.specificity < a.specificity ∨ (a.specificity = b.specificity ∧ b.order < a.order)

section Order

variable {a b c : Rule}

theorem Rule.isAtLeast_iff : a.isAtLeast b ↔ b.specificity.toNat < a.specificity.toNat ∨
    (a.specificity.toNat = b.specificity.toNat ∧ b.order ≤ a.order) := by
  simp [Rule.isAtLeast, UInt32.lt_iff_toNat_lt, UInt32.toNat_inj]

theorem Rule.isAtLeast_trans (hab : a.isAtLeast b) (hbc : b.isAtLeast c) : a.isAtLeast c := by
  rw [isAtLeast_iff] at *
  omega

theorem Rule.isAtLeast_total (a b : Rule) : (a.isAtLeast b || b.isAtLeast a) = true := by
  rw [Bool.or_eq_true, isAtLeast_iff, isAtLeast_iff]
  omega

theorem map_order_ofBlock (order : ℕ) (list declarations : List Char) :
    (Rule.ofBlock order list declarations).map (·.order) =
      List.range' order (Rule.ofBlock order list declarations).length := by
  unfold Rule.ofBlock
  dsimp only
  apply List.ext_getElem
  · rw [List.length_map, List.length_range']
  · intro i _ _
    rw [List.getElem_map, List.getElem_mapIdx, List.getElem_range', Nat.one_mul]

/-- **The rules of a stylesheet are numbered** in the order of its text, without gaps. -/
theorem map_order_ofStylesheet (css : String) :
    (Rule.ofStylesheet css).map (·.order) = List.range (Rule.ofStylesheet css).length := by
  -- The rules so far are numbered from zero, so the next block goes on with their number.
  have key (blocks : List (List Char × List Char)) : ∀ rules : List Rule,
      rules.map (·.order) = List.range rules.length →
        (blocks.foldl (fun rules block =>
          rules ++ Rule.ofBlock rules.length block.1 block.2) rules).map (·.order) =
        List.range (blocks.foldl (fun rules block =>
          rules ++ Rule.ofBlock rules.length block.1 block.2) rules).length := by
    induction blocks with
    | nil => exact fun _ h => h
    | cons block rest ih =>
      intro rules h
      refine ih _ ?_
      rw [List.map_append, h, map_order_ofBlock, List.length_append, List.range_add,
        List.range'_eq_map_range]
  exact key _ [] rfl

/-- **Every rule outranks those behind it** when the rules of a stylesheet are sorted. -/
theorem strongestFirst_pairwise (css : String) :
    (strongestFirst (Rule.ofStylesheet css)).Pairwise Rule.Outranks := by
  have hsorted : (strongestFirst (Rule.ofStylesheet css)).Pairwise (·.isAtLeast ·) := by
    apply List.pairwise_mergeSort
    · exact fun _ _ _ => Rule.isAtLeast_trans
    · exact Rule.isAtLeast_total
  have hperm := (List.mergeSort_perm (Rule.ofStylesheet css) Rule.isAtLeast).map (·.order)
  -- No two rules have the same place, so the places decide where the specificities are equal.
  have hdistinct : ((strongestFirst (Rule.ofStylesheet css)).map (·.order)).Nodup := by
    rw [strongestFirst, hperm.nodup_iff, map_order_ofStylesheet]
    exact List.nodup_range
  refine (hsorted.and (List.pairwise_map.1 hdistinct)).imp fun ⟨hge, hne⟩ => ?_
  rw [Rule.isAtLeast_iff] at hge
  rw [Rule.Outranks, UInt32.lt_iff_toNat_lt, ← UInt32.toNat_inj]
  omega

end Order

/-! ### The cascade of a node -/

/-- The declarations of the rules that describe a node, from the strongest rule to the weakest. -/
def ruleTexts (css : String) (tree : Tree) (node : NodeId) : List String :=
  ((strongestFirst (Rule.ofStylesheet css)).filter (·.Describes tree node)).map (·.declarations)

/-- **The cascade of a node**: its own declarations and those of the rules that describe it, the strongest
first. -/
def cascade (css : String) (tree : Tree) (node : NodeId) : List Declaration :=
  candidates ((tree.attribute? node "style").getD "" :: ruleTexts css tree node)

/-- What is read off the text of a style that rules have been merged into. -/
theorem get?_parse_mergedStyles {current : Option String} {texts : List String} {property : String}
    (h : shorthandOf property = property ∨
      ∀ d ∈ candidates (current.getD "" :: texts), d.property ≠ shorthandOf property) :
    (Style.parse ((mergedStyles current texts).getD "")).get? property =
      winner? ((candidates (current.getD "" :: texts)).filter (·.property == property)) := by
  rw [getD_mergedStyles, ← candidates_ground, candidates_cons]
  rw [← candidates_ground, candidates_cons] at h
  generalize (ground (current.getD "") texts).1 = text at *
  generalize (ground (current.getD "") texts).2 = later at *
  split
  · -- The ground stays as it is written.
    next hlater =>
    subst hlater
    have hnil : candidates [] = [] := rfl
    rw [hnil, List.append_nil, Style.get?_parse]
  · -- The rest is merged into what is read from the ground, and that is read back.
    have hfree : (Style.parse text).Unobstructed property (candidates later) := by
      rcases h with h | h
      · have hown := (Style.parse text).unobstructed_shorthandOf property (candidates later)
        rwa [h] at hown
      · exact Style.unobstructed_parse h
    rw [(isRead_foldl_digest_candidates text later).parse_text, Style.get?_foldl_digest_parse hfree]

section Inlining

variable {tree : Tree} {node : NodeId} {css property : String}

/-- **Inlining follows the cascade.** After a stylesheet has been inlined whose selectors do not look at the
attribute `style`, the style of an element declares a property if and only if the cascade does, and the
declaration is the winner of the cascade. This is so for every property that is its own shorthand, or whose
shorthand is declared nowhere in the cascade. -/
theorem get?_inlineCss (hr : tree.Reachable) (ha : tree.Attached node) (he : tree.isElement node)
    (htests : ∀ rule ∈ Rule.ofStylesheet css, ¬ rule.Tests "style")
    (hp : shorthandOf property = property ∨
      ∀ d ∈ cascade css tree node, d.property ≠ shorthandOf property) :
    (strongestFirst (Rule.ofStylesheet css)).Pairwise Rule.Outranks ∧
      (((Style.parse (((inlineCss css tree).attribute? node "style").getD "")).get? property).isSome ↔
        ∃ d ∈ cascade css tree node, d.property = property) ∧
      (Style.parse (((inlineCss css tree).attribute? node "style").getD "")).get? property =
        winner? ((cascade css tree node).filter (·.property == property)) := by
  -- The merged style is that of the cascade, read in one go.
  have hwinner : (Style.parse (((inlineCss css tree).attribute? node "style").getD "")).get? property =
      winner? ((cascade css tree node).filter (·.property == property)) := by
    rw [attribute?_inlineCss hr ha he htests]
    exact get?_parse_mergedStyles hp
  refine ⟨strongestFirst_pairwise css, ?_, hwinner⟩
  rw [hwinner, ← Option.ne_none_iff_isSome]
  exact winner?_filter_property_ne_none_iff

end Inlining

/-- A document with one paragraph, which has an identifier and a style. -/
def paragraph (style : String) : Tree :=
  ⟨#[⟨.document, none, some 1, some 1, none, none⟩,
    ⟨.element ⟨"p", ⟨[⟨"id", "a"⟩, ⟨"style", style⟩]⟩⟩, some 0, none, none, none, none⟩]⟩

theorem paragraph_reachable (style : String) : (paragraph style).Reachable := by
  have h : Tree.Reachable Tree.empty := .refl
  have h := h.tail (.createElement "p")
  have h := h.tail (@Tree.Step.append _ 0 1 _ rfl)
  have h := h.tail (@Tree.Step.setAttribute _ 1 "id" "a" _ rfl)
  exact h.tail (@Tree.Step.setAttribute _ 1 "style" style _ rfl)

theorem paragraph_attached (style : String) : (paragraph style).Attached 1 := .single rfl

/-- A stylesheet with two rules for the paragraph, the stronger one first. -/
def alignments : String := "#a{text-align:end;Text-Align:left !important}p{text-align:start!important}"

theorem ofStylesheet_alignments : Rule.ofStylesheet alignments =
    [⟨"#a", "text-align:end;Text-Align:left !important", 100, 0⟩,
      ⟨"p", "text-align:start!important", 1, 1⟩] := by decide +kernel

/-- The rules look for names and an identifier only. -/
theorem not_tests_alignments : ∀ rule ∈ Rule.ofStylesheet alignments, ¬ rule.Tests "style" := by
  rw [ofStylesheet_alignments]
  decide +kernel

/-- Three sources of an alignment: the last important declaration of the stronger rule wins. -/
theorem get?_inlineCss_paragraph :
    (paragraph "text-align:justify").Reachable ∧ (paragraph "text-align:justify").Attached 1 ∧
      (Style.parse (((inlineCss alignments (paragraph "text-align:justify")).attribute? 1 "style").getD
        "")).get? "text-align" = some ⟨"text-align", "left", true⟩ := by
  refine ⟨paragraph_reachable _, paragraph_attached _, ?_⟩
  have hcascade : cascade alignments (paragraph "text-align:justify") 1 =
      [⟨"text-align", "justify", false⟩, ⟨"text-align", "left", true⟩, ⟨"text-align", "end", false⟩,
        ⟨"text-align", "start", true⟩] := by
    rw [cascade, ruleTexts, ofStylesheet_alignments, strongestFirst, List.mergeSort_of_pairwise (by decide)]
    decide +kernel
  rw [(get?_inlineCss (paragraph_reachable _) (paragraph_attached _) rfl not_tests_alignments
    (.inr (by rw [hcascade]; decide))).2.2, hcascade]
  decide

end HtmlMail.Css
