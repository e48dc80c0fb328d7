import HtmlMail.Proofs.Css.Engines

/-!
# What inlining leaves in a style

The style of an element is read when the first rule is applied to the element, and written again with the declarations
of the rule. What is read is what stands between semicolons, wherever these are: quotes and parentheses do not hold them
together. So a property that no rule declares keeps its declaration, as it is read, and a style that no rule is applied to
keeps its text. But a value with a semicolon inside quotes or parentheses is cut there by any rule that is applied to the
element.

* `declared?` : what the style of an element declares for a property;
* `Rule.Names` : the rules that an engine applies to an element;
* `get?_parse_mergedStyle`, `declared?_styleNodes`, `declared?_applyRules` : merging leaves the other properties alone,
  for one style, for the elements of a rule, and for all rules by induction on them;
* `declared?_inlineWith` : what inlining leaves in a style;
* `inlineCss_dataUrl` : a value that is cut.
-/

namespace HtmlMail.Css

open Dom

/-! ### Merging into one style -/

namespace Style

variable {s : Style} {d : Declaration} {property : String}

/-- Where no property is declared twice, every declaration is the one of its property. -/
theorem get?_of_mem (hs : (s.declarations.map (·.property)).Nodup) (hd : d ∈ s.declarations) :
    s.get? d.property = some d := by
  have hsome : s.get? d.property ≠ none := by
    rw [Ne, get?_eq_none_iff, not_not]
    exact List.mem_map_of_mem hd
  obtain ⟨e, he⟩ : ∃ e, s.declarations.find? (·.property == d.property) = some e := Option.ne_none_iff_exists'.1 hsome
  have hfound := List.find?_some he
  have hproperty : e.property = d.property := eq_of_beq hfound
  have hsame : e = d := List.inj_on_of_nodup_map hs (List.mem_of_find?_eq_some he) hd hproperty
  rw [get?, he, hsame]

/-- Merging changes no property that is not declared. -/
theorem get?_foldl_digest_of_ne {l : List Declaration} : ∀ {s : Style}, (∀ d ∈ l, d.property ≠ property) →
    (l.foldl digest s).get? property = s.get? property := by
  induction l with
  | nil => exact fun _ => rfl
  | cons d rest ih =>
    intro s h
    obtain ⟨hd, hrest⟩ := List.forall_mem_cons.1 h
    rw [List.foldl_cons, ih hrest, get?_digest_of_ne s hd]

end Style

/-- **Merging into a style** leaves alone what is declared for other properties, as it is read. -/
theorem get?_parse_mergedStyle {declarations property : String} (current : Option String)
    (h : ∀ d ∈ Style.declarationsOf declarations, d.property ≠ property) :
    (Style.parse (mergedStyle current declarations)).get? property =
      (Style.parse (current.getD "")).get? property := by
  have hnone {text : String} (h : ∀ d ∈ Style.declarationsOf text, d.property ≠ property) :
      (Style.parse text).get? property = none := by
    by_contra hsome
    obtain ⟨d, hd, hproperty⟩ := Style.get?_parse_ne_none_iff.1 hsome
    exact h d hd hproperty
  have hblank {text : String} (hb : Text.isBlank text) : (Style.parse text).get? property = none := by
    refine hnone fun d hd => ?_
    rw [Style.declarationsOf_of_isBlank hb] at hd
    cases hd
  cases current with
  | none => exact (hnone h).trans (hblank rfl).symm
  | some text =>
    rw [mergedStyle, Option.getD_some]
    split
    · -- A blank style gives way to the text of the rule, and neither declares the property.
      next hb => rw [hnone h, hblank hb]
    · rw [((Style.isRead_parse text).digestText declarations).parse_text, Style.digestText]
      exact Style.get?_foldl_digest_of_ne fun d hd => h d (List.mem_reverse.1 hd)

/-! ### Merging into the styles of a document -/

/-- **What the style of an element declares** for a property. -/
def declared? (tree : Tree) (node : NodeId) (property : String) : Option Declaration :=
  (Style.parse ((tree.attribute? node "style").getD "")).get? property

/-- **Whether an engine names a node** for a rule in a tree, which is when the declarations of the rule are meant for it. -/
def Rule.Names (engine : SelectorEngine) (tree : Tree) (node : NodeId) (rule : Rule) : Prop :=
  ∃ nodes, engine tree rule.selector = .ok nodes ∧ node ∈ nodes

section Documents

variable {engine : SelectorEngine} {tree original : Tree} {node : NodeId} {nodes : List NodeId} {rule : Rule}
  {rules : List Rule} {css declarations property : String}

/-- **The nodes of one rule.** What the rule does not declare stays in all of them, and everything in the others. -/
theorem declared?_styleNodes : ∀ {nodes : List NodeId} {tree : Tree},
    (node ∈ nodes → ∀ d ∈ Style.declarationsOf declarations, d.property ≠ property) →
      declared? (styleNodes declarations nodes tree).2 node property = declared? tree node property
  | [], tree, _ => rfl
  | n :: rest, tree, h => by
    rw [styleNodes, Tree.setAttribute]
    by_cases hn : tree.isElement n
    · rw [if_pos hn]
      refine (declared?_styleNodes fun hmem => h (List.mem_cons_of_mem n hmem)).trans ?_
      rw [declared?, Tree.attribute?_modifyAttributes]
      split
      · next hnode =>
        -- The style is the old one with the rule merged in.
        subst hnode
        obtain ⟨e, he⟩ := Option.isSome_iff_exists.1 hn
        rw [he, Option.bind_some, Attributes.get?_insert, if_pos (by decide), Option.getD_some]
        exact get?_parse_mergedStyle _ (h List.mem_cons_self)
      · rfl
    · rw [if_neg hn]

/-- **One rule.** -/
theorem declared?_applyRule
    (h : rule.Names engine tree node → ∀ d ∈ Style.declarationsOf rule.declarations, d.property ≠ property) :
    declared? (applyRule engine tree rule).2 node property = declared? tree node property := by
  unfold applyRule
  cases hfound : engine tree rule.selector with
  | error e => rfl
  | ok nodes => exact declared?_styleNodes fun hnode => h ⟨nodes, hfound, hnode⟩

/-- **All rules**, each of which meets the tree that those in front of it leave behind. -/
theorem declared?_applyRules (rules : List Rule) : ∀ {tree : Tree},
    (∀ p ∈ encounters engine rules tree, p.1.Names engine p.2 node →
      ∀ d ∈ Style.declarationsOf p.1.declarations, d.property ≠ property) →
    declared? (applyRules engine rules tree).2 node property = declared? tree node property := by
  induction rules with
  | nil => exact fun _ => rfl
  | cons rule rest ih =>
    intro tree h
    obtain ⟨hfirst, hrest⟩ := List.forall_mem_cons.1 h
    exact (ih hrest).trans (declared?_applyRule hfirst)

/-- The usual engine names the elements of the document that a rule describes, whatever has been inlined before, if the
selector does not look at styles. -/
theorem Rule.names_selectText_iff (hr : original.Reachable) (hsame : tree.without "style" = original.without "style")
    (htests : ¬ rule.Tests "style") (ha : original.Attached node) (he : original.isElement node) :
    rule.Names selectText tree node ↔ rule.Describes original node := by
  unfold Rule.Names Rule.Describes
  rw [selectText]
  cases hs : Selector.parse rule.selector with
  | error e => simp [Except.map, Except.toOption]
  | ok s =>
    have hselect := Selector.select_of_without_eq hsame fun ht => htests ⟨s, hs, ht⟩
    simp [Except.map, Except.toOption, hselect, hr.mem_elements_iff, ha, he]

/-- Every rule has its turn, and only the rules have one. -/
theorem exists_mem_encounters_iff (rules : List Rule) : ∀ {tree : Tree},
    (∃ met, (rule, met) ∈ encounters engine rules tree) ↔ rule ∈ rules := by
  induction rules with
  | nil => exact fun {_} => ⟨fun ⟨_, h⟩ => (nomatch h), fun h => (nomatch h)⟩
  | cons first rest ih =>
    intro tree
    simp only [encounters, List.mem_cons, Prod.mk.injEq, exists_or, ih, exists_and_left, exists_eq, and_true]

/-- What a rule meets differs from the document as it was in styles only. -/
theorem without_of_mem_encounters {met : Tree} (rules : List Rule) : ∀ {tree : Tree},
    (rule, met) ∈ encounters engine rules tree → met.without "style" = tree.without "style" := by
  induction rules with
  | nil => exact fun h => nomatch h
  | cons first rest ih =>
    intro tree h
    rcases List.mem_cons.1 h with h | h
    · cases h
      rfl
    · exact (ih h).trans (without_applyRule engine first)

end Documents

/-! ### The rules that reach an element -/

/-- **Whether a rule of a stylesheet reaches a node** when it is inlined: the engine names the node when the turn of the rule
comes. -/
def Rule.Reaches (engine : SelectorEngine) (css : String) (tree : Tree) (node : NodeId) (rule : Rule) : Prop :=
  ∃ met, (rule, met) ∈ encounters engine (strongestFirst (Rule.ofStylesheet css)) tree ∧ rule.Names engine met node

/-- Whether none of the rules that reach a node declares a property. -/
def IsSpared (engine : SelectorEngine) (css : String) (tree : Tree) (node : NodeId) (property : String) : Prop :=
  ∀ rule : Rule, rule.Reaches engine css tree node → ∀ d ∈ Style.declarationsOf rule.declarations, d.property ≠ property

/-- **The rules that reach an element** by the usual engine are those that describe it in the document as it was, if no
selector looks at styles. -/
theorem Rule.reaches_selectText_iff {css : String} {tree : Tree} {node : NodeId} {rule : Rule} (hr : tree.Reachable)
    (ha : tree.Attached node) (he : tree.isElement node) (htests : ∀ rule ∈ Rule.ofStylesheet css, ¬ rule.Tests "style") :
    rule.Reaches selectText css tree node ↔ rule ∈ Rule.ofStylesheet css ∧ rule.Describes tree node := by
  -- Sorted or not, each rule of the sheet is met once.
  have hmem : (∃ met, (rule, met) ∈ encounters selectText (strongestFirst (Rule.ofStylesheet css)) tree) ↔
      rule ∈ Rule.ofStylesheet css := (exists_mem_encounters_iff _).trans List.mem_mergeSort
  constructor
  · rintro ⟨met, hmet, hnamed⟩
    have hrule := hmem.1 ⟨met, hmet⟩
    exact ⟨hrule, (names_selectText_iff hr (without_of_mem_encounters _ hmet) (htests rule hrule) ha he).1 hnamed⟩
  · rintro ⟨hrule, hdescribes⟩
    obtain ⟨met, hmet⟩ := hmem.2 hrule
    exact ⟨met, hmet,
      (names_selectText_iff hr (without_of_mem_encounters _ hmet) (htests rule hrule) ha he).2 hdescribes⟩

/-- **What inlining leaves in a style**, whatever the engine answers.

* What the style of a node declares for a property that none of the rules that reach the node declares stays as it is,
  and nothing is declared for it if nothing was.
* If no rule reaches the node, its style keeps its text.
* If the text is made of pieces without semicolons, joined by semicolons, and no property is declared twice in them,
  then every declaration of such a property is still there, with its value and its importance. -/
theorem declared?_inlineWith (engine : SelectorEngine) (css : String) (tree : Tree) (node : NodeId) :
    (∀ property, IsSpared engine css tree node property →
      declared? (inlineWith engine css tree).2 node property = declared? tree node property) ∧
    ((∀ rule : Rule, ¬ rule.Reaches engine css tree node) →
      (inlineWith engine css tree).2.attribute? node "style" = tree.attribute? node "style") ∧
    ∀ pieces : List String, (∀ piece ∈ pieces, ';' ∉ piece.toList) →
      tree.attribute? node "style" = some (String.intercalate ";" pieces) →
      ((pieces.filterMap Declaration.parse?).map (·.property)).Nodup →
      ∀ d ∈ pieces.filterMap Declaration.parse?, IsSpared engine css tree node d.property →
        declared? (inlineWith engine css tree).2 node d.property = some d := by
  have hkept (property : String) (h : IsSpared engine css tree node property) :
      declared? (inlineWith engine css tree).2 node property = declared? tree node property :=
    declared?_applyRules _ fun p hp hnamed => h p.1 ⟨p.2, hp, hnamed⟩
  refine ⟨hkept, fun hnone => ?_, fun pieces hpieces hstyle hdistinct d hd h => ?_⟩
  · by_contra hne
    obtain ⟨-, p, hp, hnamed⟩ := exists_encounter_of_ne _ hne
    exact hnone p.1 ⟨p.2, hp, hnamed⟩
  · -- No property is declared twice, so the style keeps every declaration as it was written.
    have hread : Style.parse (String.intercalate ";" pieces) = ⟨pieces.filterMap Declaration.parse?⟩ := by
      rw [Style.parse, Style.declarationsOf_intercalate hpieces, Style.foldl_addLater_of_nodup _ hdistinct]
      rfl
    rw [hkept d.property h, declared?, hstyle, Option.getD_some, hread]
    exact Style.get?_of_mem hdistinct hd

/-- A stylesheet with a rule for the paragraph that declares a margin. -/
def margins : String := "p\x7bmargin:0\x7d"

theorem ofStylesheet_margins : Rule.ofStylesheet margins = [⟨"p", "margin:0", 1, 0⟩] := by decide +kernel

/-- The pieces of a style: a property in capitals with an important value, a piece that declares nothing, and a value with
a colon in it. -/
def stylePieces : List String := ["COLOR: red !important", "px", "background:url(http://x/a.png)"]

/-- Each of them keeps what it declares, and nothing comes in but the margin. -/
theorem declared?_inlineCss_paragraph :
    (paragraph (String.intercalate ";" stylePieces)).attribute? 1 "style" = some (String.intercalate ";" stylePieces) ∧
      IsSpared selectText margins (paragraph (String.intercalate ";" stylePieces)) 1 "color" ∧
      declared? (inlineCss margins (paragraph (String.intercalate ";" stylePieces))) 1 "color" =
        some ⟨"color", "red", true⟩ ∧
      declared? (inlineCss margins (paragraph (String.intercalate ";" stylePieces))) 1 "background" =
        some ⟨"background", "url(http://x/a.png)", false⟩ ∧
      declared? (inlineCss margins (paragraph (String.intercalate ";" stylePieces))) 1 "width" = none := by
  have hr := paragraph_reachable (String.intercalate ";" stylePieces)
  have ha := paragraph_attached (String.intercalate ";" stylePieces)
  have htests : ∀ rule ∈ Rule.ofStylesheet margins, ¬ rule.Tests "style" := by
    rw [ofStylesheet_margins]
    decide +kernel
  have hdeclares : ∀ rule ∈ Rule.ofStylesheet margins, ∀ d ∈ Style.declarationsOf rule.declarations,
      d.property = "margin" := by
    rw [ofStylesheet_margins]
    decide +kernel
  -- All the rules do is set margins.
  have hspared (property : String) (hne : property ≠ "margin") :
      IsSpared selectText margins (paragraph (String.intercalate ";" stylePieces)) 1 property := by
    intro rule hreaches d hd
    have hrule := ((Rule.reaches_selectText_iff hr ha rfl htests).1 hreaches).1
    exact fun hproperty => hne (hproperty.symm.trans (hdeclares rule hrule d hd))
  have hstyle : (paragraph (String.intercalate ";" stylePieces)).attribute? 1 "style" =
      some (String.intercalate ";" stylePieces) := by decide +kernel
  have hdeclarations : stylePieces.filterMap Declaration.parse? =
      [⟨"color", "red", true⟩, ⟨"background", "url(http://x/a.png)", false⟩] := by decide +kernel
  obtain ⟨hkept, -, hpieces⟩ :=
    declared?_inlineWith selectText margins (paragraph (String.intercalate ";" stylePieces)) 1
  have hall := hpieces stylePieces (by decide) hstyle (by rw [hdeclarations]; decide)
  rw [hdeclarations] at hall
  refine ⟨hstyle, hspared _ (by decide), hall ⟨"color", "red", true⟩ (by simp) (hspared _ (by decide)),
    hall ⟨"background", "url(http://x/a.png)", false⟩ (by simp) (hspared _ (by decide)), ?_⟩
  refine (hkept "width" (hspared _ (by decide))).trans ?_
  decide +kernel

/-- **Whether every semicolon of a value is enclosed** in quotes or parentheses, read with what is open: a quote, or some
parentheses. What is open has to be closed. -/
def enclosesSemicolons (quote? : Option Char) (depth : Nat) : List Char → Bool
  | [] => quote?.isNone && depth == 0
  | c :: rest =>
    match quote? with
    | some quote => enclosesSemicolons (if c = quote then none else quote?) depth rest
    | none =>
      match c with
      | '"' | '\'' => enclosesSemicolons (some c) depth rest
      | '(' => enclosesSemicolons none (depth + 1) rest
      | ')' => depth != 0 && enclosesSemicolons none (depth - 1) rest
      | ';' => depth != 0 && enclosesSemicolons none depth rest
      | _ => enclosesSemicolons none depth rest

/-- An image that is part of its URL. -/
def dataUrl : String := "url(data:image/png;base64,iVBORw0KGgo=)"

/-- **A value with an enclosed semicolon is cut** by a rule that declares another property. -/
theorem inlineCss_dataUrl : enclosesSemicolons none 0 dataUrl.toList ∧
    (paragraph ("background:" ++ dataUrl)).Reachable ∧ (paragraph ("background:" ++ dataUrl)).Attached 1 ∧
    (paragraph ("background:" ++ dataUrl)).attribute? 1 "style" = some ("background:" ++ dataUrl) ∧
    (∀ rule ∈ Rule.ofStylesheet margins, ∀ d ∈ Style.declarationsOf rule.declarations, d.property ≠ "background") ∧
    (inlineCss margins (paragraph ("background:" ++ dataUrl))).attribute? 1 "style" =
      some "margin:0;background:url(data:image/png" ∧
    ¬ Text.contains dataUrl "margin:0;background:url(data:image/png" := by
  have hrules : strongestFirst (Rule.ofStylesheet margins) = [⟨"p", "margin:0", 1, 0⟩] := by
    rw [ofStylesheet_margins, strongestFirst, List.mergeSort_of_pairwise (by decide)]
  -- The semicolon in the quotes ends the declaration, and what is behind it has no colon.
  have hinlined : (inlineCss margins (paragraph ("background:" ++ dataUrl))).attribute? 1 "style" =
      some "margin:0;background:url(data:image/png" := by
    rw [inlineCss, inlineWith, hrules]
    decide +kernel
  refine ⟨by decide, paragraph_reachable _, paragraph_attached _, rfl, ?_, hinlined, by decide +kernel⟩
  rw [ofStylesheet_margins]
  decide +kernel

end HtmlMail.Css
