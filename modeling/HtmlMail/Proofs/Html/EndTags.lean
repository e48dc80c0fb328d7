import HtmlMail.Proofs.Html.PartTags

/-!
# End tags of regular markup

The end tag of the innermost element closes it and nothing else.

* `Closes` : what comes of an end tag;
* `At.yields_bodyEnd` : end tags in a body;
* `At.yields_endTag` : end tags in every place.
-/

namespace HtmlMail.Html.Construction

open Dom

variable {c : List (Nat × String)} {l : List FormattingEntry} {e f : Nat × String} {node : Nat} {tag : Tag}
  {isOldStyle : Bool} {s s' : State} {name : String} {mode : TextMode} {Q : State → Prop}

/-- **What comes of an end tag.** -/
structure Closes (isOldStyle : Bool) (c : List (Nat × String)) (s s' : State) : Prop where
  forest : s'.forest = s.forest
  skips : s'.skipsLineFeed = s.skipsLineFeed
  opened : At isOldStyle c s'

/-- An element in which formatting goes on is closed. -/
theorem At.closes_unmarked (hs : At isOldStyle (e :: c) s) (hmarker : e.2 ∉ markerNames) (hshaping : e.2 ∉ shapingNames)
    (hform : e.2 ≠ "form") {mode : Mode} (hmode : mode = modeIn (c.map Prod.snd)) :
    Closes isOldStyle c s { s with stack := s.stack.tail, mode := mode } := by
  refine ⟨rfl, rfl, hs.closed rfl rfl (hs.formatting.of_not_shaping hmarker hshaping) hmode ?_ ⟨rfl, rfl, rfl, rfl, rfl, rfl⟩⟩
  rw [hs.form, List.find?_cons, beq_eq_false_iff_ne.2 hform]

/-- An element without rules of its own is closed by taking it from the open ones. -/
theorem At.closes_plain (hs : At isOldStyle (e :: c) s) (hplain : e.2 ∉ ruledNames) (hshaping : e.2 ∉ shapingNames) :
    Closes isOldStyle c s { s with stack := s.stack.tail } := by
  simp only [ruledNames, List.mem_append, List.mem_cons, not_or] at hplain
  obtain ⟨hmarker, hmodes, hform, -⟩ := hplain
  exact hs.closes_unmarked hmarker hshaping hform (by rw [hs.mode, List.map_cons, modeIn_cons hmodes])

/-- An element in which formatting begins anew is closed together with the formatting in it. -/
theorem At.closes_marker (hs : At isOldStyle (e :: c) s) (hmarker : e.2 ∈ markerNames) {mode : Mode}
    (hmode : mode = modeIn (c.map Prod.snd)) :
    Closes isOldStyle c s { s with
      stack := s.stack.tail
      formatting := (s.formatting.dropWhile (· != .marker)).tail
      mode := mode } := by
  -- Its marker is the last one, so what is dropped is the formatting in the element.
  obtain ⟨l, hl, htidy⟩ := hs.formatting.of_marker hmarker
  have hform : e.2 ≠ "form" := fun he => absurd (he ▸ hmarker) (by decide)
  refine ⟨rfl, rfl, hs.closed rfl rfl ?_ hmode ?_ ⟨rfl, rfl, rfl, rfl, rfl, rfl⟩⟩
  · rw [hl]
    exact htidy
  · rw [hs.form, List.find?_cons, beq_eq_false_iff_ne.2 hform]

/-- The innermost element is found open. -/
theorem At.isOpenNamed_head (hs : At isOldStyle (e :: c) s) {names : List String} (h : names.contains e.2)
    (isBoundary : ElementName → Bool) : s.isOpenNamed isBoundary names = true := by
  rw [hs.isOpenNamed_eq, List.map_cons, isOpenIn, h, Bool.true_or]

/-- The end tag of a form. -/
theorem At.yields_closeForm (hs : At isOldStyle (e :: c) s) (hname : e.2 = "form")
    (hnone : isOpenIn (fun _ => false) ["form"] (c.map Prod.snd) = false) :
    Yields closeForm s (Closes isOldStyle c s) := by
  have hform : s.form? = some e.1 := by
    rw [hs.form, List.find?_cons, hname]
    rfl
  have hopen : s.isOpenWithin ElementName.bounds (· == e.1) = true := by
    rw [State.isOpenWithin, hs.stack_eq, State.isOpenWithin.go, beq_self_eq_true, Bool.true_or]
  have hnot : e.2 ∉ markerNames ∧ e.2 ∉ shapingNames ∧ e.2 ∉ modeNames := by rw [hname]; decide
  have hstack : ({ s with form? := none } : State).stack = e.1 :: c.map Prod.fst := hs.stack_eq
  -- The form is the innermost element, and its end is not implied by anything.
  have himplied : popImplied.run { s with form? := none } = ((), { s with form? := none }) :=
    run_popImpliedOf_of_stack hstack (hs.named e List.mem_cons_self) (.inl (by rw [hname]; decide))
  rw [closeForm]
  refine .bind (Build.run_get s) (.ite (fun h => ?_) fun _ => .bind (Build.run_modify _ _) ?_)
  · rw [hs.isInTemplate_eq] at h
    cases h
  rw [hform]
  dsimp only
  refine .ite (fun _ => ?_) fun h => absurd hopen h
  refine .bind himplied (.bind (Build.run_modify _ _) (.done ⟨rfl, rfl, ?_⟩))
  refine hs.closed rfl ?_ (hs.formatting.of_not_shaping hnot.1 hnot.2.1) ?_ ?_ ⟨rfl, rfl, rfl, rfl, rfl, rfl⟩
  · show s.stack.erase e.1 = s.stack.tail
    rw [hs.stack_eq, List.erase_cons_head, List.tail_cons]
  · show s.mode = _
    rw [hs.mode, List.map_cons, modeIn_cons hnot.2.2]
  · rw [find?_form_of_isOpenIn hnone]
    rfl

/-- An element is closed by its name, those whose end tags may be missing first, of which there are none. -/
theorem At.run_closeNamed (hs : At isOldStyle (e :: c) s) :
    (closeNamed e.2).run s = ((), { s with stack := s.stack.tail }) := by
  rw [closeNamed, Build.run_bind, hs.run_popImpliedOf (.inr rfl)]
  exact hs.run_popUntilNamed (by simp)

theorem At.yields_adopt (hs : At isOldStyle (e :: c) s) (hname : e.2 ∈ shapingNames) :
    Yields (do adopt e.2; return .done) s (Closes isOldStyle c s) := by
  obtain ⟨s', hrun, hat, hforest, hskips⟩ := hs.run_adopt hname
  exact .bind hrun (.done ⟨hforest, hskips, hat⟩)

/-- An element without rules of its own is closed by its name. -/
theorem At.yields_closeNamed (hs : At isOldStyle (e :: c) s) (hplain : e.2 ∉ ruledNames) (hshaping : e.2 ∉ shapingNames)
    (isBoundary : ElementName → Bool) :
    Yields (do
      if s.isOpenNamed isBoundary [e.2] then closeNamed e.2
      return .done) s (Closes isOldStyle c s) := by
  refine .ite (fun _ => ?_) fun hclosed => absurd (hs.isOpenNamed_head (by simp) isBoundary) hclosed
  exact .bind hs.run_closeNamed (.done (hs.closes_plain hplain hshaping))

/-- An element without rules of its own is closed together with the open elements in it, of which there are none. -/
theorem At.yields_closeUntil (hs : At isOldStyle (e :: c) s) (hplain : e.2 ∉ ruledNames) (hshaping : e.2 ∉ shapingNames)
    (himplied : ElementName.impliedEndNames.contains e.2 = false) {names : List String} (hself : names.contains e.2)
    (isBoundary : ElementName → Bool) :
    Yields (do
      if s.isOpenNamed isBoundary names then
        popImplied
        popUntilNamed names
      return .done) s (Closes isOldStyle c s) := by
  refine .ite (fun _ => ?_) fun hclosed => absurd (hs.isOpenNamed_head hself isBoundary) hclosed
  refine .bind (hs.run_popImpliedOf (.inl himplied)) (.bind (hs.run_popUntilNamed hself) (.done ?_))
  exact hs.closes_plain hplain hshaping

/-- The end tag of a paragraph. -/
theorem At.yields_closeParagraph (hs : At isOldStyle (e :: c) s) (hname : e.2 = "p") :
    Yields (do
      if !s.isOpenNamed ElementName.boundsParagraph ["p"] then insertImplied "p"
      closeParagraph
      return .done) s (Closes isOldStyle c s) := by
  have hopen : s.isOpenNamed ElementName.boundsParagraph ["p"] = true :=
    hs.isOpenNamed_head (by rw [hname]; rfl) _
  have hrun := hs.run_closeNamed
  rw [hname] at hrun
  simp only [hopen, Bool.not_true, Bool.false_eq_true, if_false]
  exact .bind hrun (.done (hs.closes_plain (by rw [hname]; decide) (by rw [hname]; decide)))

/-- The end tag of an element around content of its own kind. -/
theorem At.yields_closeObject (hs : At isOldStyle (e :: c) s) (hname : e.2 ∈ objectNames)
    (isBoundary : ElementName → Bool) :
    Yields (do
      if s.isOpenNamed isBoundary [e.2] then
        popImplied
        popUntilNamed [e.2]
        clearToMarker
      return .done) s (Closes isOldStyle c s) := by
  obtain ⟨hmarker, hmodes, himplied⟩ := (by decide : ∀ n ∈ objectNames, n ∈ markerNames ∧ n ∉ modeNames ∧
    ElementName.impliedEndNames.contains n = false) _ hname
  have hself : [e.2].contains e.2 = true := by simp
  refine .ite (fun _ => ?_) fun hclosed => absurd (hs.isOpenNamed_head hself isBoundary) hclosed
  refine .bind (hs.run_popImpliedOf (.inl himplied)) (.bind (hs.run_popUntilNamed hself) (.bind (run_clearToMarker _)
    (.done ?_)))
  exact hs.closes_marker hmarker (by rw [hs.mode, List.map_cons, modeIn_cons hmodes])

/-- **End tags in a body.** -/
theorem At.yields_bodyEnd (hs : At isOldStyle (e :: f :: c) s) (hplace : placeIn ((f :: c).map Prod.snd) = .flow)
    (hadmits : admits isOldStyle ((f :: c).map Prod.snd) e.2) (hname : tag.name = e.2) (htable : e.2 ≠ "table")
    (hvoid : e.2 ∉ voidElements) (htext : e.2 ∉ textNames) :
    Yields (bodyEndRules tag) s (Closes isOldStyle (f :: c) s) := by
  have hin := not_mem_leftOutNames_of_admits hplace hadmits
  have hout {names : List String} (hsub : ∀ n ∈ names, n ∈ leftOutNames ∨ n ∈ voidElements)
      (h : names.contains e.2) : False :=
    (hsub _ (List.contains_iff_mem.1 h)).elim hin hvoid
  have hone {n : String} (h : [n].contains e.2) : e.2 = n := by simpa using h
  rw [bodyEndRules]
  refine .bind (Build.run_get s) ?_
  dsimp only
  rw [hname]
  -- The rules are asked in their order; what comes before the last one has to be known there.
  refine .ite (fun h => (hout (by decide) h).elim) fun _ => ?_
  refine .ite (fun h => (hout (by decide) h).elim) fun _ => ?_
  refine .ite (fun h => (hout (by decide) h).elim) fun _ => ?_
  refine .ite (fun h => ?_) fun _ => ?_
  · obtain ⟨hplain, hshaping, himplied⟩ := (by decide : ∀ n ∈ closedBlockNames, n ∉ ruledNames ∧ n ∉ shapingNames ∧
      ElementName.impliedEndNames.contains n = false) _ (List.contains_iff_mem.1 h)
    exact hs.yields_closeUntil hplain hshaping himplied (by simp) _
  refine .ite (fun h => ?_) fun hform => ?_
  · refine hs.yields_closeForm (hone h) ?_
    exact isClear_of_admits hplace hadmits _ (by rw [hone h]; exact List.mem_cons_self)
  refine .ite (fun h => hs.yields_closeParagraph (hone h)) fun _ => ?_
  refine .ite (fun h => ?_) fun _ => ?_
  · have hclose := hs.yields_closeNamed (by rw [hone h]; decide) (by rw [hone h]; decide) ElementName.boundsListItem
    rwa [hone h] at hclose
  refine .ite (fun h => ?_) fun _ => ?_
  · obtain ⟨hplain, hshaping⟩ := (by decide : ∀ n ∈ ["dd", "dt"], n ∉ ruledNames ∧ n ∉ shapingNames) _
      (List.contains_iff_mem.1 h)
    exact hs.yields_closeNamed hplain hshaping _
  refine .ite (fun h => ?_) fun _ => ?_
  · obtain ⟨hplain, hshaping, himplied⟩ := (by decide : ∀ n ∈ headingNames, n ∉ ruledNames ∧ n ∉ shapingNames ∧
      ElementName.impliedEndNames.contains n = false) _ (List.contains_iff_mem.1 h)
    exact hs.yields_closeUntil hplain hshaping himplied h _
  refine .ite (fun h => hs.yields_adopt (List.contains_iff_mem.1 h)) fun hshaping => ?_
  refine .ite (fun h => hs.yields_closeObject (List.contains_iff_mem.1 h) _) fun hobject => ?_
  refine .ite (fun h => (hout (by decide) h).elim) fun _ => ?_
  -- No element with rules of its own is left.
  simp only [List.contains_iff_mem] at hform hshaping hobject
  refine .bind hs.run_closeGeneric (.done (hs.closes_plain (fun hruled => ?_) hshaping))
  rcases (by decide : ∀ n ∈ ruledNames, n ∈ leftOutNames ∨ n = "table" ∨ n ∈ voidElements ∨ n ∈ textNames ∨
    n ∈ ["form"] ∨ n ∈ objectNames) _ hruled with h | h | h | h | h | h
  exacts [hin h, htable h, hvoid h, htext h, hform h, hobject h]

/-- The end tag of a table. -/
theorem At.yields_closeTable (hs : At isOldStyle (e :: c) s) (hname : e.2 = "table") (hend : tag.isEnd)
    (htag : tag.name = "table") : Yields (tableRules (.tag tag)) s (Closes isOldStyle c s) := by
  have hself : ["table"].contains e.2 = true := by rw [hname]; rfl
  have hopen := hs.isOpenNamed_head hself ElementName.boundsTable
  -- The mode is found again from what stays open.
  have hreset : ({ s with stack := s.stack.tail } : State).resetMode = modeIn (c.map Prod.snd) := by
    have hnamed : Named { s with stack := s.stack.tail } c := hs.named.tail
    rw [State.resetMode, ← hnamed.resetMode_go hs.templateModes hs.head, hs.stack_eq, List.tail_cons]
  rw [tableRules, tableTagRules]
  refine .bind (Build.run_get s) ?_
  simp only [tag.opens_of_end hend, tag.closes_of_end hend, htag, hopen, Bool.false_eq_true, if_false, if_true]
  refine .ite (fun _ => ?_) fun h => absurd rfl h
  refine .bind (hs.run_popUntilNamed hself) (.bind (run_resetMode _) (.done ?_))
  exact hs.closes_unmarked (by rw [hname]; decide) (by rw [hname]; decide) (by rw [hname]; decide) hreset

/-- End tags in a body, a caption or a cell. -/
theorem At.yields_flowEnd (hs : At isOldStyle (e :: f :: c) s) (hplace : placeIn ((f :: c).map Prod.snd) = .flow)
    (hmode : modeIn ((f :: c).map Prod.snd) ∈ [Mode.inBody, .inCaption, .inCell])
    (hadmits : admits isOldStyle ((f :: c).map Prod.snd) e.2) (hend : tag.isEnd) (hname : tag.name = e.2)
    (hvoid : e.2 ∉ voidElements) (htext : e.2 ∉ textNames) :
    Yields (rulesOf s.mode (.tag tag)) s (Closes isOldStyle (f :: c) s) := by
  by_cases htable : e.2 = "table"
  · have htag := hname.trans htable
    rw [hs.mode, List.map_cons, htable]
    exact hs.yields_closeTable htable hend htag
  have hin := not_mem_leftOutNames_of_admits hplace hadmits
  have hmodes : e.2 ∉ modeNames := fun h =>
    ((by decide : ∀ n ∈ modeNames, n ∈ leftOutNames ∨ n = "table") _ h).elim hin htable
  have hcloses {names : List String} (hnames : ∀ n ∈ names, n ∈ leftOutNames ∨ n = "table") :
      tag.closes names = false := by
    rw [tag.closes_of_end hend, hname, ← Bool.not_eq_true, List.contains_iff_mem]
    exact fun h => (hnames _ h).elim hin htable
  have hbody : Yields (bodyRules (.tag tag)) s (Closes isOldStyle (f :: c) s) := by
    rw [bodyRules, hend, if_pos rfl]
    exact hs.yields_bodyEnd hplace hadmits hname htable hvoid htext
  rw [hs.mode, List.map_cons, modeIn_cons hmodes]
  simp only [List.mem_cons, List.not_mem_nil, or_false] at hmode
  -- In a caption and in a cell, the parts of a table are asked for first.
  rcases hmode with hmode | hmode | hmode <;> rw [hmode, rulesOf]
  · exact hbody
  · rw [captionRules, tag.opens_of_end hend, Bool.false_or, hcloses (by decide), if_neg Bool.false_ne_true,
      hcloses (by decide), if_neg Bool.false_ne_true]
    exact hbody
  · rw [cellRules]
    refine .bind (Build.run_get s) ?_
    dsimp only
    rw [hcloses (by decide), if_neg Bool.false_ne_true, tag.opens_of_end hend, if_neg Bool.false_ne_true,
      hcloses (by decide), if_neg Bool.false_ne_true, hcloses (by decide), if_neg Bool.false_ne_true]
    exact hbody

/-- The end tag of a caption. -/
theorem At.yields_closeCaption (hs : At isOldStyle (e :: c) s) (he : e.2 = "caption") (hend : tag.isEnd)
    (hname : tag.name = e.2) (hmode : Mode.inTable = modeIn (c.map Prod.snd)) :
    Yields (rulesOf s.mode (.tag tag)) s (Closes isOldStyle c s) := by
  have hcloses (names : List String) : tag.closes names = names.contains "caption" := by
    rw [tag.closes_of_end hend, hname, he]
  have hself : ["caption"].contains e.2 = true := by rw [he]; rfl
  have hopen := hs.isOpenNamed_head hself ElementName.boundsTable
  have himplied : popImplied.run s = ((), s) := hs.run_popImpliedOf (.inl (by rw [he]; decide))
  rw [hs.mode, List.map_cons, he]
  show Yields (captionRules (.tag tag)) s _
  rw [captionRules, hcloses, hcloses]
  refine .ite (fun _ => ?_) fun h => absurd (by simp) h
  refine .bind (Build.run_get s) ?_
  rw [hopen]
  refine .ite (fun _ => ?_) fun h => absurd rfl h
  -- The caption is closed, and the formatting that was left open in it is forgotten.
  refine .bind himplied (.bind (hs.run_popUntilNamed hself) (.bind (run_clearToMarker _) ?_))
  refine .ite (fun _ => .bind (run_setMode _ _) (.done ?_)) fun h => absurd rfl h
  exact hs.closes_marker (by rw [he]; decide) hmode

/-- The end tag of a group of columns. -/
theorem At.yields_closeColumns (hs : At isOldStyle (e :: c) s) (he : e.2 = "colgroup") (hend : tag.isEnd)
    (hname : tag.name = e.2) (hmode : Mode.inTable = modeIn (c.map Prod.snd)) :
    Yields (rulesOf s.mode (.tag tag)) s (Closes isOldStyle c s) := by
  rw [hs.mode, List.map_cons, he]
  show Yields (columnGroupRules (.tag tag)) s _
  rw [columnGroupRules]
  simp only [tag.opens_of_end hend, tag.closes_of_end hend, hname, he, Bool.false_eq_true, if_false]
  refine .ite (fun _ => .bind (Build.run_get s) ?_) fun h => absurd rfl h
  rw [hs.currentIs_eq, he]
  refine .ite (fun _ => ?_) fun h => absurd rfl h
  refine .bind (run_pop s) (.bind (run_setMode _ _) (.done ?_))
  exact hs.closes_unmarked (by rw [he]; decide) (by rw [he]; decide) (by rw [he]; decide) hmode

/-- The end tag of a group of rows. -/
theorem At.yields_closeRows (hs : At isOldStyle (e :: c) s) (he : e.2 ∈ ["tbody", "tfoot", "thead"]) (hend : tag.isEnd)
    (hname : tag.name = e.2) (hmode : Mode.inTable = modeIn (c.map Prod.snd)) :
    Yields (rulesOf s.mode (.tag tag)) s (Closes isOldStyle c s) := by
  have hcloses : tag.closes ["tbody", "tfoot", "thead"] = true := by
    rw [tag.closes_of_end hend, hname]
    exact List.contains_iff_mem.2 he
  have hopen : s.isOpenNamed ElementName.boundsTable [tag.name] = true :=
    hs.isOpenNamed_head (by rw [hname]; simp) _
  -- A group of rows is itself where the elements are closed down to.
  obtain ⟨hmarker, hshaping, hform, hcontext⟩ := (by decide : ∀ n ∈ ["tbody", "tfoot", "thead"], n ∉ markerNames ∧
    n ∉ shapingNames ∧ n ≠ "form" ∧ ["html", "tbody", "template", "tfoot", "thead"].contains n) _ he
  rw [hs.mode, List.map_cons, modeIn_rows he, rulesOf, tableBodyRules]
  refine .bind (Build.run_get s) ?_
  simp only [tag.opens_of_end hend, hcloses, hopen, Bool.false_eq_true, if_false, if_true]
  refine .bind (hs.run_popUntilCurrent hcontext) (.bind (run_pop s) (.bind (run_setMode _ _) (.done ?_)))
  exact hs.closes_unmarked hmarker hshaping hform hmode

/-- The end tag of a row. -/
theorem At.yields_closeRow (hs : At isOldStyle (e :: c) s) (he : e.2 = "tr") (hend : tag.isEnd)
    (hname : tag.name = e.2) (hmode : Mode.inTableBody = modeIn (c.map Prod.snd)) :
    Yields (rulesOf s.mode (.tag tag)) s (Closes isOldStyle c s) := by
  have hopen : s.isOpenNamed ElementName.boundsTable ["tr"] = true := hs.isOpenNamed_head (by rw [he]; rfl) _
  rw [hs.mode, List.map_cons, he]
  show Yields (rowRules (.tag tag)) s _
  rw [rowRules]
  refine .bind (Build.run_get s) ?_
  simp only [tag.opens_of_end hend, tag.closes_of_end hend, hname, he, hopen, Bool.false_eq_true, if_false]
  refine .ite (fun _ => ?_) fun h => absurd rfl h
  refine .bind (hs.run_popUntilCurrent (by rw [he]; rfl)) (.bind (run_pop s) (.bind (run_setMode _ _) (.done ?_)))
  exact hs.closes_unmarked (by rw [he]; decide) (by rw [he]; decide) (by rw [he]; decide) hmode

/-- The end tag of a cell. -/
theorem At.yields_closeCell (hs : At isOldStyle (e :: f :: c) s) (he : e.2 ∈ ["td", "th"]) (hend : tag.isEnd)
    (hname : tag.name = e.2) (hmode : Mode.inRow = modeIn ((f :: c).map Prod.snd)) :
    Yields (rulesOf s.mode (.tag tag)) s (Closes isOldStyle (f :: c) s) := by
  have hcloses : tag.closes ["td", "th"] = true := by
    rw [tag.closes_of_end hend, hname]
    exact List.contains_iff_mem.2 he
  have hself : [tag.name].contains e.2 = true := by rw [hname]; simp
  have hopen := hs.isOpenNamed_head hself ElementName.boundsTable
  obtain ⟨hmarker, himplied⟩ := (by decide : ∀ n ∈ ["td", "th"], n ∈ markerNames ∧
    ElementName.impliedEndNames.contains n = false) _ he
  rw [hs.mode, List.map_cons, List.map_cons, modeIn_cell he, rulesOf, cellRules]
  refine .bind (Build.run_get s) ?_
  simp only [hcloses, hopen, if_true]
  refine .bind (hs.run_popImpliedOf (.inl himplied)) (.bind (hs.run_popUntilNamed hself) (.bind (run_clearToMarker _)
    (.bind (run_setMode _ _) (.done ?_))))
  exact hs.closes_marker hmarker hmode

/-- **End tags of regular markup**, in every place. -/
theorem At.yields_endTag (hs : At isOldStyle (e :: f :: c) s)
    (hadmits : admits isOldStyle ((f :: c).map Prod.snd) e.2) (hend : tag.isEnd) (hname : tag.name = e.2)
    (hvoid : e.2 ∉ voidElements) (htext : e.2 ∉ textNames) :
    Yields (rulesOf s.mode (.tag tag)) s (Closes isOldStyle (f :: c) s) := by
  obtain ⟨parent, name⟩ := f
  have hholder := holder name (c.map Prod.snd)
  generalize hplace : placeIn (name :: c.map Prod.snd) = place at hholder
  -- The element around the one that ends says what that can be.
  cases hholder with
  | flow hmode => exact hs.yields_flowEnd hplace hmode hadmits hend hname hvoid htext
  | other =>
    rw [admits, List.map_cons, hplace] at hadmits
    cases hadmits
  | head =>
    rw [admits, List.map_cons, hplace] at hadmits
    rcases (by decide : ∀ n ∈ homeNames, n ∈ voidElements ∨ n ∈ textNames) _ (List.contains_iff_mem.1 hadmits) with h | h
    · exact absurd h hvoid
    · exact absurd h htext
  | table =>
    rw [admits, List.map_cons, hplace] at hadmits
    rcases (by decide : ∀ n ∈ ["caption", "colgroup", "script", "style", "tbody", "tfoot", "thead"],
      n = "caption" ∨ n = "colgroup" ∨ n ∈ ["tbody", "tfoot", "thead"] ∨ n ∈ textNames) _
        (List.contains_iff_mem.1 hadmits) with he | he | he | he
    · exact hs.yields_closeCaption he hend hname rfl
    · exact hs.yields_closeColumns he hend hname rfl
    · exact hs.yields_closeRows he hend hname rfl
    · exact absurd he htext
  | rows hrows =>
    rw [admits, List.map_cons, hplace] at hadmits
    have hmem := (by decide : ∀ n ∈ ["script", "style", "tr"], n = "tr" ∨ n ∈ textNames) _
      (List.contains_iff_mem.1 hadmits)
    exact hs.yields_closeRow (hmem.resolve_right htext) hend hname (modeIn_rows hrows _).symm
  | row =>
    rw [admits, List.map_cons, hplace] at hadmits
    have hmem := (by decide : ∀ n ∈ ["script", "style", "td", "th"], n ∈ ["td", "th"] ∨ n ∈ textNames) _
      (List.contains_iff_mem.1 hadmits)
    exact hs.yields_closeCell (hmem.resolve_right htext) hend hname rfl
  | columns =>
    rw [admits, List.map_cons, hplace] at hadmits
    exact absurd (eq_of_beq hadmits ▸ by decide) hvoid

end HtmlMail.Html.Construction
