import HtmlMail.Proofs.Html.ShapedText

/-!
# Start tags of regular markup

Where nothing stands in the way, a start tag makes one element, which becomes the last child of the innermost open one.

* `Yields` : a step deals with its token, and a property holds behind it;
* `Opens` : what comes of a start tag, by the kind of its element;
* `At.yields_metadata` : the elements that are at home in a head;
* `IsClear` : that no element is open which the rules would have to close first;
* `At.yields_bodyStart` : start tags in a body, kind by kind.
-/

namespace HtmlMail.Html.Construction

open Dom

variable {c : List (Nat × String)} {l : List FormattingEntry} {e : Nat × String} {node : Nat} {tag : Tag}
  {isOldStyle : Bool} {s s' : State} {name : String} {mode : TextMode} {Q : State → Prop}

/-! ### Steps that deal with a token -/

/-- Whether a step deals with its token so that a property holds of the state behind it. -/
def Yields (x : Build Outcome) (s : State) (Q : State → Prop) : Prop := ∃ s', x.run s = (.done, s') ∧ Q s'

theorem Yields.done (h : Q s) : Yields (pure .done) s Q := ⟨s, rfl, h⟩

theorem Yields.bind {α : Type} {x : Build α} {f : α → Build Outcome} {a : α} (hx : x.run s = (a, s'))
    (hf : Yields (f a) s' Q) : Yields (x >>= f) s Q := by
  obtain ⟨s'', hrun, hQ⟩ := hf
  refine ⟨s'', ?_, hQ⟩
  rw [Build.run_bind, hx]
  exact hrun

theorem Yields.ite {p : Prop} [Decidable p] {x y : Build Outcome} (hx : p → Yields x s Q) (hy : ¬ p → Yields y s Q) :
    Yields (if p then x else y) s Q := by
  by_cases hp : p
  · rw [if_pos hp]
    exact hx hp
  · rw [if_neg hp]
    exact hy hp

theorem Yields.mono {Q' : State → Prop} {x : Build Outcome} (h : Yields x s Q) (hQ : ∀ s', Q s' → Q' s') :
    Yields x s Q' := by
  obtain ⟨s', hrun, hs'⟩ := h
  exact ⟨s', hrun, hQ s' hs'⟩

/-! ### What comes of a start tag -/

/-- How the content of an element is read that holds nothing but text. -/
def textModeOf (name : String) : TextMode :=
  if ["textarea", "title"].contains name then .references name else if name = "script" then .script else .raw name

/-- A state in which an element for text has just been opened. -/
structure OpensText (tag : Tag) (s s' : State) : Prop where
  stack : s'.stack = s.forest.cells.size :: s.stack
  mode : s'.mode = .text
  returnMode : s'.returnMode = s.mode
  textMode : s'.textMode? = some (textModeOf tag.name)
  formatting : s'.formatting = s.formatting
  form : s'.form? = s.form?
  head : s'.head? = s.head?
  templateModes : s'.templateModes = s.templateModes
  isOldStyle : s'.isOldStyle = s.isOldStyle
  fosters : s'.fosters = s.fosters
  pendingText : s'.pendingText = s.pendingText
  skips : s'.skipsLineFeed → s.skipsLineFeed ∨ tag.name = "textarea"

/-- What becomes of the open elements, by the kind of the new one: it holds nothing, or text, or it is open as well. -/
inductive OpensBy (isOldStyle : Bool) (c : List (Nat × String)) (tag : Tag) (s s' : State) : Prop
  | void (hvoid : voidElements.contains tag.name) (hat : At isOldStyle c s')
    (hskips : s'.skipsLineFeed = s.skipsLineFeed)
  | text (hvoid : voidElements.contains tag.name = false) (htext : textNames.contains tag.name)
    (hopens : OpensText tag s s')
  | element (hvoid : voidElements.contains tag.name = false) (htext : textNames.contains tag.name = false)
    (hat : At isOldStyle ((s.forest.cells.size, tag.name) :: c) s')
    (hskips : s'.skipsLineFeed → s.skipsLineFeed ∨ lineNames.contains tag.name)

/-- **What comes of a start tag.** -/
structure Opens (isOldStyle : Bool) (e : Nat × String) (c : List (Nat × String)) (tag : Tag) (s s' : State) : Prop where
  forest : s'.forest = s.forest.addNode e.1 (.element .html tag.name tag.attributes none)
  opens : OpensBy isOldStyle (e :: c) tag s s'

/-- An element that holds nothing. -/
theorem At.run_insertVoid (hs : At isOldStyle (e :: c) s) (hvoid : tag.name ∈ voidElements) :
    (insertVoid tag).run s =
      ((), { s with forest := s.forest.addNode e.1 (.element .html tag.name tag.attributes none) }) := by
  have htemplate : tag.name ≠ "template" := fun he => absurd (he ▸ hvoid) (by decide)
  rw [insertVoid, Build.run_bind, hs.hosts.run_insertElementIn htemplate]
  rfl

theorem Hosts.run_insertElement (hs : Hosts s node) (htemplate : tag.name ≠ "template") :
    (insertElement tag).run s = ((), { s with
      forest := s.forest.addNode node (.element .html tag.name tag.attributes none)
      stack := s.forest.cells.size :: s.stack }) := by
  rw [insertElement, Build.run_bind, hs.run_insertElementIn htemplate]
  rfl

/-- An element for text. -/
theorem Hosts.run_insertTextElement (hs : Hosts s node) (htemplate : tag.name ≠ "template") (mode : TextMode) :
    (insertTextElement tag mode).run s = ((), { s with
      forest := s.forest.addNode node (.element .html tag.name tag.attributes none)
      stack := s.forest.cells.size :: s.stack
      returnMode := s.mode
      mode := .text
      textMode? := some mode }) := by
  rw [insertTextElement, Build.run_bind, hs.run_insertElement htemplate]
  rfl

/-- The elements with rules of their own for formatting, for what is in them or for what follows them. -/
def ruledNames : List String := markerNames ++ (modeNames ++ ("form" :: (voidElements ++ textNames)))

/-- **An element without rules of its own** is open, and nothing else changes. -/
theorem At.opens_plain (hs : At isOldStyle (e :: c) s) (hplain : tag.name ∉ ruledNames)
    (hforest : s'.forest = s.forest.addNode e.1 (.element .html tag.name tag.attributes none))
    (hstack : s'.stack = s.forest.cells.size :: s.stack)
    (hformatting : s'.formatting = s.formatting) (hmode : s'.mode = s.mode) (hform : s'.form? = s.form?)
    (h : Untouched s s')
    (hskips : s'.skipsLineFeed → s.skipsLineFeed ∨ lineNames.contains tag.name) :
    Opens isOldStyle e c tag s s' := by
  simp only [ruledNames, List.mem_append, List.mem_cons, not_or] at hplain
  obtain ⟨hmarker, hmodes, hnoform, hnovoid, hnotext⟩ := hplain
  have hvoid : voidElements.contains tag.name = false := Bool.eq_false_iff.2 fun h => hnovoid (List.contains_iff_mem.1 h)
  have htexts : textNames.contains tag.name = false := Bool.eq_false_iff.2 fun h => hnotext (List.contains_iff_mem.1 h)
  have htemplate : tag.name ≠ "template" := fun he => hmodes (he ▸ by decide)
  refine ⟨hforest, .element hvoid htexts (hs.opened htemplate hforest hstack ?_ ?_ ?_ h) hskips⟩
  · rw [hformatting]
    exact .skip hmarker hs.formatting
  · rw [hmode, modeIn_cons hmodes, hs.mode]
  · rw [hform, if_neg hnoform]

/-- **An element that holds nothing** leaves the same elements open. -/
theorem At.opens_void (hs : At isOldStyle (e :: c) s) (hvoid : tag.name ∈ voidElements)
    (hforest : s'.forest = s.forest.addNode e.1 (.element .html tag.name tag.attributes none)) (halike : Alike s s')
    (hskips : s'.skipsLineFeed = s.skipsLineFeed) : Opens isOldStyle e c tag s s' := by
  have hkeeps : s.forest.Keeps s'.forest := by
    rw [hforest]
    exact Forest.keeps_addNode hs.hosts.lt_size _
  exact ⟨hforest, .void (List.contains_iff_mem.2 hvoid) (hs.congr hkeeps halike) hskips⟩

/-- A state that is like another one and has the same nodes. -/
structure Near (s s' : State) : Prop extends Alike s s' where
  forest : s'.forest = s.forest

theorem At.near (hs : At isOldStyle c s) (h : Near s s') : At isOldStyle c s' :=
  hs.congr (h.forest ▸ .refl _) h.toAlike

/-- **An element that holds text**, as the last step. -/
theorem At.yields_insertTextElement (hs : At isOldStyle (e :: c) s) {near : State} (hnear : Near s near)
    (htext : tag.name ∈ textNames) (hmode : textModeOf tag.name = mode)
    (hskips : near.skipsLineFeed → s.skipsLineFeed ∨ tag.name = "textarea") :
    Yields (do insertTextElement tag mode; return .done) near (Opens isOldStyle e c tag s) := by
  have htemplate : tag.name ≠ "template" := fun he => absurd (he ▸ htext) (by decide)
  have hvoid : voidElements.contains tag.name = false :=
    (by decide : ∀ n ∈ textNames, voidElements.contains n = false) _ htext
  refine .bind ((hs.near hnear).hosts.run_insertTextElement htemplate mode) (.done ⟨?_, .text hvoid ?_ ⟨?_, rfl, ?_, ?_,
    ?_, ?_, ?_, ?_, ?_, ?_, ?_, hskips⟩⟩)
  · rw [hnear.forest]
  · exact List.contains_iff_mem.2 htext
  · rw [hnear.forest, hnear.stack]
  · exact hnear.mode
  · rw [hmode]
  · exact hnear.formatting
  · exact hnear.form
  · exact hnear.head
  · exact hnear.templateModes
  · exact hnear.isOldStyle
  · exact hnear.fosters
  · exact hnear.pendingText

/-- **An element without rules of its own**, as the last step. -/
theorem At.yields_insert (hs : At isOldStyle (e :: c) s) {near : State} (hnear : Near s near)
    (hplain : tag.name ∉ ruledNames) (hskips : near.skipsLineFeed → s.skipsLineFeed ∨ lineNames.contains tag.name)
    {y : Build Outcome} :
    Yields (if true = true then do insertElement tag; return .done else y) near (Opens isOldStyle e c tag s) := by
  have htemplate : tag.name ≠ "template" := fun he => hplain (he ▸ by decide)
  rw [if_pos rfl]
  refine .bind ((hs.near hnear).hosts.run_insertElement htemplate) (.done ?_)
  refine hs.opens_plain hplain ?_ ?_ hnear.formatting hnear.mode hnear.form { hnear.toAlike.untouched with } hskips
  · rw [hnear.forest]
  · rw [hnear.forest, hnear.stack]

theorem Near.refl (s : State) : Near s s := ⟨⟨rfl, rfl, rfl, rfl, rfl, rfl, rfl, rfl, rfl, rfl⟩, rfl⟩

/-- Nothing that counts for regular markup depends on whether frames may follow. -/
theorem Near.forbidden (s : State) : Near s { s with framesetOk := false } :=
  ⟨⟨rfl, rfl, rfl, rfl, rfl, rfl, rfl, rfl, rfl, rfl⟩, rfl⟩

/-- The elements that are at home in a head and regular. -/
def homeNames : List String := ["base", "link", "meta", "noframes", "noscript", "script", "style", "title"]

/-- **The elements that are at home in a head.** -/
theorem At.yields_metadata (hs : At isOldStyle (e :: c) s) (hstart : tag.isEnd = false) (hname : tag.name ∈ homeNames) :
    Yields (metadataRules tag) s (Opens isOldStyle e c tag s) := by
  rw [metadataRules]
  simp only [tag.opens_of_start hstart]
  -- One of the rules has the name; they are asked in their order.
  refine .ite (fun h => ?_) fun h₁ => .ite (fun h => ?_) fun h₂ => .ite (fun h => ?_) fun h₃ => .ite (fun h => ?_)
    fun h₄ => ?_
  · have hvoid : tag.name ∈ voidElements := (by decide : ∀ n ∈ homeNames,
      ["base", "basefont", "bgsound", "link", "meta"].contains n → n ∈ voidElements) _ hname h
    refine .bind (hs.run_insertVoid hvoid) (.ite (fun _ => .bind (run_interrupt _) (.done ?_)) fun _ => .done ?_)
    · exact hs.opens_void hvoid rfl ⟨rfl, rfl, rfl, rfl, rfl, rfl, rfl, rfl, rfl, rfl⟩ rfl
    · exact hs.opens_void hvoid rfl ⟨rfl, rfl, rfl, rfl, rfl, rfl, rfl, rfl, rfl, rfl⟩ rfl
  · have hmem : tag.name = "title" := by simpa using h
    exact hs.yields_insertTextElement (.refl s) (hmem ▸ by decide) (by rw [hmem]; decide) .inl
  · obtain ⟨htext, hmode⟩ := (by decide : ∀ n ∈ ["noframes", "noscript", "style"],
      n ∈ textNames ∧ textModeOf n = .raw n) _ (List.contains_iff_mem.1 h)
    exact hs.yields_insertTextElement (.refl s) htext hmode .inl
  · have hmem : tag.name = "script" := by simpa using h
    exact hs.yields_insertTextElement (.refl s) (hmem ▸ by decide) (by rw [hmem]; decide) .inl
  · have hsome := (by decide : ∀ n ∈ homeNames, ["base", "basefont", "bgsound", "link", "meta"].contains n ∨
      ["title"].contains n ∨ ["noframes", "noscript", "style"].contains n ∨ ["script"].contains n) _ hname
    exact absurd hsome (by simp only [h₁, h₂, h₃, h₄]; decide)

/-! ### Start tags in a body -/

/-- Whether no element is open in front of which an element of this name would not go where its start tag stands. -/
def IsClear (isOldStyle : Bool) (path : List String) (name : String) : Prop :=
  ∀ o ∈ obstacles isOldStyle name, isOpenIn o.isBoundary o.names path = false

theorem isClear_of_admits {path : List String} (hplace : placeIn path = .flow) (hadmits : admits isOldStyle path name) :
    IsClear isOldStyle path name := by
  intro o ho
  rw [admits, hplace] at hadmits
  have hall := (Bool.and_eq_true _ _ ▸ hadmits).2
  have hmet := List.all_eq_true.1 hall o ho
  rwa [Bool.not_eq_true', Obstacle.isMet] at hmet

theorem not_mem_leftOutNames_of_admits {path : List String} (hplace : placeIn path = .flow)
    (hadmits : admits isOldStyle path name) : name ∉ leftOutNames := by
  rw [admits, hplace] at hadmits
  have hout := (Bool.and_eq_true _ _ ▸ hadmits).1
  rw [Bool.not_eq_true'] at hout
  intro hmem
  rw [List.contains_iff_mem.2 hmem] at hout
  cases hout

/-- The elements that do not begin in a paragraph. -/
theorem paragraph_mem_obstacles (h : name ∈ ["hr", "listing", "pre", "xmp"] ++ blockNames) :
    (⟨ElementName.boundsParagraph, ["p"]⟩ : Obstacle) ∈ obstacles isOldStyle name := by
  rw [obstacles, if_pos (List.contains_iff_mem.2 h)]
  exact List.mem_cons_self

theorem obstacles_heading (isOldStyle : Bool) : ∀ n ∈ headingNames, obstacles isOldStyle n =
    [⟨ElementName.boundsParagraph, ["p"]⟩, ⟨fun _ => true, headingNames⟩] := by
  intro n hn
  have hblock := (by decide : ∀ n ∈ headingNames, (["hr", "listing", "pre", "xmp"] ++ blockNames).contains n = false) n hn
  rw [obstacles, hblock, if_neg Bool.false_ne_true, if_pos (List.contains_iff_mem.2 hn)]

theorem obstacles_item (isOldStyle : Bool) : ∀ n ∈ ["li", "dd", "dt"], obstacles isOldStyle n =
    [⟨boundsItem, itemNames n⟩, ⟨ElementName.boundsParagraph, ["p"]⟩] := by
  intro n hn
  obtain ⟨hblock, hheading, hitem⟩ := (by decide : ∀ n ∈ ["li", "dd", "dt"],
    (["hr", "listing", "pre", "xmp"] ++ blockNames).contains n = false ∧ headingNames.contains n = false ∧
      ["dd", "dt", "li"].contains n) n hn
  rw [obstacles, hblock, hheading, hitem, if_neg Bool.false_ne_true, if_neg Bool.false_ne_true, if_pos rfl]

/-- What is looked for in the innermost element only. -/
theorem head_eq_false_of_isOpenIn {names : List String}
    (h : isOpenIn (fun _ => true) names ((e :: c).map Prod.snd) = false) : names.contains e.2 = false := by
  rw [List.map_cons, isOpenIn, Bool.or_eq_false_iff] at h
  exact h.1

/-- No paragraph is open where one would have to end. -/
theorem At.run_closeOpenParagraph_of_isClear (hs : At isOldStyle (e :: c) s)
    (hname : name ∈ ["hr", "listing", "pre", "xmp"] ++ blockNames)
    (hclear : IsClear isOldStyle ((e :: c).map Prod.snd) name) : closeOpenParagraph.run s = ((), s) :=
  hs.run_closeOpenParagraph (hclear _ (paragraph_mem_obstacles hname))

/-- A block of its own. -/
theorem At.yields_block (hs : At isOldStyle (e :: c) s) (hname : tag.name ∈ blockNames)
    (hclear : IsClear isOldStyle ((e :: c).map Prod.snd) tag.name) {y : Build Outcome} :
    Yields (do closeOpenParagraph; if true = true then do insertElement tag; return .done else y) s
      (Opens isOldStyle e c tag s) := by
  refine .bind (hs.run_closeOpenParagraph_of_isClear (List.mem_append_right _ hname) hclear) ?_
  exact hs.yields_insert (.refl s) ((by decide : ∀ n ∈ blockNames, n ∉ ruledNames) _ hname) .inl

/-- A heading, which does not stand in a heading. -/
theorem At.yields_heading (hs : At isOldStyle (e :: c) s) (hname : tag.name ∈ headingNames)
    (hclear : IsClear isOldStyle ((e :: c).map Prod.snd) tag.name) {y : Build Outcome} :
    Yields (do
      closeOpenParagraph
      if (← get).currentIs headingNames then pop
      if true = true then do insertElement tag; return .done else y) s (Opens isOldStyle e c tag s) := by
  rw [IsClear, obstacles_heading isOldStyle _ hname] at hclear
  have hhead := hclear _ (List.mem_cons_of_mem _ List.mem_cons_self)
  refine .bind (hs.run_closeOpenParagraph (hclear _ List.mem_cons_self)) (.bind (Build.run_get s) ?_)
  -- A heading in a heading would close it, which is an obstacle to regular markup.
  refine .ite (fun hcurrent => ?_) fun _ => ?_
  · rw [hs.currentIs_eq, head_eq_false_of_isOpenIn hhead] at hcurrent
    cases hcurrent
  · exact hs.yields_insert (.refl s) ((by decide : ∀ n ∈ headingNames, n ∉ ruledNames) _ hname) .inl

/-- Text with its lines as they are, in which a line feed at the start is skipped. -/
theorem At.yields_lines (hs : At isOldStyle (e :: c) s) (hname : tag.name ∈ ["pre", "listing"])
    (hclear : IsClear isOldStyle ((e :: c).map Prod.snd) tag.name) {y : Build Outcome} :
    Yields (do
      closeOpenParagraph
      modify fun s => { s with skipsLineFeed := true, framesetOk := false }
      if true = true then do insertElement tag; return .done else y) s (Opens isOldStyle e c tag s) := by
  obtain ⟨hblock, hplain, hline⟩ := (by decide : ∀ n ∈ ["pre", "listing"],
    n ∈ ["hr", "listing", "pre", "xmp"] ++ blockNames ∧ n ∉ ruledNames ∧ lineNames.contains n) _ hname
  refine .bind (hs.run_closeOpenParagraph_of_isClear hblock hclear) (.bind (Build.run_modify _ _) ?_)
  refine hs.yields_insert ?_ hplain fun _ => .inr hline
  exact ⟨⟨rfl, rfl, rfl, rfl, rfl, rfl, rfl, rfl, rfl, rfl⟩, rfl⟩

/-- A form, where none is open. -/
theorem At.yields_form (hs : At isOldStyle (e :: c) s) (hname : tag.name = "form")
    (hclear : IsClear isOldStyle ((e :: c).map Prod.snd) tag.name) :
    Yields (if s.form?.isSome && !s.isInTemplate then ignored
      else do
        closeOpenParagraph
        insertElement tag
        if !s.isInTemplate then modify fun s => { s with form? := s.stack.head? }
        return .done) s (Opens isOldStyle e c tag s) := by
  rw [hname] at hclear
  have hform := hclear _ List.mem_cons_self
  have hnone : s.form? = none := by rw [hs.form, find?_form_of_isOpenIn hform, Option.map_none]
  have htemplate : tag.name ≠ "template" := by rw [hname]; decide
  obtain ⟨hmarker, hmodes, hvoid, htext⟩ : tag.name ∉ markerNames ∧ tag.name ∉ modeNames ∧
      voidElements.contains tag.name = false ∧ textNames.contains tag.name = false := by rw [hname]; decide
  refine .ite (fun hopen => ?_) fun _ => ?_
  · rw [hnone] at hopen
    cases hopen
  refine .bind (hs.run_closeOpenParagraph (hclear _ (List.mem_cons_of_mem _ List.mem_cons_self)))
    (.bind (hs.hosts.run_insertElement htemplate) ?_)
  refine .ite (fun _ => .bind (Build.run_modify _ _) (.done ?_)) fun htemplates => ?_
  · -- The new element is the open form from here on.
    refine ⟨rfl, .element hvoid htext (hs.opened htemplate rfl rfl (.skip hmarker hs.formatting) ?_ ?_
      ⟨rfl, rfl, rfl, rfl, rfl, rfl⟩) .inl⟩
    · rw [modeIn_cons hmodes]
      exact hs.mode
    · rw [if_pos hname]
      rfl
  · rw [hs.isInTemplate_eq] at htemplates
    exact absurd rfl htemplates

/-- An item, where none is open in the same list. -/
theorem At.yields_item (hs : At isOldStyle (e :: c) s) (hname : tag.name ∈ ["li", "dd", "dt"])
    (hclear : IsClear isOldStyle ((e :: c).map Prod.snd) tag.name) {y : Build Outcome} :
    Yields (do
      forbidFrameset
      closeItem (itemNames tag.name)
      closeOpenParagraph
      if true = true then do insertElement tag; return .done else y) s (Opens isOldStyle e c tag s) := by
  rw [IsClear, obstacles_item isOldStyle _ hname] at hclear
  have hnear := Near.forbidden s
  have hs' := hs.near hnear
  refine .bind (run_forbidFrameset s) (.bind (hs'.run_closeItem (hclear _ List.mem_cons_self)) ?_)
  refine .bind (hs'.run_closeOpenParagraph (hclear _ (List.mem_cons_of_mem _ List.mem_cons_self))) ?_
  exact hs.yields_insert hnear ((by decide : ∀ n ∈ ["li", "dd", "dt"], n ∉ ruledNames) _ hname) .inl

/-- A button, where none is open. -/
theorem At.yields_button (hs : At isOldStyle (e :: c) s) (hname : tag.name = "button")
    (hclear : IsClear isOldStyle ((e :: c).map Prod.snd) tag.name) {y : Build Outcome} :
    Yields (do
      if s.isOpenNamed ElementName.bounds ["button"] then
        popImplied
        popUntilNamed ["button"]
      reconstruct
      forbidFrameset
      if true = true then do insertElement tag; return .done else y) s (Opens isOldStyle e c tag s) := by
  rw [hname] at hclear
  -- A button in a button would close it.
  refine .ite (fun hopen => ?_) fun _ => ?_
  · rw [hs.isOpenNamed_eq, hclear _ List.mem_cons_self] at hopen
    cases hopen
  · refine .bind hs.run_reconstruct (.bind (run_forbidFrameset s) ?_)
    exact hs.yields_insert (.forbidden s) (by rw [hname]; decide) .inl

theorem At.run_insertFormatting_opens (hs : At isOldStyle (e :: c) s) (hname : tag.name ∈ shapingNames) :
    ∃ s', (insertFormatting tag).run s = ((), s') ∧ Opens isOldStyle e c tag s s' := by
  obtain ⟨s', hrun, hat, hforest, hskips⟩ := hs.run_insertFormatting hname
  obtain ⟨hvoid, htext⟩ := (by decide : ∀ n ∈ shapingNames,
    voidElements.contains n = false ∧ textNames.contains n = false) _ hname
  exact ⟨s', hrun, hforest, .element hvoid htext hat fun h => .inl (hskips ▸ h)⟩

theorem At.yields_insertFormatting (hs : At isOldStyle (e :: c) s) (hname : tag.name ∈ shapingNames) :
    Yields (do insertFormatting tag; return .done) s (Opens isOldStyle e c tag s) := by
  obtain ⟨s', hrun, hopens⟩ := hs.run_insertFormatting_opens hname
  exact .bind hrun (.done hopens)

/-- A link, where none is open. -/
theorem At.yields_link (hs : At isOldStyle (e :: c) s) (hname : tag.name = "a")
    (hclear : IsClear isOldStyle ((e :: c).map Prod.snd) tag.name) :
    Yields (insertLink tag) s (Opens isOldStyle e c tag s) := by
  obtain ⟨s', hrun, hopens⟩ := hs.run_insertFormatting_opens (by rw [hname]; decide)
  rw [hname] at hclear
  refine ⟨s', ?_, hopens⟩
  rw [hs.run_insertLink (hclear _ List.mem_cons_self), hrun]

/-- Text that is not broken, which does not stand in such text. -/
theorem At.yields_unbroken (hs : At isOldStyle (e :: c) s) (hname : tag.name = "nobr")
    (hclear : IsClear isOldStyle ((e :: c).map Prod.snd) tag.name) :
    Yields (do
      reconstruct
      if (← get).isOpenNamed ElementName.bounds ["nobr"] then
        adopt "nobr"
        reconstruct
      insertFormatting tag
      return .done) s (Opens isOldStyle e c tag s) := by
  rw [hname] at hclear
  -- An element of the kind in another one would close it.
  refine .bind hs.run_reconstruct (.bind (Build.run_get s) (.ite (fun hopen => ?_) fun _ => ?_))
  · rw [hs.isOpenNamed_eq, hclear _ List.mem_cons_self] at hopen
    cases hopen
  · exact hs.yields_insertFormatting (by rw [hname]; decide)

/-- An element around content of its own kind, in which formatting begins anew. -/
theorem At.yields_object (hs : At isOldStyle (e :: c) s) (hname : tag.name ∈ objectNames) :
    Yields (do insertElement tag; insertMarker; forbidFrameset; return .done) s (Opens isOldStyle e c tag s) := by
  obtain ⟨hmarker, hmodes, hform, hvoid, htext⟩ := (by decide : ∀ n ∈ objectNames, n ∈ markerNames ∧ n ∉ modeNames ∧
    n ≠ "form" ∧ voidElements.contains n = false ∧ textNames.contains n = false) _ hname
  have htemplate : tag.name ≠ "template" := fun he => hmodes (he ▸ by decide)
  refine .bind (hs.hosts.run_insertElement htemplate) (.bind (run_insertMarker _) (.bind (run_forbidFrameset _)
    (.done ?_)))
  refine ⟨rfl, .element hvoid htext (hs.opened htemplate rfl rfl (.marker hmarker hs.formatting) ?_ ?_
    ⟨rfl, rfl, rfl, rfl, rfl, rfl⟩) .inl⟩
  · rw [modeIn_cons hmodes]
    exact hs.mode
  · rw [if_neg hform]

/-- A table. In a document of an old style it may stand in a paragraph. -/
theorem At.yields_table (hs : At isOldStyle (e :: c) s) (hname : tag.name = "table")
    (hclear : IsClear isOldStyle ((e :: c).map Prod.snd) tag.name) {y : Build Outcome} :
    Yields (do
      if !s.isOldStyle then closeOpenParagraph
      forbidFrameset
      setMode .inTable
      if true = true then do insertElement tag; return .done else y) s (Opens isOldStyle e c tag s) := by
  have htemplate : tag.name ≠ "template" := by rw [hname]; decide
  obtain ⟨hmarker, hform, hvoid, htext⟩ : tag.name ∉ markerNames ∧ tag.name ≠ "form" ∧
      voidElements.contains tag.name = false ∧ textNames.contains tag.name = false := by rw [hname]; decide
  have hosts : Hosts { s with framesetOk := false, mode := .inTable } e.1 :=
    ⟨hs.hosts.stack, hs.hosts.fosters, hs.hosts.content⟩
  -- Old style or not, the table is opened in the same way.
  have hopened : Yields (do
      forbidFrameset
      setMode .inTable
      if true = true then do insertElement tag; return .done else y) s (Opens isOldStyle e c tag s) := by
    rw [if_pos rfl]
    refine .bind (run_forbidFrameset s) (.bind (run_setMode _ _) (.bind (hosts.run_insertElement htemplate) (.done ?_)))
    refine ⟨rfl, .element hvoid htext (hs.opened htemplate rfl rfl (.skip hmarker hs.formatting) ?_ ?_
      ⟨rfl, rfl, rfl, rfl, rfl, rfl⟩) .inl⟩
    · rw [hname]
      rfl
    · rw [if_neg hform]
  refine .ite (fun hnew => ?_) fun _ => hopened
  have hold : isOldStyle = false := by rwa [hs.isOldStyle, Bool.not_eq_true'] at hnew
  rw [hname, hold] at hclear
  exact .bind (hs.run_closeOpenParagraph (hclear _ List.mem_cons_self)) hopened

/-- An element that holds nothing, as the last step. -/
theorem At.yields_insertVoid (hs : At isOldStyle (e :: c) s) {near : State} (hnear : Near s near)
    (hvoid : tag.name ∈ voidElements) (hskips : near.skipsLineFeed = s.skipsLineFeed) {x : Build Outcome} :
    Yields (if false = true then x else do insertVoid tag; return .done) near (Opens isOldStyle e c tag s) := by
  rw [if_neg Bool.false_ne_true]
  refine .bind ((hs.near hnear).run_insertVoid hvoid) (.done (hs.opens_void hvoid ?_ ?_ hskips))
  · rw [hnear.forest]
  · exact { hnear.toAlike with }

/-- An element in text that holds nothing. -/
theorem At.yields_voidText (hs : At isOldStyle (e :: c) s) (hvoid : tag.name ∈ voidElements) :
    Yields (insertVoidText tag) s (Opens isOldStyle e c tag s) := by
  refine .bind hs.run_reconstruct (.bind (hs.run_insertVoid hvoid) ?_)
  -- Whether the element is one that is shown makes a difference for frames only.
  refine .ite (fun _ => .bind (run_forbidFrameset _) (.done ?_)) fun _ => .done ?_
  · exact hs.opens_void hvoid rfl ⟨rfl, rfl, rfl, rfl, rfl, rfl, rfl, rfl, rfl, rfl⟩ rfl
  · exact hs.opens_void hvoid rfl ⟨rfl, rfl, rfl, rfl, rfl, rfl, rfl, rfl, rfl, rfl⟩ rfl

/-- A line between blocks. -/
theorem At.yields_line (hs : At isOldStyle (e :: c) s) (hname : tag.name = "hr")
    (hclear : IsClear isOldStyle ((e :: c).map Prod.snd) tag.name) {x : Build Outcome} :
    Yields (do
      closeOpenParagraph
      forbidFrameset
      if false = true then x else do insertVoid tag; return .done) s (Opens isOldStyle e c tag s) := by
  refine .bind (hs.run_closeOpenParagraph_of_isClear (by rw [hname]; decide) hclear) (.bind (run_forbidFrameset s) ?_)
  exact hs.yields_insertVoid (.forbidden s) (by rw [hname]; decide) rfl

theorem At.yields_textarea (hs : At isOldStyle (e :: c) s) (hname : tag.name = "textarea") :
    Yields (do
      insertTextElement tag (.references tag.name)
      modify fun s => { s with skipsLineFeed := true, framesetOk := false }
      return .done) s (Opens isOldStyle e c tag s) := by
  have htemplate : tag.name ≠ "template" := by rw [hname]; decide
  obtain ⟨hvoid, htext, hmode⟩ : voidElements.contains tag.name = false ∧ textNames.contains tag.name = true ∧
      textModeOf tag.name = .references tag.name := by rw [hname]; decide
  refine .bind (hs.hosts.run_insertTextElement htemplate _) (.bind (Build.run_modify _ _) (.done ⟨rfl, ?_⟩))
  refine .text hvoid htext ?_
  exact ⟨rfl, rfl, rfl, hmode ▸ rfl, rfl, rfl, rfl, rfl, rfl, rfl, rfl, fun _ => .inr hname⟩

/-- Text that is shown as it is written. -/
theorem At.yields_sample (hs : At isOldStyle (e :: c) s) (hname : tag.name = "xmp")
    (hclear : IsClear isOldStyle ((e :: c).map Prod.snd) tag.name) :
    Yields (do
      closeOpenParagraph
      reconstruct
      forbidFrameset
      insertTextElement tag (.raw tag.name)
      return .done) s (Opens isOldStyle e c tag s) := by
  refine .bind (hs.run_closeOpenParagraph_of_isClear (by rw [hname]; decide) hclear) (.bind hs.run_reconstruct ?_)
  refine .bind (run_forbidFrameset s) ?_
  exact hs.yields_insertTextElement (.forbidden s) (by rw [hname]; decide) (by rw [hname]; decide) .inl

/-- Options, which do not stand in an option. -/
theorem At.yields_option (hs : At isOldStyle (e :: c) s) (hname : tag.name ∈ ["optgroup", "option"])
    (hclear : IsClear isOldStyle ((e :: c).map Prod.snd) tag.name) {y : Build Outcome} :
    Yields (do
      if s.currentIs ["option"] then pop
      reconstruct
      if true = true then do insertElement tag; return .done else y) s (Opens isOldStyle e c tag s) := by
  obtain ⟨hplain, ho⟩ : tag.name ∉ ruledNames ∧ obstacles isOldStyle tag.name = [⟨fun _ => true, ["option"]⟩] := by
    rcases List.mem_pair.1 hname with hname | hname <;> rw [hname] <;> exact ⟨by decide, rfl⟩
  rw [IsClear, ho] at hclear
  refine .ite (fun hcurrent => ?_) fun _ => ?_
  · rw [hs.currentIs_eq, head_eq_false_of_isOpenIn (hclear _ List.mem_cons_self)] at hcurrent
    cases hcurrent
  · exact .bind hs.run_reconstruct (hs.yields_insert (.refl s) hplain .inl)

/-- What is annotated, where no element with an implied end is the innermost one. -/
theorem At.yields_annotated (hs : At isOldStyle (e :: c) s) (hname : tag.name ∈ ["rb", "rtc"])
    (hclear : IsClear isOldStyle ((e :: c).map Prod.snd) tag.name) {y : Build Outcome} :
    Yields (do
      if s.isOpenNamed ElementName.bounds ["ruby"] then popImplied
      if true = true then do insertElement tag; return .done else y) s (Opens isOldStyle e c tag s) := by
  obtain ⟨hplain, ho⟩ : tag.name ∉ ruledNames ∧
      obstacles isOldStyle tag.name = [⟨fun _ => true, ElementName.impliedEndNames⟩] := by
    rcases List.mem_pair.1 hname with hname | hname <;> rw [hname] <;> exact ⟨by decide, rfl⟩
  rw [IsClear, ho] at hclear
  have hhead := head_eq_false_of_isOpenIn (hclear _ List.mem_cons_self)
  -- The innermost element is none whose end tag may be missing, so nothing is closed.
  refine .ite (fun _ => .bind (hs.run_popImpliedOf (.inl hhead)) ?_) fun _ => ?_
  · exact hs.yields_insert (.refl s) hplain .inl
  · exact hs.yields_insert (.refl s) hplain .inl

/-- An annotation, which may stand in a group of annotations. -/
theorem At.yields_annotation (hs : At isOldStyle (e :: c) s) (hname : tag.name ∈ ["rp", "rt"])
    (hclear : IsClear isOldStyle ((e :: c).map Prod.snd) tag.name) {y : Build Outcome} :
    Yields (do
      if s.isOpenNamed ElementName.bounds ["ruby"] then popImpliedOf ElementName.impliedEndNames "rtc"
      if true = true then do insertElement tag; return .done else y) s (Opens isOldStyle e c tag s) := by
  obtain ⟨hplain, ho⟩ : tag.name ∉ ruledNames ∧
      obstacles isOldStyle tag.name = [⟨fun _ => true, ElementName.impliedEndNames.filter (· != "rtc")⟩] := by
    rcases List.mem_pair.1 hname with hname | hname <;> rw [hname] <;> exact ⟨by decide, rfl⟩
  rw [IsClear, ho] at hclear
  have hhead := head_eq_false_of_isOpenIn (hclear _ List.mem_cons_self)
  -- What would be closed is an obstacle, unless the rules spare it.
  have hstays : ElementName.impliedEndNames.contains e.2 = false ∨ e.2 = "rtc" := by
    by_contra hno
    rw [not_or, Bool.not_eq_false] at hno
    have hmem : e.2 ∈ ElementName.impliedEndNames.filter (· != "rtc") :=
      List.mem_filter.2 ⟨List.contains_iff_mem.1 hno.1, by simpa using hno.2⟩
    rw [List.contains_iff_mem.2 hmem] at hhead
    cases hhead
  refine .ite (fun _ => .bind (hs.run_popImpliedOf hstays) ?_) fun _ => ?_
  · exact hs.yields_insert (.refl s) hplain .inl
  · exact hs.yields_insert (.refl s) hplain .inl

/-- **Start tags in a body.** -/
theorem At.yields_bodyStart (hs : At isOldStyle (e :: c) s) (hplace : placeIn ((e :: c).map Prod.snd) = .flow)
    (hstart : tag.isEnd = false) (hadmits : admits isOldStyle ((e :: c).map Prod.snd) tag.name) :
    Yields (bodyStartRules tag) s (Opens isOldStyle e c tag s) := by
  have hclear := isClear_of_admits hplace hadmits
  have hin := not_mem_leftOutNames_of_admits hplace hadmits
  have hout {names : List String} (hsub : ∀ n ∈ names, n ∈ leftOutNames) (h : names.contains tag.name) : False :=
    hin (hsub _ (List.contains_iff_mem.1 h))
  have hkept {names kept : List String} (hsub : ∀ n ∈ names, n ∈ leftOutNames ∨ n ∈ kept)
      (h : names.contains tag.name) : tag.name ∈ kept :=
    (hsub _ (List.contains_iff_mem.1 h)).resolve_left hin
  have hone {n : String} (h : [n].contains tag.name) : tag.name = n := by simpa using h
  rw [bodyStartRules]
  refine .bind (Build.run_get s) ?_
  dsimp only
  -- The rules are asked in their order; what comes before the last one has to be known there.
  refine .ite (fun h => (hout (by decide) h).elim) fun _ => ?_
  refine .ite (fun h => hs.yields_metadata hstart (hkept (by decide) h)) fun hmetadata => ?_
  refine .ite (fun h => hs.yields_block (List.contains_iff_mem.1 h) hclear) fun _ => ?_
  refine .ite (fun h => hs.yields_heading (List.contains_iff_mem.1 h) hclear) fun _ => ?_
  refine .ite (fun h => hs.yields_lines (List.contains_iff_mem.1 h) hclear) fun _ => ?_
  refine .ite (fun h => hs.yields_form (hone h) hclear) fun hform => ?_
  refine .ite (fun h => hs.yields_item (List.contains_iff_mem.1 h) hclear) fun _ => ?_
  refine .ite (fun h => (hout (by decide) h).elim) fun _ => ?_
  refine .ite (fun h => hs.yields_button (hone h) hclear) fun _ => ?_
  refine .ite (fun h => hs.yields_link (hone h) hclear) fun _ => ?_
  refine .ite (fun h => ?_) fun _ => ?_
  · exact .bind hs.run_reconstruct (hs.yields_insertFormatting (hkept (by decide) h))
  refine .ite (fun h => hs.yields_unbroken (hone h) hclear) fun _ => ?_
  refine .ite (fun h => .bind hs.run_reconstruct (hs.yields_object (List.contains_iff_mem.1 h))) fun hobject => ?_
  refine .ite (fun h => hs.yields_table (hone h) hclear) fun htable => ?_
  refine .ite (fun h => hs.yields_voidText (hkept (by decide) h)) fun hvoidText => ?_
  refine .ite (fun h => hs.yields_insertVoid (.refl s) (hkept (by decide) h) rfl) fun hpart => ?_
  refine .ite (fun h => hs.yields_line (hone h) hclear) fun hline => ?_
  refine .ite (fun h => (hout (by decide) h).elim) fun _ => ?_
  refine .ite (fun h => hs.yields_textarea (hone h)) fun htextarea => ?_
  refine .ite (fun h => hs.yields_sample (hone h) hclear) fun hsample => ?_
  refine .ite (fun h => ?_) fun hframe => ?_
  · refine .bind (run_forbidFrameset s) (hs.yields_insertTextElement (.forbidden s) ?_ ?_ .inl)
    · exact hone h ▸ by decide
    · rw [hone h]
      decide
  refine .ite (fun h => ?_) fun hraw => ?_
  · obtain ⟨htext, hmode⟩ := (by decide : ∀ n ∈ ["noembed", "noscript"],
      n ∈ textNames ∧ textModeOf n = .raw n) _ (List.contains_iff_mem.1 h)
    exact hs.yields_insertTextElement (.refl s) htext hmode .inl
  refine .ite (fun h => (hout (by decide) h).elim) fun _ => ?_
  refine .ite (fun h => hs.yields_option (List.contains_iff_mem.1 h) hclear) fun _ => ?_
  refine .ite (fun h => hs.yields_annotated (List.contains_iff_mem.1 h) hclear) fun _ => ?_
  refine .ite (fun h => hs.yields_annotation (List.contains_iff_mem.1 h) hclear) fun _ => ?_
  refine .ite (fun h => (hout (by decide) h).elim) fun _ => ?_
  refine .ite (fun h => (hout (by decide) h).elim) fun _ => ?_
  refine .ite (fun h => (hout (by decide) h).elim) fun _ => ?_
  refine .bind hs.run_reconstruct (hs.yields_insert (.refl s) (fun hruled => ?_) .inl)
  -- The elements with rules of their own have been dealt with.
  have hdealt := (by decide : ∀ n ∈ ruledNames, n ∈ leftOutNames ∨ metadataNames.contains n ∨ ["form"].contains n ∨
    objectNames.contains n ∨ ["table"].contains n ∨ voidTextNames.contains n ∨ ["param", "source", "track"].contains n ∨
    ["hr"].contains n ∨ ["textarea"].contains n ∨ ["xmp"].contains n ∨ ["iframe"].contains n ∨
    ["noembed", "noscript"].contains n) _ hruled
  simp only [hin, hmetadata, hform, hobject, htable, hvoidText, hpart, hline, htextarea, hsample, hframe, hraw,
    Bool.false_eq_true, or_self] at hdealt

end HtmlMail.Html.Construction
