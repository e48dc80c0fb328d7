import HtmlMail.Proofs.Html.StartTags

/-!
# Start tags in every place

What can begin in a body, in a head and in the parts of a table, each by the rules that are in force there.

* `placeIn_cons` : what the innermost element is, by what can stand in it;
* `At.yields_startTag` : start tags of regular markup.
-/

namespace HtmlMail.Html.Construction

open Dom

variable {c : List (Nat × String)} {l : List FormattingEntry} {e : Nat × String} {node : Nat} {tag : Tag}
  {isOldStyle : Bool} {s s' : State} {name : String} {mode : TextMode} {Q : State → Prop}

/-- What the innermost element is, by what can stand in it. -/
inductive Holder (rest : List String) : String → Html.Place → Prop
  | flow {name : String} (hmode : modeIn (name :: rest) ∈ [Mode.inBody, .inCaption, .inCell]) : Holder rest name .flow
  | head (hmode : modeIn ("head" :: rest) = .inHead) : Holder rest "head" .head
  | table : Holder rest "table" .table
  | rows {name : String} (hname : name ∈ ["tbody", "tfoot", "thead"]) : Holder rest name .rows
  | row : Holder rest "tr" .row
  | columns : Holder rest "colgroup" .columns
  | other {name : String} : Holder rest name .other

theorem holder (name : String) (rest : List String) : Holder rest name (placeIn (name :: rest)) := by
  unfold placeIn
  dsimp only
  split
  · cases rest with
    | nil => exact .other
    | cons => exact .head rfl
  · exact .table
  · exact .rows (by decide)
  · exact .rows (by decide)
  · exact .rows (by decide)
  · exact .row
  · exact .columns
  · split_ifs with h
    · exact .flow (List.contains_iff_mem.1 h)
    · exact .other

theorem modeIn_rows (h : name ∈ ["tbody", "tfoot", "thead"]) (path : List String) :
    modeIn (name :: path) = .inTableBody := by
  simp only [List.mem_cons, List.not_mem_nil, or_false] at h
  rcases h with rfl | rfl | rfl <;> rfl

theorem modeIn_cell (h : name ∈ ["td", "th"]) (row : String) (path : List String) :
    modeIn (name :: row :: path) = .inCell := by
  rcases List.mem_pair.1 h with rfl | rfl <;> rfl

/-- Start tags in a cell or a caption that are none of parts of the table. -/
theorem At.yields_flow (hs : At isOldStyle (e :: c) s) (hplace : placeIn ((e :: c).map Prod.snd) = .flow)
    (hmode : modeIn ((e :: c).map Prod.snd) ∈ [Mode.inBody, .inCaption, .inCell]) (hstart : tag.isEnd = false)
    (hadmits : admits isOldStyle ((e :: c).map Prod.snd) tag.name) :
    Yields (rulesOf s.mode (.tag tag)) s (Opens isOldStyle e c tag s) := by
  have hparts : tag.opens ["caption", "col", "colgroup", "tbody", "td", "tfoot", "th", "thead", "tr"] = false := by
    rw [Tag.opens, Bool.and_eq_false_iff]
    refine .inr (Bool.eq_false_iff.2 fun h => not_mem_leftOutNames_of_admits hplace hadmits ?_)
    exact (by decide : ∀ n ∈ ["caption", "col", "colgroup", "tbody", "td", "tfoot", "th", "thead", "tr"],
      n ∈ leftOutNames) _ (List.contains_iff_mem.1 h)
  have hbody : Yields (bodyRules (.tag tag)) s (Opens isOldStyle e c tag s) := by
    rw [bodyRules, hstart, if_neg Bool.false_ne_true]
    exact hs.yields_bodyStart hplace hstart hadmits
  rw [hs.mode]
  simp only [List.mem_cons, List.not_mem_nil, or_false] at hmode
  -- In a caption and in a cell, the parts of a table are asked for first, and none is admitted here.
  rcases hmode with hmode | hmode | hmode <;> rw [hmode, rulesOf]
  · exact hbody
  · rw [captionRules]
    simp only [hparts, tag.closes_of_start hstart, Bool.or_self, Bool.false_eq_true, if_false]
    exact hbody
  · rw [cellRules]
    refine .bind (Build.run_get s) ?_
    simp only [hparts, tag.closes_of_start hstart, Bool.false_eq_true, if_false]
    exact hbody

/-- **A part of a table** is open, with the rules for what is in it in force. -/
theorem At.opens_part (hs : At isOldStyle (e :: c) s)
    (hname : tag.name ∈ ["caption", "colgroup", "tbody", "td", "tfoot", "th", "thead", "tr"])
    (hforest : s'.forest = s.forest.addNode e.1 (.element .html tag.name tag.attributes none))
    (hstack : s'.stack = s.forest.cells.size :: s.stack)
    (hformatting : s'.formatting = if tag.name ∈ markerNames then .marker :: s.formatting else s.formatting)
    (hmode : s'.mode = modeIn (tag.name :: (e :: c).map Prod.snd)) (hform : s'.form? = s.form?)
    (h : Untouched s s') (hskips : s'.skipsLineFeed = s.skipsLineFeed) : Opens isOldStyle e c tag s s' := by
  obtain ⟨htemplate, hnoform, hvoid, htexts⟩ := (by decide :
    ∀ n ∈ ["caption", "colgroup", "tbody", "td", "tfoot", "th", "thead", "tr"], n ≠ "template" ∧ n ≠ "form" ∧
      voidElements.contains n = false ∧ textNames.contains n = false) _ hname
  refine ⟨hforest, .element hvoid htexts (hs.opened htemplate hforest hstack ?_ hmode ?_ h) fun h => .inl (hskips ▸ h)⟩
  · rw [hformatting]
    split
    · next hmarker => exact .marker hmarker hs.formatting
    · next hmarker => exact .skip hmarker hs.formatting
  · rw [hform, if_neg hnoform]

/-- A part of a table in which formatting goes on, as the last steps. -/
theorem At.yields_part (hs : At isOldStyle (e :: c) s) {context : List String} (hcontext : context.contains e.2)
    (hname : tag.name ∈ ["colgroup", "tbody", "tfoot", "thead", "tr"]) {mode : Mode}
    (hmode : mode = modeIn (tag.name :: (e :: c).map Prod.snd)) :
    Yields (do
      popUntilCurrent context
      insertElement tag
      setMode mode
      return .done) s (Opens isOldStyle e c tag s) := by
  obtain ⟨hpart, hmarker, htemplate⟩ := (by decide : ∀ n ∈ ["colgroup", "tbody", "tfoot", "thead", "tr"],
    n ∈ ["caption", "colgroup", "tbody", "td", "tfoot", "th", "thead", "tr"] ∧ n ∉ markerNames ∧ n ≠ "template") _ hname
  refine .bind (hs.run_popUntilCurrent hcontext) (.bind (hs.hosts.run_insertElement htemplate) (.bind (run_setMode _ _)
    (.done ?_)))
  exact hs.opens_part hpart rfl rfl (if_neg hmarker).symm hmode rfl ⟨rfl, rfl, rfl, rfl, rfl, rfl⟩ rfl

/-- The caption of a table, in which formatting begins anew. -/
theorem At.yields_caption (hs : At isOldStyle (e :: c) s) {context : List String} (hcontext : context.contains e.2)
    (hname : tag.name = "caption") :
    Yields (do
      popUntilCurrent context
      insertMarker
      insertElement tag
      setMode .inCaption
      return .done) s (Opens isOldStyle e c tag s) := by
  have hosts : Hosts { s with formatting := .marker :: s.formatting } e.1 :=
    ⟨hs.hosts.stack, hs.hosts.fosters, hs.hosts.content⟩
  refine .bind (hs.run_popUntilCurrent hcontext) (.bind (run_insertMarker s) (.bind (hosts.run_insertElement ?_)
    (.bind (run_setMode _ _) (.done ?_))))
  · rw [hname]
    decide
  · refine hs.opens_part (by rw [hname]; decide) rfl rfl ?_ ?_ rfl ⟨rfl, rfl, rfl, rfl, rfl, rfl⟩ rfl
    · rw [hname]
      rfl
    · rw [hname]
      rfl

/-- A cell of a table, in which formatting begins anew. -/
theorem At.yields_cell (hs : At isOldStyle (e :: c) s) {context : List String} (hcontext : context.contains e.2)
    (hname : tag.name ∈ ["td", "th"]) :
    Yields (do
      popUntilCurrent context
      insertElement tag
      insertMarker
      setMode .inCell
      return .done) s (Opens isOldStyle e c tag s) := by
  obtain ⟨hpart, hmarker, htemplate⟩ := (by decide : ∀ n ∈ ["td", "th"],
    n ∈ ["caption", "colgroup", "tbody", "td", "tfoot", "th", "thead", "tr"] ∧ n ∈ markerNames ∧ n ≠ "template") _ hname
  refine .bind (hs.run_popUntilCurrent hcontext) (.bind (hs.hosts.run_insertElement htemplate)
    (.bind (run_insertMarker _) (.bind (run_setMode _ _) (.done ?_))))
  exact hs.opens_part hpart rfl rfl (if_pos hmarker).symm (modeIn_cell hname _ _).symm rfl
    ⟨rfl, rfl, rfl, rfl, rfl, rfl⟩ rfl

/-- No name is in two lists that have none in common. -/
theorem not_contains {names others : List String} (hno : ∀ n ∈ names, others.contains n = false) (hname : name ∈ names)
    (h : others.contains name) : False := by
  rw [hno name hname] at h
  cases h

/-- The start tags of regular markup between the parts of a table. -/
theorem At.yields_tableTag (hs : At isOldStyle ((node, "table") :: c) s) (hstart : tag.isEnd = false)
    (hname : tag.name ∈ ["caption", "colgroup", "script", "style", "tbody", "tfoot", "thead"]) :
    Yields (tableTagRules tag) s (Opens isOldStyle (node, "table") c tag s) := by
  have hcontext : ["html", "table", "template"].contains "table" = true := by decide
  rw [tableTagRules]
  refine .bind (Build.run_get s) ?_
  simp only [tag.opens_of_start hstart, tag.closes_of_start hstart, Bool.or_false, Bool.false_eq_true, if_false]
  refine .ite (fun h => hs.yields_caption hcontext (by simpa using h)) fun hcaption => ?_
  refine .ite (fun h => ?_) fun hcolumns => ?_
  · have he : tag.name = "colgroup" := by simpa using h
    exact hs.yields_part hcontext (by rw [he]; decide) (by rw [he]; rfl)
  refine .ite (fun h => (not_contains (by decide) hname h).elim) fun _ => ?_
  refine .ite (fun h => ?_) fun hrows => ?_
  · have hmem := List.contains_iff_mem.1 h
    exact hs.yields_part hcontext ((by decide : ∀ n ∈ ["tbody", "tfoot", "thead"],
      n ∈ ["colgroup", "tbody", "tfoot", "thead", "tr"]) _ hmem) (modeIn_rows hmem _).symm
  refine .ite (fun h => (not_contains (by decide) hname h).elim) fun _ => ?_
  refine .ite (fun h => (not_contains (by decide) hname h).elim) fun _ => ?_
  refine .ite (fun h => ?_) fun hmetadata => ?_
  · exact hs.yields_metadata hstart ((by decide :
      ∀ n ∈ ["caption", "colgroup", "script", "style", "tbody", "tfoot", "thead"],
        ["script", "style", "template"].contains n → n ∈ homeNames) _ hname h)
  · -- There are rules for each of the names.
    have hsome := (by decide : ∀ n ∈ ["caption", "colgroup", "script", "style", "tbody", "tfoot", "thead"],
      ["caption"].contains n ∨ ["colgroup"].contains n ∨ ["tbody", "tfoot", "thead"].contains n ∨
        ["script", "style", "template"].contains n) _ hname
    simp only [hcaption, hcolumns, hrows, hmetadata, Bool.false_eq_true, or_self] at hsome

/-- A style or a script between the parts of a table. -/
theorem At.yields_tableRules (hs : At isOldStyle (e :: c) s) (hstart : tag.isEnd = false)
    (hname : tag.name ∈ ["script", "style"]) : Yields (tableRules (.tag tag)) s (Opens isOldStyle e c tag s) := by
  rw [tableRules, tableTagRules]
  refine .bind (Build.run_get s) ?_
  simp only [tag.opens_of_start hstart, tag.closes_of_start hstart, Bool.or_false, Bool.false_eq_true, if_false]
  refine .ite (fun h => (not_contains (by decide) hname h).elim) fun _ => ?_
  refine .ite (fun h => (not_contains (by decide) hname h).elim) fun _ => ?_
  refine .ite (fun h => (not_contains (by decide) hname h).elim) fun _ => ?_
  refine .ite (fun h => (not_contains (by decide) hname h).elim) fun _ => ?_
  refine .ite (fun h => (not_contains (by decide) hname h).elim) fun _ => ?_
  refine .ite (fun h => (not_contains (by decide) hname h).elim) fun _ => ?_
  refine .ite (fun _ => ?_) fun h => ?_
  · exact hs.yields_metadata hstart ((by decide : ∀ n ∈ ["script", "style"], n ∈ homeNames) _ hname)
  · exact absurd ((by decide : ∀ n ∈ ["script", "style"], ["script", "style", "template"].contains n) _ hname) h

/-- Start tags in a head. -/
theorem At.yields_headStart (hs : At isOldStyle (e :: c) s) (hstart : tag.isEnd = false) (hname : tag.name ∈ homeNames) :
    Yields (inHeadRules (.tag tag)) s (Opens isOldStyle e c tag s) := by
  rw [inHeadRules]
  simp only [tag.opens_of_start hstart, tag.closes_of_start hstart, Bool.or_false]
  refine .ite (fun h => (not_contains (by decide) hname h).elim) fun _ => ?_
  refine .ite (fun h => hs.yields_metadata hstart hname) fun h => ?_
  exact absurd ((by decide : ∀ n ∈ homeNames, ("noscript" :: metadataNames).contains n) _ hname) h

/-- Start tags between the rows of a table. -/
theorem At.yields_rowsStart (hs : At isOldStyle (e :: c) s) (he : e.2 ∈ ["tbody", "tfoot", "thead"])
    (hstart : tag.isEnd = false) (hname : tag.name ∈ ["script", "style", "tr"]) :
    Yields (tableBodyRules (.tag tag)) s (Opens isOldStyle e c tag s) := by
  have hcontext := (by decide : ∀ n ∈ ["tbody", "tfoot", "thead"],
    ["html", "tbody", "template", "tfoot", "thead"].contains n) _ he
  rw [tableBodyRules]
  refine .bind (Build.run_get s) ?_
  simp only [tag.opens_of_start hstart, tag.closes_of_start hstart, Bool.or_false, Bool.false_eq_true, if_false]
  refine .ite (fun h => ?_) fun hrow => ?_
  · have hname : tag.name = "tr" := by simpa using h
    exact hs.yields_part hcontext (by rw [hname]; decide) (by rw [hname]; rfl)
  refine .ite (fun h => (not_contains (by decide) hname h).elim) fun _ => ?_
  refine .ite (fun h => (not_contains (by decide) hname h).elim) fun _ => ?_
  have hsome := (by decide : ∀ n ∈ ["script", "style", "tr"], ["tr"].contains n ∨ n ∈ ["script", "style"]) _ hname
  exact hs.yields_tableRules hstart (hsome.resolve_left hrow)

/-- Start tags between the cells of a row. -/
theorem At.yields_rowStart (hs : At isOldStyle (e :: c) s) (he : e.2 = "tr") (hstart : tag.isEnd = false)
    (hname : tag.name ∈ ["script", "style", "td", "th"]) :
    Yields (rowRules (.tag tag)) s (Opens isOldStyle e c tag s) := by
  have hcontext : ["html", "template", "tr"].contains e.2 = true := by rw [he]; decide
  rw [rowRules]
  refine .bind (Build.run_get s) ?_
  simp only [tag.opens_of_start hstart, tag.closes_of_start hstart, Bool.or_false, Bool.false_eq_true, if_false]
  refine .ite (fun h => hs.yields_cell hcontext (List.contains_iff_mem.1 h)) fun hcell => ?_
  refine .ite (fun h => (not_contains (by decide) hname h).elim) fun _ => ?_
  have hsome := (by decide : ∀ n ∈ ["script", "style", "td", "th"],
    ["td", "th"].contains n ∨ n ∈ ["script", "style"]) _ hname
  exact hs.yields_tableRules hstart (hsome.resolve_left hcell)

/-- A column in a group of columns. -/
theorem At.yields_column (hs : At isOldStyle (e :: c) s) (hstart : tag.isEnd = false) (hname : tag.name = "col") :
    Yields (columnGroupRules (.tag tag)) s (Opens isOldStyle e c tag s) := by
  have hvoid : tag.name ∈ voidElements := by rw [hname]; decide
  rw [columnGroupRules]
  simp only [tag.opens_of_start hstart, tag.closes_of_start hstart, hname, Bool.or_false, Bool.false_eq_true, if_false]
  refine .ite (fun h => absurd h (by decide)) fun _ => ?_
  refine .ite (fun _ => ?_) fun h => absurd rfl h
  refine .bind (hs.run_insertVoid hvoid) (.done ?_)
  exact hs.opens_void hvoid rfl ⟨rfl, rfl, rfl, rfl, rfl, rfl, rfl, rfl, rfl, rfl⟩ rfl

/-- **Start tags of regular markup**, in every place. -/
theorem At.yields_startTag (hs : At isOldStyle (e :: c) s) (hstart : tag.isEnd = false)
    (hadmits : admits isOldStyle ((e :: c).map Prod.snd) tag.name) :
    Yields (rulesOf s.mode (.tag tag)) s (Opens isOldStyle e c tag s) := by
  obtain ⟨node, name⟩ := e
  have hmode := hs.mode
  have hholder := holder name (c.map Prod.snd)
  generalize hplace : placeIn (name :: c.map Prod.snd) = place at hholder
  -- The innermost element says which rules are in force and which names may begin there.
  rw [List.map_cons] at hmode hadmits
  cases hholder with
  | other =>
    rw [admits, hplace] at hadmits
    cases hadmits
  | flow hflow => exact hs.yields_flow hplace hflow hstart hadmits
  | head hhead =>
    rw [admits, hplace] at hadmits
    rw [hmode, hhead]
    exact hs.yields_headStart hstart (List.contains_iff_mem.1 hadmits)
  | table =>
    rw [hmode]
    exact hs.yields_tableTag hstart (List.contains_iff_mem.1 hadmits)
  | rows hname =>
    rw [admits, hplace] at hadmits
    rw [hmode, modeIn_rows hname]
    exact hs.yields_rowsStart hname hstart (List.contains_iff_mem.1 hadmits)
  | row =>
    rw [admits, hplace] at hadmits
    rw [hmode]
    exact hs.yields_rowStart rfl hstart (List.contains_iff_mem.1 hadmits)
  | columns =>
    rw [admits, hplace] at hadmits
    rw [hmode]
    exact hs.yields_column hstart (eq_of_beq hadmits)

end HtmlMail.Html.Construction
