import HtmlMail.Proofs.Html.RegularMarkup

/-!
# Open elements

While regular markup is read, the open elements are those around the place that has been reached, and everything else in
the state of construction is determined by them.

* `Build.run_bind` and its like : how steps of construction are carried out;
* `Tidy` : a list of formatting elements that fits to the open elements;
* `At` : a state in which some elements are open;
* `At.isOpenNamed_eq`, `At.resetMode_eq` : the searches among open elements only see their names;
* `At.reconstruct`, `At.insertElementIn`, `At.insertText` : what steps do in such a state.
-/

namespace HtmlMail.Html.Construction

open Dom

/-! ### Carrying out steps -/

namespace Build

variable {α β : Type} {s : State}

theorem run_bind (x : Build α) (f : α → Build β) (s : State) :
    (x >>= f).run s = (f (x.run s).1).run (x.run s).2 := rfl

theorem run_pure (a : α) (s : State) : (pure a : Build α).run s = (a, s) := rfl

theorem run_get (s : State) : (get : Build State).run s = (s, s) := rfl

theorem run_set (s' s : State) : (set s' : Build PUnit).run s = ((), s') := rfl

theorem run_modify (f : State → State) (s : State) : (modify f : Build PUnit).run s = ((), f s) := rfl

end Build

/-! ### Formatting -/

/-- The elements that shape the text in them. -/
def shapingNames : List String := "a" :: "nobr" :: formattingNames

/-- A list of formatting elements that fits to open elements, both with the innermost first: there are markers for the
elements in which formatting begins anew, and elements that shape text may be known or forgotten. -/
inductive Tidy : List (Nat × String) → List FormattingEntry → Prop
  | nil : Tidy [] []
  | skip {e : Nat × String} {c : List (Nat × String)} {l : List FormattingEntry} :
    e.2 ∉ markerNames → Tidy c l → Tidy (e :: c) l
  | entry {node : Nat} {tag : Tag} {c : List (Nat × String)} {l : List FormattingEntry} :
    tag.name ∈ shapingNames → Tidy c l → Tidy ((node, tag.name) :: c) (.element node tag :: l)
  | marker {e : Nat × String} {c : List (Nat × String)} {l : List FormattingEntry} :
    e.2 ∈ markerNames → Tidy c l → Tidy (e :: c) (.marker :: l)

variable {c : List (Nat × String)} {l : List FormattingEntry} {e : Nat × String} {node : Nat} {tag : Tag}
  {isOldStyle : Bool} {s s' : State} {name : String}

theorem not_mem_markerNames_of_mem_shapingNames : ∀ name ∈ shapingNames, name ∉ markerNames := by decide

/-- Formatting elements are open. -/
theorem Tidy.mem (h : Tidy c l) (hl : .element node tag ∈ l) : (node, tag.name) ∈ c := by
  induction h with
  | nil => cases hl
  | skip _ _ ih => exact List.mem_cons_of_mem _ (ih hl)
  | marker _ _ ih =>
    rcases List.mem_cons.1 hl with he | hl
    · cases he
    · exact List.mem_cons_of_mem _ (ih hl)
  | entry _ _ ih =>
    rcases List.mem_cons.1 hl with he | hl
    · cases he
      exact List.mem_cons_self
    · exact List.mem_cons_of_mem _ (ih hl)

/-- A formatting element may be forgotten. -/
theorem Tidy.eraseIdx (h : Tidy c l) {i : Nat} (hi : l[i]? = some (.element node tag)) : Tidy c (l.eraseIdx i) := by
  induction h generalizing i with
  | nil => cases hi
  | skip hno _ ih => exact .skip hno (ih hi)
  | marker hmem _ ih =>
    cases i with
    | zero => cases hi
    | succ i => exact .marker hmem (ih hi)
  | entry hmem htidy ih =>
    cases i with
    -- An open element that formats need not be remembered.
    | zero => exact .skip (not_mem_markerNames_of_mem_shapingNames _ hmem) htidy
    | succ i => exact .entry hmem (ih hi)

/-- Behind an element that begins formatting anew there is a marker. -/
theorem Tidy.of_marker (h : Tidy (e :: c) l) (he : e.2 ∈ markerNames) : ∃ l', l = .marker :: l' ∧ Tidy c l' := by
  cases h with
  | skip hno _ => exact absurd he hno
  | entry hmem _ => exact absurd he (not_mem_markerNames_of_mem_shapingNames _ hmem)
  | marker _ h => exact ⟨_, rfl, h⟩

/-- Other elements leave no trace. -/
theorem Tidy.of_not_shaping (h : Tidy (e :: c) l) (hno : e.2 ∉ markerNames) (hshaping : e.2 ∉ shapingNames) :
    Tidy c l := by
  cases h with
  | skip _ h => exact h
  | entry hmem _ => exact absurd hmem hshaping
  | marker hmem _ => exact absurd hmem hno

/-! ### States in which elements are open -/

/-- A state in which elements are open, given by their numbers and names with the innermost first, and nothing else is
going on. -/
structure At (isOldStyle : Bool) (c : List (Nat × String)) (s : State) : Prop where
  stack : s.stack = c.map Prod.fst
  nodup : s.stack.Nodup
  content : ∀ e ∈ c, ∃ as, s.forest.content? e.1 = some (.element .html e.2 as none)
  no_template : ∀ e ∈ c, e.2 ≠ "template"
  formatting : Tidy c s.formatting
  mode : s.mode = modeIn (c.map Prod.snd)
  form : s.form? = (c.find? (·.2 == "form")).map Prod.fst
  head : s.head?.isSome
  templateModes : s.templateModes = []
  isOldStyle : s.isOldStyle = isOldStyle
  fosters : s.fosters = false
  pendingText : s.pendingText = []
  textMode : s.textMode? = none

/-- Whether the names of open elements are those that the nodes have. -/
def Named (s : State) (c : List (Nat × String)) : Prop := ∀ e ∈ c, s.nameOf e.1 = ⟨.html, e.2⟩

theorem At.named (hs : At isOldStyle c s) : Named s c := by
  intro e he
  obtain ⟨as, has⟩ := hs.content e he
  rw [State.nameOf, has]

theorem isHtml_html (name : String) (names : List String) :
    (⟨.html, name⟩ : ElementName).isHtml names = names.contains name := rfl

theorem Named.isHtml (hs : Named s c) (he : e ∈ c) (names : List String) : s.isHtml e.1 names = names.contains e.2 := by
  rw [State.isHtml, hs e he, isHtml_html]

theorem Named.tail (hs : Named s (e :: c)) : Named s c := fun f hf => hs f (List.mem_cons_of_mem _ hf)

theorem Named.isOpenWithin_go (hs : Named s c) (isBoundary : ElementName → Bool) (names : List String) :
    State.isOpenWithin.go s isBoundary (fun node => s.isHtml node names) (c.map Prod.fst) =
      isOpenIn isBoundary names (c.map Prod.snd) := by
  induction c with
  | nil => rfl
  | cons e c ih =>
    rw [List.map_cons, List.map_cons, State.isOpenWithin.go, isOpenIn, hs.isHtml List.mem_cons_self,
      hs e List.mem_cons_self, ih hs.tail]

/-- **Whether an element is open** can be told by the names. -/
theorem At.isOpenNamed_eq (hs : At isOldStyle c s) (isBoundary : ElementName → Bool) (names : List String) :
    s.isOpenNamed isBoundary names = isOpenIn isBoundary names (c.map Prod.snd) := by
  rw [State.isOpenNamed, State.isOpenWithin, hs.stack, hs.named.isOpenWithin_go]

theorem Named.isInTable_eq (hs : Named s c) :
    State.resetMode.isInTable s (c.map Prod.fst) = isTableOpen (c.map Prod.snd) := by
  induction c with
  | nil => rfl
  | cons e c ih =>
    rw [List.map_cons, List.map_cons, State.resetMode.isInTable, isTableOpen, hs.isHtml List.mem_cons_self,
      hs.isHtml List.mem_cons_self, ih hs.tail]
    rw [List.contains_cons, List.contains_cons, List.contains_nil, Bool.or_false, Bool.or_false]
    rfl

/-- **The rules by what is open** can be told by the names. -/
theorem Named.resetMode_go (hs : Named s c) (htemplates : s.templateModes = []) (hhead : s.head?.isSome) :
    State.resetMode.go s (c.map Prod.fst) = modeIn (c.map Prod.snd) := by
  induction c with
  | nil => rfl
  | cons e c ih =>
    have hrest := ih hs.tail
    have hempty : (c.map Prod.fst).isEmpty = (c.map Prod.snd).isEmpty := by simp
    rw [List.map_cons, List.map_cons]
    unfold State.resetMode.go modeIn
    rw [hs e List.mem_cons_self, hrest, hs.tail.isInTable_eq, htemplates, hhead, hempty]
    dsimp only
    rw [if_neg (by decide)]
    rfl

/-! ### Small steps -/

theorem run_pop (s : State) : pop.run s = ((), { s with stack := s.stack.tail }) := rfl

theorem run_setMode (mode : Mode) (s : State) : (setMode mode).run s = ((), { s with mode := mode }) := rfl

theorem run_resetMode (s : State) : resetMode.run s = ((), { s with mode := s.resetMode }) := rfl

theorem run_forbidFrameset (s : State) : forbidFrameset.run s = ((), { s with framesetOk := false }) := rfl

theorem run_interrupt (s : State) : interrupt.run s = ((), { s with interrupts := true }) := rfl

theorem run_insertMarker (s : State) : insertMarker.run s = ((), { s with formatting := .marker :: s.formatting }) := rfl

theorem run_clearToMarker (s : State) :
    clearToMarker.run s = ((), { s with formatting := (s.formatting.dropWhile (· != .marker)).tail }) := rfl

/-! ### New nodes -/

/-- A state in which new nodes become children of an element. -/
structure Hosts (s : State) (node : Nat) : Prop where
  stack : s.stack.head? = some node
  fosters : s.fosters = false
  content : ∃ name as, s.forest.content? node = some (.element .html name as none)

theorem At.hosts (hs : At isOldStyle (e :: c) s) : Hosts s e.1 where
  stack := by rw [hs.stack]; rfl
  fosters := hs.fosters
  content := by
    obtain ⟨as, has⟩ := hs.content e List.mem_cons_self
    exact ⟨e.2, as, has⟩

theorem Hosts.lt_size (hs : Hosts s node) : node < s.forest.cells.size := by
  obtain ⟨name, as, h⟩ := hs.content
  exact Forest.lt_size_of_content? h

theorem Hosts.of_keeps (hs : Hosts s node) {forest : Forest} (hkeeps : s.forest.Keeps forest) :
    Hosts { s with forest := forest } node where
  stack := hs.stack
  fosters := hs.fosters
  content := by
    obtain ⟨name, as, h⟩ := hs.content
    exact ⟨name, as, hkeeps _ _ _ _ _ h⟩

/-- **Where new nodes go.** -/
theorem Hosts.place_eq (hs : Hosts s node) : s.place = .lastChildOf node := by
  obtain ⟨name, as, hnode⟩ := hs.content
  rw [State.place, hs.stack, Option.getD_some, State.placeIn, hs.fosters, Bool.false_and, if_neg Bool.false_ne_true,
    State.childrenPlace, hnode]
  split
  · next he => cases he
  · rfl

theorem keeps_create (forest : Forest) (content : Content) : forest.Keeps (forest.create content).2 := by
  intro x ns name as content? hx
  have hlt := Forest.lt_size_of_content? hx
  rw [Forest.content?_eq] at hx ⊢
  rw [← hx, Forest.create, Array.getElem?_push, if_neg hlt.ne]

/-- **A new element** behind the last child of the innermost open one. -/
theorem Hosts.run_insertElementIn (hs : Hosts s node) (hname : tag.name ≠ "template") (stays : Bool) :
    (insertElementIn .html tag stays).run s = (s.forest.cells.size,
      { s with
        forest := s.forest.addNode node (.element .html tag.name tag.attributes none)
        stack := if stays then s.forest.cells.size :: s.stack else s.stack }) := by
  have hplace := (hs.of_keeps (keeps_create s.forest (.element .html tag.name tag.attributes none))).place_eq
  have hcreate : (createElement .html tag.name tag.attributes).run s = (s.forest.cells.size,
      { s with forest := (s.forest.create (.element .html tag.name tag.attributes none)).2 }) := by
    rw [createElement, if_neg fun h => hname h.2]
    rfl
  rw [insertElementIn, Build.run_bind, hcreate, Build.run_bind, Build.run_modify, hplace]
  cases stays <;> rfl

theorem Hosts.run_insertText (hs : Hosts s node) (t : String) :
    (insertText t).run s = ((), { s with forest := s.forest.appendText node t }) := by
  rw [insertText, Build.run_modify, State.withText, hs.place_eq]

theorem Hosts.run_insertComment (hs : Hosts s node) (t : String) :
    (insertComment t).run s = ((), { s with forest := s.forest.addNode node (.comment t) }) := by
  have hplace := (hs.of_keeps (keeps_create s.forest (.comment t))).place_eq
  have hcreate : (createNode (.comment t)).run s = (s.forest.cells.size,
      { s with forest := (s.forest.create (.comment t)).2 }) := rfl
  rw [insertComment, Build.run_bind, hcreate, Build.run_modify, hplace]
  rfl

/-! ### How elements come to be open -/

/-- Two states that agree in what is left alone when an element is opened or closed. -/
structure Untouched (s s' : State) : Prop where
  head : s'.head? = s.head?
  templateModes : s'.templateModes = s.templateModes
  isOldStyle : s'.isOldStyle = s.isOldStyle
  fosters : s'.fosters = s.fosters
  pendingText : s'.pendingText = s.pendingText
  textMode : s'.textMode? = s.textMode?

/-- **Other elements are open** in a state that is untouched otherwise. -/
theorem At.moved (hs : At isOldStyle c s) (h : Untouched s s') (hstack : s'.stack = c'.map Prod.fst)
    (hnodup : s'.stack.Nodup)
    (hcontent : ∀ e ∈ c', ∃ as, s'.forest.content? e.1 = some (.element .html e.2 as none))
    (htemplate : ∀ e ∈ c', e.2 ≠ "template") (hformatting : Tidy c' s'.formatting)
    (hmode : s'.mode = modeIn (c'.map Prod.snd)) (hform : s'.form? = (c'.find? (·.2 == "form")).map Prod.fst) :
    At isOldStyle c' s' where
  stack := hstack
  nodup := hnodup
  content := hcontent
  no_template := htemplate
  formatting := hformatting
  mode := hmode
  form := hform
  head := by rw [h.head]; exact hs.head
  templateModes := by rw [h.templateModes, hs.templateModes]
  isOldStyle := by rw [h.isOldStyle, hs.isOldStyle]
  fosters := by rw [h.fosters, hs.fosters]
  pendingText := by rw [h.pendingText, hs.pendingText]
  textMode := by rw [h.textMode, hs.textMode]

/-- Two states that differ in their nodes only, and in what does not matter where elements are open. -/
structure Alike (s s' : State) : Prop where
  stack : s'.stack = s.stack
  formatting : s'.formatting = s.formatting
  mode : s'.mode = s.mode
  form : s'.form? = s.form?
  head : s'.head? = s.head?
  templateModes : s'.templateModes = s.templateModes
  isOldStyle : s'.isOldStyle = s.isOldStyle
  fosters : s'.fosters = s.fosters
  pendingText : s'.pendingText = s.pendingText
  textMode : s'.textMode? = s.textMode?

theorem Alike.untouched (h : Alike s s') : Untouched s s' :=
  ⟨h.head, h.templateModes, h.isOldStyle, h.fosters, h.pendingText, h.textMode⟩

/-- Whatever is added, the same elements are open. -/
theorem At.congr (hs : At isOldStyle c s) (hkeeps : s.forest.Keeps s'.forest) (h : Alike s s') : At isOldStyle c s' := by
  refine hs.moved h.untouched (h.stack.trans hs.stack) ?_ (fun e he => ?_) hs.no_template ?_ (h.mode.trans hs.mode)
    (h.form.trans hs.form)
  · rw [h.stack]
    exact hs.nodup
  · obtain ⟨as, has⟩ := hs.content e he
    exact ⟨as, hkeeps _ _ _ _ _ has⟩
  · rw [h.formatting]
    exact hs.formatting

theorem At.lt_size (hs : At isOldStyle c s) : ∀ n ∈ s.stack, n < s.forest.cells.size := by
  intro n hn
  rw [hs.stack] at hn
  obtain ⟨e, he, rfl⟩ := List.mem_map.1 hn
  obtain ⟨as, has⟩ := hs.content e he
  exact Forest.lt_size_of_content? has

/-- **One more element is open**, which is the last child of the innermost one. -/
theorem At.opened (hs : At isOldStyle (e :: c) s) {as : List Attribute} (htemplate : name ≠ "template")
    (hforest : s'.forest = s.forest.addNode e.1 (.element .html name as none))
    (hstack : s'.stack = s.forest.cells.size :: s.stack)
    (hformatting : Tidy ((s.forest.cells.size, name) :: e :: c) s'.formatting)
    (hmode : s'.mode = modeIn (name :: (e :: c).map Prod.snd))
    (hform : s'.form? = if name = "form" then some s.forest.cells.size else s.form?) (h : Untouched s s') :
    At isOldStyle ((s.forest.cells.size, name) :: e :: c) s' := by
  refine hs.moved h ?_ ?_ (fun f hf => ?_) (List.forall_mem_cons.2 ⟨htemplate, hs.no_template⟩) hformatting hmode ?_
  · rw [hstack, hs.stack]
    rfl
  · rw [hstack, List.nodup_cons]
    -- The new element has the next number, which no open element has.
    exact ⟨fun hmem => absurd (hs.lt_size _ hmem) (Nat.lt_irrefl _), hs.nodup⟩
  · have hlt := hs.hosts.lt_size
    rw [hforest]
    rcases List.mem_cons.1 hf with rfl | hf
    · exact ⟨as, Forest.content?_addNode_self hlt⟩
    · obtain ⟨bs, hbs⟩ := hs.content f hf
      exact ⟨bs, Forest.keeps_addNode hlt _ _ _ _ _ _ hbs⟩
  · rw [hform, List.find?_cons]
    by_cases hname : name = "form"
    · rw [if_pos hname, hname]
      rfl
    · rw [if_neg hname, beq_eq_false_iff_ne.2 hname, hs.form]

/-- **The innermost element is closed.** -/
theorem At.closed (hs : At isOldStyle (e :: c) s) (hforest : s'.forest = s.forest) (hstack : s'.stack = s.stack.tail)
    (hformatting : Tidy c s'.formatting) (hmode : s'.mode = modeIn (c.map Prod.snd))
    (hform : s'.form? = (c.find? (·.2 == "form")).map Prod.fst) (h : Untouched s s') : At isOldStyle c s' := by
  refine hs.moved h ?_ ?_ (fun f hf => ?_) (List.forall_mem_cons.1 hs.no_template).2 hformatting hmode hform
  · rw [hstack, hs.stack]
    rfl
  · rw [hstack]
    exact hs.nodup.tail
  · rw [hforest]
    exact hs.content f (List.mem_cons_of_mem _ hf)

/-- No template is open. -/
theorem At.isInTemplate_eq (hs : At isOldStyle c s) : s.isInTemplate = false := by
  rw [State.isInTemplate, hs.stack, List.any_eq_false]
  intro n hn
  obtain ⟨e, he, rfl⟩ := List.mem_map.1 hn
  rw [hs.named.isHtml he]
  simpa using hs.no_template e he

theorem find?_form_of_isOpenIn (h : isOpenIn (fun _ => false) ["form"] (c.map Prod.snd) = false) :
    c.find? (·.2 == "form") = none := by
  induction c with
  | nil => rfl
  | cons e c ih =>
    rw [List.map_cons, isOpenIn, Bool.or_eq_false_iff] at h
    have hname : (e.2 == "form") = false := by simpa using h.1
    rw [List.find?_cons, hname]
    exact ih h.2

/-! ### Steps that do nothing -/

/-- **No formatting element is to be opened again.** -/
theorem At.run_reconstruct (hs : At isOldStyle c s) : reconstruct.run s = ((), s) := by
  have hsettled : s.formatting.takeWhile (!s.isSettled ·) = [] := by
    have htidy := hs.formatting
    cases hl : s.formatting with
    | nil => rfl
    | cons entry l =>
      -- The last entry is a marker or an open element, and either stops the search.
      have hentry : s.isSettled entry = true := by
        cases entry with
        | marker => rfl
        | element node tag =>
          rw [hl] at htidy
          rw [State.isSettled, hs.stack, List.contains_iff_mem]
          exact List.mem_map_of_mem (htidy.mem List.mem_cons_self)
      rw [List.takeWhile_cons, hentry]
      rfl
  rw [reconstruct, Build.run_bind, Build.run_get, hsettled]
  rfl

/-- **No paragraph is to be closed.** -/
theorem At.run_closeOpenParagraph (hs : At isOldStyle c s)
    (hclear : isOpenIn ElementName.boundsParagraph ["p"] (c.map Prod.snd) = false) :
    closeOpenParagraph.run s = ((), s) := by
  rw [closeOpenParagraph, Build.run_bind, Build.run_get, hs.isOpenNamed_eq, hclear]
  rfl

theorem Named.find?_item (hs : Named s c) {names : List String}
    (hclear : isOpenIn boundsItem names (c.map Prod.snd) = false) :
    ∀ n ∈ (c.map Prod.fst).find? fun node => s.isHtml node names ||
        ((s.nameOf node).isSpecial && !s.isHtml node ["address", "div", "p"]), s.isHtml n names = false := by
  induction c with
  | nil =>
    intro n hn
    cases hn
  | cons e c ih =>
    rw [List.map_cons, isOpenIn, Bool.or_eq_false_iff] at hclear
    have hno := hs.isHtml List.mem_cons_self names
    rw [hclear.1] at hno
    intro n hn
    rw [List.map_cons, List.find?_cons, hno, Bool.false_or] at hn
    split at hn
    · cases hn
      exact hno
    · next hother =>
      -- The search goes on past this element, so it does not bound an item.
      refine ih hs.tail ?_ n hn
      have hbounds : boundsItem ⟨.html, e.2⟩ = false := by
        rw [boundsItem, ← hs e List.mem_cons_self]
        exact hother
      rw [hbounds] at hclear
      exact hclear.2

/-- **No item is to be closed.** -/
theorem At.run_closeItem (hs : At isOldStyle c s) {names : List String}
    (hclear : isOpenIn boundsItem names (c.map Prod.snd) = false) : (closeItem names).run s = ((), s) := by
  have hitem := hs.named.find?_item hclear
  rw [← hs.stack] at hitem
  rw [closeItem, Build.run_bind, Build.run_get]
  dsimp only
  split
  · next n hn => rw [if_neg (by rw [hitem n hn]; exact Bool.false_ne_true), Build.run_pure]
  · rfl

/-! ### The innermost element -/

theorem At.stack_eq (hs : At isOldStyle (e :: c) s) : s.stack = e.1 :: c.map Prod.fst := by rw [hs.stack, List.map_cons]

theorem At.isHtml_head (hs : At isOldStyle (e :: c) s) (names : List String) :
    s.isHtml e.1 names = names.contains e.2 := hs.named.isHtml List.mem_cons_self names

theorem At.currentIs_eq (hs : At isOldStyle (e :: c) s) (names : List String) :
    s.currentIs names = names.contains e.2 := by
  rw [State.currentIs, State.currentName, hs.stack_eq]
  exact hs.isHtml_head names

/-- The innermost element is not closed if its end tag may not be missing. -/
theorem run_popImpliedOf_of_stack {rest : List Nat} (hstack : s.stack = node :: rest)
    (hname : s.nameOf node = ⟨.html, name⟩) {names : List String} {except : String}
    (hno : names.contains name = false ∨ name = except) :
    (popImpliedOf names except).run s = ((), s) := by
  have hstays : (s.isHtml node names && !s.isHtml node [except]) = false := by
    rw [State.isHtml, State.isHtml, hname, isHtml_html, isHtml_html]
    rcases hno with hno | rfl
    · rw [hno, Bool.false_and]
    · simp
  rw [popImpliedOf, Build.run_modify, hstack, List.dropWhile_cons, hstays, if_neg Bool.false_ne_true, ← hstack]

theorem At.run_popImpliedOf (hs : At isOldStyle (e :: c) s) {names : List String} {except : String}
    (hno : names.contains e.2 = false ∨ e.2 = except) : (popImpliedOf names except).run s = ((), s) :=
  run_popImpliedOf_of_stack hs.stack_eq (hs.named e List.mem_cons_self) hno

/-- The innermost element is closed. -/
theorem At.run_popUntilNamed (hs : At isOldStyle (e :: c) s) {names : List String} (hmem : names.contains e.2) :
    (popUntilNamed names).run s = ((), { s with stack := s.stack.tail }) := by
  have hwanted : (!(s.nameOf e.1).isHtml names) = false := by
    rw [show (s.nameOf e.1).isHtml names = _ from hs.isHtml_head names, hmem, Bool.not_true]
  rw [popUntilNamed, popUntil, Build.run_modify, hs.stack_eq, List.dropWhile_cons, hwanted, if_neg Bool.false_ne_true]

theorem At.run_popUntilCurrent (hs : At isOldStyle (e :: c) s) {names : List String} (hmem : names.contains e.2) :
    (popUntilCurrent names).run s = ((), s) := by
  have hwanted : (!s.isHtml e.1 names) = false := by rw [hs.isHtml_head, hmem, Bool.not_true]
  rw [popUntilCurrent, Build.run_modify, hs.stack_eq, List.dropWhile_cons, hwanted, if_neg Bool.false_ne_true,
    ← hs.stack_eq]

theorem At.run_closeGeneric (hs : At isOldStyle (e :: c) s) :
    (closeGeneric e.2).run s = ((), { s with stack := s.stack.tail }) := by
  have hwanted : s.isHtml e.1 [e.2] = true := by
    rw [hs.isHtml_head]
    simp
  rw [closeGeneric, Build.run_bind, Build.run_get, hs.stack_eq]
  dsimp only
  rw [List.takeWhile_cons, hwanted, Bool.not_true, Bool.false_and, if_neg Bool.false_ne_true, List.length_nil,
    List.drop_zero]
  dsimp only
  rw [hwanted, if_pos rfl]
  rfl

end HtmlMail.Html.Construction
