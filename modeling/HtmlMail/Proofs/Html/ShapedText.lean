import HtmlMail.Proofs.Html.OpenElements

/-!
# Elements that shape text

In regular markup an element that shapes text is closed by its own end tag while it is the innermost one, so that no
element is taken apart or opened again.

* `At.run_insertFormatting`, `At.run_insertLink`, `At.run_insertNobr` : the start tags;
* `At.run_adopt` : the end tags.
-/

namespace HtmlMail.Html.Construction

open Dom

variable {c : List (Nat × String)} {l : List FormattingEntry} {e : Nat × String} {node : Nat} {tag : Tag}
  {isOldStyle : Bool} {s s' : State} {name : String}

/-! ### The rules in force -/

/-- The names of elements that decide about the rules in force. -/
def modeNames : List String :=
  ["body", "caption", "colgroup", "frameset", "head", "html", "select", "table", "tbody", "td", "template", "tfoot", "th",
    "thead", "tr"]

/-- Other elements leave the rules in force as they are. -/
theorem modeIn_cons (h : name ∉ modeNames) (path : List String) : modeIn (name :: path) = modeIn path := by
  rw [modeIn]
  all_goals
    rintro rfl
    exact h (by decide)

/-! ### The list of formatting elements -/

theorem formattingIndex?_eq_some {i : Nat} (h : s.formattingIndex? node = some i) :
    ∃ tag, s.formatting[i]? = some (.element node tag) := by
  rw [State.formattingIndex?, List.findIdx?_eq_some_iff_getElem] at h
  obtain ⟨hlt, hentry, -⟩ := h
  rw [List.getElem?_eq_getElem hlt]
  cases hi : s.formatting[i] with
  | marker =>
    rw [hi] at hentry
    cases hentry
  | element n tag =>
    rw [hi] at hentry
    exact ⟨tag, by rw [eq_of_beq hentry]⟩

theorem withoutFormatting_eq (s : State) (node : Nat) :
    ∃ l, s.withoutFormatting node = { s with formatting := l } ∧ ∀ c, Tidy c s.formatting → Tidy c l := by
  rw [State.withoutFormatting]
  split
  · next i hi =>
    obtain ⟨tag, htag⟩ := formattingIndex?_eq_some hi
    exact ⟨_, rfl, fun c h => h.eraseIdx htag⟩
  · exact ⟨s.formatting, rfl, fun c h => h⟩

theorem At.of_formatting (hs : At isOldStyle c s) (hl : Tidy c l) : At isOldStyle c { s with formatting := l } :=
  { hs with formatting := hl }

/-- The step that opens an element and puts it into the list of formatting elements. -/
theorem Hosts.run_insertShaping (hs : Hosts s node) (hname : tag.name ∈ shapingNames) :
    (do
      let new ← insertElementIn .html tag true
      modify fun s => { s with formatting := .element new tag :: s.formatting } : Build Unit).run s =
    ((), { s with
      forest := s.forest.addNode node (.element .html tag.name tag.attributes none)
      stack := s.forest.cells.size :: s.stack
      formatting := .element s.forest.cells.size tag :: s.formatting }) := by
  have htemplate : tag.name ≠ "template" := fun he => absurd (he ▸ hname) (by decide)
  rw [Build.run_bind, hs.run_insertElementIn htemplate]
  rfl

theorem At.run_insertFormatting_eq (hs : At isOldStyle (e :: c) s) (hname : tag.name ∈ shapingNames) :
    ∃ l, Tidy (e :: c) l ∧ (insertFormatting tag).run s = ((), { s with
      forest := s.forest.addNode e.1 (.element .html tag.name tag.attributes none)
      stack := s.forest.cells.size :: s.stack
      formatting := .element s.forest.cells.size tag :: l }) := by
  rw [insertFormatting, Build.run_bind, Build.run_get]
  dsimp only
  split
  · split
    · -- Of too many alike elements, the earliest is no longer remembered.
      next earliest old _ =>
      obtain ⟨l, hl, htidy⟩ := withoutFormatting_eq s earliest
      refine ⟨l, htidy _ hs.formatting, ?_⟩
      rw [Build.run_bind, Build.run_modify, hl]
      exact (hs.of_formatting (htidy _ hs.formatting)).hosts.run_insertShaping hname
    · exact ⟨s.formatting, hs.formatting, hs.hosts.run_insertShaping hname⟩
  · exact ⟨s.formatting, hs.formatting, hs.hosts.run_insertShaping hname⟩

theorem not_mem_modeNames_of_mem_shapingNames : ∀ name ∈ shapingNames, name ∉ modeNames := by decide

/-- **An element that shapes text** is open and known as such. -/
theorem At.run_insertFormatting (hs : At isOldStyle (e :: c) s) (hname : tag.name ∈ shapingNames) :
    ∃ s', (insertFormatting tag).run s = ((), s') ∧
      At isOldStyle ((s.forest.cells.size, tag.name) :: e :: c) s' ∧
      s'.forest = s.forest.addNode e.1 (.element .html tag.name tag.attributes none) ∧
      s'.skipsLineFeed = s.skipsLineFeed := by
  obtain ⟨l, htidy, hrun⟩ := hs.run_insertFormatting_eq hname
  have hform : tag.name ≠ "form" := fun he => absurd (he ▸ hname) (by decide)
  have htemplate : tag.name ≠ "template" := fun he => absurd (he ▸ hname) (by decide)
  refine ⟨_, hrun, hs.opened htemplate rfl rfl (.entry hname htidy) ?_ ?_ ⟨rfl, rfl, rfl, rfl, rfl, rfl⟩, rfl, rfl⟩
  · rw [modeIn_cons (not_mem_modeNames_of_mem_shapingNames _ hname)]
    exact hs.mode
  · rw [if_neg hform]

/-- No link is known unless one is open, up to where formatting begins anew. -/
theorem Tidy.find?_link (h : Tidy c l) (hs : Named s c)
    (hclear : isOpenIn marksFormatting ["a"] (c.map Prod.snd) = false) :
    ((l.takeWhile (· != .marker)).filterMap fun
      | .element node tag => some (node, tag)
      | .marker => none).find? (fun (node, _) => s.isHtml node ["a"]) = none := by
  -- On the open elements: a marker bounds the search for a link, as it bounds the list of formatting.
  induction h with
  | nil => rfl
  | skip hno _ ih =>
    rw [List.map_cons, isOpenIn, Bool.or_eq_false_iff] at hclear
    refine ih hs.tail ?_
    have hbounds : marksFormatting ⟨.html, _⟩ = false := Bool.eq_false_iff.2 fun h => hno (List.contains_iff_mem.1 h)
    have hrest := hclear.2
    rwa [hbounds] at hrest
  | marker => rfl
  | @entry node tag c l hmem _ ih =>
    rw [List.map_cons, isOpenIn, Bool.or_eq_false_iff] at hclear
    have hbounds : marksFormatting ⟨.html, tag.name⟩ = false :=
      Bool.eq_false_iff.2 fun h => not_mem_markerNames_of_mem_shapingNames _ hmem (List.contains_iff_mem.1 h)
    have hrest := hclear.2
    rw [hbounds] at hrest
    have hfirst : (FormattingEntry.element node tag != .marker) = true := rfl
    rw [List.takeWhile_cons, hfirst, if_pos rfl, List.filterMap_cons]
    dsimp only
    rw [List.find?_cons, hs.isHtml List.mem_cons_self, hclear.1]
    exact ih hs.tail hrest

/-- **A link**, where none is open. -/
theorem At.run_insertLink (hs : At isOldStyle (e :: c) s)
    (hclear : isOpenIn marksFormatting ["a"] ((e :: c).map Prod.snd) = false) :
    (insertLink tag).run s = (.done, ((insertFormatting tag).run s).2) := by
  have hfind : s.formattingToMarker.find? (fun (node, _) => s.isHtml node ["a"]) = none :=
    hs.formatting.find?_link hs.named hclear
  rw [insertLink, Build.run_bind, Build.run_get]
  dsimp only
  rw [hfind]
  dsimp only
  rw [Build.run_bind, hs.run_reconstruct, Build.run_bind, Build.run_pure]

/-! ### End tags -/

/-- An element is in the list of formatting elements only if it is open. -/
theorem At.formattingIndex?_eq_none (hs : At isOldStyle (e :: c) s) (htidy : Tidy c s.formatting) :
    s.formattingIndex? e.1 = none := by
  rw [State.formattingIndex?, List.findIdx?_eq_none_iff]
  intro entry hentry
  cases entry with
  | marker => rfl
  | element node tag =>
    refine beq_false_of_ne fun he => ?_
    -- The entries are about the elements around this one.
    have hopen : node ∈ c.map Prod.fst := List.mem_map_of_mem (htidy.mem hentry)
    have hnodup := hs.nodup
    rw [hs.stack_eq, List.nodup_cons] at hnodup
    exact hnodup.1 (he ▸ hopen)

theorem formattingIndex?_of_eq_cons (hl : s.formatting = .element node tag :: l) : s.formattingIndex? node = some 0 := by
  rw [State.formattingIndex?, hl, List.findIdx?_cons]
  exact if_pos (beq_self_eq_true node)

/-- The innermost element is the latest formatting element: it is closed with nothing in it. -/
theorem At.run_adoptOnce (hs : At isOldStyle (e :: c) s) (hname : tag.name = e.2)
    (hl : s.formatting = .element e.1 tag :: l) :
    (adoptOnce e.2).run s = (false, { s with formatting := l, stack := s.stack.tail }) := by
  have hfind : s.formattingToMarker.find? (·.2.name == e.2) = some (e.1, tag) := by
    have hfirst : (FormattingEntry.element e.1 tag != .marker) = true := rfl
    rw [State.formattingToMarker, hl, List.takeWhile_cons, hfirst, if_pos rfl, List.filterMap_cons]
    dsimp only
    rw [List.find?_cons, hname, beq_self_eq_true]
  have hopen : s.stack.contains e.1 = true := by
    rw [hs.stack_eq]
    simp
  have hwithin : s.isOpenWithin ElementName.bounds (· == e.1) = true := by
    rw [State.isOpenWithin, hs.stack_eq, State.isOpenWithin.go, beq_self_eq_true, Bool.true_or]
  -- The element is the innermost one, so no block stands in it.
  have hinside : s.stack.takeWhile (· != e.1) = [] := by
    rw [hs.stack_eq, List.takeWhile_cons, bne_self_eq_false, if_neg Bool.false_ne_true]
  have hindex := formattingIndex?_of_eq_cons hl
  have hwithout : s.withoutFormatting e.1 = { s with formatting := l } := by
    rw [State.withoutFormatting, hindex]
    dsimp only
    rw [hl, List.eraseIdx_cons_zero]
  rw [adoptOnce, Build.run_bind, Build.run_get]
  dsimp only
  rw [hfind]
  dsimp only
  rw [hopen, hwithin, hinside]
  simp only [Bool.not_true, Bool.false_eq_true, if_false, List.reverse_nil, List.find?_nil, List.length_nil, Nat.zero_add]
  rw [Build.run_bind, Build.run_modify, hwithout, List.drop_one, Build.run_pure]

/-- **An element that shapes text is closed** while it is the innermost one. -/
theorem At.run_adopt (hs : At isOldStyle (e :: c) s) (hname : e.2 ∈ shapingNames) :
    ∃ s', (adopt e.2).run s = ((), s') ∧ At isOldStyle c s' ∧ s'.forest = s.forest ∧
      s'.skipsLineFeed = s.skipsLineFeed := by
  have hmode : s.mode = modeIn (c.map Prod.snd) := by
    rw [hs.mode, List.map_cons, modeIn_cons (not_mem_modeNames_of_mem_shapingNames _ hname)]
  have hform : s.form? = (c.find? (·.2 == "form")).map Prod.fst := by
    have hne : e.2 ≠ "form" := fun he => absurd (he ▸ hname) (by decide)
    rw [hs.form, List.find?_cons, beq_eq_false_iff_ne.2 hne]
  have hself : s.isHtml e.1 [e.2] = true := by
    rw [hs.isHtml_head]
    simp
  have hclosed {l : List FormattingEntry} (hl : Tidy c l) :
      At isOldStyle c { s with formatting := l, stack := s.stack.tail } :=
    hs.closed rfl rfl hl hmode hform ⟨rfl, rfl, rfl, rfl, rfl, rfl⟩
  rw [adopt, Build.run_bind, Build.run_get]
  dsimp only
  rw [hs.stack_eq]
  dsimp only
  rw [hself]
  generalize hl : s.formatting = l
  have htidy := hs.formatting
  rw [hl] at htidy
  cases htidy with
  | marker hmarker _ => exact absurd hmarker (not_mem_markerNames_of_mem_shapingNames _ hname)
  | skip _ htidy =>
    -- The element has been forgotten, and no other entry is about it.
    rw [← hl] at htidy
    rw [hs.formattingIndex?_eq_none htidy, Option.isNone_none, Bool.true_and, if_pos rfl]
    exact ⟨_, rfl, hclosed htidy, rfl, rfl⟩
  | entry _ htidy =>
    rw [formattingIndex?_of_eq_cons hl, Option.isNone_some, Bool.and_false, if_neg Bool.false_ne_true, adoptUpTo,
      Build.run_bind, hs.run_adoptOnce rfl hl]
    exact ⟨_, rfl, hclosed htidy, rfl, rfl⟩

end HtmlMail.Html.Construction
