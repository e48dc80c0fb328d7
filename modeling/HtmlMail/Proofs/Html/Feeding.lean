import HtmlMail.Proofs.Html.EndTags

/-!
# Dealing with tokens

A token may pass from one set of rules to the next before it is dealt with. What matters is the state to which it is
led in this way, in which the right elements are open.

* `Leads` : a token is dealt with as it would be in another state;
* `Stands`, `Ready` : the elements that are open in a state, or that are open in the state to which a token is led;
* `Ready.feed` : what comes of a token can be told by the rules in the state to which it is led;
* `Stands.yields_comment`, `Stands.yields_text` : comments and texts;
* `Stands.ready_withPending` : blank text between the parts of a table waits for the next token;
* `InText` : a state in which an element is open that holds nothing but text.
-/

namespace HtmlMail.Html

/-- Whether this is text. -/
def Token.isText : Token → Bool
  | .blanks _ | .text _ => true
  | _ => false

/-- Whether this is a tag, a comment or the end. -/
def Token.isMarkup : Token → Bool
  | .tag _ | .comment _ | .endOfInput => true
  | _ => false

namespace Construction

open Dom

variable {c : List (Nat × String)} {e f : Nat × String} {node j k : Nat} {tag : Tag} {forest : Forest} {token : Token}
  {isOldStyle : Bool} {s s' s'' w : State} {name t : String} {mode : Mode} {Q : State → Prop}

/-! ### From rules to rules -/

/-- The state in which a token is dealt with: what the one before asked for is done. -/
def State.rested (s : State) (interrupts : Bool) : State :=
  { s with skipsLineFeed := false, textMode? := none, interrupts := interrupts }

/-- Whether a token is dealt with as it would be in another state, to which `k` changes of the rules lead. -/
def Leads (k : Nat) (token : Token) (s w : State) : Prop :=
  ∀ fuel, (dealWith token (fuel + k)).run s = (dealWith token fuel).run w

theorem Leads.refl (token : Token) (s : State) : Leads 0 token s s := fun _ => rfl

theorem Leads.trans (h : Leads j token s s') (h' : Leads k token s' s'') : Leads (k + j) token s s'' := by
  intro fuel
  rw [← Nat.add_assoc, h (fuel + k), h' fuel]

/-- The rules pass a token on. -/
theorem leads_of_again (hforeign : s.isForeign token = false)
    (hrun : (rulesOf s.mode token).run s = (.again mode, s')) (hnext : { s' with mode := mode } = s'') :
    Leads 1 token s s'' := by
  intro fuel
  rw [← hnext, dealWith, Build.run_bind, Build.run_get, hforeign, if_neg Bool.false_ne_true, Build.run_bind, hrun]
  rfl

/-- The rules are done with a token. -/
theorem run_dealWith_of_done (hforeign : s.isForeign token = false)
    (hrun : (rulesOf s.mode token).run s = (.done, s')) (fuel : Nat) :
    (dealWith token (fuel + 1)).run s = ((), s') := by
  rw [dealWith, Build.run_bind, Build.run_get, hforeign, if_neg Bool.false_ne_true, Build.run_bind, hrun]
  rfl

/-- Whether a token is dealt with after one change of the rules at most, so that a property holds behind it. -/
def Settles (token : Token) (s : State) (Q : State → Prop) : Prop :=
  ∃ s', (∀ fuel, (dealWith token (fuel + 2)).run s = ((), s')) ∧ Q s'

theorem Yields.settles (hforeign : s.isForeign token = false) (h : Yields (rulesOf s.mode token) s Q) :
    Settles token s Q := by
  obtain ⟨s', hrun, hQ⟩ := h
  exact ⟨s', fun fuel => run_dealWith_of_done hforeign hrun (fuel + 1), hQ⟩

/-! ### States that are ready for a token -/

/-- A state in which elements are open, and what has been built. -/
structure Stands (isOldStyle : Bool) (c : List (Nat × String)) (forest : Forest) (s : State) : Prop where
  opened : At isOldStyle c s
  forest : s.forest = forest
  skips : s.skipsLineFeed = false

/-- How often the rules may change on the way to where elements are open: a head is implied by what stands in it, and a
body also by what stands behind a head. -/
def changesTo : List String → Nat
  | "head" :: _ => 3
  | _ => 5

theorem one_le_changesTo (path : List String) : 1 ≤ changesTo path := by
  unfold changesTo
  split <;> decide

theorem changesTo_le (path : List String) : changesTo path ≤ 5 := by
  unfold changesTo
  split <;> decide

/-- A state in which a token is led to one in which elements are open. -/
structure Ready (isOldStyle : Bool) (c : List (Nat × String)) (forest : Forest) (token : Token) (s : State) : Prop where
  foreign : s.isInForeign = false
  textMode : s.textMode? = none
  line : s.skipsLineFeed → withoutLineFeed? token = some token
  leads : ∀ interrupts, ∃ w, ∃ k, k ≤ changesTo (c.map Prod.snd) ∧ Leads k token (s.rested interrupts) w ∧
    Stands isOldStyle c forest w

theorem Hosts.isInForeign_eq (hs : Hosts s node) : s.isInForeign = false := by
  obtain ⟨name, as, hcontent⟩ := hs.content
  rw [State.isInForeign, State.currentName]
  split
  · rfl
  · next hstack =>
    have hnode := hs.stack
    rw [hstack] at hnode
    cases hnode
    rw [State.nameOf, hcontent]
    rfl

theorem At.isInForeign_eq (hs : At isOldStyle c s) : s.isInForeign = false := by
  rw [State.isInForeign, State.currentName, hs.stack]
  cases c with
  | nil => rfl
  | cons e c =>
    show ((s.nameOf e.1).ns != .html) = false
    rw [hs.named e List.mem_cons_self]
    rfl

theorem isForeign_eq_false (h : s.isInForeign = false) (token : Token) : s.isForeign token = false := by
  rw [State.isInForeign, State.currentName] at h
  unfold State.isForeign
  cases hstack : s.stack with
  | nil => rfl
  | cons node rest =>
    rw [hstack] at h
    have hns : ((s.nameOf node).ns == Namespace.html) = true := by simpa using h
    cases token <;> first | rfl | exact if_pos hns

/-- Where elements are open, every token is dealt with at once. -/
theorem At.ready (hs : At isOldStyle c s) (hline : s.skipsLineFeed → withoutLineFeed? token = some token) :
    Ready isOldStyle c s.forest token s where
  foreign := hs.isInForeign_eq
  textMode := hs.textMode
  line := hline
  leads interrupts := by
    refine ⟨s.rested interrupts, 0, Nat.zero_le _, .refl _ _, ?_, rfl, rfl⟩
    exact hs.congr (.refl _) ⟨rfl, rfl, rfl, rfl, rfl, rfl, rfl, rfl, rfl, hs.textMode.symm⟩

theorem Stands.ready (hs : Stands isOldStyle c forest s) (token : Token) : Ready isOldStyle c forest token s := by
  rw [← hs.forest]
  refine hs.opened.ready fun h => ?_
  rw [hs.skips] at h
  cases h

theorem withoutLineFeed?_of_isMarkup (h : token.isMarkup) : withoutLineFeed? token = some token := by
  cases token <;> first | rfl | cases h

theorem feed_eq (htoken : token.isText ∨ token.isMarkup) (hline : s.skipsLineFeed → withoutLineFeed? token = some token) :
    s.feed token = ((dealWith token (s.stack.length + maxChanges)).run { s with skipsLineFeed := false }).2 := by
  have hsame : (if s.skipsLineFeed then withoutLineFeed? token else some token) = some token := by
    split
    · next h => exact hline h
    · rfl
  rw [State.feed, dealWithToken, Build.run_bind, Build.run_get, Build.run_bind, Build.run_set, hsame]
  cases token <;> first | rfl | simp [Token.isText, Token.isMarkup] at htoken

/-- **What comes of a token** can be told by the rules in the state to which it is led. -/
theorem Ready.feed (hs : Ready isOldStyle c forest token s) (htoken : token.isText ∨ token.isMarkup)
    (h : ∀ w, Stands isOldStyle c forest w → Settles token w Q) (interrupts : Bool) :
    Q (State.feed { s with textMode? := none, interrupts := interrupts } token) := by
  obtain ⟨w, k, hk, hleads, hw⟩ := hs.leads interrupts
  obtain ⟨s', hrun, hQ⟩ := h w hw
  have hline : ({ s with textMode? := none, interrupts := interrupts } : State).skipsLineFeed →
      withoutLineFeed? token = some token := hs.line
  have hk' : k ≤ 30 := hk.trans ((changesTo_le _).trans (by decide))
  -- The changes of mode leave two rounds at least, which is all that the token needs.
  have hfuel : s.stack.length + maxChanges = s.stack.length + (30 - k) + 2 + k := by
    rw [maxChanges]
    omega
  rw [feed_eq htoken hline]
  show Q ((dealWith token (s.stack.length + maxChanges)).run (s.rested interrupts)).2
  rw [hfuel, hleads, hrun]
  exact hQ

/-- A token that is dealt with here, where no line feed is dropped. -/
theorem Settles.feed (h : Settles token s Q) (htoken : token.isText ∨ token.isMarkup) (hskips : s.skipsLineFeed = false) :
    Q (s.feed token) := by
  obtain ⟨s', hrun, hQ⟩ := h
  have hsame : ({ s with skipsLineFeed := false } : State) = s := by
    rw [← hskips]
  rw [feed_eq htoken (fun h => by rw [hskips] at h; cases h), hsame]
  show Q ((dealWith token (s.stack.length + 30 + 2)).run s).2
  rw [hrun]
  exact hQ

/-! ### Comments and texts -/

/-- The rules that can be in force in a place. -/
def modesOf : Html.Place → List Mode
  | .flow => [.inBody, .inCaption, .inCell]
  | .head => [.inHead]
  | .table => [.inTable]
  | .rows => [.inTableBody]
  | .row => [.inRow]
  | .columns => [.inColumnGroup]
  | .other => []

theorem At.mode_mem_modesOf (hs : At isOldStyle (e :: c) s) (hplace : placeIn ((e :: c).map Prod.snd) ≠ .other) :
    s.mode ∈ modesOf (placeIn ((e :: c).map Prod.snd)) := by
  rw [hs.mode]
  rw [List.map_cons] at hplace ⊢
  -- Mode and place depend on the names only.
  generalize e.2 = name at hplace ⊢
  have hholder := holder name (c.map Prod.snd)
  generalize placeIn (name :: c.map Prod.snd) = place at hholder hplace
  cases hholder with
  | other => exact absurd rfl hplace
  | flow hmode => exact hmode
  | head hmode => rw [hmode]; exact List.mem_cons_self
  | table => exact List.mem_cons_self
  | row => exact List.mem_cons_self
  | columns => exact List.mem_cons_self
  | rows hname =>
    simp only [List.mem_cons, List.not_mem_nil, or_false] at hname
    rcases hname with rfl | rfl | rfl <;> exact List.mem_cons_self

/-- The parts of a table that hold no text. -/
theorem At.currentIs_tableNames (hs : At isOldStyle (e :: c) s)
    (hplace : placeIn ((e :: c).map Prod.snd) ∈ [Place.table, .rows, .row]) :
    s.currentIs ElementName.tableNames = true := by
  rw [hs.currentIs_eq]
  rw [List.map_cons] at hplace
  generalize e.2 = name at hplace ⊢
  have hholder := holder name (c.map Prod.snd)
  generalize placeIn (name :: c.map Prod.snd) = place at hholder hplace
  cases hholder with
  | other => exact absurd hplace (by decide)
  | flow => exact absurd hplace (by decide)
  | head => exact absurd hplace (by decide)
  | columns => exact absurd hplace (by decide)
  | table => rfl
  | row => rfl
  | rows hname => exact (by decide : ∀ n ∈ ["tbody", "tfoot", "thead"], ElementName.tableNames.contains n) _ hname

theorem Stands.grown (hs : Stands isOldStyle (e :: c) forest s) {forest' : Forest} (hkeeps : forest.Keeps forest')
    (h : Alike s s') (hforest : s'.forest = forest') (hskips : s'.skipsLineFeed = s.skipsLineFeed) :
    Stands isOldStyle (e :: c) forest' s' := by
  refine ⟨hs.opened.congr ?_ h, hforest, hskips.trans hs.skips⟩
  rw [hs.forest, hforest]
  exact hkeeps

theorem Stands.withComment (hs : Stands isOldStyle (e :: c) forest s) (t : String) :
    Stands isOldStyle (e :: c) (forest.addNode e.1 (.comment t))
      { s with forest := s.forest.addNode e.1 (.comment t) } := by
  refine hs.grown ?_ ⟨rfl, rfl, rfl, rfl, rfl, rfl, rfl, rfl, rfl, rfl⟩ (by rw [hs.forest]) rfl
  have hlt := hs.opened.hosts.lt_size
  rw [hs.forest] at hlt
  exact Forest.keeps_addNode hlt _

theorem Stands.withText (hs : Stands isOldStyle (e :: c) forest s) (t : String) :
    Stands isOldStyle (e :: c) (forest.appendText e.1 t) { s with forest := s.forest.appendText e.1 t } := by
  refine hs.grown ?_ ⟨rfl, rfl, rfl, rfl, rfl, rfl, rfl, rfl, rfl, rfl⟩ (by rw [hs.forest]) rfl
  have hlt := hs.opened.hosts.lt_size
  rw [hs.forest] at hlt
  exact Forest.keeps_appendText hlt t

/-- **Comments** become nodes wherever anything can stand. -/
theorem Stands.yields_comment (hs : Stands isOldStyle (e :: c) forest s)
    (hplace : placeIn ((e :: c).map Prod.snd) ≠ .other) (t : String) :
    Yields (rulesOf s.mode (.comment t)) s
      (Stands isOldStyle (e :: c) (forest.addNode e.1 (.comment t))) := by
  have hinsert : Yields (do insertComment t; return .done) s
      (Stands isOldStyle (e :: c) (forest.addNode e.1 (.comment t))) :=
    .bind (hs.opened.hosts.run_insertComment t) (.done (hs.withComment t))
  have hmode := hs.opened.mode_mem_modesOf hplace
  generalize placeIn ((e :: c).map Prod.snd) = place at hmode
  generalize s.mode = mode at hmode ⊢
  cases place <;> simp only [modesOf, List.mem_cons, List.not_mem_nil, or_false] at hmode
  -- The rules of some modes look at the state first, for other tokens.
  case flow =>
    rcases hmode with rfl | rfl | rfl
    · exact hinsert
    · exact hinsert
    · exact .bind (Build.run_get s) hinsert
  case rows => exact hmode ▸ .bind (Build.run_get s) hinsert
  case row => exact hmode ▸ .bind (Build.run_get s) hinsert
  all_goals exact hmode ▸ hinsert

/-- **Text in a body**, in runs of blanks and of other characters. -/
theorem Stands.yields_text (hs : Stands isOldStyle (e :: c) forest s) (hplace : placeIn ((e :: c).map Prod.snd) = .flow)
    (run : List Char) :
    Yields (rulesOf s.mode (textToken run)) s
      (Stands isOldStyle (e :: c) (forest.appendText e.1 (String.ofList run))) := by
  have hinsert : Yields (bodyRules (textToken run)) s
      (Stands isOldStyle (e :: c) (forest.appendText e.1 (String.ofList run))) := by
    rw [textToken]
    split
    · exact .bind hs.opened.run_reconstruct (.bind (hs.opened.hosts.run_insertText _) (.done (hs.withText _)))
    · refine .bind hs.opened.run_reconstruct (.bind (run_forbidFrameset s) ?_)
      have hs' : Stands isOldStyle (e :: c) forest { s with framesetOk := false } :=
        hs.grown (.refl _) ⟨rfl, rfl, rfl, rfl, rfl, rfl, rfl, rfl, rfl, rfl⟩ hs.forest rfl
      exact .bind (hs'.opened.hosts.run_insertText _) (.done (hs'.withText _))
  -- For text, a caption and a cell have the rules of a body.
  have hcaption : captionRules (textToken run) = bodyRules (textToken run) := by
    rw [textToken]
    split <;> rfl
  have hcell : cellRules (textToken run) = (do let _ ← get; bodyRules (textToken run)) := by
    rw [textToken]
    split <;> rfl
  have hmode := hs.opened.mode_mem_modesOf (by rw [hplace]; decide)
  simp only [hplace, modesOf, List.mem_cons, List.not_mem_nil, or_false] at hmode
  rcases hmode with hmode | hmode | hmode <;> rw [hmode, rulesOf]
  · exact hinsert
  · rw [hcaption]
    exact hinsert
  · rw [hcell]
    exact .bind (Build.run_get s) hinsert

/-- **Blank text in a head or between columns.** -/
theorem Stands.yields_blanks (hs : Stands isOldStyle (e :: c) forest s)
    (hplace : placeIn ((e :: c).map Prod.snd) = .head ∨ placeIn ((e :: c).map Prod.snd) = .columns) (t : String) :
    Yields (rulesOf s.mode (.blanks t)) s (Stands isOldStyle (e :: c) (forest.appendText e.1 t)) := by
  have hinsert : Yields (do insertText t; return .done) s _ :=
    .bind (hs.opened.hosts.run_insertText t) (.done (hs.withText t))
  have hmode := hs.opened.mode_mem_modesOf (by rcases hplace with h | h <;> rw [h] <;> decide)
  rcases hplace with hplace | hplace <;>
    simp only [hplace, modesOf, List.mem_cons, List.not_mem_nil, or_false] at hmode <;> rw [hmode] <;> exact hinsert

/-! ### Blank text between the parts of a table -/

/-- A state in which blank text of a table waits for the next token. -/
def State.withPending (s : State) (t : String) : State :=
  { s with returnMode := s.mode, mode := .inTableText, pendingText := [.blanks t] }

/-- The rules between the parts of a table take up blank text. -/
theorem Stands.settles_blanks (hs : Stands isOldStyle (e :: c) forest s)
    (hplace : placeIn ((e :: c).map Prod.snd) ∈ [Place.table, .rows, .row]) (t : String) :
    Settles (.blanks t) s fun s' => s' = s.withPending t := by
  have hcurrent := hs.opened.currentIs_tableNames hplace
  have htable : (tableRules (.blanks t)).run s = (.again .inTableText, { s with returnMode := s.mode }) := by
    rw [tableRules, tableText, Build.run_bind, Build.run_get]
    dsimp only
    rw [hcurrent]
    rfl
  have hrules : (rulesOf s.mode (.blanks t)).run s = (tableRules (.blanks t)).run s := by
    have hmode := hs.opened.mode_mem_modesOf (fun h => by rw [h] at hplace; exact absurd hplace (by decide))
    simp only [List.mem_cons, List.not_mem_nil, or_false] at hplace
    rcases hplace with hplace | hplace | hplace <;>
      simp only [hplace, modesOf, List.mem_cons, List.not_mem_nil, or_false] at hmode <;> rw [hmode] <;> rfl
  -- The rules change once, to those that put the text aside.
  refine ⟨s.withPending t, fun fuel => ?_, rfl⟩
  have hleads := leads_of_again (isForeign_eq_false hs.opened.isInForeign_eq (.blanks t)) (hrules.trans htable) rfl
  have hforeign : ({ s with returnMode := s.mode, mode := .inTableText } : State).isForeign (.blanks t) = false :=
    isForeign_eq_false hs.opened.isInForeign_eq (.blanks t)
  rw [show fuel + 2 = (fuel + 1) + 1 from rfl, hleads (fuel + 1), dealWith, Build.run_bind, Build.run_get, hforeign]
  rw [State.withPending, ← hs.opened.pendingText]
  rfl

/-- Blank text that waits is put into the table in front of a token that is no text. -/
theorem run_tableTextRules (htoken : token.isMarkup) (hpending : s.pendingText = [.blanks t]) :
    (tableTextRules token).run s =
      (do insertText t; return .again (← get).returnMode : Build Outcome).run { s with pendingText := [] } := by
  have hrules : (tableTextRules token).run s = (do
      if s.pendingText.reverse.any Token.isVisibleText then fosterTableText s.pendingText.reverse
      else insertTableText s.pendingText.reverse
      return .again (← get).returnMode : Build Outcome).run { s with pendingText := [] } := by
    cases token <;> first | rfl | cases htoken
  rw [hrules, hpending]
  rfl

/-- **Blank text between the parts of a table** comes into it with the next token. -/
theorem Stands.ready_withPending (hs : Stands isOldStyle (e :: c) forest s) (t : String) (htoken : token.isMarkup) :
    Ready isOldStyle (e :: c) (forest.appendText e.1 t) token (s.withPending t) where
  foreign := hs.opened.isInForeign_eq
  textMode := hs.opened.textMode
  line _ := withoutLineFeed?_of_isMarkup htoken
  leads interrupts := by
    have hosts : Hosts ({ (s.withPending t).rested interrupts with pendingText := [] } : State) e.1 :=
      ⟨hs.opened.hosts.stack, hs.opened.hosts.fosters, hs.opened.hosts.content⟩
    have hrun : (rulesOf ((s.withPending t).rested interrupts).mode token).run ((s.withPending t).rested interrupts) =
        (.again s.mode,
          { (s.withPending t).rested interrupts with pendingText := [], forest := s.forest.appendText e.1 t }) := by
      show (tableTextRules token).run ((s.withPending t).rested interrupts) = _
      rw [run_tableTextRules htoken rfl, Build.run_bind, hosts.run_insertText]
      rfl
    -- The text that was put aside is inserted on the way.
    refine ⟨_, 1, one_le_changesTo _, leads_of_again (isForeign_eq_false hs.opened.isInForeign_eq token) hrun rfl, ?_⟩
    have hlt := hs.opened.hosts.lt_size
    rw [hs.forest] at hlt
    refine hs.grown (Forest.keeps_appendText hlt t) ⟨rfl, rfl, rfl, rfl, rfl, rfl, rfl, rfl, ?_, ?_⟩
      (by rw [← hs.forest]) ?_
    · exact hs.opened.pendingText.symm
    · exact hs.opened.textMode.symm
    · exact hs.skips.symm

/-! ### Elements that hold nothing but text -/

/-- Nothing has been asked for that the next token or the text behind it would decide about. -/
structure IsQuiet (s : State) : Prop where
  skips : s.skipsLineFeed = false
  textMode : s.textMode? = none

/-- A state in which an element that holds nothing but text is open, inside of others. -/
structure InText (isOldStyle : Bool) (c : List (Nat × String)) (node : Nat) (forest : Forest) (s : State) : Prop where
  stack : s.stack.head? = some node
  content : ∃ name as, s.forest.content? node = some (.element .html name as none)
  mode : s.mode = .text
  forest : s.forest = forest
  /-- The others are open when the element has been closed. -/
  closed : At isOldStyle c { s with stack := s.stack.tail, mode := s.returnMode, textMode? := none }

theorem InText.hosts (hs : InText isOldStyle c node forest s) : Hosts s node := ⟨hs.stack, hs.closed.fosters, hs.content⟩

/-- What was asked for before a token does not matter in text. -/
theorem InText.congr (hs : InText isOldStyle c node forest s) {skips interrupts : Bool} {mode? : Option TextMode} :
    InText isOldStyle c node forest { s with skipsLineFeed := skips, textMode? := mode?, interrupts := interrupts } where
  stack := hs.stack
  content := hs.content
  mode := hs.mode
  forest := hs.forest
  closed := hs.closed.congr (.refl _) ⟨rfl, rfl, rfl, rfl, rfl, rfl, rfl, rfl, rfl, rfl⟩

/-- A start tag opens an element for text. -/
theorem OpensText.inText {isOldStyle : Bool} (hs : Stands isOldStyle (e :: c) forest w) (h : OpensText tag w s)
    (hforest : s.forest = w.forest.addNode e.1 (.element .html tag.name tag.attributes none)) :
    InText isOldStyle (e :: c) forest.cells.size
      (forest.addNode e.1 (.element .html tag.name tag.attributes none)) s := by
  have hlt := hs.opened.hosts.lt_size
  rw [hs.forest] at hforest hlt
  refine ⟨by rw [h.stack, hs.forest]; rfl, ⟨tag.name, tag.attributes, ?_⟩, h.mode, hforest, ?_⟩
  · rw [hforest]
    exact Forest.content?_addNode_self hlt
  refine hs.opened.congr ?_ ⟨?_, h.formatting, h.returnMode, h.form, h.head, h.templateModes, h.isOldStyle, h.fosters,
    h.pendingText, hs.opened.textMode.symm⟩
  · -- The new node leaves the others as they are.
    rw [hs.forest]
    show Forest.Keeps forest s.forest
    rw [hforest]
    exact Forest.keeps_addNode hlt _
  · show s.stack.tail = w.stack
    rw [h.stack, List.tail_cons]

/-- Text in an element for text. -/
theorem InText.yields_text (hs : InText isOldStyle c node forest s) (run : List Char) :
    Yields (rulesOf s.mode (textToken run)) s fun s' =>
      InText isOldStyle c node (forest.appendText node (String.ofList run)) s' ∧ (IsQuiet s → IsQuiet s') := by
  have hrules : textRules (textToken run) = (do insertText (String.ofList run); return .done) := by
    rw [textToken]
    split <;> rfl
  rw [hs.mode, rulesOf, hrules]
  refine .bind (hs.hosts.run_insertText _) (.done ⟨?_, fun hquiet => ⟨hquiet.skips, hquiet.textMode⟩⟩)
  have hkeeps := Forest.keeps_appendText hs.hosts.lt_size (String.ofList run)
  obtain ⟨name, as, hcontent⟩ := hs.content
  refine ⟨hs.stack, ⟨name, as, hkeeps _ _ _ _ _ hcontent⟩, hs.mode, by rw [← hs.forest], ?_⟩
  exact hs.closed.congr hkeeps ⟨rfl, rfl, rfl, rfl, rfl, rfl, rfl, rfl, rfl, rfl⟩

/-- The end tag of an element for text. -/
theorem InText.yields_endTag (hs : InText isOldStyle c node forest s) (hquiet : IsQuiet s) :
    Yields (rulesOf s.mode (.tag tag)) s (Stands isOldStyle c forest) := by
  have hclosed : Stands isOldStyle c forest { s with stack := s.stack.tail, mode := s.returnMode } :=
    ⟨hs.closed.congr (.refl _) ⟨rfl, rfl, rfl, rfl, rfl, rfl, rfl, rfl, rfl, hquiet.textMode⟩, hs.forest, hquiet.skips⟩
  rw [hs.mode, rulesOf, textRules]
  refine .bind (run_pop s) (.bind (Build.run_modify _ _) (.ite (fun _ => ?_) fun _ => .done hclosed))
  refine .bind (run_interrupt _) (.done ⟨?_, hs.forest, hquiet.skips⟩)
  exact hclosed.opened.congr (.refl _) ⟨rfl, rfl, rfl, rfl, rfl, rfl, rfl, rfl, rfl, rfl⟩

end Construction

end HtmlMail.Html
