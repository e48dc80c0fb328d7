import HtmlMail.Proofs.Html.RegularReading

/-!
# Reading documents

What stands around the regular markup of a head and of a body: in front of the document element comments and a document
type, the tags of the elements around the content, and comments at the end. Where the tags are missing, the first node
of a head or of a body implies them.

* `prologue`, `inHtml`, `inHead` : the states up to the start of the head;
* `read_prologue_comments`, `read_prologue_doctype` : what can stand in front of the document element;
* `Ready.implied_head`, `Ready.implied_body` : the elements that what follows implies;
* `Stands.read_between` : what stands between a head and a body;
* `Behind` : the states behind a body.
-/

namespace HtmlMail.Html

open Chars Dom

namespace Markup

/-- A comment that is read as it was written. -/
def IsComment : Markup → Prop
  | comment t => IsCommentText t.toList
  | _ => False

instance : DecidablePred IsComment
  | comment t => inferInstanceAs (Decidable (IsCommentText t.toList))
  | text _ => inferInstanceAs (Decidable False)
  | doctype .. => inferInstanceAs (Decidable False)
  | element .. => inferInstanceAs (Decidable False)

theorem IsComment.cases {m : Markup} (h : IsComment m) : ∃ t, m = comment t ∧ IsCommentText t.toList := by
  cases m with
  | comment t => exact ⟨t, rfl, h⟩
  | _ => exact h.elim

/-- What can stand between a head and a body: a comment or blank text. -/
def IsBetween : Markup → Prop
  | comment t => IsCommentText t.toList
  | text t => t ≠ "" ∧ t.toList.all isMarkupBlank
  | _ => False

instance : DecidablePred IsBetween
  | comment t => inferInstanceAs (Decidable (IsCommentText t.toList))
  | text t => inferInstanceAs (Decidable (t ≠ "" ∧ t.toList.all isMarkupBlank))
  | doctype .. => inferInstanceAs (Decidable False)
  | element .. => inferInstanceAs (Decidable False)

/-- What can stand between a head and a body: comments and blank texts, of which no two stand side by side. -/
def AreBetween : List Markup → Prop
  | [] => True
  | m :: rest => IsBetween m ∧ (m.isText → ∀ next ∈ rest.head?, ¬ next.isText) ∧ AreBetween rest

instance decidableAreBetween : DecidablePred AreBetween
  | [] => inferInstanceAs (Decidable True)
  | m :: rest =>
    have := decidableAreBetween rest
    inferInstanceAs (Decidable (IsBetween m ∧ (m.isText → ∀ next ∈ rest.head?, ¬ next.isText) ∧ AreBetween rest))

/-- Behind a text there is markup. -/
theorem AreBetween.endsText {W : List Markup} {rest : List Char} (hW : AreBetween W) (hhead : ∀ n ∈ W.head?, ¬ n.isText)
    (hrest : isMarkupStart rest) : EndsText (printAll W ++ rest) := by
  match W, hW with
  | [], _ => exact .inl hrest
  | comment _ :: _, _ => exact .inl rfl
  | text _ :: _, _ => exact absurd rfl (hhead _ rfl)
  | doctype .. :: _, hW => exact hW.1.elim
  | element .. :: _, hW => exact hW.1.elim

end Markup

namespace Construction

variable {isOldStyle : Bool} {mode : Mode} {forest : Forest} {s s' w : State} {starts : List Nat} {token : Token}
  {text rest : List Char} {as : List Attribute} {C W F : List Markup} {name publicId systemId : String} {head html : Nat}

/-! ### Constructs that are one token -/

/-- How reading goes on behind a construct that is one token. -/
theorem construct_eq_of_feed (starts : List Nat) (hforeign : s.isInForeign = false) (hne : text ≠ [])
    (hmark : '\uFEFF' ∉ rest) (hlex : lex .markup false text = ⟨[token], rest, .markup⟩)
    (hfeed : State.feed { s with textMode? := none, interrupts := false } token = s') (hmode : s'.textMode? = none) :
    construct starts .markup text s = construct starts .markup rest s' := by
  have hafter : [token].foldl State.feed { s with textMode? := none, interrupts := false } = s' := hfeed
  have hread := construct_eq starts hne hmark (by rw [hforeign]; exact hlex) hafter
  rw [hread, hmode, Option.getD_none]

theorem print_element_ne_nil (name : String) (as : List Attribute) (F : List Markup) (rest : List Char) :
    (Markup.element name as F).print ++ rest ≠ [] := by
  rw [Markup.print_element_append]
  exact List.cons_ne_nil _ _

theorem lex_print_element (htag : IsReadableTag name as) (F : List Markup) (rest : List Char) :
    lex .markup false ((Markup.element name as F).print ++ rest) =
      ⟨[.tag ⟨false, name, as, voidElements.contains name⟩], behindTag name F rest, .markup⟩ := by
  rw [Markup.print_element_append]
  exact lex_startTag htag false (readTagRest?_printTail name F rest)

/-! ### In front of the document element -/

/-- The state in front of the document element. -/
def prologue (isOldStyle : Bool) (mode : Mode) (forest : Forest) : State :=
  { State.initial with isOldStyle := isOldStyle, mode := mode, forest := forest }

theorem feed_prologue_comment (hmode : mode ∈ [Mode.initial, .beforeHtml]) (t : String) :
    (prologue isOldStyle mode forest).feed (.comment t) =
      prologue isOldStyle mode (forest.addNode Forest.document (.comment t)) := by
  simp only [List.mem_cons, List.not_mem_nil, or_false] at hmode
  rcases hmode with rfl | rfl <;> rfl

/-- **Comments** in front of the document element. -/
theorem read_prologue_comments (hC : ∀ m ∈ C, m.IsComment) (hmode : mode ∈ [Mode.initial, .beforeHtml])
    (hmark : '\uFEFF' ∉ Markup.printAll C ++ rest) :
    construct starts .markup (Markup.printAll C ++ rest) (prologue isOldStyle mode forest) =
      construct starts .markup rest (prologue isOldStyle mode (forest.addAll Forest.document C)) := by
  induction C generalizing forest with
  | nil => rw [Forest.addAll]; rfl
  | cons m C ih =>
    obtain ⟨t, rfl, ht⟩ := (hC m List.mem_cons_self).cases
    rw [Markup.printAll, List.append_assoc] at hmark ⊢
    have hrest : '\uFEFF' ∉ Markup.printAll C ++ rest := fun h => hmark (List.mem_append_right _ h)
    have hfeed : State.feed { prologue isOldStyle mode forest with textMode? := none, interrupts := false } (.comment t) =
        prologue isOldStyle mode (forest.addNode Forest.document (.comment t)) := feed_prologue_comment hmode t
    rw [construct_eq_of_feed starts rfl (print_comment_ne_nil t _) hrest (lex_print_comment ht _) hfeed rfl,
      ih (fun n hn => hC n (List.mem_cons_of_mem _ hn)) hrest, Forest.addAll, Forest.add]

theorem getD_identifier? (id : String) : (identifier? id).getD "" = id := by
  rw [identifier?]
  split
  · next h => rw [h]; rfl
  · rfl

/-- **The document type** decides whether the document is of an old kind. -/
theorem read_prologue_doctype (h : IsReadableDoctype name publicId systemId) (hmark : '\uFEFF' ∉ rest) :
    construct starts .markup ((Markup.doctype name publicId systemId).print ++ rest)
        (prologue isOldStyle .initial forest) =
      construct starts .markup rest (prologue (announcesOldStyle (doctypeOf name publicId systemId)) .beforeHtml
        (forest.addNode Forest.document (.doctype name publicId systemId))) := by
  have hne : (Markup.doctype name publicId systemId).print ++ rest ≠ [] := by
    rw [Markup.print, printDoctype_append]
    exact List.cons_ne_nil _ _
  have hlex : lex .markup false ((Markup.doctype name publicId systemId).print ++ rest) =
      ⟨[.doctype (doctypeOf name publicId systemId)], rest, .markup⟩ := by
    rw [Markup.print]
    exact lex_doctype h false rest
  -- An identifier that is not written is read as an empty one.
  have hfeed : State.feed { prologue isOldStyle .initial forest with textMode? := none, interrupts := false }
      (.doctype (doctypeOf name publicId systemId)) = prologue (announcesOldStyle (doctypeOf name publicId systemId))
        .beforeHtml (forest.addNode Forest.document (.doctype name ((identifier? publicId).getD "")
          ((identifier? systemId).getD ""))) := rfl
  rw [getD_identifier?, getD_identifier?] at hfeed
  exact construct_eq_of_feed starts rfl hne hmark hlex hfeed rfl

/-! ### The start of the head -/

/-- The nodes with a new document element. -/
def withHtml (forest : Forest) (as : List Attribute) : Forest :=
  forest.addNode Forest.document (.element .html "html" as none)

/-- The state behind the start tag of the document element. -/
def inHtml (isOldStyle : Bool) (forest : Forest) (as : List Attribute) : State :=
  { prologue isOldStyle .beforeHead (withHtml forest as) with stack := [forest.cells.size] }

/-- **The start tag of the document element.** Where no document type came, the document is of an old kind. -/
theorem read_htmlTag (hmode : mode ∈ [Mode.initial, .beforeHtml]) (htag : IsReadableTag "html" as)
    (hmark : '\uFEFF' ∉ behindTag "html" F rest) :
    construct starts .markup ((Markup.element "html" as F).print ++ rest) (prologue isOldStyle mode forest) =
      construct starts .markup (behindTag "html" F rest) (inHtml (mode == .initial || isOldStyle) forest as) := by
  have hfeed : State.feed { prologue isOldStyle mode forest with textMode? := none, interrupts := false }
      (.tag ⟨false, "html", as, false⟩) = inHtml (mode == .initial || isOldStyle) forest as := by
    simp only [List.mem_cons, List.not_mem_nil, or_false] at hmode
    rcases hmode with rfl | rfl <;> rfl
  exact construct_eq_of_feed starts rfl (print_element_ne_nil _ _ _ _) hmark (lex_print_element htag _ _) hfeed rfl

/-- The nodes with a new document element and a head in it. -/
def withHead (forest : Forest) (as as' : List Attribute) : Forest :=
  (withHtml forest as).addNode forest.cells.size (.element .html "head" as' none)

theorem size_withHtml (forest : Forest) (as : List Attribute) :
    (withHtml forest as).cells.size = forest.cells.size + 1 := Forest.size_addNode _ _

/-- The elements that are open in the head. -/
def headPath (forest : Forest) : List (Nat × String) := [(forest.cells.size + 1, "head"), (forest.cells.size, "html")]

/-- The state behind the start tag of the head. -/
def inHead (isOldStyle : Bool) (forest : Forest) (as as' : List Attribute) : State :=
  { inHtml isOldStyle forest as with
    forest := withHead forest as as'
    stack := [forest.cells.size + 1, forest.cells.size]
    mode := .inHead
    head? := some (forest.cells.size + 1) }

/-- The document element is the place of what follows it. -/
theorem hosts_inHtml (hpos : Forest.document < forest.cells.size) (isOldStyle : Bool) (as : List Attribute) :
    Hosts (inHtml isOldStyle forest as) forest.cells.size :=
  ⟨rfl, rfl, "html", as, Forest.content?_addNode_self hpos⟩

theorem stands_inHead (hpos : Forest.document < forest.cells.size) (isOldStyle : Bool) (as as' : List Attribute) :
    Stands isOldStyle (headPath forest) (withHead forest as as') (inHead isOldStyle forest as as') := by
  have hlt := (hosts_inHtml hpos isOldStyle as).lt_size
  have hhead : _ = some (Content.element .html "head" as' none) := Forest.content?_addNode_self hlt
  rw [show (inHtml isOldStyle forest as).forest = withHtml forest as from rfl, size_withHtml] at hhead
  -- The document element is still there when the head is added to it.
  have hhtml := Forest.keeps_addNode hlt (.element .html "head" as' none) _ _ _ _ _ (Forest.content?_addNode_self hpos)
  refine ⟨⟨rfl, by simp [inHead], ?_, ?_, ?_, rfl, rfl, rfl, rfl, rfl, rfl, rfl, rfl⟩, rfl, rfl⟩
  · intro e he
    simp only [headPath, List.mem_cons, List.not_mem_nil, or_false] at he
    rcases he with rfl | rfl
    · exact ⟨as', hhead⟩
    · exact ⟨as, hhtml⟩
  · intro e he
    simp only [headPath, List.mem_cons, List.not_mem_nil, or_false] at he
    rcases he with rfl | rfl
    · exact (by decide : "head" ≠ "template")
    · exact (by decide : "html" ≠ "template")
  · exact .skip (show "head" ∉ markerNames by decide) (.skip (show "html" ∉ markerNames by decide) .nil)

theorem run_createHead (hpos : Forest.document < forest.cells.size) (as : List Attribute) {tag : Tag}
    (hname : tag.name = "head") (interrupts : Bool) :
    (createHead tag).run { inHtml isOldStyle forest as with interrupts := interrupts } =
      ((), { inHead isOldStyle forest as tag.attributes with mode := .beforeHead, interrupts := interrupts }) := by
  have hhtml := hosts_inHtml hpos isOldStyle as
  have hosts : Hosts ({ inHtml isOldStyle forest as with interrupts := interrupts } : State) forest.cells.size :=
    ⟨hhtml.stack, hhtml.fosters, hhtml.content⟩
  rw [createHead, Build.run_bind, hosts.run_insertElement (by rw [hname]; decide), hname]
  -- The head is the next node, which is also remembered as the head.
  show ((), { inHtml isOldStyle forest as with
    forest := withHead forest as tag.attributes
    stack := [(withHtml forest as).cells.size, forest.cells.size]
    head? := some (withHtml forest as).cells.size
    interrupts := interrupts }) = _
  rw [size_withHtml]
  rfl

/-- **The start tag of the head.** -/
theorem read_headTag (hpos : Forest.document < forest.cells.size) {as' : List Attribute} (htag : IsReadableTag "head" as')
    (hmark : '\uFEFF' ∉ behindTag "head" F rest) :
    construct starts .markup ((Markup.element "head" as' F).print ++ rest) (inHtml isOldStyle forest as) =
      construct starts .markup (behindTag "head" F rest) (inHead isOldStyle forest as as') := by
  have hforeign := (hosts_inHtml hpos isOldStyle as).isInForeign_eq
  -- The rule does nothing else than to open the head.
  have hrules : (rulesOf .beforeHead (.tag ⟨false, "head", as', false⟩)).run
      { inHtml isOldStyle forest as with interrupts := false } = (.done, inHead isOldStyle forest as as') := by
    show (do createHead ⟨false, "head", as', false⟩; setMode .inHead; return .done : Build Outcome).run _ = _
    rw [Build.run_bind, run_createHead hpos as rfl]
    rfl
  have hyields : Yields (rulesOf (inHtml isOldStyle forest as).mode (.tag ⟨false, "head", as', false⟩))
      (inHtml isOldStyle forest as) (· = inHead isOldStyle forest as as') := ⟨_, hrules, rfl⟩
  have hfeed : State.feed { inHtml isOldStyle forest as with textMode? := none, interrupts := false }
      (.tag ⟨false, "head", as', false⟩) = inHead isOldStyle forest as as' :=
    (hyields.settles (isForeign_eq_false hforeign _)).feed (.inr rfl) rfl
  exact construct_eq_of_feed starts hforeign (print_element_ne_nil _ _ _ _) hmark (lex_print_element htag _ _) hfeed rfl

/-! ### Implied elements -/

/-- A token that implies a head where there is none. -/
def impliesHead : Token → Bool
  | .text _ | .endOfInput => true
  | .tag tag => !tag.isEnd && !(["head", "html"].contains tag.name)
  | _ => false

/-- A token that implies a body behind a head. -/
def impliesBody : Token → Bool
  | .text _ | .endOfInput => true
  | .tag tag => !tag.isEnd && !(["body", "frameset", "head", "html", "noscript"] ++ metadataNames).contains tag.name
  | _ => false

theorem contains_of_subset {names others : List String} (hsub : ∀ n ∈ names, n ∈ others)
    (h : others.contains name = false) : names.contains name = false := by
  rw [← Bool.not_eq_true, List.contains_iff_mem] at h ⊢
  exact fun hmem => h (hsub name hmem)

theorem impliesHead_of_impliesBody (h : impliesBody token) : impliesHead token := by
  cases token with
  | tag tag =>
    rw [impliesBody, Bool.and_eq_true, Bool.not_eq_true', Bool.not_eq_true'] at h
    rw [impliesHead, h.1, contains_of_subset (by decide) h.2]
    rfl
  | text => rfl
  | endOfInput => rfl
  | _ => cases h

theorem run_beforeHtmlRules (h : impliesHead token) (s : State) :
    (beforeHtmlRules token).run s =
      (do createHtml (.start "html"); return .again .beforeHead : Build Outcome).run s := by
  cases token with
  | tag tag =>
    rw [impliesHead, Bool.and_eq_true, Bool.not_eq_true', Bool.not_eq_true'] at h
    have hopens : tag.opens ["html"] = false := by
      rw [Tag.opens, contains_of_subset (by decide) h.2, Bool.and_false]
    have hidle : isIdleEnd (.tag tag) implyingEndNames = false := by rw [isIdleEnd, h.1, Bool.false_and]
    rw [beforeHtmlRules, hidle, hopens]
    rfl
  | text => rfl
  | endOfInput => rfl
  | _ => cases h

theorem run_beforeHeadRules (h : impliesHead token) (s : State) :
    (beforeHeadRules token).run s = (do createHead (.start "head"); return .again .inHead : Build Outcome).run s := by
  cases token with
  | tag tag =>
    rw [impliesHead, Bool.and_eq_true, Bool.not_eq_true', Bool.not_eq_true'] at h
    -- The tag is none of those with rules of their own.
    have hopens (names : List String) (hsub : ∀ n ∈ names, n ∈ ["head", "html"]) : tag.opens names = false := by
      rw [Tag.opens, contains_of_subset hsub h.2, Bool.and_false]
    have hidle : isIdleEnd (.tag tag) implyingEndNames = false := by rw [isIdleEnd, h.1, Bool.false_and]
    rw [beforeHeadRules, hopens _ (by decide), hopens _ (by decide), hidle]
    rfl
  | text => rfl
  | endOfInput => rfl
  | _ => cases h

/-- **A head is implied** by what cannot stand in front of it. -/
theorem ready_implied_head (hpos : Forest.document < forest.cells.size) (h : impliesHead token) :
    Ready true (headPath forest) (withHead forest [] []) token (prologue false .initial forest) where
  foreign := rfl
  textMode := rfl
  line h := by cases h
  leads interrupts := by
    have hinitial : (rulesOf .initial token).run ((prologue false .initial forest).rested interrupts) =
        (.again .beforeHtml, { prologue true .initial forest with interrupts := interrupts }) := by
      cases token <;> first | rfl | cases h
    have hhtml : (rulesOf .beforeHtml token).run { prologue true .beforeHtml forest with interrupts := interrupts } =
        (.again .beforeHead, { inHtml true forest [] with mode := .beforeHtml, interrupts := interrupts }) := by
      rw [rulesOf, run_beforeHtmlRules h]
      rfl
    have hhead : (rulesOf .beforeHead token).run { inHtml true forest [] with interrupts := interrupts } =
        (.again .inHead, { inHead true forest [] [] with mode := .beforeHead, interrupts := interrupts }) := by
      rw [rulesOf, run_beforeHeadRules h, Build.run_bind, run_createHead hpos [] rfl]
      rfl
    have hosts := hosts_inHtml hpos true []
    have hosts' : Hosts ({ inHtml true forest [] with interrupts := interrupts } : State) forest.cells.size :=
      ⟨hosts.stack, hosts.fosters, hosts.content⟩
    -- The rules change three times, and build the document element and the head on the way.
    have h₁ : Leads 1 token ((prologue false .initial forest).rested interrupts)
        { prologue true .beforeHtml forest with interrupts := interrupts } := leads_of_again rfl hinitial rfl
    have h₂ : Leads 1 token { prologue true .beforeHtml forest with interrupts := interrupts }
        { inHtml true forest [] with interrupts := interrupts } := leads_of_again rfl hhtml rfl
    have h₃ : Leads 1 token { inHtml true forest [] with interrupts := interrupts }
        { inHead true forest [] [] with interrupts := interrupts } :=
      leads_of_again (isForeign_eq_false hosts'.isInForeign_eq token) hhead rfl
    refine ⟨{ inHead true forest [] [] with interrupts := interrupts }, 3, Nat.le_refl 3, (h₁.trans h₂).trans h₃, ?_⟩
    have hstands := stands_inHead hpos true [] []
    exact hstands.grown (.refl _) ⟨rfl, rfl, rfl, rfl, rfl, rfl, rfl, rfl, rfl, rfl⟩ rfl rfl

theorem impliesBody_tag {tag : Tag} (h : impliesBody (.tag tag)) : tag.isEnd = false ∧
    ∀ names : List String, (∀ n ∈ names, n ∈ ["body", "frameset", "head", "html", "noscript"] ++ metadataNames) →
      tag.opens names = false ∧ tag.closes names = false := by
  rw [impliesBody, Bool.and_eq_true, Bool.not_eq_true', Bool.not_eq_true'] at h
  refine ⟨h.1, fun names hsub => ⟨?_, tag.closes_of_start h.1 names⟩⟩
  rw [Tag.opens, contains_of_subset hsub h.2, Bool.and_false]

theorem run_inHeadRules (h : impliesBody token) (s : State) :
    (inHeadRules token).run s = (do pop; return .again .afterHead : Build Outcome).run s := by
  cases token with
  | tag tag =>
    obtain ⟨hstart, hnames⟩ := impliesBody_tag h
    have hidle : isIdleEnd (.tag tag) ["body", "html", "br"] = false := by rw [isIdleEnd, hstart, Bool.false_and]
    rw [inHeadRules, (hnames ["html"] (by decide)).1, (hnames ("noscript" :: metadataNames) (by decide)).1,
      (hnames ["template"] (by decide)).2, (hnames ["head"] (by decide)).1, (hnames ["head"] (by decide)).2, hidle]
    rfl
  | text => rfl
  | endOfInput => rfl
  | _ => cases h

theorem run_afterHeadRules (h : impliesBody token) (s : State) :
    (afterHeadRules token).run s = (do insertImplied "body"; return .again .inBody : Build Outcome).run s := by
  cases token with
  | tag tag =>
    obtain ⟨hstart, hnames⟩ := impliesBody_tag h
    have hidle : isIdleEnd (.tag tag) ["body", "html", "br"] = false := by rw [isIdleEnd, hstart, Bool.false_and]
    rw [afterHeadRules, (hnames ["html"] (by decide)).1, (hnames ["body"] (by decide)).1,
      (hnames ["frameset"] (by decide)).1, (hnames metadataNames (by decide)).1, (hnames ["template"] (by decide)).2,
      (hnames ["head"] (by decide)).1, hidle]
    rfl
  | text => rfl
  | endOfInput => rfl
  | _ => cases h

/-- The nodes with a new body in the document element. -/
def withBody (html : Nat) (as : List Attribute) (forest : Forest) : Forest :=
  forest.addNode html (.element .html "body" as none)

/-- Behind the head only the document element is open. -/
theorem Stands.closes_head (hs : Stands isOldStyle [(head, "head"), (html, "html")] forest s) :
    Stands isOldStyle [(html, "html")] forest { s with stack := s.stack.tail, mode := .afterHead } := by
  have hcloses := hs.opened.closes_unmarked (by decide : "head" ∉ markerNames) (by decide : "head" ∉ shapingNames)
    (by decide : "head" ≠ "form") (show Mode.afterHead = _ from rfl)
  exact ⟨hcloses.opened, hs.forest, hs.skips⟩

/-- A body is open in the document element. -/
theorem Stands.opens_body (hs : Stands isOldStyle [(html, "html")] forest s) (as : List Attribute) (framesetOk : Bool) :
    Stands isOldStyle [(forest.cells.size, "body"), (html, "html")] (withBody html as forest) { s with
      forest := s.forest.addNode html (.element .html "body" as none)
      stack := s.forest.cells.size :: s.stack
      mode := .inBody
      framesetOk := framesetOk } := by
  have hforest := hs.forest
  subst hforest
  refine ⟨hs.opened.opened (by decide) rfl rfl ?_ rfl ?_ ⟨rfl, rfl, rfl, rfl, rfl, rfl⟩, rfl, hs.skips⟩
  · exact .skip (show "body" ∉ markerNames by decide) hs.opened.formatting
  · rw [if_neg (by decide)]

/-- **A body is implied** by what cannot stand in front of it. -/
theorem Stands.implied_body (hs : Stands isOldStyle [(head, "head"), (html, "html")] forest s) (h : impliesBody token) :
    ∃ s', Leads 2 token s s' ∧
      Stands isOldStyle [(forest.cells.size, "body"), (html, "html")] (withBody html [] forest) s' := by
  have hclosed := hs.closes_head
  have hpop : (rulesOf s.mode token).run s = (.again .afterHead, { s with stack := s.stack.tail }) :=
    (congrArg (fun mode => (rulesOf mode token).run s) hs.opened.mode).trans (run_inHeadRules h s)
  have h₁ : Leads 1 token s { s with stack := s.stack.tail, mode := .afterHead } :=
    leads_of_again (isForeign_eq_false hs.opened.isInForeign_eq token) hpop rfl
  -- From here on, all that counts is what is open behind the head.
  generalize ({ s with stack := s.stack.tail, mode := .afterHead } : State) = near at hclosed h₁
  have hopened := hclosed.opens_body [] near.framesetOk
  have hinsert : (rulesOf near.mode token).run near = (.again .inBody, { near with
      forest := near.forest.addNode html (.element .html "body" [] none)
      stack := near.forest.cells.size :: near.stack }) := by
    refine (congrArg (fun mode => (rulesOf mode token).run near) hclosed.opened.mode).trans ?_
    refine (run_afterHeadRules h near).trans ?_
    rw [insertImplied, Build.run_bind, hclosed.opened.hosts.run_insertElement (by decide)]
    rfl
  have h₂ := leads_of_again (isForeign_eq_false hclosed.opened.isInForeign_eq token) hinsert rfl
  exact ⟨_, h₁.trans h₂, hopened⟩

/-- What is led to a head is led to the body behind it. -/
theorem Ready.implied_body (hs : Ready isOldStyle [(head, "head"), (html, "html")] forest token s)
    (h : impliesBody token) :
    Ready isOldStyle [(forest.cells.size, "body"), (html, "html")] (withBody html [] forest) token s where
  foreign := hs.foreign
  textMode := hs.textMode
  line := hs.line
  leads interrupts := by
    obtain ⟨w, k, hk, hleads, hw⟩ := hs.leads interrupts
    obtain ⟨w', hleads', hw'⟩ := hw.implied_body h
    have hk' : k ≤ 3 := hk
    exact ⟨w', 2 + k, by show 2 + k ≤ 5; omega, hleads.trans hleads', hw'⟩

/-- The end of the text changes nothing in a body. -/
theorem Ready.feed_end (hs : Ready isOldStyle [(head, "body"), (html, "html")] forest .endOfInput s) :
    (s.feed .endOfInput).forest = forest := by
  have hsame : ({ s with textMode? := none, interrupts := s.interrupts } : State) = s := by rw [← hs.textMode]
  have hfeed := hs.feed (Q := fun s' => s'.forest = forest) (.inr rfl) (fun w hw => hw.settles ?_) s.interrupts
  · rwa [hsame] at hfeed
  · rw [hw.opened.mode]
    show Yields (bodyRules .endOfInput) w _
    rw [bodyRules]
    refine .bind (Build.run_get w) (.ite (fun _ => .done hw.forest) fun h => ?_)
    rw [hw.opened.templateModes] at h
    exact absurd rfl h

/-! ### Between the head and the body -/

/-- **The end tag of the head.** -/
theorem Ready.read_headEnd (hs : Ready isOldStyle [(head, "head"), (html, "html")] forest (endToken "head") s)
    (starts : List Nat) (hmark : '\uFEFF' ∉ rest) :
    ∃ s', construct starts .markup (endTag "head" rest) s = construct starts .markup rest s' ∧
      Stands isOldStyle [(html, "html")] forest s' := by
  refine hs.read_endTag starts (by decide) hmark fun w hw => ?_
  have hrun : (rulesOf w.mode (endToken "head")).run w = (.done, { w with stack := w.stack.tail, mode := .afterHead }) :=
    (congrArg (fun mode => (rulesOf mode (endToken "head")).run w) hw.opened.mode).trans rfl
  exact ⟨_, hrun, hw.closes_head⟩

/-- A comment between a head and a body. -/
theorem Stands.read_commentBetween (hs : Stands isOldStyle [(html, "html")] forest s) (starts : List Nat)
    (ht : IsCommentText t.toList) (hmark : '\uFEFF' ∉ rest) :
    ∃ s', construct starts .markup ((Markup.comment t).print ++ rest) s = construct starts .markup rest s' ∧
      Stands isOldStyle [(html, "html")] (forest.add html (.comment t)) s' := by
  have hyields (w : State) (hw : Stands isOldStyle [(html, "html")] forest w) :
      Yields (rulesOf w.mode (.comment t)) w
        (Stands isOldStyle [(html, "html")] (forest.addNode html (.comment t))) := by
    rw [hw.opened.mode]
    exact .bind (hw.opened.hosts.run_insertComment t) (.done (hw.withComment t))
  obtain ⟨s', hread, hs'⟩ := (hs.ready (.comment t)).read starts (print_comment_ne_nil t rest) hmark
    (lex_print_comment ht rest) (.inr rfl) fun w hw => hw.settles (hyields w hw)
  rw [hs'.opened.textMode] at hread
  exact ⟨s', hread, by rw [Forest.add]; exact hs'⟩

/-- Blank text between a head and a body. -/
theorem Stands.read_blanksBetween (hs : Stands isOldStyle [(html, "html")] forest s) (starts : List Nat)
    (hne : t.toList ≠ []) (hblank : t.toList.all isMarkupBlank) (hends : EndsText rest) (hmark : '\uFEFF' ∉ rest) :
    ∃ s', construct starts .markup ((Markup.text t).print ++ rest) s = construct starts .markup rest s' ∧
      Stands isOldStyle [(html, "html")] (forest.add html (.text t)) s' := by
  have hyields (w : State) (hw : Stands isOldStyle [(html, "html")] forest w) :
      Yields (rulesOf w.mode (.blanks t)) w (Stands isOldStyle [(html, "html")] (forest.appendText html t)) := by
    rw [hw.opened.mode]
    exact .bind (hw.opened.hosts.run_insertText t) (.done (hw.withText t))
  obtain ⟨s', hread, hs'⟩ := (hs.ready (.blanks t)).read starts (escapeText_append_ne_nil hne _) hmark
    (lex_blankText hne hblank hends) (.inl rfl) fun w hw => hw.settles (hyields w hw)
  rw [hs'.opened.textMode] at hread
  rw [Markup.print, Forest.add]
  exact ⟨s', hread, hs'⟩

/-- **What stands between a head and a body.** -/
theorem Stands.read_between (starts : List Nat) : ∀ {W : List Markup} {forest : Forest} {s : State},
    Stands isOldStyle [(html, "html")] forest s → Markup.AreBetween W → isMarkupStart rest →
    '\uFEFF' ∉ Markup.printAll W ++ rest →
    ∃ s', construct starts .markup (Markup.printAll W ++ rest) s = construct starts .markup rest s' ∧
      Stands isOldStyle [(html, "html")] (forest.addAll html W) s'
  | [], forest, s, hs, _, _, _ => by
    rw [Forest.addAll]
    exact ⟨s, rfl, hs⟩
  | m :: W, forest, s, hs, hW, hrest, hmark => by
    rw [Markup.AreBetween] at hW
    obtain ⟨hm, hapart, hW⟩ := hW
    rw [Markup.printAll, List.append_assoc] at hmark ⊢
    have hmark' : '\uFEFF' ∉ Markup.printAll W ++ rest := fun h => hmark (List.mem_append_right _ h)
    -- Only comments and blank texts stand here.
    obtain ⟨s₁, hread₁, hs₁⟩ : ∃ s', construct starts .markup (m.print ++ (Markup.printAll W ++ rest)) s =
        construct starts .markup (Markup.printAll W ++ rest) s' ∧
        Stands isOldStyle [(html, "html")] (forest.add html m) s' := by
      cases m with
      | doctype => exact hm.elim
      | element => exact hm.elim
      | comment t => exact hs.read_commentBetween starts hm hmark'
      | text t =>
        have hne : t.toList ≠ [] := fun h => hm.1 (String.toList_eq_nil_iff.1 h)
        exact hs.read_blanksBetween starts hne hm.2 (hW.endsText (hapart rfl) hrest) hmark'
    obtain ⟨s₂, hread₂, hs₂⟩ := Stands.read_between starts hs₁ hW hrest hmark'
    exact ⟨s₂, hread₁.trans hread₂, by rw [Forest.addAll]; exact hs₂⟩

/-- **The start tag of the body.** -/
theorem Stands.read_bodyTag (hs : Stands isOldStyle [(html, "html")] forest s) (starts : List Nat)
    (htag : IsReadableTag "body" as) (hmark : '\uFEFF' ∉ behindTag "body" F rest) :
    ∃ s', construct starts .markup ((Markup.element "body" as F).print ++ rest) s =
        construct starts .markup (behindTag "body" F rest) s' ∧
      Stands isOldStyle [(forest.cells.size, "body"), (html, "html")] (withBody html as forest) s' := by
  have hyields (w : State) (hw : Stands isOldStyle [(html, "html")] forest w) :
      Yields (rulesOf w.mode (.tag ⟨false, "body", as, false⟩)) w
        (Stands isOldStyle [(forest.cells.size, "body"), (html, "html")] (withBody html as forest)) := by
    refine ⟨_, (congrArg (fun mode => (rulesOf mode (.tag ⟨false, "body", as, false⟩)).run w) hw.opened.mode).trans ?_,
      hw.opens_body as false⟩
    show (do
      insertElement ⟨false, "body", as, false⟩; forbidFrameset; setMode .inBody; return .done : Build Outcome).run w = _
    rw [Build.run_bind, hw.opened.hosts.run_insertElement (show "body" ≠ "template" by decide)]
    rfl
  obtain ⟨s', hread, hs'⟩ := (hs.ready (.tag ⟨false, "body", as, false⟩)).read starts
    (print_element_ne_nil "body" as F rest) hmark (lex_print_element htag F rest) (.inr rfl)
    fun w hw => hw.settles (hyields w hw)
  rw [hs'.opened.textMode] at hread
  exact ⟨s', hread, hs'⟩

/-! ### Behind the body -/

/-- A state behind the body: everything is as in the body but for the rules in force. -/
structure Behind (isOldStyle : Bool) (body html : Nat) (mode : Mode) (forest : Forest) (s : State) : Prop where
  mode : s.mode = mode
  stands : Stands isOldStyle [(body, "body"), (html, "html")] forest { s with mode := .inBody }

variable {body : Nat} {mode' : Mode} {forest' : Forest}

/-- The document element is a node of the forest. -/
theorem Stands.html_lt_size (hs : Stands isOldStyle [(body, "body"), (html, "html")] forest s) :
    html < forest.cells.size := by
  rw [← hs.forest]
  refine hs.opened.lt_size html ?_
  rw [hs.opened.stack]
  exact List.mem_cons_of_mem _ List.mem_cons_self

theorem Behind.isInForeign_eq (hs : Behind isOldStyle body html mode forest s) : s.isInForeign = false :=
  hs.stands.opened.isInForeign_eq

/-- A construct behind the body. -/
theorem Behind.read (hs : Behind isOldStyle body html mode forest s) (starts : List Nat) (hne : text ≠ [])
    (hmark : '\uFEFF' ∉ rest) (hlex : lex .markup false text = ⟨[token], rest, .markup⟩) (htoken : token.isMarkup)
    (h : ∀ w, Behind isOldStyle body html mode forest w →
      Yields (rulesOf w.mode token) w (Behind isOldStyle body html mode' forest')) :
    ∃ s', construct starts .markup text s = construct starts .markup rest s' ∧
      Behind isOldStyle body html mode' forest' s' := by
  -- Resting a reader that is at rest changes nothing.
  have hrested : Behind isOldStyle body html mode forest { s with textMode? := none, interrupts := false } := by
    refine ⟨hs.mode, hs.stands.grown (.refl _) ⟨rfl, rfl, rfl, rfl, rfl, rfl, rfl, rfl, rfl, ?_⟩ hs.stands.forest rfl⟩
    exact hs.stands.opened.textMode.symm
  have hfeed := ((h _ hrested).settles (isForeign_eq_false hrested.isInForeign_eq token)).feed (.inr htoken)
    hs.stands.skips
  exact ⟨_, construct_eq_of_feed starts hs.isInForeign_eq hne hmark hlex rfl hfeed.stands.opened.textMode, hfeed⟩

/-- **The end tag of the body.** -/
theorem Ready.read_bodyEnd (hs : Ready isOldStyle [(body, "body"), (html, "html")] forest (endToken "body") s)
    (starts : List Nat) (hmark : '\uFEFF' ∉ rest) :
    ∃ s', construct starts .markup (endTag "body" rest) s = construct starts .markup rest s' ∧
      Behind isOldStyle body html .afterBody forest s' := by
  have hyields (w : State) (hw : Stands isOldStyle [(body, "body"), (html, "html")] forest w) :
      Yields (rulesOf w.mode (endToken "body")) w (Behind isOldStyle body html .afterBody forest) := by
    -- Only the body and the document element are open, so nothing else is closed.
    have hopen : w.isOpenNamed ElementName.bounds ["body"] = true := hw.opened.isOpenNamed_head rfl _
    have hrun : (bodyEndRules ⟨true, "body", [], false⟩).run w =
        (do if w.isOpenNamed ElementName.bounds ["body"] then setMode .afterBody
            return .done : Build Outcome).run w := rfl
    rw [hopen] at hrun
    refine ⟨{ w with mode := .afterBody }, (congrArg (fun mode => (rulesOf mode (endToken "body")).run w)
      hw.opened.mode).trans hrun, rfl, ?_⟩
    exact hw.grown (.refl _) ⟨rfl, rfl, hw.opened.mode.symm, rfl, rfl, rfl, rfl, rfl, rfl, rfl⟩ hw.forest rfl
  obtain ⟨s', hread, hs'⟩ := hs.read starts (List.cons_ne_nil _ _) hmark (lex_endTag (by decide) false rest) (.inr rfl)
    fun w hw => hw.settles (hyields w hw)
  have hmode : s'.textMode? = none := hs'.stands.opened.textMode
  rw [hmode] at hread
  exact ⟨s', hread, hs'⟩

/-- A comment behind the body goes to a node of its own. -/
theorem Behind.withComment (hs : Behind isOldStyle body html mode forest s) {parent : Nat}
    (hparent : parent < forest.cells.size) (t : String) :
    Behind isOldStyle body html mode (forest.addNode parent (.comment t))
      { s with forest := s.forest.addNode parent (.comment t) } := by
  have hforest : s.forest = forest := hs.stands.forest
  refine ⟨hs.mode, hs.stands.grown (Forest.keeps_addNode hparent _) ⟨rfl, rfl, rfl, rfl, rfl, rfl, rfl, rfl, rfl, rfl⟩ ?_
    rfl⟩
  show s.forest.addNode parent (.comment t) = _
  rw [hforest]

/-- **Comments** behind the body. -/
theorem Behind.read_comments (starts : List Nat) {parent : Nat} (hrules : ∀ (t : String) (forest : Forest) (w : State),
      Behind isOldStyle body html mode forest w →
      (rulesOf w.mode (.comment t)).run w = (.done, { w with forest := w.forest.addNode parent (.comment t) })) :
    ∀ {C : List Markup} {forest : Forest} {s : State}, Behind isOldStyle body html mode forest s →
    parent < forest.cells.size → (∀ m ∈ C, m.IsComment) → '\uFEFF' ∉ Markup.printAll C ++ rest →
    ∃ s', construct starts .markup (Markup.printAll C ++ rest) s = construct starts .markup rest s' ∧
      Behind isOldStyle body html mode (forest.addAll parent C) s'
  | [], forest, s, hs, _, _, _ => by
    rw [Forest.addAll]
    exact ⟨s, rfl, hs⟩
  | m :: C, forest, s, hs, hparent, hC, hmark => by
    obtain ⟨t, rfl, ht⟩ := (hC m List.mem_cons_self).cases
    rw [Markup.printAll, List.append_assoc] at hmark ⊢
    have hmark' : '\uFEFF' ∉ Markup.printAll C ++ rest := fun h => hmark (List.mem_append_right _ h)
    obtain ⟨s₁, hread₁, hs₁⟩ := hs.read starts (print_comment_ne_nil t _) hmark' (lex_print_comment ht _) rfl
      fun w hw => ⟨_, hrules t forest w hw, hw.withComment hparent t⟩
    -- Nodes are only added, so the parent is still one.
    have hsize : parent < (forest.addNode parent (.comment t)).cells.size := by
      rw [Forest.size_addNode]
      exact Nat.lt_succ_of_lt hparent
    obtain ⟨s₂, hread₂, hs₂⟩ := Behind.read_comments starts hrules hs₁ hsize
      (fun n hn => hC n (List.mem_cons_of_mem _ hn)) hmark'
    exact ⟨s₂, hread₁.trans hread₂, by rw [Forest.addAll, Forest.add]; exact hs₂⟩

/-- Comments behind the body are in the document element. -/
theorem Behind.run_comment_afterBody (hs : Behind isOldStyle body html .afterBody forest s) (t : String) :
    (rulesOf s.mode (.comment t)).run s = (.done, { s with forest := s.forest.addNode html (.comment t) }) := by
  have hstack : s.stack = [body, html] := hs.stands.opened.stack
  have hhtml : s.htmlNode = html := by rw [State.htmlNode, hstack]; rfl
  refine (congrArg (fun mode => (rulesOf mode (.comment t)).run s) hs.mode).trans ?_
  show (Outcome.done, { s with forest := s.forest.addNode s.htmlNode (.comment t) }) = _
  rw [hhtml]

/-- Comments behind the document element are in the document. -/
theorem Behind.run_comment_afterAfterBody (hs : Behind isOldStyle body html .afterAfterBody forest s) (t : String) :
    (rulesOf s.mode (.comment t)).run s =
      (.done, { s with forest := s.forest.addNode Forest.document (.comment t) }) :=
  (congrArg (fun mode => (rulesOf mode (.comment t)).run s) hs.mode).trans rfl

/-- **The end tag of the document element.** -/
theorem Behind.read_htmlEnd (hs : Behind isOldStyle body html .afterBody forest s) (starts : List Nat)
    (hmark : '\uFEFF' ∉ rest) :
    ∃ s', construct starts .markup (endTag "html" rest) s = construct starts .markup rest s' ∧
      Behind isOldStyle body html .afterAfterBody forest s' := by
  refine hs.read starts (List.cons_ne_nil _ _) hmark (lex_endTag (by decide) false rest) rfl fun w hw => ?_
  refine ⟨{ w with mode := .afterAfterBody }, (congrArg (fun mode => (rulesOf mode (endToken "html")).run w)
    hw.mode).trans rfl, rfl, hw.stands⟩

/-- The end of the text changes nothing behind the body. -/
theorem Behind.feed_end (hs : Behind isOldStyle body html .afterAfterBody forest s) :
    (s.feed .endOfInput).forest = forest := by
  have hyields : Yields (rulesOf s.mode .endOfInput) s fun s' => s'.forest = forest :=
    ⟨s, (congrArg (fun mode => (rulesOf mode .endOfInput).run s) hs.mode).trans rfl, hs.stands.forest⟩
  exact (hyields.settles (isForeign_eq_false hs.isInForeign_eq _)).feed (.inr rfl) hs.stands.skips

end Construction

end HtmlMail.Html
