import HtmlMail.Proofs.Html.Feeding
import HtmlMail.Proofs.Html.FirstNode
import Mathlib

/-!
# What a document begins with

A document begins with the first node that is made while its markup is read. Elements are moved about later, by the end
tags of formatting elements, in tables and for frames, but never the first node: it is a comment, a document type or the
document element, and elements of these kinds are not moved.

* `KeepsFront` : steps of construction that leave the first node where it is, among them all rules
  (`keepsFront_rulesOf`);
* `State.IsFresh`, `begins_feed` : before the first node is made, a token makes it or has no effect;
* `hasFront_construct` : behind a whole text there is a first node;
* `exists_readMarkupTree_eq` : the markup of a text begins with it.
-/

namespace HtmlMail.Html

open Dom

namespace Construction

open Std.Do

set_option mvcgen.warning false

/-! ### Steps -/

/-- **A step that leaves the first node where it is.** -/
abbrev KeepsFront {α : Type} (x : Build α) : Prop :=
  ⦃fun s => ⌜s.forest.HasFront⌝⦄ x ⦃⇓ _ s => ⌜s.forest.HasFront⌝⦄

/-- A step that also yields a node other than the first one. -/
abbrev YieldsBehind (x : Build Nat) : Prop :=
  ⦃fun s => ⌜s.forest.HasFront⌝⦄ x ⦃⇓ node s => ⌜s.forest.HasFront ∧ node ≠ Forest.front⌝⦄

section Steps

variable {s : State} {node : Nat} {names : List String}

/-- The first node is the document element or has no name. -/
theorem nameOf_front (h : s.forest.HasFront) :
    s.nameOf Forest.front = ⟨.html, "html"⟩ ∨ s.nameOf Forest.front = ⟨.html, ""⟩ := by
  obtain ⟨content, hcontent, hfront⟩ := (Option.any_eq_true _ _).1 h.isFront
  rw [State.nameOf, hcontent]
  cases content with
  | element ns name attributes content? =>
    obtain ⟨hns, hname⟩ := Bool.and_eq_true_iff.1 hfront
    rw [beq_iff_eq] at hns hname
    exact .inl (by rw [hns, hname])
  | container | doctype | text | comment => exact .inr rfl

theorem nameOf_document (h : s.forest.HasFront) : s.nameOf Forest.document = ⟨.html, ""⟩ := by
  rw [State.nameOf, h.container]

/-- A node with a name other than that of the document element is not the first one. -/
theorem ne_front_of_isHtml (h : s.forest.HasFront) (hnode : s.isHtml node names) (hhtml : "html" ∉ names)
    (hempty : "" ∉ names) : node ≠ Forest.front := by
  rintro rfl
  rcases nameOf_front h with hname | hname
  · rw [State.isHtml, hname] at hnode
    exact hhtml (List.contains_iff_mem.1 hnode)
  · rw [State.isHtml, hname] at hnode
    exact hempty (List.contains_iff_mem.1 hnode)

/-- What cannot stand in a table goes in front of a table. -/
theorem isHtml_of_fosterPlace {sibling : Nat} : ∀ {stack : List Nat}, s.fosterPlace stack = .before sibling →
    s.isHtml sibling ["table"]
  | [], h => by
    rw [State.fosterPlace] at h
    cases h
  | node :: rest, h => by
    rw [State.fosterPlace] at h
    split at h
    · rw [State.childrenPlace] at h
      split at h <;> cases h
    · split at h
      · -- A table that is itself a child is what the node goes in front of.
        next htable =>
        split at h
        · cases h
          exact htable
        · cases h
      · exact isHtml_of_fosterPlace h

theorem isHtml_of_placeIn {target sibling : Nat} (h : s.placeIn target = .before sibling) :
    s.isHtml sibling ["table"] := by
  rw [State.placeIn] at h
  split at h
  · exact isHtml_of_fosterPlace h
  · rw [State.childrenPlace] at h
    split at h <;> cases h

/-- A node put at its place. -/
theorem hasFront_putAt (h : s.forest.HasFront) (hnode : node ≠ Forest.front) (target : Nat) :
    (s.putAt (s.placeIn target) node).forest.HasFront := by
  cases hplace : s.placeIn target with
  | lastChildOf parent => exact h.append hnode parent
  | before sibling =>
    exact h.insertBefore hnode (ne_front_of_isHtml h (isHtml_of_placeIn hplace) (by decide) (by decide))

theorem hasFront_withText (h : s.forest.HasFront) (text : String) : (s.withText text).forest.HasFront := by
  rw [State.withText]
  split
  · exact h.appendText _ text
  · next sibling hplace =>
    exact h.insertTextBefore (ne_front_of_isHtml h (isHtml_of_placeIn hplace) (by decide) (by decide)) text

@[simp] theorem forest_withoutFormatting (s : State) (node : Nat) : (s.withoutFormatting node).forest = s.forest := by
  rw [State.withoutFormatting]
  split <;> rfl

@[simp] theorem forest_replaceFormatting (s : State) (node : Nat) (entry : FormattingEntry) :
    (s.replaceFormatting node entry).forest = s.forest := by
  rw [State.replaceFormatting]
  split <;> rfl

@[simp] theorem forest_placeFormatting (s : State) (old : Nat) (entry : FormattingEntry) (bookmark : Bookmark) :
    (s.placeFormatting old entry bookmark).forest = s.forest := by
  cases bookmark with
  | inPlace => exact forest_replaceFormatting s old entry
  | behind node =>
    rw [State.placeFormatting]
    split
    · rw [forest_withoutFormatting]
    · rfl

@[spec]
theorem yieldsBehind_createNode (content : Content) : YieldsBehind (createNode content) := by
  mvcgen [createNode]
  have h := ‹Forest.HasFront _›
  exact ⟨h.create content, Forest.create_ne_front h content⟩

@[spec]
theorem yieldsBehind_createElement (ns : Namespace) (name : String) (attributes : List Attribute) :
    YieldsBehind (createElement ns name attributes) := by
  mvcgen [createElement]
  exact ‹_ ∧ _›.1

@[spec]
theorem keepsFront_insertElementIn (ns : Namespace) (tag : Tag) (stays : Bool) :
    KeepsFront (insertElementIn ns tag stays) := by
  mvcgen [insertElementIn, push]
  all_goals exact hasFront_putAt ‹Forest.HasFront _ ∧ _›.1 ‹Forest.HasFront _ ∧ _›.2 _

@[spec]
theorem keepsFront_insertText (text : String) : KeepsFront (insertText text) := by
  mvcgen [insertText]
  exact hasFront_withText ‹_› text

@[spec]
theorem keepsFront_insertComment (text : String) : KeepsFront (insertComment text) := by
  mvcgen [insertComment]
  exact hasFront_putAt ‹Forest.HasFront _ ∧ _›.1 ‹Forest.HasFront _ ∧ _›.2 _

@[spec]
theorem keepsFront_insertCommentIn (parent : Nat) (text : String) : KeepsFront (insertCommentIn parent text) := by
  mvcgen [insertCommentIn]
  exact ‹Forest.HasFront _ ∧ _›.1.append ‹Forest.HasFront _ ∧ _›.2 parent

/-! ### Open elements -/

@[spec]
theorem keepsFront_insertElement (tag : Tag) : KeepsFront (insertElement tag) := by mvcgen [insertElement]

@[spec]
theorem keepsFront_insertVoid (tag : Tag) : KeepsFront (insertVoid tag) := by mvcgen [insertVoid]

@[spec]
theorem keepsFront_insertImplied (name : String) : KeepsFront (insertImplied name) := by mvcgen [insertImplied]

@[spec]
theorem keepsFront_insertTextElement (tag : Tag) (mode : TextMode) : KeepsFront (insertTextElement tag mode) := by
  mvcgen [insertTextElement]

@[spec]
theorem keepsFront_popUntilNamed (names : List String) : KeepsFront (popUntilNamed names) := by
  mvcgen [popUntilNamed, popUntil]

@[spec]
theorem keepsFront_popImpliedOf (names : List String) (except : String) : KeepsFront (popImpliedOf names except) := by
  mvcgen [popImpliedOf]

@[spec]
theorem keepsFront_popImplied : KeepsFront popImplied := by mvcgen [popImplied]

@[spec]
theorem keepsFront_popUntilCurrent (names : List String) : KeepsFront (popUntilCurrent names) := by
  mvcgen [popUntilCurrent]

@[spec]
theorem keepsFront_pop : KeepsFront pop := by mvcgen [pop]

@[spec]
theorem keepsFront_removeFromStack (node : Nat) : KeepsFront (removeFromStack node) := by mvcgen [removeFromStack]

@[spec]
theorem keepsFront_closeNamed (name : String) : KeepsFront (closeNamed name) := by mvcgen [closeNamed]

@[spec]
theorem keepsFront_closeOpenParagraph : KeepsFront closeOpenParagraph := by
  mvcgen [closeOpenParagraph, closeParagraph]

@[spec]
theorem keepsFront_setMode (mode : Mode) : KeepsFront (setMode mode) := by mvcgen [setMode]

@[spec]
theorem keepsFront_forbidFrameset : KeepsFront forbidFrameset := by mvcgen [forbidFrameset]

@[spec]
theorem keepsFront_insertMarker : KeepsFront insertMarker := by mvcgen [insertMarker]

@[spec]
theorem keepsFront_clearToMarker : KeepsFront clearToMarker := by mvcgen [clearToMarker]

/-! ### Formatting elements -/

@[spec]
theorem keepsFront_reopen (entries : List FormattingEntry) : KeepsFront (reopen entries) := by
  induction entries with
  | nil => mvcgen [reopen]
  | cons entry rest ih =>
    cases entry with
    | marker => mvcgen [reopen, ih]
    | element node tag =>
      mvcgen [reopen, ih]
      simpa +zetaDelta

@[spec]
theorem keepsFront_reconstruct : KeepsFront reconstruct := by mvcgen [reconstruct]

@[spec]
theorem keepsFront_insertFormatting (tag : Tag) : KeepsFront (insertFormatting tag) := by
  mvcgen [insertFormatting]
  all_goals simpa +zetaDelta

@[spec]
theorem keepsFront_closeGeneric (name : String) : KeepsFront (closeGeneric name) := by mvcgen [closeGeneric]

/-- What is built between a block and a formatting element is the block or new. -/
@[spec]
theorem yieldsBehind_renewBetween (block : Nat) (between : List Nat) (count last : Nat) (bookmark : Bookmark) :
    ⦃fun s => ⌜s.forest.HasFront ∧ last ≠ Forest.front⌝⦄ renewBetween block between count last bookmark
    ⦃⇓ built s => ⌜s.forest.HasFront ∧ built.1 ≠ Forest.front⌝⦄ := by
  induction between generalizing count last bookmark with
  | nil => mvcgen [renewBetween]
  | cons node rest ih =>
    mvcgen [renewBetween, ih]
    all_goals simp_all +zetaDelta [Forest.HasFront.append]

/-- Between an element and the innermost boundary there is no boundary. -/
theorem not_bounds_of_isOpenWithin {isBoundary : ElementName → Bool} : ∀ {stack : List Nat},
    State.isOpenWithin.go s isBoundary (· == node) stack → ∀ x ∈ stack.takeWhile (· != node), ¬ isBoundary (s.nameOf x)
  | [], _, x, hx => by cases hx
  | y :: rest, h, x, hx => by
    rw [List.takeWhile_cons] at hx
    split at hx
    · next hne =>
      rw [State.isOpenWithin.go, Bool.or_eq_true, Bool.and_eq_true, Bool.not_eq_true'] at h
      -- The search went past this element, so it is not the one sought and no boundary.
      obtain ⟨hbound, hrest⟩ := h.resolve_left fun heq => bne_iff_ne.1 hne (beq_iff_eq.1 heq)
      rcases List.mem_cons.1 hx with rfl | hx
      · exact Bool.eq_false_iff.1 hbound
      · exact not_bounds_of_isOpenWithin hrest x hx
    · cases hx

/-- The furthest block in a formatting element is neither the document nor its first node. -/
theorem ne_front_of_find? (h : s.forest.HasFront) (hopen : s.isOpenWithin ElementName.bounds (· == node)) {block : Nat}
    (hblock : (s.stack.takeWhile (· != node)).reverse.find? (fun n => (s.nameOf n).isSpecial) = some block) :
    block ≠ Forest.front ∧ block ≠ Forest.document := by
  have hspecial : (s.nameOf block).isSpecial := List.find?_some (p := fun n => (s.nameOf n).isSpecial) hblock
  have hbound := not_bounds_of_isOpenWithin hopen block (List.mem_reverse.1 (List.mem_of_find?_eq_some hblock))
  -- The front of a document is an element that bounds or one that is not special, unlike the block.
  constructor
  · rintro rfl
    rcases nameOf_front h with hname | hname <;> rw [hname] at hspecial hbound
    · exact hbound (by decide)
    · exact absurd hspecial (by decide)
  · rintro rfl
    rw [nameOf_document h] at hspecial
    exact absurd hspecial (by decide)

@[spec]
theorem keepsFront_adoptOnce (name : String) : KeepsFront (adoptOnce name) := by
  mvcgen [adoptOnce]
  case vc2 | vc4 => simpa +zetaDelta
  case vc5 =>
    rename_i s h node tag _ _ hopen inside block hblock _ _
    exact ⟨h, (ne_front_of_find? h (by simpa using hopen) hblock).1⟩
  -- What was built by now may be moved, for it is not the front.
  case vc6 =>
    rename_i built s hbuilt _ _
    exact hasFront_putAt (s := { s with forest := s.forest.detach built.1 }) (hbuilt.1.detach hbuilt.2) hbuilt.2 _
  case vc7 =>
    rename_i s h node tag _ _ hopen inside block hblock _ _ _ _ _ _ _ new s' hnew _ _
    have hmove := hnew.1.moveChildren (ne_front_of_find? h (by simpa using hopen) hblock).2 new
    simpa +zetaDelta using hmove.append hnew.2 block

@[spec]
theorem keepsFront_adoptUpTo (name : String) (rounds : Nat) : KeepsFront (adoptUpTo name rounds) := by
  induction rounds with
  | zero => mvcgen [adoptUpTo]
  | succ rounds ih => mvcgen [adoptUpTo, ih]

@[spec]
theorem keepsFront_adopt (name : String) : KeepsFront (adopt name) := by mvcgen [adopt]

/-! ### Rules -/

@[spec]
theorem keepsFront_closeItem (names : List String) : KeepsFront (closeItem names) := by mvcgen [closeItem]

@[spec]
theorem keepsFront_insertForeign (ns : Namespace) (tag : Tag) : KeepsFront (insertForeign ns tag) := by
  mvcgen [insertForeign]

@[spec]
theorem keepsFront_insertVoidText (tag : Tag) : KeepsFront (insertVoidText tag) := by mvcgen [insertVoidText]

@[spec]
theorem keepsFront_insertLink (tag : Tag) : KeepsFront (insertLink tag) := by
  mvcgen [insertLink]
  simpa +zetaDelta

@[spec]
theorem keepsFront_mergeHtml (tag : Tag) : KeepsFront (mergeHtml tag) := by
  mvcgen [mergeHtml]
  next s h _ =>
    show (if s.isInTemplate then s else _).forest.HasFront
    split
    · exact h
    · exact h.addMissingAttributes _ _

/-- The open element for the body is not the first node. -/
theorem bodyNode?_ne_front (h : s.forest.HasFront) (hbody : s.bodyNode? = some node) : node ≠ Forest.front := by
  rw [State.bodyNode?] at hbody
  split at hbody
  · split at hbody
    · next hhtml =>
      cases hbody
      exact ne_front_of_isHtml h hhtml (by decide) (by decide)
    · cases hbody
  · cases hbody

@[spec]
theorem keepsFront_bodyStructureRules (tag : Tag) : KeepsFront (bodyStructureRules tag) := by
  mvcgen [bodyStructureRules]
  case vc2 => exact Forest.HasFront.addMissingAttributes ‹_› _ _
  case vc5 => exact Forest.HasFront.detach ‹_› (bodyNode?_ne_front ‹_› ‹_›)

@[spec]
theorem keepsFront_leaveTemplate : KeepsFront leaveTemplate := by mvcgen [leaveTemplate]

@[spec]
theorem keepsFront_metadataRules (tag : Tag) : KeepsFront (metadataRules tag) := by
  mvcgen [metadataRules, interrupt, openTemplate, closeTemplate]

@[spec]
theorem keepsFront_bodyStartRules (tag : Tag) : KeepsFront (bodyStartRules tag) := by
  mvcgen [bodyStartRules, ignored]

@[spec]
theorem keepsFront_bodyEndRules (tag : Tag) : KeepsFront (bodyEndRules tag) := by
  mvcgen [bodyEndRules, ignored, closeForm]

@[spec]
theorem keepsFront_templateEndRules : KeepsFront templateEndRules := by mvcgen [templateEndRules]

@[spec]
theorem keepsFront_bodyRules (token : Token) : KeepsFront (bodyRules token) := by mvcgen [bodyRules, ignored]

@[spec]
theorem keepsFront_textRules (token : Token) : KeepsFront (textRules token) := by
  mvcgen [textRules, ignored, interrupt]

@[spec]
theorem keepsFront_fostered (token : Token) : KeepsFront (fostered token) := by mvcgen [fostered]

@[spec]
theorem keepsFront_tableText (token : Token) : KeepsFront (tableText token) := by mvcgen [tableText]

@[spec]
theorem keepsFront_tableTagRules (tag : Tag) : KeepsFront (tableTagRules tag) := by
  mvcgen [tableTagRules, ignored]

@[spec]
theorem keepsFront_tableRules (token : Token) : KeepsFront (tableRules token) := by mvcgen [tableRules, ignored]

@[spec]
theorem keepsFront_insertTableText (tokens : List Token) : KeepsFront (insertTableText tokens) := by
  induction tokens with
  | nil => mvcgen [insertTableText]
  | cons token rest ih => cases token <;> mvcgen [insertTableText, ih]

@[spec]
theorem keepsFront_fosterTableText (tokens : List Token) : KeepsFront (fosterTableText tokens) := by
  induction tokens with
  | nil => mvcgen [fosterTableText]
  | cons token rest ih => mvcgen [fosterTableText, ih]

@[spec]
theorem keepsFront_tableTextRules (token : Token) : KeepsFront (tableTextRules token) := by
  mvcgen [tableTextRules, ignored]

@[spec]
theorem keepsFront_captionRules (token : Token) : KeepsFront (captionRules token) := by
  mvcgen [captionRules, ignored]

@[spec]
theorem keepsFront_columnGroupRules (token : Token) : KeepsFront (columnGroupRules token) := by
  mvcgen [columnGroupRules, ignored]

@[spec]
theorem keepsFront_tableBodyRules (token : Token) : KeepsFront (tableBodyRules token) := by
  mvcgen [tableBodyRules, ignored]

@[spec]
theorem keepsFront_rowRules (token : Token) : KeepsFront (rowRules token) := by mvcgen [rowRules, ignored]

@[spec]
theorem keepsFront_cellRules (token : Token) : KeepsFront (cellRules token) := by
  mvcgen [cellRules, ignored, closeCell]

@[spec]
theorem keepsFront_leaveSelect : KeepsFront leaveSelect := by mvcgen [leaveSelect]

@[spec]
theorem keepsFront_selectRules (token : Token) : KeepsFront (selectRules token) := by
  mvcgen [selectRules, ignored]

@[spec]
theorem keepsFront_selectInTableRules (token : Token) : KeepsFront (selectInTableRules token) := by
  mvcgen [selectInTableRules, ignored]

@[spec]
theorem keepsFront_templateRules (token : Token) : KeepsFront (templateRules token) := by
  mvcgen [templateRules, ignored]

@[spec]
theorem keepsFront_createHtml (tag : Tag) : KeepsFront (createHtml tag) := by
  mvcgen [createHtml, push]
  exact ‹Forest.HasFront _ ∧ _›.1.append ‹Forest.HasFront _ ∧ _›.2 _

@[spec]
theorem keepsFront_initialRules (token : Token) : KeepsFront (initialRules token) := by
  mvcgen [initialRules, ignored]

@[spec]
theorem keepsFront_beforeHtmlRules (token : Token) : KeepsFront (beforeHtmlRules token) := by
  mvcgen [beforeHtmlRules, ignored]

@[spec]
theorem keepsFront_beforeHeadRules (token : Token) : KeepsFront (beforeHeadRules token) := by
  mvcgen [beforeHeadRules, ignored, createHead]

@[spec]
theorem keepsFront_inHeadRules (token : Token) : KeepsFront (inHeadRules token) := by mvcgen [inHeadRules, ignored]

@[spec]
theorem keepsFront_afterHeadRules (token : Token) : KeepsFront (afterHeadRules token) := by
  mvcgen [afterHeadRules, ignored, push]

@[spec]
theorem keepsFront_afterBodyRules (token : Token) : KeepsFront (afterBodyRules token) := by
  mvcgen [afterBodyRules, ignored]

@[spec]
theorem keepsFront_afterAfterBodyRules (token : Token) : KeepsFront (afterAfterBodyRules token) := by
  mvcgen [afterAfterBodyRules, ignored]

@[spec]
theorem keepsFront_framesetRules (token : Token) : KeepsFront (framesetRules token) := by
  mvcgen [framesetRules, ignored]

@[spec]
theorem keepsFront_afterFramesetRules (token : Token) : KeepsFront (afterFramesetRules token) := by
  mvcgen [afterFramesetRules, ignored]

@[spec]
theorem keepsFront_afterAfterFramesetRules (token : Token) : KeepsFront (afterAfterFramesetRules token) := by
  mvcgen [afterAfterFramesetRules, ignored]

/-- **All rules** leave the first node where it is. -/
@[spec]
theorem keepsFront_rulesOf (mode : Mode) (token : Token) : KeepsFront (rulesOf mode token) := by
  cases mode <;> mvcgen [rulesOf]

@[spec]
theorem keepsFront_closeForeign_go (tag : Tag) (s : State) (matchesName : Nat → Bool) (isFirst : Bool)
    (stack : List Nat) : KeepsFront (closeForeign.go tag s matchesName isFirst stack) := by
  induction stack generalizing isFirst with
  | nil => mvcgen [closeForeign.go]
  | cons node rest ih =>
    cases rest with
    | nil => mvcgen [closeForeign.go]
    | cons next rest => mvcgen [closeForeign.go, ih]

@[spec]
theorem keepsFront_foreignRules (token : Token) : KeepsFront (foreignRules token) := by
  mvcgen [foreignRules, ignored, leaveForeign, closeForeign]

@[spec]
theorem keepsFront_dealWith (token : Token) (fuel : Nat) : KeepsFront (dealWith token fuel) := by
  induction fuel with
  | zero => mvcgen [dealWith]
  | succ fuel ih => mvcgen [dealWith, ih]

@[spec]
theorem keepsFront_dealWithDoctype (d : Doctype) : KeepsFront (dealWithDoctype d) := by
  mvcgen [dealWithDoctype]
  exact ‹Forest.HasFront _ ∧ _›.1.append ‹Forest.HasFront _ ∧ _›.2 _

theorem keepsFront_dealWithToken (token : Token) : KeepsFront (dealWithToken token) := by mvcgen [dealWithToken]

theorem hasFront_feed (h : s.forest.HasFront) (token : Token) : (s.feed token).forest.HasFront :=
  keepsFront_dealWithToken token s h

end Steps

/-! ### The first node -/

/-- **Before the first node is made.** -/
structure State.IsFresh (s : State) : Prop where
  forest : s.forest = .empty
  stack : s.stack = []
  mode : s.mode = .initial ∨ s.mode = .beforeHtml

/-- What a token makes of such a state: the first node is made, or nothing; the end of the input makes one. -/
def State.Begins (s : State) (token : Token) : Prop := s.forest.HasFront ∨ s.IsFresh ∧ token ≠ .endOfInput

section Fresh

variable {s : State} {token : Token} {content : Content}

/-- The first node behind the document. -/
theorem hasFront_append_empty (h : content.isFront) :
    ((Forest.empty.create content).2.append Forest.document Forest.front).HasFront where
  container := rfl
  isFront := h
  head? := rfl
  only node hnode := by
    match node with
    | 0 => rfl
    | 1 => cases hnode
    | _ + 2 => cases hnode

theorem hasFront_run_insertCommentIn (h : s.forest = .empty) (text : String) :
    ((insertCommentIn Forest.document text).run s).2.forest.HasFront := by
  have hrun : ((insertCommentIn Forest.document text).run s).2.forest =
      (s.forest.create (.comment text)).2.append Forest.document s.forest.cells.size := rfl
  rw [hrun, h]
  exact hasFront_append_empty rfl

theorem hasFront_run_createHtml (h : s.forest = .empty) (tag : Tag) :
    ((createHtml tag).run s).2.forest.HasFront := by
  have hrun : ((createHtml tag).run s).2.forest =
      (s.forest.create (.element .html "html" tag.attributes none)).2.append Forest.document s.forest.cells.size := rfl
  rw [hrun, h]
  exact hasFront_append_empty rfl

theorem isForeign_of_stack (hstack : s.stack = []) (token : Token) : s.isForeign token = false := by
  unfold State.isForeign
  rw [hstack]

/-- A token without an effect. -/
theorem begins_of_ignored (h : s.IsFresh) (htoken : token ≠ .endOfInput)
    (hrun : (rulesOf s.mode token).run s = (.done, s)) (fuel : Nat) :
    ((dealWith token (fuel + 1)).run s).2.Begins token := by
  rw [run_dealWith_of_done (isForeign_of_stack h.stack token) hrun]
  exact .inr ⟨h, htoken⟩

/-- A token that is passed on. -/
theorem begins_of_again (h : s.IsFresh) {m : Mode} {w : State}
    (hrun : (rulesOf s.mode token).run s = (.again m, w)) {fuel : Nat}
    (hnext : ((dealWith token fuel).run { w with mode := m }).2.Begins token) :
    ((dealWith token (fuel + 1)).run s).2.Begins token := by
  rwa [leads_of_again (isForeign_of_stack h.stack token) hrun rfl]

/-- A token by which the first node is made. -/
theorem begins_of_hasFront (h : s.IsFresh) (hrun : ((rulesOf s.mode token).run s).2.forest.HasFront) (fuel : Nat) :
    ((dealWith token (fuel + 1)).run s).2.Begins token := by
  obtain ⟨outcome, s', hs'⟩ : ∃ outcome s', (rulesOf s.mode token).run s = (outcome, s') := ⟨_, _, rfl⟩
  rw [hs'] at hrun
  cases outcome with
  | done =>
    rw [run_dealWith_of_done (isForeign_of_stack h.stack token) hs']
    exact .inl hrun
  | again mode => exact begins_of_again h hs' (.inl (keepsFront_dealWith token fuel { s' with mode := mode } hrun))

/-- In front of the document element. -/
theorem begins_dealWith_beforeHtml (h : s.IsFresh) (hmode : s.mode = .beforeHtml) (token : Token) (fuel : Nat) :
    ((dealWith token (fuel + 1)).run s).2.Begins token := by
  cases token with
  | blanks t => exact begins_of_ignored h Token.noConfusion (by rw [hmode]; rfl) fuel
  | comment t => exact begins_of_hasFront h (by rw [hmode]; exact hasFront_run_insertCommentIn h.forest t) fuel
  | tag tag =>
    -- An end tag that implies nothing is ignored, and any other tag brings the document element in.
    by_cases hidle : isIdleEnd (.tag tag) implyingEndNames
    · refine begins_of_ignored h Token.noConfusion ?_ fuel
      rw [hmode]
      show (beforeHtmlRules (.tag tag)).run s = _
      rw [beforeHtmlRules, if_pos hidle]
      rfl
    · refine begins_of_hasFront h ?_ fuel
      rw [hmode]
      show ((beforeHtmlRules (.tag tag)).run s).2.forest.HasFront
      rw [beforeHtmlRules, if_neg hidle]
      split
      · exact hasFront_run_createHtml h.forest tag
      · exact hasFront_run_createHtml h.forest (.start "html")
  | doctype | text | null | fault | endOfInput =>
    exact begins_of_hasFront h (by rw [hmode]; exact hasFront_run_createHtml h.forest (.start "html")) fuel

theorem begins_dealWith (h : s.IsFresh) (token : Token) (fuel : Nat) :
    ((dealWith token (fuel + 2)).run s).2.Begins token := by
  rcases h.mode with hmode | hmode
  · cases token with
    | blanks t => exact begins_of_ignored h Token.noConfusion (by rw [hmode]; rfl) (fuel + 1)
    | comment t => exact begins_of_hasFront h (by rw [hmode]; exact hasFront_run_insertCommentIn h.forest t) (fuel + 1)
    -- Anything else makes the document an old-style one and is dealt with again.
    | doctype | tag | text | null | fault | endOfInput =>
      refine begins_of_again h (m := .beforeHtml) (w := { s with isOldStyle := true })
        ((congrArg (fun mode => (rulesOf mode _).run s) hmode).trans rfl) ?_
      exact begins_dealWith_beforeHtml (s := { s with isOldStyle := true, mode := .beforeHtml })
        ⟨h.forest, h.stack, .inr rfl⟩ rfl _ fuel
  · exact begins_dealWith_beforeHtml h hmode token (fuel + 1)

theorem begins_dealWithDoctype (h : s.IsFresh) (d : Doctype) :
    ((dealWithDoctype d).run s).2.Begins (.doctype d) := by
  rcases h.mode with hmode | hmode
  · refine .inl ?_
    have hrun : ((dealWithDoctype d).run s).2.forest =
        (s.forest.create (.doctype (d.name?.getD "") (d.publicId?.getD "") (d.systemId?.getD ""))).2.append
          Forest.document s.forest.cells.size := by
      rw [dealWithDoctype]
      show ((if s.mode = .initial then _ else _ : Build Unit).run s).2.forest = _
      rw [if_pos hmode]
      rfl
    rw [hrun, h.forest]
    exact hasFront_append_empty rfl
  · -- A second document type is passed over.
    refine .inr ⟨?_, Token.noConfusion⟩
    have hrun : (dealWithDoctype d).run s = ((), s) := by
      rw [dealWithDoctype]
      show (if s.mode = .initial then _ else _ : Build Unit).run s = _
      rw [if_neg (by rw [hmode]; decide)]
      rfl
    rwa [hrun]

/-- **A token** makes the first node, or leaves things as they are. -/
theorem begins_feed (h : s.IsFresh) (token : Token) : (s.feed token).Begins token := by
  have hfresh : State.IsFresh { s with skipsLineFeed := false } := ⟨h.forest, h.stack, h.mode⟩
  -- The end of the input is never dropped.
  have hend : token = .endOfInput →
      (if s.skipsLineFeed then withoutLineFeed? token else some token) = some .endOfInput := by
    rintro rfl
    split <;> rfl
  rw [State.feed, dealWithToken, Build.run_bind, Build.run_get, Build.run_bind, Build.run_set]
  generalize (if s.skipsLineFeed then withoutLineFeed? token else some token) = left at hend ⊢
  have hbegins {left' : Token} (hleft : left = some left') {s' : State} (hs' : s'.Begins left') : s'.Begins token := by
    refine hs'.imp_right (And.imp_right fun hne htoken => hne ?_)
    rw [hend htoken] at hleft
    exact (Option.some.inj hleft).symm
  cases left with
  | none => exact .inr ⟨hfresh, fun htoken => by cases hend htoken⟩
  | some left =>
    cases left with
    | fault => exact .inr ⟨hfresh, fun htoken => by cases hend htoken⟩
    | doctype d => exact hbegins rfl (begins_dealWithDoctype hfresh d)
    | tag | comment | blanks | text | null | endOfInput => exact hbegins rfl (begins_dealWith hfresh _ _)

theorem feed_cases (h : s.forest.HasFront ∨ s.IsFresh) (token : Token) :
    (s.feed token).forest.HasFront ∨ (s.feed token).IsFresh :=
  h.elim (fun h => .inl (hasFront_feed h token)) fun h => (begins_feed h token).imp_right And.left

theorem foldl_feed_cases (h : s.forest.HasFront ∨ s.IsFresh) (tokens : List Token) :
    (tokens.foldl State.feed s).forest.HasFront ∨ (tokens.foldl State.feed s).IsFresh := by
  induction tokens generalizing s with
  | nil => exact h
  | cons token rest ih => exact ih (feed_cases h token)

/-- **A whole text** makes a first node, which is where it belongs. -/
theorem hasFront_construct (starts : List Nat) (mode : TextMode) (text : List Char)
    (h : s.forest.HasFront ∨ s.IsFresh) : (construct starts mode text s).forest.HasFront := by
  induction mode, text, s using construct.induct starts with
  | case1 mode s =>
    rw [construct]
    rcases h with h | h
    · exact hasFront_feed h .endOfInput
    · -- Even an empty text gets its front, at its end.
      exact (begins_feed h .endOfInput).resolve_right fun hend => hend.2 rfl
  | case2 mode s c rest lexed after left ih =>
    rw [construct]
    refine ih (foldl_feed_cases ?_ lexed.tokens)
    exact h.imp_right fun h => ⟨h.forest, h.stack, h.mode⟩

end Fresh

end Construction

open Construction

/-- **What a document begins with**: the markup of a text begins with a comment, a document type or the document
element. -/
theorem exists_readMarkupTree_eq (html : String) : ∃ m rest, readMarkupTree html = m :: rest ∧ m.content.isFront := by
  have hfront := hasFront_construct (s := .initial) (portionStarts (portions portionSize html.toList)) .markup
    (textOf (portions portionSize html.toList)) (.inr ⟨rfl, rfl, .inl rfl⟩)
  rw [readMarkupTree]
  generalize (construct _ .markup _ .initial).forest = forest at hfront
  obtain ⟨bound, hbound⟩ : ∃ bound, forest.cells.size = bound + 2 :=
    Nat.exists_eq_add_of_le' hfront.lt_size
  obtain ⟨others, hchildren⟩ := List.head?_eq_some_iff.1 hfront.head?
  obtain ⟨content, hcontent, hisFront⟩ := (Option.any_eq_true _ _).1 hfront.isFront
  -- The first node is neither a text nor a container, so it is read as one node.
  have hfirst : ∃ m, Markup.ofForest forest (bound + 1) Forest.front = [m] ∧ m.content.isFront := by
    rw [Markup.ofForest, hcontent]
    cases content with
    | doctype name publicId systemId => exact ⟨.doctype name publicId systemId, rfl, rfl⟩
    | comment t => exact ⟨.comment t, rfl, rfl⟩
    | element ns name attributes content? =>
      obtain ⟨-, hname⟩ := Bool.and_eq_true_iff.1 hisFront
      exact ⟨.element name attributes _, rfl, Bool.and_eq_true_iff.2 ⟨rfl, hname⟩⟩
    | container | text => cases hisFront
  obtain ⟨m, hm, hmfront⟩ := hfirst
  refine ⟨m, others.flatMap (Markup.ofForest forest (bound + 1)), ?_, hmfront⟩
  rw [hbound, Markup.ofForest, hfront.container, hchildren, List.flatMap_cons, hm]
  rfl

end HtmlMail.Html
