import HtmlMail.Proofs.Html.DocumentReading
import HtmlMail.Proofs.Html.Numbering

/-!
# Regular documents

A whole document consists of a head and a body with regular markup and of what can stand around them; a fragment
has only the content of the two, and the elements around it are implied where it is read. In both cases the nodes that
are built are those whose text is read, one after the other as they are added to an empty document.

* `Whole`, `Fragment` : the parts of a document;
* `Whole.IsRegular`, `Fragment.IsRegular` : documents with regular markup in these parts;
* `Whole.IsRegular.read_prologue` : what stands in front of the document element is built;
* `Whole.IsRegular.read_content` : and what stands in it;
* `Whole.IsRegular.read`, `Fragment.IsRegular.read` : what is built for the text of a document.
-/

namespace HtmlMail.Html

open Chars Dom Construction

variable {F G : List Markup}

/-- Nodes without text next to each other and below them. -/
theorem areApart_of_forall (h : ∀ m ∈ F, m.IsApart ∧ ¬ m.isText) : Markup.AreApart F := by
  induction F with
  | nil => trivial
  | cons m F ih =>
    have hm := h m List.mem_cons_self
    exact ⟨hm.1, fun htext => absurd htext hm.2, ih fun n hn => h n (List.mem_cons_of_mem _ hn)⟩

theorem areApart_append (hF : Markup.AreApart F) (hG : Markup.AreApart G)
    (hends : ∀ m ∈ F.getLast?, m.isText → ∀ n ∈ G.head?, ¬ n.isText) : Markup.AreApart (F ++ G) := by
  induction F with
  | nil => exact hG
  | cons m F ih =>
    obtain ⟨hm, hnext, hF⟩ := hF
    refine ⟨hm, fun htext n hn => ?_, ih hF fun l hl => hends l (List.mem_getLast?_cons hl)⟩
    cases F with
    | nil => exact hends m rfl htext n hn
    | cons l F => exact hnext htext n hn

theorem Markup.IsComment.isApart {m : Markup} (h : m.IsComment) : m.IsApart ∧ ¬ m.isText := by
  obtain ⟨t, rfl, -⟩ := h.cases
  exact ⟨trivial, Bool.false_ne_true⟩

theorem Markup.AreBetween.areApart {W : List Markup} (hW : Markup.AreBetween W) : Markup.AreApart W := by
  induction W with
  | nil => trivial
  | cons m W ih =>
    rw [Markup.AreBetween] at hW
    refine ⟨?_, hW.2.1, ih hW.2.2⟩
    cases m with
    | element => exact hW.1.elim
    | _ => trivial

/-- Markup can be added to a document only. -/
theorem document_lt_size (hF : Markup.AreApart F) :
    Forest.document < (Forest.empty.addAll Forest.document F).cells.size := by
  have hpos : Forest.document < Forest.empty.cells.size := Nat.zero_lt_one
  exact hpos.trans_le (Forest.grown_addAll hF hpos fun _ _ _ => Bool.false_ne_true).size_le

/-! ### Whole documents -/

/-- The parts of a whole document. -/
structure Whole where
  /-- Comments in front of the document type. -/
  front : List Markup
  /-- The name and the identifiers of the document type. -/
  doctype? : Option (String × String × String)
  /-- Comments in front of the document element. -/
  behindDoctype : List Markup
  htmlAttributes : List Attribute
  headAttributes : List Attribute
  head : List Markup
  /-- Comments and blank texts between the head and the body. -/
  between : List Markup
  bodyAttributes : List Attribute
  body : List Markup
  /-- Comments behind the body. -/
  behindBody : List Markup
  /-- Comments behind the document element. -/
  behindHtml : List Markup

namespace Whole

variable {d : Whole} {rest : List Char} {name : String} {forest : Forest}

/-- The document type. -/
def doctype (d : Whole) : List Markup :=
  match d.doctype? with
  | none => []
  | some (name, publicId, systemId) => [.doctype name publicId systemId]

/-- The document is of an old kind unless its document type says otherwise. -/
def isOldStyle (d : Whole) : Bool :=
  match d.doctype? with
  | none => true
  | some (name, publicId, systemId) => announcesOldStyle (doctypeOf name publicId systemId)

/-- What stands in front of the document element. -/
def prologue (d : Whole) : List Markup := d.front ++ (d.doctype ++ d.behindDoctype)

/-- What stands in the document element. -/
def content (d : Whole) : List Markup :=
  .element "head" d.headAttributes d.head ::
    (d.between ++ (.element "body" d.bodyAttributes d.body :: d.behindBody))

/-- The markup of the document. -/
def markup (d : Whole) : List Markup := d.prologue ++ (.element "html" d.htmlAttributes d.content :: d.behindHtml)

/-- A whole document with regular markup in its head and its body. -/
structure IsRegular (d : Whole) : Prop where
  front : ∀ m ∈ d.front, m.IsComment
  doctype : ∀ t ∈ d.doctype?, IsReadableDoctype t.1 t.2.1 t.2.2
  behindDoctype : ∀ m ∈ d.behindDoctype, m.IsComment
  htmlTag : IsReadableTag "html" d.htmlAttributes
  headTag : IsReadableTag "head" d.headAttributes
  head : Markup.AreRegular d.isOldStyle ["head", "html"] d.head
  between : Markup.AreBetween d.between
  bodyTag : IsReadableTag "body" d.bodyAttributes
  body : Markup.AreRegular d.isOldStyle ["body", "html"] d.body
  behindBody : ∀ m ∈ d.behindBody, m.IsComment
  behindHtml : ∀ m ∈ d.behindHtml, m.IsComment

theorem IsRegular.isApart_prologue (hd : d.IsRegular) : ∀ m ∈ d.prologue, m.IsApart ∧ ¬ m.isText := by
  intro m hm
  rw [Whole.prologue, List.mem_append, List.mem_append] at hm
  rcases hm with hm | hm | hm
  · exact (hd.front m hm).isApart
  · rw [Whole.doctype] at hm
    split at hm
    · cases hm
    · rw [List.mem_singleton.1 hm]
      exact ⟨trivial, Bool.false_ne_true⟩
  · exact (hd.behindDoctype m hm).isApart

/-- In the markup of the document no two texts stand side by side. -/
theorem IsRegular.areApart (hd : d.IsRegular) : Markup.AreApart d.markup := by
  have hcontent : Markup.AreApart d.content := by
    have hbody : Markup.AreApart (.element "body" d.bodyAttributes d.body :: d.behindBody) :=
      ⟨hd.body.areApart, nofun, areApart_of_forall fun m hm => (hd.behindBody m hm).isApart⟩
    refine ⟨hd.head.areApart, nofun, areApart_append hd.between.areApart hbody ?_⟩
    rintro m - - n hn
    cases hn
    exact Bool.false_ne_true
  refine areApart_append (areApart_of_forall hd.isApart_prologue) ⟨hcontent, nofun, ?_⟩ ?_
  · exact areApart_of_forall fun m hm => (hd.behindHtml m hm).isApart
  · rintro m - - n hn
    cases hn
    exact Bool.false_ne_true

/-- **What stands in front of the document element** is read. -/
theorem IsRegular.read_prologue (hd : d.IsRegular) (starts : List Nat)
    (hmark : '\uFEFF' ∉ Markup.printAll d.prologue ++ rest) :
    ∃ isOldStyle, ∃ mode ∈ [Mode.initial, .beforeHtml], (mode == .initial || isOldStyle) = d.isOldStyle ∧
      construct starts .markup (Markup.printAll d.prologue ++ rest) .initial =
        construct starts .markup rest
          (Construction.prologue isOldStyle mode (Forest.empty.addAll Forest.document d.prologue)) := by
  have hinitial : State.initial = Construction.prologue false .initial .empty := rfl
  rw [Whole.prologue, printAll_append, List.append_assoc] at hmark ⊢
  have hmark₁ := fun h => hmark (List.mem_append_right _ h)
  rw [hinitial, read_prologue_comments hd.front List.mem_cons_self hmark, Forest.addAll_append]
  generalize Forest.empty.addAll Forest.document d.front = forest
  rw [printAll_append, List.append_assoc] at hmark₁ ⊢
  have hmark₂ := fun h => hmark₁ (List.mem_append_right _ h)
  have hdoctype := hd.doctype
  rw [Whole.doctype] at hmark₁ ⊢
  rw [Whole.isOldStyle]
  -- Without a document type the rules are still those of the start.
  cases htype : d.doctype? with
  | none =>
    refine ⟨false, .initial, List.mem_cons_self, rfl, ?_⟩
    exact read_prologue_comments hd.behindDoctype List.mem_cons_self hmark₂
  | some t =>
    obtain ⟨name, publicId, systemId⟩ := t
    rw [htype] at hdoctype
    refine ⟨announcesOldStyle (doctypeOf name publicId systemId), .beforeHtml, by decide, rfl, ?_⟩
    dsimp only
    rw [Markup.printAll, Markup.printAll, List.append_nil, read_prologue_doctype (hdoctype _ rfl) hmark₂,
      read_prologue_comments hd.behindDoctype (by decide) hmark₂]
    rfl

theorem behindTag_eq (hname : name ∈ ["html", "head", "body"]) (F : List Markup) (rest : List Char) :
    behindTag name F rest = Markup.printAll F ++ endTag name rest := by
  obtain ⟨hvoid, hraw⟩ := (by decide : ∀ n ∈ ["html", "head", "body"], voidElements.contains n = false ∧
    rawTextElements.contains n = false) name hname
  rw [behindTag, hvoid, if_neg Bool.false_ne_true, Markup.printContent, hraw, if_neg Bool.false_ne_true]

theorem endTag_isSuffix (name : String) (rest : List Char) : rest <:+ endTag name rest :=
  ⟨'<' :: '/' :: (name.toList ++ ['>']), by
    rw [endTag, List.cons_append, List.cons_append, List.append_assoc, List.singleton_append]⟩

/-- **What stands in the document element** is read. -/
theorem IsRegular.read_content (hd : d.IsRegular) (starts : List Nat) (hpos : Forest.document < forest.cells.size)
    (as : List Attribute) (hmark : '\uFEFF' ∉ Markup.printAll d.content ++ rest) :
    ∃ s body, construct starts .markup (Markup.printAll d.content ++ rest) (inHtml d.isOldStyle forest as) =
        construct starts .markup rest s ∧
      Behind d.isOldStyle body forest.cells.size .afterBody
        ((withHtml forest as).addAll forest.cells.size d.content) s := by
  rw [Whole.content, Markup.printAll, List.append_assoc] at hmark ⊢
  -- The head.
  have hmark₁ := fun h => hmark ((behindTag_isSuffix "head" d.headAttributes d.head _).mem h)
  rw [read_headTag hpos hd.headTag hmark₁, behindTag_eq (by decide)]
  rw [behindTag_eq (by decide)] at hmark₁
  have hready₁ : Ready d.isOldStyle _ _ (Markup.firstTokenOr (endToken "head") d.head) _ :=
    (stands_inHead hpos d.isOldStyle as d.headAttributes).ready _
  obtain ⟨s₁, hread₁, hs₁⟩ := Markup.AreRegular.read starts hd.head hready₁
    (fun _ _ _ => ⟨rfl, .inl (Markup.isMarkupStart_endTag "head" _)⟩) hmark₁
  have hmark₂ := fun h => hmark₁ (List.mem_append_right _ h)
  have hmark₃ := fun h => hmark₂ ((endTag_isSuffix "head" _).mem h)
  obtain ⟨s₂, hread₂, hs₂⟩ := hs₁.read_headEnd starts hmark₃
  -- What stands between, and the body.
  rw [printAll_append, Markup.printAll, List.append_assoc, List.append_assoc] at hmark₃ hread₁ hread₂ ⊢
  obtain ⟨s₃, hread₃, hs₃⟩ := hs₂.read_between starts hd.between
    (Markup.isMarkupStart_print_element hd.bodyTag d.body _) hmark₃
  have hmark₄ := fun h => hmark₃ (List.mem_append_right _ h)
  have hmark₅ := fun h => hmark₄ ((behindTag_isSuffix "body" d.bodyAttributes d.body _).mem h)
  obtain ⟨s₄, hread₄, hs₄⟩ := hs₃.read_bodyTag starts hd.bodyTag hmark₅
  rw [behindTag_eq (by decide)] at hmark₅ hread₄
  have hready₅ : Ready d.isOldStyle _ _ (Markup.firstTokenOr (endToken "body") d.body) s₄ := hs₄.ready _
  obtain ⟨s₅, hread₅, hs₅⟩ := Markup.AreRegular.read starts hd.body hready₅
    (fun _ _ _ => ⟨rfl, .inl (Markup.isMarkupStart_endTag "body" _)⟩) hmark₅
  have hmark₆ := fun h => hmark₅ (List.mem_append_right _ h)
  have hmark₇ := fun h => hmark₆ ((endTag_isSuffix "body" _).mem h)
  obtain ⟨s₆, hread₆, hs₆⟩ := hs₅.read_bodyEnd starts hmark₇
  -- The comments behind the body.
  have hhtml := hs₆.stands.html_lt_size
  obtain ⟨s₇, hread₇, hs₇⟩ := Behind.read_comments starts (fun t _ w hw => hw.run_comment_afterBody t) hs₆
    hhtml hd.behindBody hmark₇
  rw [Forest.addAll, Forest.add, size_withHtml, Forest.addAll_append, Forest.addAll, Forest.add]
  exact ⟨s₇, _, by rw [hread₁, hread₂, hread₃, hread₄, hread₅, hread₆, hread₇], hs₇⟩

/-- **A whole document** is read as it was. -/
theorem IsRegular.read (hd : d.IsRegular) (starts : List Nat) (hmark : '\uFEFF' ∉ Markup.printAll d.markup) :
    (construct starts .markup (Markup.printAll d.markup) .initial).forest =
      Forest.empty.addAll Forest.document d.markup := by
  rw [Whole.markup, printAll_append, Markup.printAll] at hmark ⊢
  obtain ⟨isOldStyle, mode, hmode, hstyle, hread⟩ := hd.read_prologue starts hmark
  have hmark₁ := fun h => hmark (List.mem_append_right _ h)
  have hpos : Forest.document < (Forest.empty.addAll Forest.document d.prologue).cells.size :=
    document_lt_size (areApart_of_forall hd.isApart_prologue)
  rw [hread, Forest.addAll_append, Forest.addAll, Forest.add]
  generalize Forest.empty.addAll Forest.document d.prologue = forest at hpos ⊢
  -- The start tags of the document element and of the head.
  have hmark₂ := fun h => hmark₁ ((behindTag_isSuffix "html" d.htmlAttributes d.content _).mem h)
  rw [read_htmlTag hmode hd.htmlTag hmark₂, hstyle]
  rw [behindTag_eq (by decide)] at hmark₂ ⊢
  obtain ⟨s₁, body, hread₁, hs₁⟩ := hd.read_content starts hpos d.htmlAttributes hmark₂
  have hmark₃ := fun h => hmark₂ (List.mem_append_right _ h)
  have hmark₄ := fun h => hmark₃ ((endTag_isSuffix "html" _).mem h)
  obtain ⟨s₂, hread₂, hs₂⟩ := hs₁.read_htmlEnd starts hmark₄
  rw [← List.append_nil (Markup.printAll d.behindHtml)] at hread₁ hread₂ hmark₄ ⊢
  obtain ⟨s₃, hread₃, hs₃⟩ := Behind.read_comments starts (fun t _ w hw => hw.run_comment_afterAfterBody t)
    hs₂ (Nat.zero_lt_of_lt hs₂.stands.html_lt_size) hd.behindHtml hmark₄
  rw [hread₁, hread₂, hread₃, construct]
  exact hs₃.feed_end

end Whole

/-! ### Fragments -/

/-- The parts of a fragment: comments, what is at home in a head, and what is in a body. -/
structure Fragment where
  front : List Markup
  head : List Markup
  body : List Markup

namespace Fragment

variable {d : Fragment}

/-- The markup of the fragment. -/
def markup (d : Fragment) : List Markup := d.front ++ (d.head ++ d.body)

/-- The markup of the document that is built for the fragment. -/
def built (d : Fragment) : List Markup :=
  d.front ++ [.element "html" [] [.element "head" [] d.head, .element "body" [] d.body]]

/-- A fragment of regular markup, in which what is at home in a head and what is in a body can be told from each other. -/
structure IsRegular (d : Fragment) : Prop where
  front : ∀ m ∈ d.front, m.IsComment
  head : Markup.AreRegular true ["head", "html"] d.head
  /-- The head begins with an element, -/
  headStart : ∀ m ∈ d.head.head?, impliesHead m.firstToken
  /-- and the body with something that cannot stand in a head. -/
  bodyStart : ∀ m ∈ d.body.head?, impliesBody m.firstToken
  body : Markup.AreRegular true ["body", "html"] d.body
  apart : ∀ m ∈ d.head.getLast?, m.isText → ∀ n ∈ d.body.head?, ¬ n.isText

theorem IsRegular.areApart (hd : d.IsRegular) : Markup.AreApart d.built := by
  refine areApart_append (areApart_of_forall fun m hm => (hd.front m hm).isApart) ?_ ?_
  · refine ⟨⟨hd.head.areApart, nofun, hd.body.areApart, nofun, trivial⟩,
      nofun, trivial⟩
  · rintro m - - n hn
    cases hn
    exact Bool.false_ne_true

/-- Behind the head there is a token that implies a body. -/
theorem IsRegular.impliesBody_next (hd : d.IsRegular) : impliesBody (Markup.firstTokenOr .endOfInput d.body) := by
  have hstart := hd.bodyStart
  cases hbody : d.body with
  | nil => rfl
  | cons m F =>
    rw [hbody] at hstart
    exact hstart m rfl

theorem IsRegular.impliesHead_next (hd : d.IsRegular) :
    impliesHead (Markup.firstTokenOr (Markup.firstTokenOr .endOfInput d.body) d.head) := by
  have hstart := hd.headStart
  cases hhead : d.head with
  | nil => exact impliesHead_of_impliesBody hd.impliesBody_next
  | cons m F =>
    rw [hhead] at hstart
    exact hstart m rfl

/-- A text at the end of the head ends where the body begins. -/
theorem IsRegular.endsBefore (hd : d.IsRegular) :
    Markup.EndsBefore d.head (Markup.firstTokenOr .endOfInput d.body) (Markup.printAll d.body) := by
  intro m hm htext
  have hbody := hd.body
  have hhead := hd.apart m hm htext
  cases hF : d.body with
  | nil => exact ⟨rfl, .inr rfl⟩
  | cons n F =>
    rw [hF] at hbody hhead
    have hn := hhead n rfl
    rw [Markup.AreRegular] at hbody
    exact ⟨Markup.isMarkup_firstToken hn, .inl (Markup.isMarkupStart_print hbody.1 hn _)⟩

/-- **A fragment** is read as it was, with the elements around its content. -/
theorem IsRegular.read (hd : d.IsRegular) (starts : List Nat) (hmark : '\uFEFF' ∉ Markup.printAll d.markup) :
    (construct starts .markup (Markup.printAll d.markup) .initial).forest =
      Forest.empty.addAll Forest.document d.built := by
  have hinitial : State.initial = Construction.prologue false .initial .empty := rfl
  have hpos := document_lt_size (areApart_of_forall fun m hm => (hd.front m hm).isApart)
  rw [markup, printAll_append, printAll_append] at hmark ⊢
  have hmark₁ := fun h => hmark (List.mem_append_right _ h)
  have hmark₂ := fun h => hmark₁ (List.mem_append_right _ h)
  rw [hinitial, read_prologue_comments hd.front List.mem_cons_self hmark, built, Forest.addAll_append]
  generalize Forest.empty.addAll Forest.document d.front = forest at hpos ⊢
  -- The head is implied by what comes first, and so is the body afterwards.
  have hready := ready_implied_head hpos hd.impliesHead_next
  obtain ⟨s₁, hread₁, hs₁⟩ := Markup.AreRegular.read starts hd.head hready hd.endsBefore hmark₁
  rw [← List.append_nil (Markup.printAll d.body)] at hread₁ hmark₂ ⊢
  obtain ⟨s₂, hread₂, hs₂⟩ := Markup.AreRegular.read starts hd.body
    (hs₁.implied_body hd.impliesBody_next) (fun _ _ _ => ⟨rfl, .inr rfl⟩) hmark₂
  rw [hread₁, hread₂, construct, hs₂.feed_end]
  simp only [Forest.addAll, Forest.add]
  rw [← size_withHtml forest []]
  rfl

end Fragment

end HtmlMail.Html
