import HtmlMail.Html.Printer
import HtmlMail.Proofs.Html.DocumentFront
import HtmlMail.Proofs.Html.Numbering
import HtmlMail.Proofs.Text.Search
import HtmlMail.Template.Envelope

/-!
# Whole documents in envelopes

What is read as a whole document is written as one, and the envelope adds to its head only. It knows a document by how
its text begins: by a document type, or by the document element. A document can also begin with a comment, and then its
text is taken for a bare body and is put into the body of another document.

* `HasInHead`, `hasInHead_insertIntoHead` : markup in front of the first end of a head;
* `documentStart?_doctype`, `documentStart?_html`, `documentStart?_comment` : how what is written begins;
* `wrap_printDocument` : what becomes of a whole document.
-/

namespace HtmlMail.Mail

open Dom Html Html.Construction Template

/-! ### The end of the head -/

/-- **Markup is in the head** if it is in front of the first `</head>` of a text and the text is the same otherwise. A
text without `</head>` has no place for it. -/
def HasInHead (extra text whole : String) : Prop :=
  (∃ before after, text = before ++ "</head>" ++ after ∧
    (∀ a b, text = a ++ "</head>" ++ b → before.length ≤ a.length) ∧ whole = before ++ extra ++ "</head>" ++ after) ∨
  (¬ Text.contains "</head>" text) ∧ whole = text

theorem hasInHead_insertIntoHead (extra text : String) : HasInHead extra text (insertIntoHead extra text) := by
  rw [insertIntoHead]
  split
  · next h =>
    refine .inr ⟨?_, rfl⟩
    rw [Text.not_contains_iff]
    exact Chars.splitFirst?_eq_none_iff.1 (Option.map_eq_none_iff.1 h)
  · next before after h =>
    obtain ⟨⟨front, back⟩, hsplit, he⟩ := Option.map_eq_some_iff.1 h
    obtain ⟨rfl, rfl⟩ := Prod.mk.inj he
    refine .inl ⟨String.ofList front, String.ofList back, ?_, fun a b hab => ?_, rfl⟩
    · apply String.toList_inj.1
      rw [Chars.splitFirst?_eq_some hsplit]
      simp
    · have hchars : text.toList = a.toList ++ "</head>".toList ++ b.toList := by rw [hab]; simp
      -- The text was cut at the first end of a head, so no other cut is shorter.
      have hle := Chars.length_le_of_splitFirst? hsplit hchars
      rwa [String.length_ofList, ← String.length_toList]

/-- The markup for the head is all that comes in. -/
theorem HasInHead.length_le {extra text whole : String} (h : HasInHead extra text whole) :
    whole.length ≤ text.length + extra.length := by
  rcases h with ⟨before, after, rfl, -, rfl⟩ | ⟨-, rfl⟩
  · simp only [String.length_append]
    omega
  · exact Nat.le_add_right _ _

/-! ### How documents begin -/

section Beginnings

variable {rest : List Markup}

theorem documentStart?_comment (t : String) : documentStart? (Markup.printAll (.comment t :: rest)) = none := by
  rw [Markup.printAll, Markup.print, List.append_assoc, List.append_assoc]
  rfl

theorem exists_printDoctype_eq (name publicId systemId : String) :
    ∃ s, printDoctype name publicId systemId = "<!DOCTYPE ".toList ++ s := by
  unfold printDoctype
  exact ⟨_, by simp only [List.append_assoc]; rfl⟩

theorem documentStart?_doctype (name publicId systemId : String) :
    documentStart? (Markup.printAll (.doctype name publicId systemId :: rest)) = some .doctype := by
  obtain ⟨s, hs⟩ := exists_printDoctype_eq name publicId systemId
  rw [Markup.printAll, Markup.print, hs, List.append_assoc]
  rfl

/-- Behind the name of the document element there is a blank, or the tag ends. -/
theorem documentStart?_html (attributes : List Attribute) (children : List Markup) :
    documentStart? (Markup.printAll (.element "html" attributes children :: rest)) = some .htmlElement := by
  have hvoid : voidElements.contains "html" = false := by decide
  rw [Markup.printAll, Markup.print_element_append, Markup.printTail, hvoid, if_neg Bool.false_ne_true]
  generalize Markup.printContent "html" children ++ ("</".toList ++ ("html".toList ++ '>' :: Markup.printAll rest)) = s
  cases attributes with
  | nil => rfl
  | cons a others => rfl

end Beginnings

/-! ### Whole documents -/

/-- What is kept of what a document begins with. -/
theorem exists_ofDocument_eq {html : String} (h : (readDocument html).isFragment = false) :
    ∃ rest, (∃ t, Markup.ofDocument (readDocument html) = .comment t :: rest) ∨
      (∃ name publicId systemId, Markup.ofDocument (readDocument html) = .doctype name publicId systemId :: rest) ∨
      ∃ attributes children, Markup.ofDocument (readDocument html) = .element "html" attributes children :: rest := by
  obtain ⟨m, others, hmarkup, hfront⟩ := exists_readMarkupTree_eq html
  rw [ofDocument_readDocument h, hmarkup, Markup.keptAll]
  refine ⟨Markup.keptAll others, ?_⟩
  -- The front of a document is no text, and an element there is the document element.
  cases m with
  | comment t => exact .inl ⟨t, by rw [Markup.kept]⟩
  | doctype name publicId systemId => exact .inr (.inl ⟨name, publicId, systemId, by rw [Markup.kept]⟩)
  | element name attributes children =>
    have hboth : (Namespace.html == Namespace.html && name == "html") = true := hfront
    obtain rfl : name = "html" := beq_iff_eq.1 (Bool.and_eq_true_iff.1 hboth).2
    exact .inr (.inr ⟨_, _, by rw [Markup.kept, show Text.lower "html" = "html" by decide]⟩)
  | text => cases hfront

/-- **What becomes of a whole document** in its envelope: a document that begins with a document type gets the markup
for its head, and nothing else; one that begins with the document element also gets a document type. A document that
begins with a comment is taken for a bare body. -/
theorem wrap_printDocument {html : String} (h : (readDocument html).isFragment = false) (head : String) :
    let markup := Markup.ofDocument (readDocument html)
    let out := printDocument (readDocument html)
    (∃ name publicId systemId rest, markup = .doctype name publicId systemId :: rest ∧
      HasInHead head out (wrap head out)) ∨
    (∃ attributes children rest, markup = .element "html" attributes children :: rest ∧
      ∃ whole, HasInHead head out whole ∧ wrap head out = envelopeDoctype ++ whole) ∨
    ∃ t rest, markup = .comment t :: rest ∧
      wrap head out = envelopeDoctype ++ "<html><head>" ++ head ++ "</head><body>" ++ out ++ "</body></html>" := by
  intro markup out
  have hout : out.toList = Markup.printAll markup := String.toList_ofList
  obtain ⟨rest, ⟨t, hmarkup⟩ | ⟨name, publicId, systemId, hmarkup⟩ | ⟨attributes, children, hmarkup⟩⟩ :=
    exists_ofDocument_eq h
  · -- A comment is not taken for the start of a document.
    have hstart : documentStart? out.toList = none := by
      rw [hout, show markup = _ from hmarkup, documentStart?_comment]
    exact .inr (.inr ⟨t, rest, hmarkup, by rw [wrap, hstart]⟩)
  · have hstart : documentStart? out.toList = some .doctype := by
      rw [hout, show markup = _ from hmarkup, documentStart?_doctype]
    refine .inl ⟨name, publicId, systemId, rest, hmarkup, ?_⟩
    rw [wrap, hstart]
    exact hasInHead_insertIntoHead head out
  · have hstart : documentStart? out.toList = some .htmlElement := by
      rw [hout, show markup = _ from hmarkup, documentStart?_html]
    exact .inr (.inl ⟨attributes, children, rest, hmarkup, insertIntoHead head out,
      hasInHead_insertIntoHead head out, by rw [wrap, hstart]⟩)

/-- A document without a document type gets one. -/
theorem wrap_printDocument_plain :
    (readDocument "<html><body>x</body></html>").isFragment = false ∧
      ∃ whole, HasInHead "<style></style>" "<html><head></head><body>x</body></html>" whole ∧
        wrap "<style></style>" (printDocument (readDocument "<html><body>x</body></html>")) =
          envelopeDoctype ++ whole := by
  have hfragment : (readDocument "<html><body>x</body></html>").isFragment = false := by decide +kernel
  have hout : printDocument (readDocument "<html><body>x</body></html>") =
      "<html><head></head><body>x</body></html>" := by decide +kernel
  have hfirst : (Markup.ofDocument (readDocument "<html><body>x</body></html>")).head?.map Markup.content =
      some (.element .html "html" [] none) := by decide +kernel
  refine ⟨hfragment, ?_⟩
  rcases wrap_printDocument hfragment "<style></style>" with ⟨_, _, _, _, hmarkup, -⟩ | ⟨_, _, _, -, h⟩ | ⟨_, _, hmarkup, -⟩
  · rw [hmarkup] at hfirst
    cases hfirst
  · rwa [hout] at h ⊢
  · rw [hmarkup] at hfirst
    cases hfirst

/-- **A document inside of a document**: behind a comment it is not known for one, and more than the markup for its head
and a document type is added. -/
theorem wrap_printDocument_comment :
    (readDocument "<!--c--><html><body>x</body></html>").isFragment = false ∧
      wrap "<style></style>" (printDocument (readDocument "<!--c--><html><body>x</body></html>")) =
        envelopeDoctype ++ "<html><head><style></style></head><body>" ++
          "<!--c--><html><head></head><body>x</body></html>" ++ "</body></html>" ∧
      ¬ ∃ announcement ∈ ["", envelopeDoctype], ∃ whole,
        HasInHead "<style></style>" (printDocument (readDocument "<!--c--><html><body>x</body></html>")) whole ∧
          wrap "<style></style>" (printDocument (readDocument "<!--c--><html><body>x</body></html>")) =
            announcement ++ whole := by
  have hout : printDocument (readDocument "<!--c--><html><body>x</body></html>") =
      "<!--c--><html><head></head><body>x</body></html>" := by decide +kernel
  have hwrap : wrap "<style></style>" "<!--c--><html><head></head><body>x</body></html>" =
      envelopeDoctype ++ "<html><head><style></style></head><body>" ++
        "<!--c--><html><head></head><body>x</body></html>" ++ "</body></html>" := by decide +kernel
  rw [hout]
  refine ⟨by decide +kernel, hwrap, ?_⟩
  rintro ⟨announcement, hmem, whole, hwhole, h⟩
  have hlength := hwhole.length_le
  have hannouncement : announcement.length ≤ envelopeDoctype.length := by
    rcases List.mem_pair.1 hmem with rfl | rfl
    · exact Nat.zero_le _
    · exact Nat.le_refl _
  -- What stands around the markup is longer than an announcement and the head.
  have hsame := congrArg String.length (hwrap.symm.trans h)
  simp only [String.length_append] at hsame
  have htext : "<!--c--><html><head></head><body>x</body></html>".length = 48 := by decide
  have hstyle : "<style></style>".length = 15 := by decide
  have hopening : "<html><head><style></style></head><body>".length = 40 := by decide
  omega

end HtmlMail.Mail
