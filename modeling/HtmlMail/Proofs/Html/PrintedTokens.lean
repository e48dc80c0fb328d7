import HtmlMail.Html.Printer
import HtmlMail.Proofs.Html.References
import HtmlMail.Proofs.Text.Search
import Mathlib.Data.List.SplitBy

/-!
# The tokens of printed markup

Every construct that the writer puts down is cut off again as it was written: a tag with its name and its attributes, a
comment, a text up to the next markup, and the content of an element that holds nothing but text, up to its end tag.

* `IsTagName`, `IsAttributeName`, `IsCommentText` : what can be written so that it is cut off again;
* `lex_startTag`, `lex_endTag`, `lex_comment`, `lex_doctype`, `lex_text` : the constructs of markup;
* `lex_references`, `lex_raw`, `lex_script` : the content of elements that hold text;
* `tokensOf_map` : a text comes in runs that are blank throughout or not blank anywhere.
-/

namespace HtmlMail.Html

open Chars Dom

variable {s t u rest : List Char} {c : Char}

/-! ### Names -/

/-- A text that comes through a reader of names as it is. -/
def IsNameText (s : List Char) : Prop := lower s = s ∧ '\x00' ∉ s

instance : DecidablePred IsNameText := fun s => inferInstanceAs (Decidable (lower s = s ∧ '\x00' ∉ s))

theorem map_withoutNull (h : '\x00' ∉ s) : s.map withoutNull = s := by
  refine (List.map_congr_left fun c hc => ?_).trans (List.map_id s)
  have hne : c ≠ '\x00' := fun he => h (he ▸ hc)
  rw [withoutNull, if_neg hne, id]

theorem IsNameText.asName_eq {name : String} (h : IsNameText name.toList) : asName name.toList = name := by
  rw [asName, map_withoutNull h.2, h.1, String.ofList_toList]

/-- A name that is read as the name of a tag. -/
structure IsTagName (name : String) : Prop where
  text : IsNameText name.toList
  head : name.toList.head?.any Char.isAlpha
  inside : ∀ c ∈ name.toList, endsTagName c = false

instance : DecidablePred IsTagName := fun name =>
  -- The instance for all characters would be found first.
  have := List.decidableBAll (fun c => endsTagName c = false) name.toList
  decidable_of_iff (IsNameText name.toList ∧ name.toList.head?.any Char.isAlpha ∧
      ∀ c ∈ name.toList, endsTagName c = false)
    ⟨fun ⟨h₁, h₂, h₃⟩ => ⟨h₁, h₂, h₃⟩, fun h => ⟨h.text, h.head, h.inside⟩⟩

theorem IsTagName.exists_cons {name : String} (h : IsTagName name) :
    ∃ c more, name.toList = c :: more ∧ c.isAlpha := by
  have hhead := h.head
  cases hname : name.toList with
  | nil =>
    rw [hname] at hhead
    cases hhead
  | cons c more =>
    rw [hname] at hhead
    exact ⟨c, more, rfl, hhead⟩

/-- Whether a character can stand in the name of an attribute behind the first one. -/
def isInAttributeName (c : Char) : Bool := !endsTagName c && c != '='

/-- A name that is read as the name of an attribute. -/
structure IsAttributeName (name : String) : Prop where
  text : IsNameText name.toList
  head : name.toList.head?.any fun c => !endsTagName c
  inside : ∀ c ∈ name.toList.tail, isInAttributeName c

instance : DecidablePred IsAttributeName := fun name =>
  have := List.decidableBAll (fun c => isInAttributeName c = true) name.toList.tail
  decidable_of_iff (IsNameText name.toList ∧ name.toList.head?.any (!endsTagName ·) ∧
      ∀ c ∈ name.toList.tail, isInAttributeName c)
    ⟨fun ⟨h₁, h₂, h₃⟩ => ⟨h₁, h₂, h₃⟩, fun h => ⟨h.text, h.head, h.inside⟩⟩

theorem IsAttributeName.exists_cons {name : String} (h : IsAttributeName name) :
    ∃ c more, name.toList = c :: more ∧ endsTagName c = false ∧ ∀ d ∈ more, isInAttributeName d := by
  have hhead := h.head
  have hinside := h.inside
  cases hname : name.toList with
  | nil =>
    rw [hname] at hhead
    cases hhead
  | cons c more =>
    rw [hname] at hhead hinside
    exact ⟨c, more, rfl, by simpa using hhead, hinside⟩

/-! ### Attributes -/

/-- **A value in double quotes** is read as it was written. -/
theorem readValue?_print (h : '\x00' ∉ s) (rest : List Char) :
    readValue? ('"' :: (escapeAttribute s ++ '"' :: rest)) = some (s, rest) := by
  have hpieces : readPieces (some true) (·.head? == some '"') (escapeAttribute s ++ '"' :: rest) =
      (s.map .character, '"' :: rest) := by
    refine readPieces_flatMap_escape isEscape_escapeAttributeChar true (.inl rfl) fun d t ht => ?_
    -- The first character of what is written for a character is no double quote.
    obtain ⟨e, more, he⟩ := List.exists_cons_of_ne_nil (isEscape_escapeAttributeChar.ne_nil d)
    have hno := quote_not_mem_escapeAttribute [d]
    rw [escapeAttribute, List.flatMap_singleton, he] at hno
    rw [he, List.cons_append, List.head?_cons]
    exact beq_false_of_ne fun hsame => hno (Option.some.inj hsame ▸ List.mem_cons_self)
  have hchars : charactersOf (s.map .character) = s := by
    rw [charactersOf, List.filterMap_map]
    show s.filterMap (fun c => some (withoutNull c)) = s
    rw [List.filterMap_eq_map', map_withoutNull h]
  rw [readValue?, if_pos (.inl rfl), hpieces]
  simp [hchars]

/-- What the writer puts down for an attribute behind the blank. -/
theorem printAttribute_append (a : Attribute) (u : List Char) : printAttribute a ++ u =
    ' ' :: (a.name.toList ++ '=' :: '"' :: (escapeAttribute a.value.toList ++ '"' :: u)) := by
  simp only [printAttribute, List.append_assoc, List.cons_append, List.nil_append]

/-- An attribute that is read as it was written. -/
def IsReadableAttribute (a : Attribute) : Prop := IsAttributeName a.name ∧ '\x00' ∉ a.value.toList

instance : DecidablePred IsReadableAttribute := fun a =>
  inferInstanceAs (Decidable (IsAttributeName a.name ∧ '\x00' ∉ a.value.toList))

/-- **An attribute** is read as it was written. -/
theorem readAttribute?_print {a : Attribute} (ha : IsReadableAttribute a) (rest : List Char) :
    readAttribute? (a.name.toList ++ '=' :: '"' :: (escapeAttribute a.value.toList ++ '"' :: rest)) = some (a, rest) := by
  obtain ⟨c, more, hname, hc, hmore⟩ := ha.1.exists_cons
  have hblank : isMarkupBlank '=' = false ∧ isMarkupBlank '"' = false := by decide
  have hsign : isInAttributeName '=' = false := by decide
  -- The name ends at the sign, which is no character of names.
  obtain ⟨htake, hdrop⟩ := takeWhile_append_cons hmore hsign
    ('"' :: (escapeAttribute a.value.toList ++ '"' :: rest))
  have hvalue := readValue?_print ha.2 rest
  have hread : asName (c :: more) = a.name := by rw [← hname, ha.1.text.asName_eq]
  rw [hname, List.cons_append]
  unfold isInAttributeName at htake hdrop
  simp only [readAttribute?, htake, hdrop, hread, List.dropWhile_cons, hblank.1, hblank.2, Bool.false_eq_true, if_false,
    hvalue, Option.map_some, String.ofList_toList]

/-! ### Tags -/

/-- Reads a blank in front of something else in a tag. -/
theorem readTagRest?_blank (s : List Char) : readTagRest? (' ' :: s) = readTagRest? s := by
  rw [readTagRest?]
  · rw [if_pos (by decide)]
  · exact fun h => absurd h (by decide)
  · exact fun _ h => absurd h (by decide)

/-- **The attributes of a tag** are read as they were written. -/
theorem readTagRest?_print {closesItself : Bool} {end_ : List Char}
    (hend : readTagRest? end_ = some ([], closesItself, rest)) : ∀ {as : List Attribute},
    (∀ a ∈ as, IsReadableAttribute a) →
      readTagRest? (as.flatMap printAttribute ++ end_) = some (as, closesItself, rest)
  | [], _ => hend
  | a :: as, h => by
    have hrest := readTagRest?_print hend fun b hb => h b (List.mem_cons_of_mem _ hb)
    have ha := readAttribute?_print (h a List.mem_cons_self) (as.flatMap printAttribute ++ end_)
    obtain ⟨c, more, hname, hc, -⟩ := (h a List.mem_cons_self).1.exists_cons
    simp only [endsTagName, Bool.or_eq_false_iff, beq_eq_false_iff_ne] at hc
    rw [List.flatMap_cons, List.append_assoc, printAttribute_append, readTagRest?_blank]
    rw [hname, List.cons_append] at ha ⊢
    -- A name does not begin with what ends a tag, so an attribute is read.
    rw [readTagRest?]
    · rw [if_neg (by simp [hc.1.1, hc.1.2])]
      split
      · next hno =>
        rw [ha] at hno
        cases hno
      · next b after hb =>
        rw [ha] at hb
        cases hb
        rw [hrest]
        rfl
    · exact hc.2
    · exact fun _ he => absurd he hc.1.2

theorem foldl_firstOfEachName : ∀ {as kept : List Attribute}, ((kept ++ as).map (·.name)).Nodup →
    as.foldl (fun kept a => if kept.any (·.name == a.name) then kept else kept ++ [a]) kept = kept ++ as
  | [], kept, _ => (List.append_nil kept).symm
  | a :: as, kept, h => by
    have hnew : ¬ kept.any (·.name == a.name) := by
      rw [List.any_eq_true]
      rintro ⟨b, hb, hsame⟩
      rw [List.map_append, List.nodup_append] at h
      exact h.2.2 b.name (List.mem_map_of_mem hb) a.name (List.mem_map_of_mem List.mem_cons_self) (eq_of_beq hsame)
    -- The attribute is kept, and the rest is unlike it as well.
    rw [List.append_cons] at h
    rw [List.foldl_cons, if_neg hnew, foldl_firstOfEachName h, List.append_assoc, List.singleton_append]

theorem firstOfEachName_eq {as : List Attribute} (h : (as.map (·.name)).Nodup) : firstOfEachName as = as :=
  foldl_firstOfEachName h

/-- A tag that is read as it was written. -/
structure IsReadableTag (name : String) (as : List Attribute) : Prop where
  name : IsTagName name
  attributes : ∀ a ∈ as, IsReadableAttribute a
  nodup : (as.map (·.name)).Nodup

instance (name : String) (as : List Attribute) : Decidable (IsReadableTag name as) :=
  decidable_of_iff (IsTagName name ∧ (∀ a ∈ as, IsReadableAttribute a) ∧ (as.map (·.name)).Nodup)
    ⟨fun ⟨h₁, h₂, h₃⟩ => ⟨h₁, h₂, h₃⟩, fun h => ⟨h.name, h.attributes, h.nodup⟩⟩

/-- What stands behind a name in a tag begins with a character that ends it. -/
theorem exists_cons_of_tagEnd (as : List Attribute) {closesItself : Bool} {end_ : List Char}
    (hend : readTagRest? end_ = some ([], closesItself, rest)) :
    ∃ c more, as.flatMap printAttribute ++ end_ = c :: more ∧ endsTagName c := by
  cases as with
  | cons a as =>
    rw [List.flatMap_cons, List.append_assoc, printAttribute_append]
    exact ⟨' ', _, rfl, by decide⟩
  | nil =>
    rw [List.flatMap_nil, List.nil_append]
    cases end_ with
    | nil => rw [readTagRest?] at hend; cases hend
    | cons c more =>
      refine ⟨c, more, rfl, ?_⟩
      by_contra hc
      simp only [endsTagName, Bool.or_eq_true, not_or, Bool.not_eq_true, beq_eq_false_iff_ne] at hc
      -- Otherwise an attribute would be read there.
      rw [readTagRest?] at hend
      · rw [if_neg (by simp [hc.1.1, hc.1.2])] at hend
        split at hend
        · cases hend
        · obtain ⟨_, -, he⟩ := Option.map_eq_some_iff.1 hend
          cases he
      · exact hc.2
      · exact fun _ he => absurd he hc.1.2

/-- **A tag** is read as it was written. -/
theorem readTag_print {name : String} {as : List Attribute} (h : IsReadableTag name as) (isEnd : Bool)
    {closesItself : Bool} {end_ : List Char} (hend : readTagRest? end_ = some ([], closesItself, rest)) :
    readTag isEnd (name.toList ++ (as.flatMap printAttribute ++ end_)) =
      ([.tag ⟨isEnd, name, as, closesItself⟩], rest) := by
  obtain ⟨c, more, htail, hc⟩ := exists_cons_of_tagEnd as hend
  have hrest := readTagRest?_print hend h.attributes
  rw [htail] at hrest ⊢
  obtain ⟨htake, hdrop⟩ := takeWhile_append_cons (p := fun c => !endsTagName c) (c := c)
    (fun d hd => by rw [h.name.inside d hd]; rfl) (by rw [hc]; rfl) more
  rw [readTag, hdrop, htake, hrest, h.name.text.asName_eq]
  dsimp only
  rw [firstOfEachName_eq h.nodup]

theorem readTagRest?_gt (rest : List Char) : readTagRest? ('>' :: rest) = some ([], false, rest) := by rw [readTagRest?]

theorem readTagRest?_closed (rest : List Char) : readTagRest? (' ' :: '/' :: '>' :: rest) = some ([], true, rest) := by
  rw [readTagRest?_blank, readTagRest?]

/-- **A start tag** is cut off as it was written. -/
theorem lex_startTag {name : String} {as : List Attribute} (h : IsReadableTag name as) (inForeign : Bool)
    {closesItself : Bool} {end_ : List Char} (hend : readTagRest? end_ = some ([], closesItself, rest)) :
    lex .markup inForeign ('<' :: (name.toList ++ (as.flatMap printAttribute ++ end_))) =
      ⟨[.tag ⟨false, name, as, closesItself⟩], rest, .markup⟩ := by
  have hread := readTag_print h false hend
  obtain ⟨c, more, hname, hc⟩ := h.name.exists_cons
  have hmarkup : readMarkup inForeign ('<' :: (name.toList ++ (as.flatMap printAttribute ++ end_))) =
      ([.tag ⟨false, name, as, closesItself⟩], rest) := by
    rw [hname, List.cons_append] at hread ⊢
    have hletter : ∀ d ∈ ['!', '/', '?'], d.isAlpha = false := by simp
    -- A letter behind the bracket tells a tag from the other kinds of markup.
    have hne : ∀ d ∈ ['!', '/', '?'], c ≠ d := by
      rintro d hd rfl
      rw [hletter c hd] at hc
      cases hc
    have hstart : isMarkupStart ('<' :: c :: (more ++ (as.flatMap printAttribute ++ end_))) := by
      rw [isMarkupStart]
      · simp [hc]
      · exact fun he => hne '/' (by decide) he
    unfold readMarkup
    rw [if_pos hstart]
    split
    · next he => exact absurd (List.cons.inj (List.cons.inj he).2).1 (hne _ (by decide))
    · next he => exact absurd (List.cons.inj (List.cons.inj he).2).1 (hne _ (by decide))
    · next he => exact absurd (List.cons.inj (List.cons.inj he).2).1 (hne _ (by decide))
    · next he => exact absurd (List.cons.inj (List.cons.inj he).2).1 (hne _ (by decide))
    · exact hread
  rw [lex, hmarkup]

/-- The end tag of a name, with what follows it. -/
def endTag (name : String) (rest : List Char) : List Char := '<' :: '/' :: (name.toList ++ '>' :: rest)

theorem readTag_end {name : String} (h : IsTagName name) (rest : List Char) :
    readTag true (name.toList ++ '>' :: rest) = ([.tag ⟨true, name, [], false⟩], rest) :=
  @readTag_print _ name [] ⟨h, fun _ ha => absurd ha List.not_mem_nil, List.nodup_nil⟩ true false _
    (readTagRest?_gt rest)

/-- **An end tag** is cut off as it was written. -/
theorem lex_endTag {name : String} (h : IsTagName name) (inForeign : Bool) (rest : List Char) :
    lex .markup inForeign (endTag name rest) = ⟨[.tag ⟨true, name, [], false⟩], rest, .markup⟩ := by
  have hread := readTag_end h rest
  rw [endTag]
  obtain ⟨c, more, hname, hc⟩ := h.exists_cons
  have hmarkup : readMarkup inForeign ('<' :: '/' :: (name.toList ++ '>' :: rest)) =
      ([.tag ⟨true, name, [], false⟩], rest) := by
    rw [hname, List.cons_append] at hread ⊢
    -- The name begins with a letter, which decides between the kinds of markup.
    have hne : c ≠ '>' := by
      rintro rfl
      revert hc
      decide
    unfold readMarkup
    rw [if_pos (by simp [isMarkupStart])]
    split
    · next he => exact absurd (List.cons.inj (List.cons.inj he).2).1 (by decide)
    · next he => exact absurd (List.cons.inj (List.cons.inj (List.cons.inj he).2).2).1 hne
    · next he =>
      cases he
      rw [List.head?_cons, Option.any_some, if_pos hc]
      exact hread
    · next he => exact absurd (List.cons.inj (List.cons.inj he).2).1 (by decide)
    · next hno _ => exact absurd rfl (hno _)
  rw [lex, hmarkup]

/-! ### Comments -/

/-- A text that is read as the text of a comment. -/
structure IsCommentText (s : List Char) : Prop where
  no_null : '\x00' ∉ s
  no_end : ¬ "-->".toList <:+: s
  no_loud_end : ¬ "--!>".toList <:+: s
  not_closed : ¬ ['>'] <+: s
  not_closing : ¬ ['-', '>'] <+: s

instance : DecidablePred IsCommentText := fun s =>
  decidable_of_iff ('\x00' ∉ s ∧ ¬ "-->".toList <:+: s ∧ ¬ "--!>".toList <:+: s ∧ ¬ ['>'] <+: s ∧ ¬ ['-', '>'] <+: s)
    ⟨fun ⟨h₁, h₂, h₃, h₄, h₅⟩ => ⟨h₁, h₂, h₃, h₄, h₅⟩,
      fun h => ⟨h.no_null, h.no_end, h.no_loud_end, h.not_closed, h.not_closing⟩⟩

theorem splitCommentEnd?_append : ∀ {s rest : List Char}, ¬ ['-', '-', '>'] <:+: s → ¬ ['-', '-', '!', '>'] <:+: s →
    splitCommentEnd? (s ++ '-' :: '-' :: '>' :: rest) = some (s, rest)
  | [], _, _, _ => by rw [List.nil_append, splitCommentEnd?]
  | c :: s, rest, hend, hloud => by
    have hrest := @splitCommentEnd?_append s rest (fun h => hend (h.trans (List.suffix_cons c s).isInfix))
      fun h => hloud (h.trans (List.suffix_cons c s).isInfix)
    rw [List.cons_append, splitCommentEnd?]
    · rw [hrest]
      rfl
    -- An end that begins here would lie in the text, because nothing in the closing mark goes on with it.
    · rintro after rfl he
      rcases s with _ | ⟨d, _ | ⟨e, s⟩⟩
      · simp at he
      · simp at he
      · obtain ⟨rfl, rfl, -⟩ : d = '-' ∧ e = '>' ∧ _ = after := by simpa using he
        exact hend ⟨[], s, rfl⟩
    · rintro after rfl he
      rcases s with _ | ⟨d, _ | ⟨e, _ | ⟨f, s⟩⟩⟩
      · simp at he
      · simp at he
      · simp at he
      · obtain ⟨rfl, rfl, rfl, -⟩ : d = '-' ∧ e = '!' ∧ f = '>' ∧ _ = after := by simpa using he
        exact hloud ⟨[], s, rfl⟩

/-- **A comment** is cut off as it was written. -/
theorem lex_comment {content : String} (h : IsCommentText content.toList) (inForeign : Bool) (rest : List Char) :
    lex .markup inForeign ("<!--".toList ++ (content.toList ++ ("-->".toList ++ rest))) =
      ⟨[.comment content], rest, .markup⟩ := by
  have hsplit : splitCommentEnd? (content.toList ++ '-' :: '-' :: '>' :: rest) = some (content.toList, rest) :=
    splitCommentEnd?_append h.no_end h.no_loud_end
  have hread : readComment (content.toList ++ '-' :: '-' :: '>' :: rest) = ([.comment content], rest) := by
    rw [readComment]
    · rw [hsplit]
      dsimp only
      rw [commentOf, map_withoutNull h.no_null, String.ofList_toList]
    · -- A text that begins as the end of a comment would close it at once.
      intro after he
      have hclosed := h.not_closed
      cases hs : content.toList with
      | nil => rw [hs] at he; simp at he
      | cons c s =>
        rw [hs] at he hclosed
        obtain ⟨rfl, -⟩ := List.cons.inj he
        exact hclosed ⟨s, rfl⟩
    · intro after he
      have hclosing := h.not_closing
      rcases hs : content.toList with _ | ⟨c, _ | ⟨d, s⟩⟩ <;> rw [hs] at he hclosing
      · simp at he
      · simp at he
      · obtain ⟨rfl, rfl, -⟩ : c = '-' ∧ d = '>' ∧ _ = after := by simpa using he
        exact hclosing ⟨s, rfl⟩
  exact congrArg (fun read : List Token × List Char => (⟨read.1, read.2, .markup⟩ : Lexed)) hread

/-! ### Document types -/

/-- A document type that is read as it was written. -/
structure IsReadableDoctype (name publicId systemId : String) : Prop where
  text : IsNameText name.toList
  ne : name ≠ ""
  inside : ∀ c ∈ name.toList, !isMarkupBlank c && c != '>'
  publicId : ∀ c ∈ publicId.toList, c ≠ '\x00' ∧ c ≠ '"' ∧ c ≠ '>'
  systemId : ∀ c ∈ systemId.toList, c ≠ '\x00' ∧ c ≠ '"' ∧ c ≠ '>'

instance (name publicId systemId : String) : Decidable (IsReadableDoctype name publicId systemId) :=
  have := List.decidableBAll (fun c => (!isMarkupBlank c && c != '>') = true) name.toList
  have (id : String) := List.decidableBAll (fun c => c ≠ '\x00' ∧ c ≠ '"' ∧ c ≠ '>') id.toList
  decidable_of_iff (IsNameText name.toList ∧ name ≠ "" ∧ (∀ c ∈ name.toList, !isMarkupBlank c && c != '>') ∧
      (∀ c ∈ publicId.toList, c ≠ '\x00' ∧ c ≠ '"' ∧ c ≠ '>') ∧ ∀ c ∈ systemId.toList, c ≠ '\x00' ∧ c ≠ '"' ∧ c ≠ '>')
    ⟨fun ⟨h₁, h₂, h₃, h₄, h₅⟩ => ⟨h₁, h₂, h₃, h₄, h₅⟩, fun h => ⟨h.text, h.ne, h.inside, h.publicId, h.systemId⟩⟩

/-- An identifier in a document type, of which an empty one is not written. -/
def identifier? (id : String) : Option String := if id = "" then none else some id

/-- The document type that is read from what is written. -/
def doctypeOf (name publicId systemId : String) : Doctype :=
  ⟨some name, identifier? publicId, identifier? systemId, false⟩

/-- **An identifier** is read as it was written. -/
theorem readIdentifier_print {id : String} (h : ∀ c ∈ id.toList, c ≠ '\x00' ∧ c ≠ '"' ∧ c ≠ '>') (rest : List Char) :
    readIdentifier '"' (id.toList ++ '"' :: rest) = (some id, false, rest) := by
  obtain ⟨htake, hdrop⟩ := takeWhile_append_cons (p := fun c => c != '"' && c != '>') (c := '"')
    (s := id.toList) (fun d hd => by simp [(h d hd).2]) (by decide) rest
  have hnull : '\x00' ∉ id.toList := fun hmem => (h _ hmem).1 rfl
  rw [readIdentifier, htake, hdrop, map_withoutNull hnull, String.ofList_toList]
  rfl

theorem readSystemId_print {id : String} (h : ∀ c ∈ id.toList, c ≠ '\x00' ∧ c ≠ '"' ∧ c ≠ '>') (required : Bool)
    (d : Doctype) (hfaulty : d.isFaulty = false) (rest : List Char) :
    readSystemId required d (' ' :: '"' :: (id.toList ++ '"' :: '>' :: rest)) =
      ([.doctype { d with systemId? := some id }], rest) := by
  have hid := readIdentifier_print h ('>' :: rest)
  have hstart : (' ' :: '"' :: (id.toList ++ '"' :: '>' :: rest)).dropWhile isMarkupBlank =
      '"' :: (id.toList ++ '"' :: '>' :: rest) := rfl
  rw [readSystemId, hstart]
  dsimp only
  rw [if_pos (.inl rfl), hid]
  cases d
  cases hfaulty
  rfl

theorem readPublicId_print {id : String} (h : ∀ c ∈ id.toList, c ≠ '\x00' ∧ c ≠ '"' ∧ c ≠ '>') (d : Doctype)
    (rest : List Char) : readPublicId d (' ' :: '"' :: (id.toList ++ '"' :: rest)) =
      readSystemId false { d with publicId? := some id } rest := by
  have hid := readIdentifier_print h rest
  have hstart : (' ' :: '"' :: (id.toList ++ '"' :: rest)).dropWhile isMarkupBlank =
      '"' :: (id.toList ++ '"' :: rest) := rfl
  rw [readPublicId, hstart]
  dsimp only
  rw [if_pos (.inl rfl), hid]
  rfl

/-- The identifiers of a document type with what follows them. -/
def printIdentifiers (publicId systemId : String) (rest : List Char) : List Char :=
  if publicId = "" then
    if systemId = "" then '>' :: rest
    else " SYSTEM".toList ++ ' ' :: '"' :: (systemId.toList ++ '"' :: '>' :: rest)
  else " PUBLIC".toList ++ ' ' :: '"' :: (publicId.toList ++ '"' ::
    if systemId = "" then '>' :: rest else ' ' :: '"' :: (systemId.toList ++ '"' :: '>' :: rest))

theorem printDoctype_append (name publicId systemId : String) (rest : List Char) :
    printDoctype name publicId systemId ++ rest =
      '<' :: '!' :: ("DOCTYPE".toList ++ ' ' :: (name.toList ++ printIdentifiers publicId systemId rest)) := by
  have hpublic : " PUBLIC \"".toList = " PUBLIC".toList ++ [' ', '"'] := rfl
  have hmark : "<!DOCTYPE ".toList = '<' :: '!' :: ("DOCTYPE".toList ++ [' ']) := rfl
  unfold printDoctype printIdentifiers
  rw [hpublic, hmark]
  -- What the constants are made of does not matter from here on.
  generalize " PUBLIC".toList = p
  generalize " SYSTEM".toList = q
  generalize "DOCTYPE".toList = d
  by_cases hp : publicId = "" <;> by_cases hq : systemId = ""
  · rw [if_pos hp, if_pos hq, if_pos hp, if_pos hq]
    simp only [List.append_assoc, List.cons_append, List.nil_append]
  · rw [if_pos hp, if_neg hq, if_pos hp, if_pos hp, if_neg hq]
    simp only [List.append_assoc, List.cons_append, List.nil_append]
  · rw [if_neg hp, if_pos hq, if_neg hp, if_pos hq]
    simp only [List.append_assoc, List.cons_append, List.nil_append]
  · rw [if_neg hp, if_neg hq, if_neg hp, if_neg hp, if_neg hq]
    simp only [List.append_assoc, List.cons_append, List.nil_append]

/-- In front of the identifiers a name is at its end. -/
theorem exists_printIdentifiers_eq_cons (publicId systemId : String) (rest : List Char) :
    ∃ d tail, printIdentifiers publicId systemId rest = d :: tail ∧ (!isMarkupBlank d && d != '>') = false := by
  rw [printIdentifiers]
  split
  · split
    · exact ⟨_, _, rfl, by decide⟩
    · exact ⟨_, _, rfl, by decide⟩
  · exact ⟨_, _, rfl, by decide⟩

/-- **A document type** is read as it was written. -/
theorem readDoctype_print {name publicId systemId : String} (h : IsReadableDoctype name publicId systemId)
    (rest : List Char) : readDoctype (' ' :: (name.toList ++ printIdentifiers publicId systemId rest)) =
      ([.doctype (doctypeOf name publicId systemId)], rest) := by
  obtain ⟨c, more, hname⟩ := List.exists_cons_of_ne_nil (fun he => h.ne (String.toList_eq_nil_iff.1 he))
  have hinside := h.inside
  have hasName := h.text.asName_eq
  rw [hname] at hinside hasName ⊢
  have hblank : isMarkupBlank c = false := by
    have hc := hinside c List.mem_cons_self
    rw [Bool.and_eq_true, Bool.not_eq_true'] at hc
    exact hc.1
  have hstart : (' ' :: (c :: more ++ printIdentifiers publicId systemId rest)).dropWhile isMarkupBlank =
      c :: more ++ printIdentifiers publicId systemId rest := by
    rw [List.dropWhile_cons, if_pos (by decide), List.cons_append, List.dropWhile_cons, hblank,
      if_neg Bool.false_ne_true]
  -- Whatever comes behind the name ends it.
  obtain ⟨d, tail, htail, hd⟩ := exists_printIdentifiers_eq_cons publicId systemId rest
  obtain ⟨htake, hdrop⟩ := takeWhile_append_cons (p := fun c => !isMarkupBlank c && c != '>') (c := d)
    hinside hd tail
  rw [← htail] at htake hdrop
  rw [readDoctype, hstart]
  dsimp only
  rw [htake, hdrop, hasName, List.isEmpty_cons, if_neg Bool.false_ne_true, printIdentifiers, doctypeOf, identifier?,
    identifier?]
  -- An empty identifier is not written, so it is read as a missing one.
  by_cases hp : publicId = ""
  · rw [if_pos hp, if_pos hp]
    by_cases hq : systemId = ""
    · rw [if_pos hq, if_pos hq]
      rfl
    · rw [if_neg hq, if_neg hq]
      exact readSystemId_print h.systemId true ⟨some name, none, none, false⟩ rfl rest
  · rw [if_neg hp, if_neg hp]
    refine (readPublicId_print h.publicId _ _).trans ?_
    by_cases hq : systemId = ""
    · rw [if_pos hq, if_pos hq]
      rfl
    · rw [if_neg hq, if_neg hq]
      exact readSystemId_print h.systemId false ⟨some name, some publicId, none, false⟩ rfl rest

/-- **A document type** is cut off as it was written. -/
theorem lex_doctype {name publicId systemId : String} (h : IsReadableDoctype name publicId systemId) (inForeign : Bool)
    (rest : List Char) : lex .markup inForeign (printDoctype name publicId systemId ++ rest) =
      ⟨[.doctype (doctypeOf name publicId systemId)], rest, .markup⟩ := by
  have hread := readDoctype_print h rest
  rw [printDoctype_append]
  exact congrArg (fun read : List Token × List Char => (⟨read.1, read.2, .markup⟩ : Lexed)) hread

/-! ### Text -/

/-- What can follow a text, so that the text ends there: markup, or nothing. -/
def EndsText (s : List Char) : Prop := isMarkupStart s ∨ s = []

theorem isMarkupStart_of_ne {c : Char} (hc : c ≠ '<') (s : List Char) : isMarkupStart (c :: s) = false := by
  unfold isMarkupStart
  split
  · next he => exact absurd (List.cons.inj he).1 hc
  · next he => exact absurd (List.cons.inj he).1 hc
  · rfl

/-- What is written for a character begins with no angle bracket. -/
theorem exists_escapeTextChar_eq_cons (c : Char) : ∃ d more, escapeTextChar c = d :: more ∧ d ≠ '<' := by
  obtain ⟨d, more, hd⟩ := List.exists_cons_of_ne_nil (isEscape_escapeTextChar.ne_nil c)
  have hno := lt_not_mem_escapeText [c]
  rw [escapeText, List.flatMap_singleton, hd] at hno
  exact ⟨d, more, hd, fun he => hno (he ▸ List.mem_cons_self)⟩

/-- **A text** is cut off up to the next markup. -/
theorem lex_text (hs : s ≠ []) (hrest : EndsText rest) (inForeign : Bool) :
    lex .markup inForeign (escapeText s ++ rest) = ⟨tokensOf (s.map .character), rest, .markup⟩ := by
  -- No escape begins like markup.
  have hgo : ∀ c t, c :: t <:+ s → isMarkupStart (escapeTextChar c ++ (t.flatMap escapeTextChar ++ rest)) = false := by
    intro c t _
    obtain ⟨d, more, hd, hne⟩ := exists_escapeTextChar_eq_cons c
    rw [hd]
    exact isMarkupStart_of_ne hne _
  have hpieces := readPieces_flatMap_escape isEscape_escapeTextChar false hrest hgo
  have hstart : isMarkupStart (escapeText s ++ rest) = false := by
    obtain ⟨c, t, rfl⟩ := List.exists_cons_of_ne_nil hs
    have hc := hgo c t List.suffix_rfl
    rwa [escapeText, List.flatMap_cons, List.append_assoc]
  have hmarkup : readMarkup inForeign (escapeText s ++ rest) = (tokensOf (s.map .character), rest) := by
    unfold readMarkup
    rw [if_neg (by rw [hstart]; exact Bool.false_ne_true)]
    rw [escapeText, hpieces]
  rw [lex, hmarkup]

/-! ### Runs -/

/-- Whether two neighbours in a text are both blank or both not. -/
def isSameKind (c d : Char) : Bool := isMarkupBlank c == isMarkupBlank d

/-- The token of a run that is blank throughout or not blank anywhere. -/
def textToken (run : List Char) : Token :=
  if run.head?.any isMarkupBlank then .blanks (String.ofList run) else .text (String.ofList run)

theorem tokenOfRun_map (hs : s ≠ []) (hnull : '\x00' ∉ s) : tokenOfRun (s.map .character) = [textToken s] := by
  obtain ⟨c, t, rfl⟩ := List.exists_cons_of_ne_nil hs
  obtain ⟨hc, ht⟩ := List.ne_and_not_mem_of_not_mem_cons hnull
  have hchars : charactersOf (t.map .character) = t := by
    rw [charactersOf, List.filterMap_map]
    show t.filterMap (fun c => some (withoutNull c)) = t
    rw [List.filterMap_eq_map', map_withoutNull ht]
  rw [List.map_cons, tokenOfRun, hchars, if_neg (Ne.symm hc), textToken]
  rfl

/-- The runs of a text. -/
def runs (s : List Char) : List (List Char) := s.splitBy isSameKind

theorem splitBy_map_character (hnull : '\x00' ∉ s) :
    (s.map Piece.character).splitBy isOneRun = (runs s).map (·.map .character) := by
  -- The pieces of the runs come to the text, none is empty, and they end where the runs end.
  refine List.splitBy_eq_iff.2 ⟨?_, ?_, ?_, ?_⟩
  · rw [← List.map_flatten, runs, List.flatten_splitBy]
  · intro hnil
    obtain ⟨run, hrun, he⟩ := List.mem_map.1 hnil
    exact List.ne_nil_of_mem_splitBy hrun (List.map_eq_nil_iff.1 he)
  · rintro _ hpieces
    obtain ⟨run, hrun, rfl⟩ := List.mem_map.1 hpieces
    have hmem : ∀ c ∈ run, c ≠ '\x00' := by
      rintro _ hc rfl
      rw [← List.flatten_splitBy isSameKind s] at hnull
      exact hnull (List.mem_flatten_of_mem hrun hc)
    rw [List.isChain_map]
    refine (List.isChain_of_mem_splitBy hrun).imp_of_mem_imp fun c d hc hd h => ?_
    rw [isOneRun, bne_iff_ne.2 (hmem c hc), bne_iff_ne.2 (hmem d hd)]
    exact h
  · rw [List.isChain_map]
    refine (List.isChain_getLast_head_splitBy isSameKind s).imp ?_
    rintro a b ⟨ha, hb, h⟩
    refine ⟨by simpa using ha, by simpa using hb, ?_⟩
    rw [List.getLast_map, List.head_map, isOneRun, show (_ == _) = false from h, Bool.and_false]

/-- **The tokens of a text** are those of its runs. -/
theorem tokensOf_map (hnull : '\x00' ∉ s) : tokensOf (s.map .character) = (runs s).map textToken := by
  rw [tokensOf, splitBy_map_character hnull, List.flatMap_map, List.map_eq_flatMap]
  refine List.flatMap_congr fun run hrun => tokenOfRun_map (List.ne_nil_of_mem_splitBy hrun) fun h => hnull ?_
  rw [← List.flatten_splitBy isSameKind s]
  exact List.mem_flatten_of_mem hrun h

/-! ### Elements that hold text -/

theorem isEndTagStart_endTag (name : String) (rest : List Char) : isEndTagStart name (endTag name rest) := by
  have hmark : endTag name rest = ("</" ++ name).toList ++ '>' :: rest := by
    rw [@String.toList_append "</"]
    rfl
  have hends : endsTagName '>' := by decide
  rw [isEndTagStart, dropPrefixIgnoringCase?, hmark, List.take_left, List.drop_left, eqIgnoringCase, beq_self_eq_true,
    if_pos rfl, Option.any_some, List.head?_cons, Option.any_some, hends]

theorem toList_endTagMark (name : String) : ("</" ++ name).toList = '<' :: '/' :: name.toList :=
  @String.toList_append "</" name

/-- An end tag begins only with its mark, in letters of any case. -/
theorem isEndTagStart_eq_false {name : String} (h : ¬ lower ("</" ++ name).toList <+: lower s) :
    isEndTagStart name s = false := by
  rw [isEndTagStart, dropPrefixIgnoringCase?, if_neg]
  · rfl
  · intro hbegins
    have hsame := eq_of_beq hbegins
    rw [lower, List.map_take] at hsame
    exact h (hsame ▸ List.take_prefix _ _)

theorem isEndTagStart_of_ne (hc : c ≠ '<') (name : String) (s : List Char) : isEndTagStart name (c :: s) = false := by
  refine isEndTagStart_eq_false fun h => ?_
  rw [toList_endTagMark, lower_cons, lower_cons c, List.cons_prefix_cons] at h
  exact hc (eq_of_toLower_eq (by decide) h.1.symm)

/-- A mark that begins in a text and holds a character at its start only does not go on to such a character. -/
theorem prefix_of_prefix_append {mark : List Char} (hc : c ∉ mark.tail) (hs : s ≠ []) (h : mark <+: s ++ c :: rest) :
    mark <+: s := by
  rcases Nat.lt_or_ge s.length mark.length with hlt | hle
  · have hinside : s ++ [c] <+: mark := by
      refine List.prefix_of_prefix_length_le ?_ h (by rwa [List.length_append])
      exact ⟨rest, by rw [List.append_assoc, List.singleton_append]⟩
    obtain ⟨more, rfl⟩ := hinside
    obtain ⟨d, t, rfl⟩ := List.exists_cons_of_ne_nil hs
    exact absurd (List.mem_append_left _ (List.mem_append_right _ (List.mem_singleton_self c))) hc
  · exact List.prefix_of_prefix_length_le h (List.prefix_append s _) hle

/-- **An end tag begins nowhere in a text** that does not hold its beginning, whatever markup follows. -/
theorem isEndTagStart_append {name : String} (hlt : '<' ∉ name.toList) (hs : s ≠ [])
    (h : ¬ lower ("</" ++ name).toList <+: lower s) (rest : List Char) :
    isEndTagStart name (s ++ '<' :: rest) = false := by
  refine isEndTagStart_eq_false fun hbegins => ?_
  rw [lower_append, lower_cons] at hbegins
  -- Otherwise the end tag would go on behind the bracket, which stands at its start only.
  refine h (prefix_of_prefix_append ?_ (by simpa [lower] using hs) hbegins)
  rw [toList_endTagMark, lower_cons, List.tail_cons, lower_cons, List.mem_cons]
  rintro (he | hmem)
  · revert he
    decide
  · exact hlt (mem_of_mem_lower (by decide) hmem)

theorem ofStretch_endTag {name : String} (h : IsTagName name) (tokens : List Token) (rest : List Char) :
    Lexed.ofStretch tokens (endTag name rest) = ⟨tokens ++ [.tag ⟨true, name, [], false⟩], rest, .markup⟩ := by
  have hread : readTag true (name.toList ++ '>' :: rest) = ([.tag ⟨true, name, [], false⟩], rest) := readTag_end h rest
  rw [Lexed.ofStretch, endTag, List.isEmpty_cons]
  show (⟨tokens ++ (readTag true (name.toList ++ '>' :: rest)).1, (readTag true (name.toList ++ '>' :: rest)).2,
    .markup⟩ : Lexed) = _
  rw [hread]

theorem tokensOfRaw_map (hnull : '\x00' ∉ s) : tokensOfRaw (s.map .character) = (runs s).map textToken := by
  rw [tokensOfRaw, List.map_map, ← tokensOf_map hnull]
  refine congrArg tokensOf (List.map_congr_left fun c hc => ?_)
  have hne : c ≠ '\x00' := fun he => hnull (he ▸ hc)
  show Piece.character (withoutNull c) = .character c
  rw [withoutNull, if_neg hne]

/-- **Text with references** in an element is cut off together with the end tag of the element. -/
theorem lex_references {name : String} (h : IsTagName name) (hnull : '\x00' ∉ s) (inForeign : Bool) (rest : List Char) :
    lex (.references name) inForeign (escapeText s ++ endTag name rest) =
      ⟨(runs s).map textToken ++ [.tag ⟨true, name, [], false⟩], rest, .markup⟩ := by
  -- References are read as in other text; only the end tag of the element ends it.
  have hpieces : readPieces (some false) (isEndTagStart name) (escapeText s ++ endTag name rest) =
      (s.map .character, endTag name rest) := by
    refine readPieces_flatMap_escape isEscape_escapeTextChar false (.inl (isEndTagStart_endTag name rest)) ?_
    intro c t _
    obtain ⟨d, more, hd, hne⟩ := exists_escapeTextChar_eq_cons c
    rw [hd]
    exact isEndTagStart_of_ne hne name _
  rw [lex, hpieces]
  dsimp only
  rw [tokensOfRaw_map hnull, ofStretch_endTag h]

/-- A text that does not end an element in which it stands as it is. -/
structure IsRawTextIn (name : String) (s : List Char) : Prop where
  no_null : '\x00' ∉ s
  no_end : ¬ lower ("</" ++ name).toList <:+: lower s

instance (name : String) : DecidablePred (IsRawTextIn name) := fun s =>
  decidable_of_iff ('\x00' ∉ s ∧ ¬ lower ("</" ++ name).toList <:+: lower s)
    ⟨fun ⟨h₁, h₂⟩ => ⟨h₁, h₂⟩, fun h => ⟨h.no_null, h.no_end⟩⟩

theorem IsRawTextIn.isEndTagStart_append {name : String} (hs : IsRawTextIn name s) (hlt : '<' ∉ name.toList)
    {c : Char} {t : List Char} (ht : c :: t <:+ s) (rest : List Char) :
    isEndTagStart name (c :: (t ++ '<' :: rest)) = false :=
  Html.isEndTagStart_append hlt (List.cons_ne_nil c t)
    (fun hfront => hs.no_end (hfront.isInfix.trans (ht.map Char.toLower).isInfix)) rest

/-- Text without references is read as it is up to where reading stops. -/
theorem readPieces_none_append {stops : List Char → Bool} (hstop : stops rest) : ∀ {s : List Char},
    (∀ c t, c :: t <:+ s → stops (c :: (t ++ rest)) = false) →
      readPieces none stops (s ++ rest) = (s.map .character, rest)
  | [], _ => by
    rw [List.nil_append, readPieces.eq_def, if_pos hstop, List.map_nil]
  | c :: s, hgo => by
    have hrest := readPieces_none_append hstop fun d t ht => hgo d t (ht.trans (List.suffix_cons _ _))
    -- Where no references are read, every character stands for itself.
    have hread : referenceAt? none c (s ++ rest) = none := by
      rw [referenceAt?]
      split <;> rfl
    rw [List.cons_append, readPieces_of_none (hgo c s List.suffix_rfl) hread, hrest, List.map_cons]

/-- **Raw text** in an element is cut off together with the end tag of the element. -/
theorem lex_raw {name : String} (h : IsTagName name) (hlt : '<' ∉ name.toList) (hs : IsRawTextIn name s)
    (inForeign : Bool) (rest : List Char) : lex (.raw name) inForeign (s ++ endTag name rest) =
      ⟨(runs s).map textToken ++ [.tag ⟨true, name, [], false⟩], rest, .markup⟩ := by
  have hpieces : readPieces none (isEndTagStart name) (s ++ endTag name rest) = (s.map .character, endTag name rest) :=
    readPieces_none_append (isEndTagStart_endTag name rest) fun _ _ ht => hs.isEndTagStart_append hlt ht _
  rw [lex, hpieces]
  dsimp only
  rw [tokensOfRaw_map hs.no_null, ofStretch_endTag h]

theorem readScript_append (hs : ∀ c t, c :: t <:+ s → isEndTagStart "script" (c :: (t ++ endTag "script" rest)) = false)
    (hcomment : ¬ "<!--".toList <:+: s) :
    readScript .outside (s ++ endTag "script" rest) = (s, endTag "script" rest) := by
  induction s with
  | nil =>
    rw [List.nil_append, endTag, readScript, if_pos]
    exact isEndTagStart_endTag "script" rest
  | cons c s ih =>
    have hrest := ih (fun d t ht => hs d t (ht.trans (List.suffix_cons _ _)))
      fun h => hcomment (h.trans (List.suffix_cons c s).isInfix)
    have hend := hs c s List.suffix_rfl
    -- No comment begins here.
    have hplace : ScriptPlace.outside.next c (c :: (s ++ endTag "script" rest)) = .outside := by
      rw [ScriptPlace.next, if_neg]
      intro h
      refine hcomment (prefix_of_prefix_append (c := '<') ?_ (List.cons_ne_nil c s)
        (List.isPrefixOf_iff_prefix.1 h)).isInfix
      decide
    rw [List.cons_append, readScript, hend, hplace, hrest]
    rfl

/-- **A script** without a comment is cut off together with its end tag. -/
theorem lex_script (hname : IsTagName "script") (hs : IsRawTextIn "script" s) (hcomment : ¬ "<!--".toList <:+: s)
    (inForeign : Bool) (rest : List Char) : lex .script inForeign (s ++ endTag "script" rest) =
      ⟨(runs s).map textToken ++ [.tag ⟨true, "script", [], false⟩], rest, .markup⟩ := by
  have hread : readScript .outside (s ++ endTag "script" rest) = (s, endTag "script" rest) :=
    readScript_append (fun _ _ ht => hs.isEndTagStart_append (by decide) ht _) hcomment
  rw [lex, hread]
  dsimp only
  rw [tokensOfRaw_map hs.no_null, ofStretch_endTag hname]

end HtmlMail.Html
