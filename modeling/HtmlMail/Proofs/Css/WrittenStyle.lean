import HtmlMail.Css.Style
import HtmlMail.Proofs.Css.Marks
import Mathlib.Data.List.Nodup

/-!
# A written style reads back

The rules of a stylesheet are merged one after the other, and in between a style exists only as the text of
an attribute. Nothing is lost on the way: what `Style.text` writes, `Style.parse` reads.

* `Declaration.IsWritable` : the declarations for which that is so. Whatever is read from a piece without
  a semicolon is one of them (`isWritable_of_parse?`);
* `Style.declarationsOf_intercalate` : pieces between semicolons are read one by one, and `Style.declarationsOf_text` : the
  declarations of a written style are its declarations;
* `Style.IsRead` : one declaration for each property, all of them writable. Reading gives such a style and
  merging keeps it (`isRead_parse`, `IsRead.digestText`);
* `Style.IsRead.parse_text` : such a style is read back as it is;
* `Style.arises_iff_isRead`, `Style.Arises.reads_back` : these are the styles that can arise, whatever the texts are, and
  so none is lost.

The one trap is the mark of importance: a value that is not important must not end in one, and a value that is
important gets one behind it.
-/

namespace HtmlMail.Css

open Chars

/-! ### Declarations -/

namespace Declaration

variable {d : Declaration} {text : String}

/-- **What a piece with a colon denotes.** -/
theorem parse?_of_colon {property : List Char} (rest : List Char) (hp : ':' ∉ property) :
    parse? (String.ofList (property ++ ':' :: rest)) =
      if trim property = [] ∨ (splitImportant rest).1 = [] then none
      else some ⟨String.ofList (lower (trim property)), String.ofList (splitImportant rest).1,
        (splitImportant rest).2⟩ := by
  rw [parse?, String.toList_ofList, splitAtChar?_append_cons rest hp]
  simp only [Bool.or_eq_true, List.isEmpty_iff, ofParts, Text.lower, Text.trim, String.toList_ofList,
    (isTrimmed_splitImportant rest).trim_eq]

/-- A piece without a colon denotes nothing. -/
theorem parse?_of_no_colon (h : ':' ∉ text.toList) : parse? text = none := by
  rw [parse?, splitAtChar?_eq_none h]

/-- **Declarations that can be written down**: their parts are in the form in which they are read. -/
structure IsWritable (d : Declaration) : Prop where
  property_ne_nil : d.property.toList ≠ []
  property_trimmed : IsTrimmed d.property.toList
  property_lower : lower d.property.toList = d.property.toList
  no_colon : ':' ∉ d.property.toList
  value_ne_nil : d.value.toList ≠ []
  value_trimmed : IsTrimmed d.value.toList
  /-- A value that is not important does not end in the mark of importance. -/
  unmarked : d.important = false → splitImportant d.value.toList = (d.value.toList, false)
  no_semicolon : ';' ∉ d.property.toList ∧ ';' ∉ d.value.toList

/-- Lower case neither brings in nor takes away blanks at the ends. -/
theorem isTrimmed_lower {s : List Char} (h : IsTrimmed s) : IsTrimmed (lower s) := by
  constructor
  · intro c hc
    rw [lower, List.head?_map] at hc
    obtain ⟨d, hd, rfl⟩ := Option.map_eq_some_iff.1 hc
    rw [isBlank_toLower, h.head hd]
  · intro c hc
    rw [lower, List.getLast?_map] at hc
    obtain ⟨d, hd, rfl⟩ := Option.map_eq_some_iff.1 hc
    rw [isBlank_toLower, h.last hd]

/-- **What is read can be written.** -/
theorem isWritable_of_parse? (h : parse? text = some d) (hs : ';' ∉ text.toList) : d.IsWritable := by
  by_cases hcolon : ':' ∈ text.toList
  · obtain ⟨property, rest, ht, hp⟩ := List.eq_append_cons_of_mem hcolon
    rw [← String.ofList_toList (s := text), ht, parse?_of_colon rest hp] at h
    rw [ht] at hs
    split at h
    · cases h
    · next hne =>
      cases h
      rw [not_or] at hne
      constructor
      case property_ne_nil => simpa [lower] using hne.1
      case property_trimmed => simpa using isTrimmed_lower (isTrimmed_trim property)
      case property_lower => simp
      case no_colon =>
        rw [String.toList_ofList]
        exact fun h => hp (mem_of_mem_trim (mem_of_mem_lower (by decide) h))
      case value_ne_nil => simpa using hne.2
      case value_trimmed => simpa using isTrimmed_splitImportant rest
      case unmarked => simpa using splitImportant_splitImportant
      case no_semicolon =>
        rw [String.toList_ofList, String.toList_ofList]
        constructor
        · intro h
          exact hs (List.mem_append_left _ (mem_of_mem_trim (mem_of_mem_lower (by decide) h)))
        · intro h
          exact hs (List.mem_append_right _ (List.mem_cons_of_mem _ (mem_of_mem_splitImportant h)))
  · rw [parse?_of_no_colon hcolon] at h
    cases h

theorem toList_text (d : Declaration) :
    d.text.toList = d.property.toList ++ ':' :: (d.value.toList ++
      if d.important then importantMark.toList else []) := by
  have hcolon : ":".toList = [':'] := rfl
  rw [text]
  split <;> simp [String.toList_append, hcolon]

/-- **A written declaration reads back.** -/
theorem IsWritable.parse?_text (h : d.IsWritable) : parse? d.text = some d := by
  -- The mark is what is cut off again, and an unimportant value has none.
  have hsplit : splitImportant (d.value.toList ++ if d.important then importantMark.toList else [])
      = (d.value.toList, d.important) := by
    cases hi : d.important with
    | true =>
      have hmark := splitImportant_append_mark d.value.toList isMark_importantMark
        (show allBlank [] from rfl)
      rwa [List.append_nil, h.value_trimmed.trim_eq] at hmark
    | false =>
      rw [if_neg Bool.false_ne_true, List.append_nil]
      exact h.unmarked hi
  rw [← String.ofList_toList (s := d.text), toList_text, parse?_of_colon _ h.no_colon, hsplit,
    h.property_trimmed.trim_eq, h.property_lower]
  simp [h.property_ne_nil, h.value_ne_nil, -String.toList_eq_nil_iff]

/-- A written declaration is one piece. -/
theorem IsWritable.no_semicolon_text (h : d.IsWritable) : ';' ∉ d.text.toList := by
  have hmark : ';' ∉ importantMark.toList := by decide
  rw [toList_text, List.mem_append, List.mem_cons, List.mem_append]
  rintro (hp | hc | hv | hm)
  · exact h.no_semicolon.1 hp
  · revert hc
    decide
  · exact h.no_semicolon.2 hv
  · split at hm
    · exact hmark hm
    · cases hm

end Declaration

/-! ### The declarations of a text -/

namespace Style

variable {s : Style} {d e : Declaration} {text property : String}

/-- A piece holds no semicolon, so what it denotes can be written. -/
theorem isWritable_of_mem_declarationsOf (h : d ∈ declarationsOf text) : d.IsWritable := by
  obtain ⟨piece, hp, hd⟩ := List.mem_filterMap.1 h
  obtain ⟨chars, hc, rfl⟩ := List.mem_map.1 hp
  refine Declaration.isWritable_of_parse? hd ?_
  rw [String.toList_ofList]
  exact not_mem_of_mem_splitOnChar hc

/-- A blank text denotes no declarations. -/
theorem declarationsOf_of_isBlank (h : Text.isBlank text) : declarationsOf text = [] := by
  rw [declarationsOf, List.filterMap_eq_nil_iff]
  intro piece hp
  obtain ⟨chars, hc, rfl⟩ := List.mem_map.1 hp
  refine Declaration.parse?_of_no_colon fun hcolon => ?_
  rw [String.toList_ofList] at hcolon
  exact not_mem_of_allBlank h (by decide) (mem_of_mem_splitOnChar hc hcolon)

/-- **Pieces joined by semicolons** denote what each of them denotes. -/
theorem declarationsOf_intercalate {pieces : List String} (h : ∀ piece ∈ pieces, ';' ∉ piece.toList) :
    declarationsOf (String.intercalate ";" pieces) = pieces.filterMap Declaration.parse? := by
  by_cases hne : pieces = []
  · rw [hne, String.intercalate_nil]
    exact declarationsOf_of_isBlank rfl
  · have hsep : ";".toList = [';'] := rfl
    -- No piece holds a semicolon, so the text is cut where the pieces were joined.
    have hcut : splitOnChar ';' (String.intercalate ";" pieces).toList = pieces.map String.toList := by
      rw [String.toList_intercalate, hsep]
      refine splitOnChar_intercalate (by simpa using hne) fun piece hp => ?_
      obtain ⟨text, ht, rfl⟩ := List.mem_map.1 hp
      exact h text ht
    rw [declarationsOf, Text.splitOnChar, hcut, List.map_map, List.filterMap_map]
    refine List.filterMap_congr fun piece _ => ?_
    rw [Function.comp_apply, Function.comp_apply, String.ofList_toList]

/-- **A written style denotes its declarations.** -/
theorem declarationsOf_text (h : ∀ d ∈ s.declarations, d.IsWritable) :
    declarationsOf s.text = s.declarations := by
  have hpieces : ∀ piece ∈ s.declarations.map Declaration.text, ';' ∉ piece.toList := by
    intro piece hp
    obtain ⟨d, hd, rfl⟩ := List.mem_map.1 hp
    exact (h d hd).no_semicolon_text
  rw [Style.text, declarationsOf_intercalate hpieces, List.filterMap_map]
  exact (List.filterMap_congr fun d hd => (h d hd).parse?_text).trans List.filterMap_some

/-! ### One declaration for each property -/

/-- **Styles as they are read**: no property is declared twice, and every declaration can be written. -/
structure IsRead (s : Style) : Prop where
  writable : ∀ d ∈ s.declarations, d.IsWritable
  distinct : (s.declarations.map (·.property)).Nodup

theorem get?_eq_none_iff :
    s.get? property = none ↔ property ∉ s.declarations.map (·.property) := by
  simp only [get?, List.find?_eq_none, beq_iff_eq, List.mem_map, not_exists, not_and]

/-- An exchange leaves the properties and their order alone. -/
theorem map_property_replaceFirst (d : Declaration) (l : List Declaration) :
    (replaceFirst d l).map (·.property) = l.map (·.property) := by
  induction l with
  | nil => rfl
  | cons e rest ih =>
    rw [replaceFirst]
    split
    · next he => rw [List.map_cons, List.map_cons, he]
    · rw [List.map_cons, List.map_cons, ih]

theorem mem_of_mem_replaceFirst {l : List Declaration} (h : e ∈ replaceFirst d l) :
    e = d ∨ e ∈ l := by
  induction l with
  | nil => cases h
  | cons f rest ih =>
    rw [replaceFirst] at h
    split at h
    · exact (List.mem_cons.1 h).imp_right (List.mem_cons_of_mem f)
    · rcases List.mem_cons.1 h with rfl | h
      · exact .inr List.mem_cons_self
      · exact (ih h).imp_right (List.mem_cons_of_mem f)

namespace IsRead

theorem replaceFirst (hs : s.IsRead) (hd : d.IsWritable) :
    IsRead ⟨replaceFirst d s.declarations⟩ where
  writable e he := by
    rcases mem_of_mem_replaceFirst he with rfl | he
    · exact hd
    · exact hs.writable e he
  distinct := by
    rw [map_property_replaceFirst]
    exact hs.distinct

/-- A declaration of a property that is not there yet, at either end. -/
theorem insert (hs : s.IsRead) (hd : d.IsWritable) (hnew : s.get? d.property = none) :
    IsRead ⟨s.declarations ++ [d]⟩ ∧ IsRead ⟨d :: s.declarations⟩ := by
  have hw (e : Declaration) (he : e = d ∨ e ∈ s.declarations) : e.IsWritable := by
    rcases he with rfl | he
    · exact hd
    · exact hs.writable e he
  have hfront : ((d :: s.declarations).map (·.property)).Nodup :=
    List.nodup_cons.2 ⟨get?_eq_none_iff.1 hnew, hs.distinct⟩
  refine ⟨⟨fun e he => hw e ?_, ?_⟩, ⟨fun e he => hw e (List.mem_cons.1 he), hfront⟩⟩
  · rw [List.mem_append, List.mem_singleton] at he
    exact he.symm
  · exact (((List.perm_append_singleton d s.declarations).map (·.property)).nodup_iff).2 hfront

theorem addLater (hs : s.IsRead) (hd : d.IsWritable) : (s.addLater d).IsRead := by
  unfold Style.addLater
  split
  · next hnew => exact (hs.insert hd hnew).1
  · split
    · exact hs.replaceFirst hd
    · exact hs

theorem digest (hs : s.IsRead) (hd : d.IsWritable) : (s.digest d).IsRead := by
  unfold Style.digest
  split
  · split
    · exact hs.replaceFirst hd
    · exact hs
  · next hnew =>
    split
    · split
      · exact (hs.insert hd hnew).1
      · exact hs
    · exact (hs.insert hd hnew).2

/-- What every single declaration keeps, all of them keep. -/
theorem foldl {f : Style → Declaration → Style}
    (hf : ∀ {s d}, s.IsRead → d.IsWritable → (f s d).IsRead) {l : List Declaration} :
    ∀ {s : Style}, s.IsRead → (∀ d ∈ l, d.IsWritable) → (l.foldl f s).IsRead := by
  induction l with
  | nil => exact fun hs _ => hs
  | cons d rest ih =>
    intro s hs hl
    exact ih (hf hs (hl d List.mem_cons_self)) fun e he => hl e (List.mem_cons_of_mem d he)

/-- **Merging keeps a style as it is read.** -/
theorem digestText (hs : s.IsRead) (text : String) : (s.digestText text).IsRead :=
  foldl digest hs fun _ hd => isWritable_of_mem_declarationsOf (List.mem_reverse.1 hd)

end IsRead

/-- **Reading gives a style as it is read.** -/
theorem isRead_parse (text : String) : (parse text).IsRead :=
  IsRead.foldl IsRead.addLater ⟨fun _ hd => absurd hd List.not_mem_nil, List.nodup_nil⟩
    fun _ hd => isWritable_of_mem_declarationsOf hd

/-- Declarations of properties that are not there yet are put behind one another. -/
theorem foldl_addLater_of_nodup (l : List Declaration) : ∀ {s : Style},
    ((s.declarations ++ l).map (·.property)).Nodup → l.foldl addLater s = ⟨s.declarations ++ l⟩ := by
  induction l with
  | nil =>
    intro s _
    rw [List.append_nil, List.foldl_nil]
  | cons d rest ih =>
    intro s h
    have hnew : s.get? d.property = none := by
      rw [get?_eq_none_iff]
      rw [List.map_append, List.map_cons, List.nodup_middle, List.nodup_cons, List.mem_append,
        not_or] at h
      exact h.1.1
    have hadd : s.addLater d = ⟨s.declarations ++ [d]⟩ := by rw [addLater, hnew]
    rw [List.foldl_cons, hadd, ih]
    · rw [List.append_assoc, List.singleton_append]
    · rwa [List.append_assoc, List.singleton_append]

/-- **A written style reads back.** -/
theorem IsRead.parse_text (hs : s.IsRead) : parse s.text = s := by
  have hnodup : ((Style.empty.declarations ++ s.declarations).map (·.property)).Nodup := hs.distinct
  rw [parse, declarationsOf_text hs.writable, foldl_addLater_of_nodup _ hnodup]
  rfl

/-! ### The styles that arise -/

/-- **The styles that arise**: the empty one, those of a text, and what becomes of such a style when the declarations
of further texts are merged in. -/
inductive Arises : Style → Prop
  | empty : Arises empty
  | parse (text : String) : Arises (parse text)
  | digestText {s : Style} (hs : Arises s) (text : String) : Arises (s.digestText text)

/-- **The styles that arise are those that are read.** Merging is the only step, and it keeps a style as it is read;
and such a style arises at least from its own text. -/
theorem arises_iff_isRead : s.Arises ↔ s.IsRead := by
  constructor
  · intro hs
    induction hs with
    | empty =>
      refine ⟨?_, List.nodup_nil⟩
      intro d hd
      cases hd
    | parse text => exact isRead_parse text
    | digestText _ text ih => exact ih.digestText text
  · intro hs
    rw [← hs.parse_text]
    exact .parse s.text

/-- **No style that arises is lost when it is written**: no property stands in it twice, its text is read back as the
same style, in the same order, and so is the text of each of its declarations. -/
theorem Arises.reads_back (hs : s.Arises) :
    (s.declarations.map (·.property)).Nodup ∧ Style.parse s.text = s ∧
      ∀ d ∈ s.declarations, Declaration.parse? d.text = some d := by
  have hread : s.IsRead := arises_iff_isRead.1 hs
  refine ⟨hread.distinct, hread.parse_text, ?_⟩
  intro d hd
  exact (hread.writable d hd).parse?_text

/-- Two texts merged into a third: one value ends in an exclamation mark, one in a mark of importance behind which
another one is written, and one property comes in two spellings. -/
def mergedOutlines : Style :=
  ((Style.parse " Color: red! ;margin:0 ! IMPORTANT!important").digestText "COLOR:blue! ! Important;width:").digestText
    "border:a:b;font:x !importantly"

/-- What is written for them, and that it is read back. -/
theorem parse_text_mergedOutlines :
    mergedOutlines.Arises ∧
      mergedOutlines.text = "border:a:b;font:x !importantly;color:blue!!important;margin:0 ! IMPORTANT!important" ∧
      Style.parse "border:a:b;font:x !importantly;color:blue!!important;margin:0 ! IMPORTANT!important" =
        mergedOutlines := by
  have hs : mergedOutlines.Arises := ((Arises.parse _).digestText _).digestText _
  have htext : mergedOutlines.text =
      "border:a:b;font:x !importantly;color:blue!!important;margin:0 ! IMPORTANT!important" := by decide +kernel
  refine ⟨hs, htext, ?_⟩
  rw [← htext]
  exact (Arises.reads_back hs).2.1

end Style

end HtmlMail.Css
