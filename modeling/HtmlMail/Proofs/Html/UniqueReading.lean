import HtmlMail.Html.Printer
import HtmlMail.Proofs.Dom.Calls
import HtmlMail.Proofs.Html.NodeMarkup
import Mathlib.Data.List.Infix

/-!
# One text, one forest

Two forests that are written as the same text are the same forest, if they are normal: no name, text or comment holds
what would end it, and no two texts stand side by side. The text is read from the left, and at every place it tells what
comes next. A text goes on to the next angle bracket and a value to the next double quote, because neither is written in
them; a comment goes on to the first end of a comment, and raw text to the first end tag.

* `eq_of_append_stop`, `IsUnbordered.eq_of_append` : a part is told from what follows by a character or by a mark;
* `IsEscape.flatMap_injective` : escapes can be undone;
* `eq_of_printAttributes` : the attributes of a tag;
* `Markup.IsNormal`, `Markup.AreNormal` : normal markup;
* `Markup.eq_of_print`, `Markup.eq_of_printAll` : what is written tells what was there;
* `eq_of_printOuter` : and so it does for nodes of trees.
-/

namespace HtmlMail.Html

open Dom

variable {s t u v : List Char}

/-! ### Where a part ends -/

/-- **A part that ends at a character.** If no character of two parts is such a stop, and what follows each of them
begins with one or is empty, the parts can be told from what follows. -/
theorem eq_of_append_stop {stop : Char → Prop} (hs : ∀ c ∈ s, ¬ stop c) (ht : ∀ c ∈ t, ¬ stop c)
    (hu : ∀ c ∈ u.head?, stop c) (hv : ∀ c ∈ v.head?, stop c) (h : s ++ u = t ++ v) : s = t ∧ u = v := by
  induction s generalizing t with
  | nil =>
    cases t with
    | nil => exact ⟨rfl, h⟩
    | cons d t =>
      -- Where the one text ends with a stop, the other one goes on without.
      have hd : d ∈ u.head? := by
        rw [← List.nil_append u, h]
        rfl
      exact absurd (hu d hd) (ht d List.mem_cons_self)
  | cons c s ih =>
    cases t with
    | nil =>
      have hc : c ∈ v.head? := by
        rw [← List.nil_append v, ← h]
        rfl
      exact absurd (hv c hc) (hs c List.mem_cons_self)
    | cons d t =>
      obtain ⟨rfl, hrest⟩ := List.cons.inj h
      obtain ⟨rfl, rfl⟩ := ih (fun e he => hs e (List.mem_cons_of_mem _ he))
        (fun e he => ht e (List.mem_cons_of_mem _ he)) hrest
      exact ⟨rfl, rfl⟩

/-- A part that ends at the first occurrence of a character. -/
theorem eq_of_append_cons {c : Char} (hs : c ∉ s) (ht : c ∉ t) (h : s ++ c :: u = t ++ c :: v) : s = t ∧ u = v := by
  have hstop : ∀ d ∈ (c :: u).head?, d = c := by simp
  have hstop' : ∀ d ∈ (c :: v).head?, d = c := by simp
  have hfree {w : List Char} (hw : c ∉ w) : ∀ d ∈ w, ¬ d = c := fun _ hd he => hw (he ▸ hd)
  obtain ⟨hfront, hrest⟩ := eq_of_append_stop (hfree hs) (hfree ht) hstop hstop' h
  exact ⟨hfront, (List.cons.inj hrest).2⟩

/-- Whether no proper beginning of a mark is also an end of it, so that two occurrences never overlap. -/
def IsUnbordered (mark : List Char) : Prop := ∀ w ∈ mark.inits, w ∈ mark.tails → w = [] ∨ w = mark

instance (mark : List Char) : Decidable (IsUnbordered mark) :=
  inferInstanceAs (Decidable (∀ w ∈ mark.inits, w ∈ mark.tails → w = [] ∨ w = mark))

/-- A longer part would hold the mark that ends the shorter one. -/
theorem IsUnbordered.eq_nil_of_append {mark : List Char} (hmark : IsUnbordered mark)
    (ht : ¬ mark <:+: s ++ t) (h : mark ++ u = t ++ (mark ++ v)) : t = [] := by
  rcases List.append_eq_append_iff.1 h with ⟨w, rfl, -⟩ | ⟨w, hw, hv⟩
  · exact absurd ⟨s, w, by rw [List.append_assoc]⟩ ht
  · -- What is left of the first mark begins the second one.
    have hprefix : w <+: mark := by
      refine List.prefix_of_prefix_length_le ⟨u, hv.symm⟩ (List.prefix_append mark v) ?_
      rw [hw, List.length_append]
      exact Nat.le_add_left _ _
    rcases hmark w ((List.mem_inits _ _).2 hprefix) ((List.mem_tails _ _).2 ⟨t, hw.symm⟩) with rfl | rfl
    · rw [List.append_nil] at hw
      exact absurd ⟨s, [], by rw [hw, List.append_nil]⟩ ht
    · exact List.append_left_eq_self.1 hw.symm

/-- **A part that ends at a mark.** If two parts do not hold the mark, they can be told from what follows. -/
theorem IsUnbordered.eq_of_append {mark : List Char} (hmark : IsUnbordered mark) (hs : ¬ mark <:+: s)
    (ht : ¬ mark <:+: t) (h : s ++ (mark ++ u) = t ++ (mark ++ v)) : s = t ∧ u = v := by
  have hsame : s = t := by
    rcases List.append_eq_append_iff.1 h with ⟨w, rfl, hw⟩ | ⟨w, rfl, hw⟩
    · rw [hmark.eq_nil_of_append ht hw, List.append_nil]
    · rw [hmark.eq_nil_of_append hs hw, List.append_nil]
  subst hsame
  exact ⟨rfl, List.append_cancel_left (List.append_cancel_left h)⟩

/-! ### Escapes -/

/-- The characters that are written as references, and what a reference has behind the ampersand. -/
def references : List (Char × List Char) :=
  [('&', ['a', 'm', 'p', ';']), ('<', ['l', 't', ';']), ('>', ['g', 't', ';']),
    ('\u00A0', ['n', 'b', 's', 'p', ';']), ('"', ['q', 'u', 'o', 't', ';'])]

/-- Whether characters are written by references or as they are, the ampersand never so. -/
def IsEscape (escape : Char → List Char) : Prop :=
  ∀ c, (∃ name, (c, name) ∈ references ∧ escape c = '&' :: name) ∨ c ≠ '&' ∧ escape c = [c]

theorem isEscape_escapeTextChar : IsEscape escapeTextChar := by
  intro c
  unfold escapeTextChar
  split
  · exact .inl ⟨_, by decide +kernel, rfl⟩
  · exact .inl ⟨_, by decide +kernel, rfl⟩
  · exact .inl ⟨_, by decide +kernel, rfl⟩
  · exact .inl ⟨_, by decide +kernel, rfl⟩
  · next h _ _ _ => exact .inr ⟨h, rfl⟩

theorem isEscape_escapeAttributeChar : IsEscape escapeAttributeChar := by
  intro c
  unfold escapeAttributeChar
  split
  · next h =>
    subst h
    exact .inl ⟨_, by decide +kernel, rfl⟩
  · exact isEscape_escapeTextChar c

/-- No reference begins another one. -/
theorem eq_of_prefix_references : ∀ r ∈ references, ∀ r' ∈ references, r.2 <+: r'.2 → r = r' := by
  decide +kernel

/-- **Escapes can be undone**, whatever follows. -/
theorem IsEscape.eq_of_append {escape : Char → List Char} (hescape : IsEscape escape) {c d : Char}
    (h : escape c ++ u = escape d ++ v) : c = d ∧ u = v := by
  have hsame : c = d := by
    rcases hescape c with ⟨name, hname, hc⟩ | ⟨hamp, hc⟩ <;>
      rcases hescape d with ⟨name', hname', hd⟩ | ⟨hamp', hd⟩ <;>
      rw [hc, hd] at h
    · have hrest : name ++ u = name' ++ v := (List.cons.inj h).2
      have hprefix : name' <+: name ++ u := hrest ▸ List.prefix_append name' v
      -- Two references that begin alike are one, for no name is the beginning of another.
      rcases List.prefix_or_prefix_of_prefix (List.prefix_append name u) hprefix with hp | hp
      · exact congrArg Prod.fst (eq_of_prefix_references _ hname _ hname' hp)
      · exact (congrArg Prod.fst (eq_of_prefix_references _ hname' _ hname hp)).symm
    · exact absurd (List.cons.inj h).1.symm hamp'
    · exact absurd (List.cons.inj h).1 hamp
    · exact (List.cons.inj h).1
  subst hsame
  exact ⟨rfl, List.append_cancel_left h⟩

theorem IsEscape.ne_nil {escape : Char → List Char} (hescape : IsEscape escape) (c : Char) : escape c ≠ [] := by
  rcases hescape c with ⟨name, -, hc⟩ | ⟨-, hc⟩ <;> rw [hc] <;> exact List.cons_ne_nil _ _

theorem IsEscape.flatMap_injective {escape : Char → List Char} (hescape : IsEscape escape) :
    Function.Injective (List.flatMap escape) := by
  intro s t h
  induction s generalizing t with
  | nil =>
    cases t with
    | nil => rfl
    | cons d t =>
      rw [List.flatMap_nil, List.flatMap_cons] at h
      exact absurd (List.append_eq_nil_iff.1 h.symm).1 (hescape.ne_nil d)
  | cons c s ih =>
    cases t with
    | nil =>
      rw [List.flatMap_nil, List.flatMap_cons] at h
      exact absurd (List.append_eq_nil_iff.1 h).1 (hescape.ne_nil c)
    | cons d t =>
      rw [List.flatMap_cons, List.flatMap_cons] at h
      obtain ⟨rfl, hrest⟩ := hescape.eq_of_append h
      rw [ih hrest]

/-- No reference holds a character that would end a text or a value. -/
theorem not_mem_references : ∀ r ∈ references, '<' ∉ r.2 ∧ '"' ∉ r.2 := by decide +kernel

theorem escapeTextChar_lt : escapeTextChar '<' = "&lt;".toList := rfl

theorem lt_not_mem_escapeText (s : List Char) : '<' ∉ escapeText s := by
  rw [escapeText, List.mem_flatMap]
  rintro ⟨c, -, hc⟩
  rcases isEscape_escapeTextChar c with ⟨name, hname, he⟩ | ⟨-, he⟩ <;> rw [he] at hc
  · exact (not_mem_references _ hname).1 (List.mem_of_ne_of_mem (by decide) hc)
  · rw [← List.mem_singleton.1 hc, escapeTextChar_lt] at he
    revert he
    decide

theorem escapeAttributeChar_quote : escapeAttributeChar '"' = "&quot;".toList := rfl

theorem quote_not_mem_escapeAttribute (s : List Char) : '"' ∉ escapeAttribute s := by
  rw [escapeAttribute, List.mem_flatMap]
  rintro ⟨c, -, hc⟩
  rcases isEscape_escapeAttributeChar c with ⟨name, hname, he⟩ | ⟨-, he⟩ <;> rw [he] at hc
  · exact (not_mem_references _ hname).2 (List.mem_of_ne_of_mem (by decide) hc)
  · rw [← List.mem_singleton.1 hc, escapeAttributeChar_quote] at he
    revert he
    decide

/-! ### Tags -/

/-- The characters that no name holds. -/
def nameStops : List Char := [' ', '\t', '\n', '\x0c', '\r', '<', '>', '/', '"', '=', '!']

/-- A name that can stand in a tag. -/
structure IsPlainName (name : String) : Prop where
  ne_empty : name ≠ ""
  lower : Text.lower name = name
  not_mem : ∀ c ∈ name.toList, c ∉ nameStops

instance (name : String) : Decidable (IsPlainName name) :=
  have := List.decidableBAll (fun c => c ∉ nameStops) name.toList
  decidable_of_iff (name ≠ "" ∧ Text.lower name = name ∧ ∀ c ∈ name.toList, c ∉ nameStops)
    ⟨fun ⟨h₁, h₂, h₃⟩ => ⟨h₁, h₂, h₃⟩, fun h => ⟨h.ne_empty, h.lower, h.not_mem⟩⟩

theorem IsPlainName.exists_cons {name : String} (h : IsPlainName name) :
    ∃ c rest, name.toList = c :: rest ∧ c ∉ nameStops := by
  obtain ⟨c, rest, hname⟩ := List.exists_cons_of_ne_nil fun he => h.ne_empty (String.toList_eq_nil_iff.1 he)
  exact ⟨c, rest, hname, h.not_mem c (hname ▸ List.mem_cons_self)⟩

/-- **A name** goes on to a character that no name holds. -/
theorem IsPlainName.eq_of_append {name name' : String} (h : IsPlainName name) (h' : IsPlainName name')
    (hu : ∀ c ∈ u.head?, c ∈ nameStops) (hv : ∀ c ∈ v.head?, c ∈ nameStops)
    (he : name.toList ++ u = name'.toList ++ v) : name = name' ∧ u = v := by
  obtain ⟨hname, hrest⟩ := eq_of_append_stop h.not_mem h'.not_mem hu hv he
  exact ⟨String.toList_inj.1 hname, hrest⟩

/-- **An attribute** is told from what follows by its equals sign and its last double quote. -/
theorem eq_of_printAttribute {a b : Attribute} (ha : IsPlainName a.name) (hb : IsPlainName b.name)
    (h : printAttribute a ++ u = printAttribute b ++ v) : a = b ∧ u = v := by
  have hprint (a : Attribute) (u : List Char) : printAttribute a ++ u =
      ' ' :: (a.name.toList ++ ('=' :: '"' :: (escapeAttribute a.value.toList ++ '"' :: u))) := by
    simp [printAttribute]
  rw [hprint, hprint] at h
  obtain ⟨hname, hvalue⟩ := ha.eq_of_append hb (by simp [nameStops]) (by simp [nameStops]) (List.cons.inj h).2
  obtain ⟨hwritten, hrest⟩ := eq_of_append_cons (quote_not_mem_escapeAttribute _) (quote_not_mem_escapeAttribute _)
    (List.cons.inj (List.cons.inj hvalue).2).2
  have hvalue := String.toList_inj.1 (isEscape_escapeAttributeChar.flatMap_injective hwritten)
  exact ⟨congrArg₂ Attribute.mk hname hvalue, hrest⟩

/-- What closes a tag. -/
def IsTagEnd (s : List Char) : Prop := ∃ rest, s = '>' :: rest ∨ s = ' ' :: '/' :: rest

/-- The end of a tag is no attribute. -/
theorem IsTagEnd.ne_printAttribute {a : Attribute} (ha : IsPlainName a.name) (hs : IsTagEnd s) :
    s ≠ printAttribute a ++ u := by
  obtain ⟨c, rest, hname, hc⟩ := ha.exists_cons
  rintro rfl
  obtain ⟨after, h | h⟩ := hs
  · cases (List.cons.inj h).1
  · simp only [printAttribute, hname, List.append_assoc, List.cons_append, List.nil_append, List.cons.injEq] at h
    exact hc (h.2.1 ▸ by decide)

theorem IsTagEnd.head_mem (hs : IsTagEnd s) : ∀ c ∈ s.head?, c ∈ nameStops := by
  obtain ⟨rest, rfl | rfl⟩ := hs <;> simp [nameStops]

/-- **The attributes of a tag** go on to its end. -/
theorem eq_of_printAttributes (hu : IsTagEnd u) (hv : IsTagEnd v) : ∀ {as bs : List Attribute},
    (∀ a ∈ as, IsPlainName a.name) → (∀ b ∈ bs, IsPlainName b.name) →
      as.flatMap printAttribute ++ u = bs.flatMap printAttribute ++ v → as = bs ∧ u = v
  | [], [], _, _, h => ⟨rfl, h⟩
  | [], b :: bs, _, hbs, h => by
    rw [List.flatMap_cons, List.append_assoc] at h
    exact absurd h (hu.ne_printAttribute (hbs b List.mem_cons_self))
  | a :: as, [], has, _, h => by
    rw [List.flatMap_cons, List.append_assoc] at h
    exact absurd h.symm (hv.ne_printAttribute (has a List.mem_cons_self))
  | a :: as, b :: bs, has, hbs, h => by
    rw [List.flatMap_cons, List.flatMap_cons, List.append_assoc, List.append_assoc] at h
    -- The first attributes are the same, and then the others.
    obtain ⟨rfl, hmore⟩ := eq_of_printAttribute (has a List.mem_cons_self) (hbs b List.mem_cons_self) h
    obtain ⟨rfl, hrest⟩ := eq_of_printAttributes hu hv (fun a ha => has a (List.mem_cons_of_mem _ ha))
      (fun b hb => hbs b (List.mem_cons_of_mem _ hb)) hmore
    exact ⟨rfl, hrest⟩

/-! ### Normal markup -/

namespace Markup

/-- Whether a piece of markup is a text. -/
def isText : Markup → Bool
  | text _ => true
  | _ => false

/-- Whether a piece of markup is a text that does not begin an end tag. -/
def IsRawText : Markup → Prop
  | text content => content ≠ "" ∧ ¬ "</".toList <:+: content.toList
  | _ => False

instance : DecidablePred IsRawText
  | text content => inferInstanceAs (Decidable (content ≠ "" ∧ ¬ "</".toList <:+: content.toList))
  | doctype .. => inferInstanceAs (Decidable False)
  | element .. => inferInstanceAs (Decidable False)
  | comment _ => inferInstanceAs (Decidable False)

/-- What an element with raw text holds: nothing, or one text that does not begin an end tag. -/
def IsRawContent (children : List Markup) : Prop := children.length ≤ 1 ∧ ∀ m ∈ children, IsRawText m

instance : DecidablePred IsRawContent := fun children =>
  inferInstanceAs (Decidable (children.length ≤ 1 ∧ ∀ m ∈ children, IsRawText m))

theorem IsRawContent.cases {children : List Markup} (h : IsRawContent children) : children = [] ∨
    ∃ content, children = [text content] ∧ content ≠ "" ∧ ¬ "</".toList <:+: content.toList := by
  obtain ⟨hlength, hraw⟩ := h
  match children, hlength with
  | [], _ => exact .inl rfl
  | [m], _ =>
    have hm := hraw m List.mem_cons_self
    match m, hm with
    | text content, hm => exact .inr ⟨content, rfl, hm⟩

mutual

/-- **Normal markup** of one node: names are plain and those of attributes differ, an element has the content that its
name allows, and nothing in a text or a comment would end it. -/
def IsNormal : Markup → Prop
  | doctype .. => False
  | element name attributes children =>
    IsPlainName name ∧ (∀ a ∈ attributes, IsPlainName a.name) ∧ (attributes.map (·.name)).Nodup ∧
      (voidElements.contains name → children = []) ∧
      if rawTextElements.contains name then IsRawContent children else AreNormal children
  | text content => content ≠ ""
  | comment content => ¬ "-->".toList <:+: content.toList

/-- **Normal markup** of nodes one after the other: no two of them are texts side by side. -/
def AreNormal : List Markup → Prop
  | [] => True
  | m :: rest => IsNormal m ∧ (m.isText → ∀ next ∈ rest.head?, ¬ next.isText) ∧ AreNormal rest

end

mutual

/-- Whether markup is normal can be computed. -/
instance decidableIsNormal : ∀ m, Decidable (IsNormal m)
  | doctype .. => inferInstanceAs (Decidable False)
  | element name attributes children =>
    have := decidableAreNormal children
    have : Decidable (children = []) := decidable_of_iff _ List.isEmpty_iff
    inferInstanceAs (Decidable (IsPlainName name ∧ (∀ a ∈ attributes, IsPlainName a.name) ∧
      (attributes.map (·.name)).Nodup ∧ (voidElements.contains name → children = []) ∧
      if rawTextElements.contains name then IsRawContent children else AreNormal children))
  | text content => inferInstanceAs (Decidable (content ≠ ""))
  | comment content => inferInstanceAs (Decidable (¬ "-->".toList <:+: content.toList))

instance decidableAreNormal : ∀ F, Decidable (AreNormal F)
  | [] => inferInstanceAs (Decidable True)
  | m :: rest =>
    have := decidableIsNormal m
    have := decidableAreNormal rest
    inferInstanceAs (Decidable (IsNormal m ∧ (m.isText → ∀ next ∈ rest.head?, ¬ next.isText) ∧ AreNormal rest))

end

/-! ### What comes next -/

/-- What can come next in the text of a forest. -/
inductive Next where
  | text
  | element
  | comment
  | nothing
  deriving DecidableEq, Repr

/-- What comes next, told by the first two characters. An end tag belongs to an element around the forest. -/
def Next.ofChars : List Char → Next
  | [] => nothing
  | c :: rest =>
    if c ≠ '<' then text
    else if rest.head? = some '/' then nothing
    else if rest.head? = some '!' then comment
    else element

/-- What a piece of markup is. -/
def next : Markup → Next
  | text _ => .text
  | element .. => .element
  | comment _ => .comment
  | doctype .. => .nothing

/-- Where a forest ends: at an end tag, or with the whole text. -/
def IsForestEnd (s : List Char) : Prop := s = [] ∨ ∃ rest, s = '<' :: '/' :: rest

theorem IsForestEnd.next_eq (h : IsForestEnd s) : Next.ofChars s = .nothing := by
  obtain rfl | ⟨rest, rfl⟩ := h <;> rfl

/-- The text of a normal text begins, but not with an angle bracket. -/
theorem exists_escapeText_eq_cons {content : String} (h : content ≠ "") :
    ∃ c rest, escapeText content.toList = c :: rest ∧ c ≠ '<' := by
  obtain ⟨d, more, hcontent⟩ := List.exists_cons_of_ne_nil fun he => h (String.toList_eq_nil_iff.1 he)
  have hlt := lt_not_mem_escapeText content.toList
  obtain ⟨c, rest, hc⟩ := List.exists_cons_of_ne_nil (isEscape_escapeTextChar.ne_nil d)
  rw [hcontent, escapeText, List.flatMap_cons, hc] at hlt ⊢
  exact ⟨c, _, rfl, fun he => hlt (he ▸ List.mem_cons_self)⟩

/-- How the text of an element begins. -/
theorem exists_print_element (name : String) (attributes : List Attribute) (children : List Markup) :
    ∃ rest, print (element name attributes children) = '<' :: (name.toList ++ rest) := by
  rw [print]
  dsimp only
  split <;> exact ⟨_, by simp only [List.append_assoc, List.cons_append, List.nil_append]; rfl⟩

/-- **What comes next is what was written.** -/
theorem IsNormal.next_eq {m : Markup} (h : IsNormal m) (u : List Char) : Next.ofChars (print m ++ u) = m.next := by
  cases m with
  | doctype => exact h.elim
  | text content =>
    rw [IsNormal] at h
    obtain ⟨c, rest, hprint, hc⟩ := exists_escapeText_eq_cons h
    rw [print, hprint]
    exact if_pos hc
  | comment content => rfl
  | element name attributes children =>
    rw [IsNormal] at h
    obtain ⟨c, more, hname, hc⟩ := h.1.exists_cons
    obtain ⟨rest, hprint⟩ := exists_print_element name attributes children
    -- A name begins with a letter, so it is neither an end tag nor a comment.
    have hslash : c ≠ '/' := fun he => hc (he ▸ by decide)
    have hbang : c ≠ '!' := fun he => hc (he ▸ by decide)
    rw [hprint, hname]
    simp [Next.ofChars, next, hslash, hbang]

/-- No normal markup begins where a forest ends. -/
theorem IsForestEnd.ne_print {m : Markup} (hu : IsForestEnd u) (hm : IsNormal m) : u ≠ print m ++ v := by
  intro h
  have hnext := hm.next_eq v
  rw [← h, hu.next_eq] at hnext
  cases m with
  | doctype => exact hm
  | element => cases hnext
  | text => cases hnext
  | comment => cases hnext

/-! ### Reading what was written -/

theorem isUnbordered_commentEnd : IsUnbordered "-->".toList := by decide +kernel

theorem isUnbordered_endTag : IsUnbordered "</".toList := by decide +kernel

/-- **Raw text** goes on to the first end tag. -/
theorem IsRawContent.eq_of_append {F G : List Markup} (hF : IsRawContent F) (hG : IsRawContent G)
    (h : F.flatMap rawText ++ ("</".toList ++ u) = G.flatMap rawText ++ ("</".toList ++ v)) : F = G ∧ u = v := by
  have hcontent {F : List Markup} (hF : IsRawContent F) : ¬ "</".toList <:+: F.flatMap rawText := by
    rcases hF.cases with rfl | ⟨content, rfl, -, hno⟩
    · decide
    · rwa [List.flatMap_singleton]
  -- Both texts go on to the first end tag.
  obtain ⟨hsame, hrest⟩ := isUnbordered_endTag.eq_of_append (hcontent hF) (hcontent hG) h
  refine ⟨?_, hrest⟩
  have hne {content : String} (hc : content ≠ "") : [text content].flatMap rawText ≠ [] := by
    rw [List.flatMap_singleton]
    exact fun he => hc (String.toList_eq_nil_iff.1 he)
  rcases hF.cases with rfl | ⟨content, rfl, hc, -⟩ <;> rcases hG.cases with rfl | ⟨content', rfl, hc', -⟩
  · rfl
  · exact absurd hsame.symm (hne hc')
  · exact absurd hsame (hne hc)
  · rw [List.flatMap_singleton, List.flatMap_singleton] at hsame
    rw [String.toList_inj.1 hsame]

/-- The text of what an element holds. -/
def printContent (name : String) (children : List Markup) : List Char :=
  if rawTextElements.contains name then children.flatMap rawText else printAll children

/-- What stands behind the attributes of an element, followed by `u`. -/
def printTail (name : String) (children : List Markup) (u : List Char) : List Char :=
  if voidElements.contains name then ' ' :: '/' :: '>' :: u
  else '>' :: (printContent name children ++ ("</".toList ++ (name.toList ++ '>' :: u)))

theorem print_element_append (name : String) (attributes : List Attribute) (children : List Markup) (u : List Char) :
    print (element name attributes children) ++ u =
      '<' :: (name.toList ++ (attributes.flatMap printAttribute ++ printTail name children u)) := by
  have hclosed : " />".toList = [' ', '/', '>'] := rfl
  have hend : "</".toList = ['<', '/'] := rfl
  rw [print, printTail, printContent, hclosed, hend]
  dsimp only
  split
  all_goals simp only [List.append_assoc, List.cons_append, List.nil_append]

theorem isTagEnd_printTail (name : String) (children : List Markup) (u : List Char) :
    IsTagEnd (printTail name children u) := by
  rw [printTail]
  split
  · exact ⟨_, .inr rfl⟩
  · exact ⟨_, .inl rfl⟩

theorem head_mem_of_attributes {as : List Attribute} (hu : IsTagEnd u) :
    ∀ c ∈ (as.flatMap printAttribute ++ u).head?, c ∈ nameStops := by
  cases as with
  | nil => exact hu.head_mem
  | cons a as => simp [printAttribute, nameStops]

/-- **An element** is told by its start tag, its content and its end tag. -/
theorem eq_of_print_element {name name' : String} {as bs : List Attribute} {F G : List Markup}
    (hm : IsNormal (element name as F)) (hm' : IsNormal (element name' bs G))
    (ih : ∀ {u v}, AreNormal F → AreNormal G → IsForestEnd u → IsForestEnd v →
      printAll F ++ u = printAll G ++ v → F = G ∧ u = v)
    (h : print (element name as F) ++ u = print (element name' bs G) ++ v) :
    element name as F = element name' bs G ∧ u = v := by
  rw [IsNormal] at hm hm'
  obtain ⟨hname, has, -, hF, hcontent⟩ := hm
  obtain ⟨hname', hbs, -, hG, hcontent'⟩ := hm'
  have hend := isTagEnd_printTail name F u
  have hend' := isTagEnd_printTail name' G v
  rw [print_element_append, print_element_append] at h
  obtain ⟨rfl, hattributes⟩ :=
    hname.eq_of_append hname' (head_mem_of_attributes hend) (head_mem_of_attributes hend') (List.cons.inj h).2
  obtain ⟨rfl, htail⟩ := eq_of_printAttributes hend hend' has hbs hattributes
  unfold printTail at htail
  split at htail
  · next hvoid =>
    rw [hF hvoid, hG hvoid]
    exact ⟨rfl, by simpa using htail⟩
  · have hcut := (List.cons.inj htail).2
    -- Both have the same end tag, so it is enough to tell the content from what begins with it.
    have hsame : F = G ∧ name.toList ++ '>' :: u = name.toList ++ '>' :: v := by
      unfold printContent at hcut
      split at hcut
      · next hraw =>
        rw [if_pos hraw] at hcontent hcontent'
        exact hcontent.eq_of_append hcontent' hcut
      · next hraw =>
        rw [if_neg hraw] at hcontent hcontent'
        obtain ⟨hsame, hrest⟩ := ih hcontent hcontent' (.inr ⟨_, rfl⟩) (.inr ⟨_, rfl⟩) hcut
        exact ⟨hsame, (List.append_right_inj "</".toList).1 hrest⟩
    obtain ⟨rfl, hrest⟩ := hsame
    exact ⟨rfl, (List.cons.inj (List.append_cancel_left hrest)).2⟩

/-- What follows a text in a normal forest does not go on with it. -/
theorem AreNormal.lt_of_head? {m : Markup} {rest : List Markup} (h : AreNormal (m :: rest)) (hm : m.isText)
    (hu : IsForestEnd u) : ∀ c ∈ (printAll rest ++ u).head?, c = '<' := by
  rw [AreNormal] at h
  obtain ⟨-, hbeside, hrest⟩ := h
  cases rest with
  | nil => obtain rfl | ⟨after, rfl⟩ := hu <;> simp [printAll]
  | cons next rest =>
    rw [AreNormal] at hrest
    have hnext := hrest.1.next_eq (printAll rest ++ u)
    have htext := hbeside hm next rfl
    intro c hc
    rw [printAll, List.append_assoc] at hc
    obtain ⟨after, hafter⟩ := List.head?_eq_some_iff.1 hc
    rw [hafter] at hnext
    -- A text that came next would stand beside another one.
    by_contra hne
    rw [Next.ofChars, if_pos hne] at hnext
    cases next <;> simp [Markup.next, isText] at hnext htext

mutual

/-- **What is written tells what was there**, for one node, if a text is followed by an angle bracket or the end. -/
theorem eq_of_print : ∀ {m m' : Markup} {u v : List Char}, IsNormal m → IsNormal m' →
    (m.isText → ∀ c ∈ u.head?, c = '<') → (m'.isText → ∀ c ∈ v.head?, c = '<') →
      print m ++ u = print m' ++ v → m = m' ∧ u = v
  | m, m', u, v, hm, hm', hu, hv, h => by
    have hnext : m.next = m'.next := by
      rw [← hm.next_eq u, ← hm'.next_eq v, h]
    -- What is written tells the kind of the node, so both nodes are of one kind.
    match m, m', hnext with
    | text content, text content', _ =>
      have hfree (content : String) : ∀ c ∈ escapeText content.toList, ¬ c = '<' := fun c hc he =>
        lt_not_mem_escapeText content.toList (he ▸ hc)
      obtain ⟨hsame, hrest⟩ := eq_of_append_stop (hfree content) (hfree content') (hu rfl) (hv rfl) h
      have hcontent := String.toList_inj.1 (isEscape_escapeTextChar.flatMap_injective hsame)
      exact ⟨congrArg text hcontent, hrest⟩
    | comment content, comment content', _ =>
      rw [IsNormal] at hm hm'
      simp only [print, List.append_assoc] at h
      obtain ⟨hsame, hrest⟩ := isUnbordered_commentEnd.eq_of_append hm hm' (List.append_cancel_left h)
      exact ⟨congrArg comment (String.toList_inj.1 hsame), hrest⟩
    | element name as F, element name' bs G, _ =>
      exact eq_of_print_element hm hm' (fun hF hG hu hv h => eq_of_printAll hF hG hu hv h) h
    | doctype .., _, _ => exact hm.elim

/-- **What is written tells what was there**, for a forest up to its end. -/
theorem eq_of_printAll : ∀ {F G : List Markup} {u v : List Char}, AreNormal F → AreNormal G →
    IsForestEnd u → IsForestEnd v → printAll F ++ u = printAll G ++ v → F = G ∧ u = v
  | [], [], _, _, _, _, _, _, h => ⟨rfl, h⟩
  | [], m :: G, u, v, _, hG, hu, _, h => by
    rw [AreNormal] at hG
    rw [printAll, printAll, List.append_assoc] at h
    exact absurd h (hu.ne_print hG.1)
  | m :: F, [], u, v, hF, _, _, hv, h => by
    rw [AreNormal] at hF
    rw [printAll, printAll, List.append_assoc] at h
    exact absurd h.symm (hv.ne_print hF.1)
  | m :: F, m' :: G, u, v, hF, hG, hu, hv, h => by
    have hm := hF
    have hm' := hG
    rw [AreNormal] at hm hm'
    rw [printAll, printAll, List.append_assoc, List.append_assoc] at h
    obtain ⟨rfl, hrest⟩ := eq_of_print hm.1 hm'.1 (hF.lt_of_head? · hu) (hG.lt_of_head? · hv) h
    obtain ⟨rfl, hend⟩ := eq_of_printAll hm.2.2 hm'.2.2 hu hv hrest
    exact ⟨rfl, hend⟩

end

end Markup

/-! ### Nodes of trees -/

section Trees

open Markup

variable {tree tree' : Tree} {xs ys : List NodeId} {F G : List Markup}

/-- The texts of nodes are the text of the markup at them. -/
theorem toList_join_printOuter (h : AreAt tree F xs) :
    (String.join (xs.map (printOuter tree))).toList = printAll F := by
  have happend (F G : List Markup) : printAll (F ++ G) = printAll F ++ printAll G := by
    induction F with
    | nil => rfl
    | cons m F ih => rw [List.cons_append, printAll, printAll, ih, List.append_assoc]
  rw [← h.flatMap_outer, String.toList_join]
  clear h
  induction xs with
  | nil => rfl
  | cons x xs ih => rw [List.map_cons, List.flatMap_cons, List.flatMap_cons, happend, ih, printOuter, String.toList_ofList]

/-- **The writer loses nothing.** Two normal forests that stand at nodes of two trees are the same forest, if the texts of
these nodes are the same one after the other: the same shape, names, attributes in their order with their values, texts
and comments. -/
theorem eq_of_printOuter (hF : AreAt tree F xs) (hG : AreAt tree' G ys) (hnormal : AreNormal F) (hnormal' : AreNormal G)
    (h : String.join (xs.map (printOuter tree)) = String.join (ys.map (printOuter tree'))) : F = G := by
  have htext : printAll F ++ [] = printAll G ++ [] := by
    rw [← toList_join_printOuter hF, ← toList_join_printOuter hG, h]
  exact (eq_of_printAll hnormal hnormal' (.inl rfl) (.inl rfl) htext).1

/-- A paragraph with an escaped value, in front of a text. -/
def noteForest : List Markup :=
  [.element "p" [⟨"title", "é \"&lt;"⟩] [.text "a<b", .comment "--", .element "img" [] []], .text "\u00A0"]

/-- A document with these nodes in their order, and one where they were created from the last to the first. -/
def noteTree (backwards : Bool) : Tree :=
  if backwards then
    .afterCalls [.createText "\u00A0", .createElement "img", .createComment "--", .createText "a<b",
      .createElement "p", .setAttribute 5 "title" "é \"&lt;", .append 5 4, .append 5 3, .append 5 2]
  else
    .afterCalls [.createElement "p", .createText "a<b", .createComment "--", .createElement "img",
      .createText "\u00A0", .append 1 2, .append 1 3, .append 1 4, .setAttribute 1 "title" "é \"&lt;"]

/-- Both documents are written as the same text, and what stands in the second one is the forest of the first. -/
theorem eq_of_printOuter_note :
    String.join ([1, 5].map (printOuter (noteTree false))) =
        "<p title=\"é &quot;&amp;lt;\">a&lt;b<!------><img /></p>&nbsp;" ∧
      String.join ([5, 1].map (printOuter (noteTree true))) =
        "<p title=\"é &quot;&amp;lt;\">a&lt;b<!------><img /></p>&nbsp;" ∧
      noteForest = [5, 1].flatMap (outer (noteTree true)) := by
  have hat : AreAt (noteTree false) noteForest [1, 5] := by decide +kernel
  have hat' : AreAt (noteTree true) ([5, 1].flatMap (outer (noteTree true))) [5, 1] := by decide +kernel
  have hnormal : AreNormal noteForest := by decide +kernel
  have hnormal' : AreNormal ([5, 1].flatMap (outer (noteTree true))) := by decide +kernel
  exact ⟨by decide +kernel, by decide +kernel, eq_of_printOuter hat hat' hnormal hnormal' (by decide +kernel)⟩

end Trees

end HtmlMail.Html
