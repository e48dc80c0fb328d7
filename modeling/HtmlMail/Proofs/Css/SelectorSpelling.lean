import HtmlMail.Css.Selector.Parser
import HtmlMail.Proofs.Css.Marks
import HtmlMail.Proofs.Text.Search

/-!
# Selectors and their spellings

A selector can be written in many ways: names of tags and pseudo-classes in any case, a star or nothing where any tag
will do, values in quotes or without, conditions of different kinds in any order, and blanks in many places. All of
them are read as the same selector.

* `Selector.Spells` : the spellings of a selector, put together from those of its parts;
* `EndsName`, `EndsCompound` : what may stand behind a name and behind a compound, so that neither goes on. A reader
  takes all it can, so each lemma about one asks for this of the text behind;
* `readSimple?_append`, `readCompound_append`, `readCombinator_append` : a reader takes a spelling of what it reads
  and leaves the text behind it;
* `readSelector_append` : a selector in front of a text is read first, by induction on the selector;
* `Selector.parse_of_spells` : every spelling of a selector is read as that selector.
-/

namespace HtmlMail.Css

open Chars

/-! ### Spellings -/

/-- Blanks of ASCII, or nothing. -/
def IsGap (s : List Char) : Prop := ∀ c ∈ s, isBlank c ∧ c.toNat < 0x80

instance : DecidablePred IsGap := fun s =>
  -- The instance for all characters would be found first.
  List.decidableBAll (fun c => isBlank c ∧ c.toNat < 0x80) s

/-- **A name** is a text of characters of names that are not blank, and not empty. -/
structure IsName (s : List Char) : Prop where
  ne_nil : s ≠ []
  isNameChar {c : Char} : c ∈ s → isNameChar c
  solid {c : Char} : c ∈ s → isBlank c = false

instance : DecidablePred IsName := fun s =>
  have := List.decidableBAll (fun c => isNameChar c ∧ isBlank c = false) s
  decidable_of_iff (s ≠ [] ∧ ∀ c ∈ s, isNameChar c ∧ isBlank c = false)
    ⟨fun h => ⟨h.1, fun hc => (h.2 _ hc).1, fun hc => (h.2 _ hc).2⟩,
      fun h => ⟨h.ne_nil, fun _ hc => ⟨h.isNameChar hc, h.solid hc⟩⟩⟩

/-- The spellings of a value: in quotes of a kind that it does not hold, or as it is, if it holds no closing bracket
and no blank and does not begin with a quote. -/
inductive SpellsValue (value : List Char) : List Char → Prop
  | quoted (quote : Char) (hquote : quote = '"' ∨ quote = '\'') (hvalue : quote ∉ value) :
    SpellsValue value (quote :: (value ++ [quote]))
  | bare (hvalue : ∀ c ∈ value, c ≠ ']' ∧ isBlank c = false) (hhead : ∀ c ∈ value.head?, c ≠ '"' ∧ c ≠ '\'') :
    SpellsValue value value

/-- The spellings of a condition on an attribute, with blanks around its parts. -/
inductive AttributeSelector.Spells (a : AttributeSelector) : List Char → Prop
  | mk {g₁ g₂ g₃ g₄ name value : List Char} (h₁ : IsGap g₁) (h₂ : IsGap g₂) (h₃ : IsGap g₃) (h₄ : IsGap g₄)
    (hname : IsName name) (hlower : lower name = a.name.toList) (hvalue : SpellsValue a.expected.toList value) :
    Spells a ('[' :: (g₁ ++ (name ++ (g₂ ++ a.operator.sign :: '=' :: (g₃ ++ (value ++ (g₄ ++ [']'])))))))

/-- The spellings of a condition. -/
inductive SimpleSelector.Spells : SimpleSelector → List Char → Prop
  | id {name : List Char} (hname : IsName name) : Spells (.id (String.ofList name)) ('#' :: name)
  | className {name : List Char} (hname : IsName name) : Spells (.className (String.ofList name)) ('.' :: name)
  | bracket {a : AttributeSelector} {text : List Char} (ha : a.Spells text) : Spells (.attribute a) text
  | pseudoClass {p : PseudoClass} {name : List Char} (hlower : lower name = p.name.toList) :
    Spells (.pseudoClass p) (':' :: name)

/-- The spellings of conditions behind one another. -/
inductive SpellsAll : List SimpleSelector → List Char → Prop
  | nil : SpellsAll [] []
  | cons {part : SimpleSelector} {parts : List SimpleSelector} {s t : List Char} (hpart : part.Spells s)
    (hparts : SpellsAll parts t) : SpellsAll (part :: parts) (s ++ t)

/-- The spellings of the tag name of a compound. Where any will do, there is a star or nothing. -/
inductive SpellsTag : Option String → List Char → Prop
  | name {tag : String} {name : List Char} (hname : IsName name) (hlower : lower name = tag.toList) :
    SpellsTag (some tag) name
  | star : SpellsTag none ['*']
  | nothing : SpellsTag none []

/-- **The spellings of a compound**: its tag name, and then its conditions in any order that keeps those of one kind
in theirs. One of the two has to be there. -/
inductive CompoundSelector.Spells (c : CompoundSelector) : List Char → Prop
  | mk {tag? : Option String} {parts : List SimpleSelector} {s t : List Char} (hc : .ofParts tag? parts = c)
    (htag : SpellsTag tag? s) (hparts : SpellsAll parts t) (hne : s ++ t ≠ []) : Spells c (s ++ t)

/-- The spellings of a combinator, with blanks around its sign. Without a sign, there has to be a blank. -/
inductive Combinator.Spells : Combinator → List Char → Prop
  | descendant {g : List Char} (hne : g ≠ []) (hg : IsGap g) : Spells .descendant g
  | child {g g' : List Char} (hg : IsGap g) (hg' : IsGap g') : Spells .child (g ++ '>' :: g')
  | nextSibling {g g' : List Char} (hg : IsGap g) (hg' : IsGap g') : Spells .nextSibling (g ++ '+' :: g')
  | laterSibling {g g' : List Char} (hg : IsGap g) (hg' : IsGap g') : Spells .laterSibling (g ++ '~' :: g')

/-- **The spellings of a selector**: those of its compounds with those of its combinators between them. -/
inductive Selector.Spells : Selector → List Char → Prop
  | compound {c : CompoundSelector} {s : List Char} (hc : c.Spells s) : Spells (.compound c) s
  | combined {left : Selector} {r : Combinator} {right : CompoundSelector} {s m t : List Char} (hleft : left.Spells s)
    (hr : r.Spells m) (hright : right.Spells t) : Spells (.combined left r right) (s ++ (m ++ t))

/-! ### Blanks and names -/

section Names

variable {c : Char} {g g' name rest s : List Char}

/-- A blank of ASCII is no part of a name. -/
theorem isNameChar_of_isBlank (hc : isBlank c) (hascii : c.toNat < 0x80) : isNameChar c = false := by
  have hcodes : c.toNat ∈ [9, 10, 11, 12, 13, 32] := by
    simp [isBlank] at hc
    simp
    omega
  have hall : ∀ n ∈ [9, 10, 11, 12, 13, 32], isNameChar (Char.ofNat n) = false := by decide
  have hchar := hall c.toNat hcodes
  rwa [Char.ofNat_toNat] at hchar

/-- Case makes no difference to the characters of names. -/
theorem isNameChar_toLower (c : Char) : isNameChar c.toLower = isNameChar c := by
  rcases toLower_cases c with hc | ⟨h₁, h₂, -⟩
  · rw [hc]
  · have hletters : ∀ n < 26, isNameChar (Char.ofNat (65 + n)).toLower = isNameChar (Char.ofNat (65 + n)) := by decide
    have hletter := hletters (c.toNat - 65) (by omega)
    rwa [Nat.add_sub_cancel' h₁, Char.ofNat_toNat] at hletter

theorem IsGap.allBlank (hg : IsGap g) : allBlank g := List.all_eq_true.2 fun c hc => (hg c hc).1

theorem IsGap.append (hg : IsGap g) (hg' : IsGap g') : IsGap (g ++ g') := by
  intro c hc
  rcases List.mem_append.1 hc with h | h
  · exact hg c h
  · exact hg' c h

/-- Blanks in front of a text that begins with none are skipped. -/
theorem IsGap.trimStart_append (hg : IsGap g) (hs : ∀ c ∈ s.head?, isBlank c = false) : trimStart (g ++ s) = s := by
  rw [trimStart_append_of_allBlank hg.allBlank, trimStart_eq_self hs]

/-- A text **ends a name** in front of it if it does not begin with a character of names. -/
def EndsName (s : List Char) : Prop := ∀ c ∈ s.head?, isNameChar c = false

theorem endsName_cons (hc : isNameChar c = false) (s : List Char) : EndsName (c :: s) := by
  intro d hd
  cases hd
  exact hc

theorem IsGap.endsName_append (hg : IsGap g) (hs : EndsName s) : EndsName (g ++ s) := by
  cases g with
  | nil => exact hs
  | cons c g =>
    obtain ⟨hblank, hascii⟩ := hg c List.mem_cons_self
    exact endsName_cons (isNameChar_of_isBlank hblank hascii) (g ++ s)

/-- **A name is read** up to a text that ends it. -/
theorem readName_append (hname : IsName name) (hrest : EndsName rest) :
    readName (name ++ rest) = .ok (String.ofList name, rest) := by
  obtain ⟨htake, hdrop⟩ := takeWhile_append_of_head (fun _ => hname.isNameChar) hrest
  unfold readName
  dsimp only
  rw [htake, hdrop, if_neg]
  rw [List.isEmpty_iff]
  exact hname.ne_nil

theorem IsName.isTrimmed (hname : IsName name) : IsTrimmed name where
  head h := hname.solid (List.mem_of_mem_head? h)
  last h := hname.solid (List.mem_of_getLast? h)

end Names

/-! ### Conditions on attributes -/

section Attributes

variable {a : AttributeSelector} {value text rest s g g' : List Char}

/-- **A value is read** up to the blanks in front of the closing bracket. -/
theorem readAttributeValue_append (hvalue : SpellsValue value s) (hne : s ≠ []) (hg : IsGap g) :
    readAttributeValue (s ++ (g ++ ']' :: rest)) = .ok (String.ofList value, g ++ ']' :: rest) := by
  cases hvalue with
  | quoted quote hquote hvalue =>
    have hcut : splitAtChar? quote (value ++ quote :: (g ++ ']' :: rest)) = some (value, g ++ ']' :: rest) :=
      splitAtChar?_append_cons _ hvalue
    rw [List.cons_append, List.append_assoc, List.singleton_append]
    unfold readAttributeValue
    dsimp only
    rw [if_pos hquote, hcut]
  | bare hvalue hhead =>
    -- Without quotes, the value ends at the first blank or at the bracket.
    have hin : ∀ c ∈ value, (c != ']' && !isBlank c) = true := by
      intro c hc
      obtain ⟨hbracket, hsolid⟩ := hvalue c hc
      rw [Bool.and_eq_true, bne_iff_ne, hsolid]
      exact ⟨hbracket, rfl⟩
    have hout : ∀ c ∈ (g ++ ']' :: rest).head?, (c != ']' && !isBlank c) = false := by
      cases g with
      | nil =>
        intro c hc
        cases hc
        rfl
      | cons d g =>
        intro c hc
        cases hc
        rw [(hg d List.mem_cons_self).1, Bool.not_true, Bool.and_false]
    obtain ⟨htake, hdrop⟩ := takeWhile_append_of_head hin hout
    obtain ⟨c, t, rfl⟩ := List.exists_cons_of_ne_nil hne
    have hquote : ¬ (c = '"' ∨ c = '\'') := not_or.2 (hhead c rfl)
    unfold readAttributeValue
    rw [List.cons_append] at htake hdrop ⊢
    dsimp only
    rw [if_neg hquote, htake, hdrop]

/-- A value is read with the blanks around it skipped. If it is empty, both kinds of blanks come first. -/
theorem readAttributeValue_gaps (hvalue : SpellsValue value s) (hg : IsGap g) (hg' : IsGap g') (rest : List Char) :
    ∃ after, readAttributeValue (trimStart (g ++ (s ++ (g' ++ ']' :: rest)))) = .ok (String.ofList value, after) ∧
      trimStart after = ']' :: rest := by
  have hbracket : ∀ c ∈ (']' :: rest).head?, isBlank c = false := by
    intro c hc
    cases hc
    rfl
  by_cases hne : s = []
  · subst hne
    -- Where nothing is written, both gaps are one.
    have hempty : value = [] := by
      cases hvalue
      rfl
    refine ⟨']' :: rest, ?_, trimStart_eq_self hbracket⟩
    rw [List.nil_append, ← List.append_assoc, (hg.append hg').trimStart_append hbracket, hempty]
    rfl
  · have hhead : ∀ c ∈ (s ++ (g' ++ ']' :: rest)).head?, isBlank c = false := by
      obtain ⟨d, t, rfl⟩ := List.exists_cons_of_ne_nil hne
      intro c hc
      cases hc
      cases hvalue with
      | quoted quote hquote _ => rcases hquote with rfl | rfl <;> rfl
      | bare hvalue _ => exact (hvalue d List.mem_cons_self).2
    refine ⟨g' ++ ']' :: rest, ?_, hg'.trimStart_append hbracket⟩
    rw [hg.trimStart_append hhead, readAttributeValue_append hvalue hne hg']

/-- The sign of an operator is neither a blank nor a part of a name. -/
theorem sign_cases (operator : AttributeOperator) :
    isBlank operator.sign = false ∧ isNameChar operator.sign = false := by
  cases operator <;> decide

theorem readOperator_sign (operator : AttributeOperator) (rest : List Char) :
    readOperator (operator.sign :: '=' :: rest) = .ok (operator, rest) := by
  cases operator <;> rfl

/-- **A condition on an attribute is read**, whatever stands behind its bracket. -/
theorem AttributeSelector.Spells.readAttribute_append (ha : a.Spells text) (rest : List Char) :
    ∃ t, text = '[' :: t ∧ readAttribute (t ++ rest) = .ok (a, rest) := by
  obtain @⟨g₁, g₂, g₃, g₄, name, value, h₁, h₂, h₃, h₄, hname, hlower, hvalue⟩ := ha
  refine ⟨_, rfl, ?_⟩
  obtain ⟨hsolid, hsign⟩ := sign_cases a.operator
  obtain ⟨after, hread, hafter⟩ := readAttributeValue_gaps hvalue h₃ h₄ rest
  have htext : g₁ ++ (name ++ (g₂ ++ a.operator.sign :: '=' :: (g₃ ++ (value ++ (g₄ ++ [']']))))) ++ rest =
      g₁ ++ (name ++ (g₂ ++ a.operator.sign :: '=' :: (g₃ ++ (value ++ (g₄ ++ ']' :: rest))))) := by simp
  -- Up to the operator, it does not matter what the value is.
  generalize g₃ ++ (value ++ (g₄ ++ ']' :: rest)) = valueText at hread htext
  have hfirst : trimStart (g₁ ++ (name ++ (g₂ ++ a.operator.sign :: '=' :: valueText))) =
      name ++ (g₂ ++ a.operator.sign :: '=' :: valueText) := by
    refine h₁.trimStart_append ?_
    obtain ⟨d, t, rfl⟩ := List.exists_cons_of_ne_nil hname.ne_nil
    intro c hc
    cases hc
    exact hname.solid List.mem_cons_self
  have hends : EndsName (g₂ ++ a.operator.sign :: '=' :: valueText) := h₂.endsName_append (endsName_cons hsign _)
  have hsecond : trimStart (g₂ ++ a.operator.sign :: '=' :: valueText) = a.operator.sign :: '=' :: valueText := by
    refine h₂.trimStart_append ?_
    intro c hc
    cases hc
    exact hsolid
  have hlowered : Text.lower (String.ofList name) = a.name := by
    rw [Text.lower, String.toList_ofList, hlower, String.ofList_toList]
  unfold readAttribute
  simp only [htext, hfirst, readName_append hname hends, hsecond, readOperator_sign, hread, bind, Except.bind, hafter,
    hlowered, String.ofList_toList]

end Attributes

/-! ### Compounds -/

section Compounds

variable {c : Char} {p : PseudoClass} {part : SimpleSelector} {parts : List SimpleSelector} {tag? : Option String}
  {compound : CompoundSelector} {name rest s t text : List Char}

/-- The name of a pseudo-class in any case is a name. -/
theorem isName_of_lower_eq (hlower : lower name = p.name.toList) : IsName name := by
  have hchars {c : Char} (hc : c ∈ p.name.toList) : isNameChar c ∧ isBlank c = false := by
    have hall : p.name.toList.all (fun c => isNameChar c && !isBlank c) = true := by
      cases p <;> decide
    simpa using List.all_eq_true.1 hall c hc
  -- Case makes no difference to what a name can be made of.
  have hmem {c : Char} (hc : c ∈ name) : c.toLower ∈ p.name.toList := by
    rw [← hlower]
    exact List.mem_map_of_mem hc
  constructor
  case ne_nil =>
    rintro rfl
    revert hlower
    cases p <;> decide
  case isNameChar =>
    intro c hc
    rw [← isNameChar_toLower]
    exact (hchars (hmem hc)).1
  case solid =>
    intro c hc
    rw [← isBlank_toLower]
    exact (hchars (hmem hc)).2

/-- A pseudo-class is found by its name in any case. -/
theorem ofName?_of_lower_eq (hlower : lower name = p.name.toList) :
    PseudoClass.ofName? (String.ofList name) = some p := by
  have hsame (q : PseudoClass) :
      Text.eqIgnoringCase (String.ofList name) q.name = Text.eqIgnoringCase p.name q.name := by
    rw [Text.eqIgnoringCase, Text.eqIgnoringCase, eqIgnoringCase, eqIgnoringCase, String.toList_ofList, ← hlower,
      lower_lower]
  unfold PseudoClass.ofName?
  simp only [hsame]
  cases p <;> decide

theorem readPseudoClass_append (hlower : lower name = p.name.toList) (hrest : EndsName rest) :
    readPseudoClass (name ++ rest) = .ok (p, rest) := by
  unfold readPseudoClass
  simp only [readName_append (isName_of_lower_eq hlower) hrest, bind, Except.bind, ofName?_of_lower_eq hlower]

/-- The characters that a condition begins with. -/
def conditionMarks : List Char := ['#', '.', '[', ':']

/-- The signs of the combinators. -/
def combinatorSigns : List Char := ['>', '+', '~']

theorem of_mem_conditionMarks (hc : c ∈ conditionMarks) : isNameChar c = false ∧ isBlank c = false := by
  simp only [conditionMarks, List.mem_cons, List.not_mem_nil, or_false] at hc
  rcases hc with rfl | rfl | rfl | rfl <;> decide

theorem of_mem_combinatorSigns (hc : c ∈ combinatorSigns) : isNameChar c = false ∧ c ∉ conditionMarks := by
  simp only [combinatorSigns, List.mem_cons, List.not_mem_nil, or_false] at hc
  rcases hc with rfl | rfl | rfl <;> decide

/-- A condition begins with its mark. -/
theorem SimpleSelector.Spells.exists_cons (h : part.Spells s) : ∃ c t, s = c :: t ∧ c ∈ conditionMarks := by
  cases h with
  | id _ => exact ⟨_, _, rfl, by decide⟩
  | className _ => exact ⟨_, _, rfl, by decide⟩
  | bracket ha =>
    obtain ⟨t, ht, -⟩ := ha.readAttribute_append []
    exact ⟨_, t, ht, by decide⟩
  | pseudoClass _ => exact ⟨_, _, rfl, by decide⟩

/-- **A condition is read** up to a text that ends a name. -/
theorem readSimple?_append (h : part.Spells s) (hrest : EndsName rest) :
    readSimple? (s ++ rest) = .ok (some (part, rest)) := by
  cases h with
  | id hname =>
    rw [List.cons_append, readSimple?, readName_append hname hrest]
    rfl
  | className hname =>
    rw [List.cons_append, readSimple?, readName_append hname hrest]
    rfl
  | bracket ha =>
    obtain ⟨t, rfl, hread⟩ := ha.readAttribute_append rest
    rw [List.cons_append, readSimple?, hread]
    rfl
  | pseudoClass hlower =>
    rw [List.cons_append, readSimple?, readPseudoClass_append hlower hrest]
    rfl

/-- A text **ends a compound** in front of it if no name and no condition goes on with it. -/
def EndsCompound (s : List Char) : Prop := ∀ c ∈ s.head?, isNameChar c = false ∧ c ∉ conditionMarks

theorem EndsCompound.endsName (hs : EndsCompound s) : EndsName s := fun c hc => (hs c hc).1

/-- Conditions end a name in front of them. -/
theorem SpellsAll.endsName_append (h : SpellsAll parts t) (hrest : EndsCompound rest) : EndsName (t ++ rest) := by
  cases h with
  | nil => exact hrest.endsName
  | cons hpart _ =>
    obtain ⟨c, u, rfl, hc⟩ := hpart.exists_cons
    exact endsName_cons (of_mem_conditionMarks hc).1 _

theorem readSimple?_of_endsCompound (hrest : EndsCompound rest) : readSimple? rest = .ok none := by
  unfold readSimple?
  split
  case h_5 => rfl
  all_goals exact absurd (by decide) (hrest _ rfl).2

theorem readSimples_of_none (h : readSimple? s = .ok none) : readSimples s = .ok ([], s) := by
  rw [readSimples]
  split
  · next e herror =>
    rw [h] at herror
    cases herror
  · rfl
  · next part rest hsome =>
    rw [h] at hsome
    cases hsome

theorem readSimples_of_some (h : readSimple? s = .ok (some (part, rest))) :
    readSimples s = (readSimples rest).map fun (parts, rest) => (part :: parts, rest) := by
  rw [readSimples]
  split
  · next e herror =>
    rw [h] at herror
    cases herror
  · next hnone =>
    rw [h] at hnone
    cases hnone
  · next part' rest' hsome =>
    rw [h] at hsome
    cases hsome
    rfl

/-- **Conditions are read** as long as there are any. -/
theorem readSimples_append (h : SpellsAll parts t) (hrest : EndsCompound rest) :
    readSimples (t ++ rest) = .ok (parts, rest) := by
  induction h with
  | nil => exact readSimples_of_none (readSimple?_of_endsCompound hrest)
  | cons hpart hparts ih =>
    rw [List.append_assoc, readSimples_of_some (readSimple?_append hpart (hparts.endsName_append hrest)), ih]
    rfl

/-- Without a star, the tag name is what the text begins with. -/
theorem readTag_of_head (hs : s.head? ≠ some '*') :
    readTag s = if s.takeWhile isNameChar = [] then (none, s)
      else (some (Text.lower (String.ofList (s.takeWhile isNameChar))), s.dropWhile isNameChar) := by
  unfold readTag
  split
  · exact absurd rfl hs
  · simp only [List.isEmpty_iff]

/-- **The tag name is read**, if no name goes on with what stands behind it. Where there is nothing, no star may
follow. -/
theorem readTag_append (h : SpellsTag tag? s) (hrest : EndsName rest) (hstar : s = [] → rest.head? ≠ some '*') :
    readTag (s ++ rest) = (tag?, rest) := by
  cases h with
  | star => rfl
  | nothing =>
    have htake := (takeWhile_append_of_head (s := []) (by simp) hrest).1
    rw [List.nil_append] at htake ⊢
    rw [readTag_of_head (hstar rfl), if_pos htake]
  | @name tag name hname hlower =>
    obtain ⟨htake, hdrop⟩ := takeWhile_append_of_head (fun _ => hname.isNameChar) hrest
    -- A name does not begin with a star.
    have hhead : (s ++ rest).head? ≠ some '*' := by
      obtain ⟨c, t, rfl⟩ := List.exists_cons_of_ne_nil hname.ne_nil
      intro hc
      cases hc
      exact absurd (hname.isNameChar List.mem_cons_self) (by decide)
    rw [readTag_of_head hhead, htake, hdrop, if_neg hname.ne_nil, Text.lower, String.toList_ofList, hlower,
      String.ofList_toList]

/-- **A compound is read** up to a text that ends it. -/
theorem readCompound_append (h : compound.Spells s) (hrest : EndsCompound rest) :
    readCompound (s ++ rest) = .ok (compound, rest) := by
  obtain @⟨tag?, parts, s, t, rfl, htag, hparts, hne⟩ := h
  -- Without a tag name there is a first part, and it does not begin with a star.
  have hstar : s = [] → (t ++ rest).head? ≠ some '*' := by
    rintro rfl
    cases hparts with
    | nil => exact absurd rfl hne
    | cons hpart _ =>
      obtain ⟨c, u, rfl, hc⟩ := hpart.exists_cons
      intro hstar
      cases hstar
      exact absurd hc (by decide)
  have hread : readTag (s ++ (t ++ rest)) = (tag?, t ++ rest) :=
    readTag_append htag (hparts.endsName_append hrest) hstar
  have hlength : rest.length < (s ++ (t ++ rest)).length := by
    have hpos := List.length_pos_iff.2 hne
    simp only [List.length_append] at hpos ⊢
    omega
  rw [List.append_assoc]
  unfold readCompound
  simp only [hread, readSimples_append hparts hrest, bind, Except.bind, if_pos hlength]

end Compounds

/-! ### What is visible at the ends -/

section Ends

variable {a : AttributeSelector} {part : SimpleSelector} {parts : List SimpleSelector} {tag? : Option String}
  {compound : CompoundSelector} {selector : Selector} {s m t : List Char}

theorem isTrimmed_append (hs : IsTrimmed s) (ht : IsTrimmed t) : IsTrimmed (s ++ t) := by
  constructor
  · intro c hc
    rw [List.head?_append, Option.or_eq_some_iff] at hc
    rcases hc with hc | ⟨-, hc⟩
    · exact hs.head hc
    · exact ht.head hc
  · intro c hc
    rw [List.getLast?_append, Option.or_eq_some_iff] at hc
    rcases hc with hc | ⟨-, hc⟩
    · exact ht.last hc
    · exact hs.last hc

/-- What stands between two texts that are not empty has no part in that. -/
theorem isTrimmed_append_append (hs : IsTrimmed s) (ht : IsTrimmed t) (hsne : s ≠ []) (htne : t ≠ []) :
    IsTrimmed (s ++ (m ++ t)) := by
  constructor
  · intro c hc
    rw [List.head?_append_of_ne_nil _ hsne] at hc
    exact hs.head hc
  · intro c hc
    rw [← List.append_assoc, List.getLast?_append_of_ne_nil _ htne] at hc
    exact ht.last hc

theorem isTrimmed_singleton {c : Char} (hc : isBlank c = false) : IsTrimmed [c] := by
  constructor
  · intro d hd
    cases hd
    exact hc
  · intro d hd
    cases hd
    exact hc

theorem AttributeSelector.Spells.isTrimmed (h : a.Spells s) : IsTrimmed s := by
  obtain @⟨g₁, g₂, g₃, g₄, name, value, -, -, -, -, -, -, -⟩ := h
  have htext : '[' :: (g₁ ++ (name ++ (g₂ ++ a.operator.sign :: '=' :: (g₃ ++ (value ++ (g₄ ++ [']'])))))) =
      ['['] ++ ((g₁ ++ (name ++ (g₂ ++ a.operator.sign :: '=' :: (g₃ ++ (value ++ g₄))))) ++ [']']) := by simp
  rw [htext]
  exact isTrimmed_append_append (isTrimmed_singleton (by decide)) (isTrimmed_singleton (by decide))
    (List.cons_ne_nil _ _) (List.cons_ne_nil _ _)

theorem SimpleSelector.Spells.isTrimmed (h : part.Spells s) : IsTrimmed s := by
  cases h with
  | id hname => exact isTrimmed_append (isTrimmed_singleton (by decide)) hname.isTrimmed
  | className hname => exact isTrimmed_append (isTrimmed_singleton (by decide)) hname.isTrimmed
  | bracket ha => exact ha.isTrimmed
  | pseudoClass hlower => exact isTrimmed_append (isTrimmed_singleton (by decide)) (isName_of_lower_eq hlower).isTrimmed

theorem SpellsAll.isTrimmed (h : SpellsAll parts s) : IsTrimmed s := by
  induction h with
  | nil => exact ⟨nofun, nofun⟩
  | cons hpart _ ih => exact isTrimmed_append hpart.isTrimmed ih

theorem CompoundSelector.Spells.isTrimmed (h : compound.Spells s) : IsTrimmed s := by
  obtain ⟨-, htag, hparts, -⟩ := h
  refine isTrimmed_append ?_ hparts.isTrimmed
  cases htag with
  | name hname _ => exact hname.isTrimmed
  | star => exact isTrimmed_singleton (by decide)
  | nothing => exact ⟨nofun, nofun⟩

theorem CompoundSelector.Spells.ne_nil (h : compound.Spells s) : s ≠ [] := by
  obtain ⟨-, -, -, hne⟩ := h
  exact hne

/-- A compound does not begin with the sign of a combinator. -/
theorem CompoundSelector.Spells.not_mem_combinatorSigns (h : compound.Spells s) :
    ∀ c ∈ s.head?, c ∉ combinatorSigns := by
  obtain ⟨-, htag, hparts, hne⟩ := h
  cases htag with
  | name hname _ =>
    obtain ⟨d, t, rfl⟩ := List.exists_cons_of_ne_nil hname.ne_nil
    intro c hc hsign
    cases hc
    have hchar := hname.isNameChar List.mem_cons_self
    rw [(of_mem_combinatorSigns hsign).1] at hchar
    cases hchar
  | star =>
    intro c hc
    cases hc
    decide
  | nothing =>
    cases hparts with
    | nil => exact absurd rfl hne
    | cons hpart _ =>
      obtain ⟨d, t, rfl, hd⟩ := hpart.exists_cons
      intro c hc hsign
      cases hc
      exact (of_mem_combinatorSigns hsign).2 hd

theorem Selector.Spells.ne_nil (h : selector.Spells s) : s ≠ [] := by
  induction h with
  | compound hc => exact hc.ne_nil
  | combined _ _ _ ih =>
    intro hnil
    exact ih (List.append_eq_nil_iff.1 hnil).1

theorem Selector.Spells.isTrimmed (h : selector.Spells s) : IsTrimmed s := by
  induction h with
  | compound hc => exact hc.isTrimmed
  | combined hleft _ hright ih => exact isTrimmed_append_append ih hright.isTrimmed hleft.ne_nil hright.ne_nil

end Ends

/-! ### Whole selectors -/

section Selectors

variable {r : Combinator} {compound : CompoundSelector} {left selector : Selector} {g g' rest s m t : List Char}

theorem endsCompound_cons {c : Char} (hc : isNameChar c = false) (hmark : c ∉ conditionMarks) (s : List Char) :
    EndsCompound (c :: s) := by
  intro d hd
  cases hd
  exact ⟨hc, hmark⟩

/-- Blanks end a compound in front of them. -/
theorem IsGap.endsCompound_append (hg : IsGap g) (hs : g = [] → EndsCompound s) : EndsCompound (g ++ s) := by
  cases g with
  | nil => exact hs rfl
  | cons c g =>
    obtain ⟨hblank, hascii⟩ := hg c List.mem_cons_self
    refine endsCompound_cons (isNameChar_of_isBlank hblank hascii) ?_ (g ++ s)
    intro hmark
    rw [(of_mem_conditionMarks hmark).2] at hblank
    cases hblank

/-- A combinator ends a compound in front of it. -/
theorem Combinator.Spells.endsCompound_append (h : r.Spells m) (rest : List Char) : EndsCompound (m ++ rest) := by
  have hsign {c : Char} (hc : c ∈ combinatorSigns) {g g' : List Char} (hg : IsGap g) :
      EndsCompound (g ++ c :: g' ++ rest) := by
    rw [List.append_assoc, List.cons_append]
    obtain ⟨hname, hmark⟩ := of_mem_combinatorSigns hc
    exact hg.endsCompound_append fun _ => endsCompound_cons hname hmark _
  cases h with
  | descendant hne hg => exact hg.endsCompound_append fun hnil => absurd hnil hne
  | child hg _ => exact hsign (by decide) hg
  | nextSibling hg _ => exact hsign (by decide) hg
  | laterSibling hg _ => exact hsign (by decide) hg

/-- **A combinator is read** up to a text that begins neither with a blank nor with the sign of another one. -/
theorem readCombinator_append (h : r.Spells m) (hblank : ∀ c ∈ rest.head?, isBlank c = false)
    (hsign : ∀ c ∈ rest.head?, c ∉ combinatorSigns) : readCombinator (m ++ rest) = .ok (r, rest) := by
  have hskip {c : Char} (hc : isBlank c = false) {g g' : List Char} (hg : IsGap g) :
      trimStart (g ++ c :: g' ++ rest) = c :: (g' ++ rest) := by
    rw [List.append_assoc, List.cons_append]
    refine hg.trimStart_append ?_
    intro d hd
    cases hd
    exact hc
  unfold readCombinator
  cases h with
  | descendant hne hg =>
    have hlength : rest.length < (m ++ rest).length := by
      have hpos := List.length_pos_iff.2 hne
      rw [List.length_append]
      omega
    dsimp only
    rw [hg.trimStart_append hblank]
    split
    case h_4 => rw [if_pos hlength]
    -- A sign at the start would be that of another combinator.
    all_goals exact absurd (by decide) (hsign _ rfl)
  | child hg hg' =>
    rw [hskip (by decide) hg]
    exact congrArg (fun after => Except.ok (Combinator.child, after)) (hg'.trimStart_append hblank)
  | nextSibling hg hg' =>
    rw [hskip (by decide) hg]
    exact congrArg (fun after => Except.ok (Combinator.nextSibling, after)) (hg'.trimStart_append hblank)
  | laterSibling hg hg' =>
    rw [hskip (by decide) hg]
    exact congrArg (fun after => Except.ok (Combinator.laterSibling, after)) (hg'.trimStart_append hblank)

/-- A combinator and a compound behind it make the selector longer. -/
theorem readFrom_of_ok {afterCombinator : List Char} (hvisible : ¬ allBlank s)
    (hr : readCombinator s = .ok (r, afterCombinator)) (hc : readCompound afterCombinator = .ok (compound, rest)) :
    readFrom left s = readFrom (.combined left r compound) rest := by
  rw [readFrom.eq_def, if_neg hvisible]
  split
  · next e herror =>
    rw [hr] at herror
    cases herror
  · next r' after' hr' =>
    rw [hr] at hr'
    cases hr'
    split
    · next e herror =>
      rw [hc] at herror
      cases herror
    · next compound' rest' hc' =>
      rw [hc] at hc'
      cases hc'
      rfl

/-- **One step**: a combinator and a compound are read, and the selector goes on with them. -/
theorem readFrom_append (left : Selector) (hr : r.Spells m) (hright : compound.Spells t) (hrest : EndsCompound rest) :
    readFrom left (m ++ (t ++ rest)) = readFrom (.combined left r compound) rest := by
  have hhead : (t ++ rest).head? = t.head? := List.head?_append_of_ne_nil _ hright.ne_nil
  -- What follows is no blank and no other sign, so the combinator ends where it was written to.
  have hcombinator : readCombinator (m ++ (t ++ rest)) = .ok (r, t ++ rest) := by
    refine readCombinator_append hr ?_ ?_
    · rw [hhead]
      exact fun _ => hright.isTrimmed.head
    · rw [hhead]
      exact hright.not_mem_combinatorSigns
  have hcompound : readCompound (t ++ rest) = .ok (compound, rest) := readCompound_append hright hrest
  have hvisible : ¬ allBlank (m ++ (t ++ rest)) := by
    obtain ⟨c, u, rfl⟩ := List.exists_cons_of_ne_nil hright.ne_nil
    intro hblank
    exact not_mem_of_allBlank hblank (hright.isTrimmed.head rfl) (by simp)
  exact readFrom_of_ok hvisible hcombinator hcompound

/-- **A selector is read** up to a text that ends a compound: its first compound first, and then step by step. -/
theorem readSelector_append (h : selector.Spells s) (hrest : EndsCompound rest) :
    readSelector (s ++ rest) = readFrom selector rest := by
  induction h generalizing rest with
  | compound hc =>
    unfold readSelector
    simp only [readCompound_append hc hrest, bind, Except.bind]
  | combined _ hr hright ih =>
    rw [List.append_assoc, List.append_assoc, ih (hr.endsCompound_append _), readFrom_append _ hr hright hrest]

/-- A spelling is read to its end. -/
theorem readSelector_of_spells (h : selector.Spells s) : readSelector s = .ok selector := by
  have hread : readSelector (s ++ []) = readFrom selector [] := by
    refine readSelector_append h ?_
    intro c hc
    cases hc
  have hend : readFrom selector [] = .ok selector := by
    rw [readFrom]
    rfl
  rwa [List.append_nil, hend] at hread

/-- **Every spelling of a selector is read as that selector**, with blanks around it. -/
theorem Selector.parse_of_spells (h : selector.Spells s) (hg : IsGap g) (hg' : IsGap g') :
    Selector.parse (String.ofList (g ++ (s ++ g'))) = .ok selector := by
  -- A selector begins and ends with something visible, so only the gaps are trimmed off.
  have htrim : trim (g ++ (s ++ g')) = s := by
    rw [← List.append_assoc, trim_append_of_allBlank hg'.allBlank, trim, hg.trimStart_append fun _ => h.isTrimmed.head,
      trimEnd_eq_self fun _ => h.isTrimmed.last]
  rw [Selector.parse, String.toList_ofList, htrim, readSelector_of_spells h]
  rfl

/-- Three compounds: one with conditions of all kinds, one for any element, and one with a tag name and values that
are empty or a bracket. -/
def crossing : Selector :=
  .combined
    (.combined
      (.compound ⟨none, ["a"], ["\u00DC", "b"], [⟨"lang", .dashMatch, "x y"⟩], [.firstChild]⟩)
      .child ⟨none, [], [], [], []⟩)
    .laterSibling ⟨some "td", [], [], [⟨"a", .start, ""⟩, ⟨"b", .different, "]"⟩], [.empty]⟩

/-- One of its spellings, with blanks around it. -/
theorem parse_crossing :
    crossing.Spells ".\u00DC#a.b[ lang\n|='x y' ]:FIRST-child >\t*~ TD[a^=]:emptY[B!= \"]\"]".toList ∧
      Selector.parse "\t.\u00DC#a.b[ lang\n|='x y' ]:FIRST-child >\t*~ TD[a^=]:emptY[B!= \"]\"]\n" = .ok crossing := by
  have hlang := @AttributeSelector.Spells.mk ⟨"lang", .dashMatch, "x y"⟩ [' '] ['\n'] [] [' '] "lang".toList _
    (by decide) (by decide) (by decide) (by decide) (by decide) (by decide) (.quoted '\'' (by decide) (by decide))
  have hempty := @AttributeSelector.Spells.mk ⟨"a", .start, ""⟩ [] [] [] [] "a".toList _
    (by decide) (by decide) (by decide) (by decide) (by decide) (by decide) (.bare (by simp) (by simp))
  have hbracket := @AttributeSelector.Spells.mk ⟨"b", .different, "]"⟩ [] [] [' '] [] "B".toList _
    (by decide) (by decide) (by decide) (by decide) (by decide) (by decide) (.quoted '"' (by decide) (by decide))
  have hfirst := @CompoundSelector.Spells.mk _ none _ _ _ rfl .nothing
    (.cons (@SimpleSelector.Spells.className "\u00DC".toList (by decide))
      (.cons (@SimpleSelector.Spells.id "a".toList (by decide))
        (.cons (@SimpleSelector.Spells.className "b".toList (by decide))
          (.cons (.bracket hlang)
            (.cons (@SimpleSelector.Spells.pseudoClass .firstChild "FIRST-child".toList (by decide)) .nil)))))
    (by decide)
  have hany := @CompoundSelector.Spells.mk _ none _ _ _ rfl .star .nil (by decide)
  have hlast := @CompoundSelector.Spells.mk _ (some "td") _ _ _ rfl
    (@SpellsTag.name _ "TD".toList (by decide) (by decide))
    (.cons (.bracket hempty)
      (.cons (@SimpleSelector.Spells.pseudoClass .empty "emptY".toList (by decide)) (.cons (.bracket hbracket) .nil)))
    (by decide)
  have hspells : crossing.Spells
      ".\u00DC#a.b[ lang\n|='x y' ]:FIRST-child >\t*~ TD[a^=]:emptY[B!= \"]\"]".toList := by
    have hparts := Selector.Spells.combined (.combined (.compound hfirst)
      (@Combinator.Spells.child [' '] ['\t'] (by decide) (by decide)) hany)
      (@Combinator.Spells.laterSibling [] [' '] (by decide) (by decide)) hlast
    refine Eq.mp (congrArg₂ Selector.Spells ?_ ?_) hparts
    · decide +kernel
    · decide +kernel
  refine ⟨hspells, ?_⟩
  have htext : "\t.\u00DC#a.b[ lang\n|='x y' ]:FIRST-child >\t*~ TD[a^=]:emptY[B!= \"]\"]\n" = String.ofList (['\t'] ++
      (".\u00DC#a.b[ lang\n|='x y' ]:FIRST-child >\t*~ TD[a^=]:emptY[B!= \"]\"]".toList ++ ['\n'])) := by decide +kernel
  rw [htext]
  exact Selector.parse_of_spells hspells (by decide) (by decide)

end Selectors

end HtmlMail.Css
