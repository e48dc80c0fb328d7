import HtmlMail.Proofs.Css.Matching
import HtmlMail.Proofs.Css.SelectorSpelling
import Mathlib.Algebra.Order.Ring.Nat

/-!
# How much a selector can weigh

The specificity of a selector is counted in words of 32 bits. A word that runs over starts again at zero, so a heavy
selector would lose to a light one. The weight itself is a number of any size, and the text that a selector is read from
pays for it: a reader takes characters off its text, and fifty for each of them cover what its result weighs, because an
identifier, which weighs most, takes its mark and a character of its name.

* `Selector.weight` : the exact weight; the specificity is its remainder in a word (`Selector.toNat_specificity`);
* `Selector.FitsWord` : no count, product or sum on the way to the specificity runs over. This is so exactly if the
  weight is a word (`Selector.fitsWord_iff`), because nothing is ever taken away again;
* `weight_readSimple?_le`, `weight_readSimples_le`, `weight_readCompound_le`, `weight_readFrom_le` : the account of each
  reader, in which the characters it leaves are still there to pay for what follows;
* `Selector.specificity_eq_weight_of_parse` : the account of a whole text, and with it the specificity of every selector
  whose text is not longer than 85899345 characters;
* `parse_identifiers` : neither bound can be improved.
-/

namespace HtmlMail.Css

open Chars

/-! ### The exact weight -/

/-- The weight of a condition: a hundred for an identifier, ten for any other one. -/
def SimpleSelector.weight : SimpleSelector → ℕ
  | .id _ => 100
  | _ => 10

/-- The weight of a tag name, where there is one. -/
def tagWeight (tag? : Option String) : ℕ := if tag?.isSome then 1 else 0

/-- **The weight of a compound**, counted without bounds. -/
def CompoundSelector.weight (c : CompoundSelector) : ℕ := 100 * c.ids.length + 10 * c.classLevel + tagWeight c.tag?

/-- **The weight of a selector** is the sum of the weights of its compounds. -/
def Selector.weight (selector : Selector) : ℕ := (selector.compounds.map CompoundSelector.weight).sum

theorem Selector.weight_compound (c : CompoundSelector) : (compound c).weight = c.weight := by
  simp [weight, compounds]

theorem Selector.weight_combined (left : Selector) (r : Combinator) (right : CompoundSelector) :
    (combined left r right).weight = left.weight + right.weight := by
  simp [weight, compounds]

/-- A compound weighs what its tag name and its conditions weigh, in whatever order these stand. -/
theorem weight_ofParts (tag? : Option String) (parts : List SimpleSelector) :
    (CompoundSelector.ofParts tag? parts).weight = tagWeight tag? + (parts.map SimpleSelector.weight).sum := by
  induction parts with
  | nil => simp [CompoundSelector.weight, CompoundSelector.ofParts, CompoundSelector.classLevel]
  | cons part parts ih =>
    rw [List.map_cons, List.sum_cons, Nat.add_left_comm, ← ih]
    -- The new condition is counted once, among those of its kind.
    cases part <;>
      simp only [CompoundSelector.weight, CompoundSelector.ofParts, CompoundSelector.classLevel,
        SimpleSelector.weight, List.filterMap_cons, List.length_cons] <;>
      omega

/-! ### Words of 32 bits -/

/-- **A compound is weighed within words**: its two counts are words, and so is the result of each step with words, as a
number. A step whose result is no word runs over. -/
structure CompoundSelector.FitsWord (c : CompoundSelector) : Prop where
  ids : c.ids.length < UInt32.size
  classLevel : c.classLevel < UInt32.size
  hundreds : (UInt32.ofNat c.ids.length).toNat * 100 < UInt32.size
  tens : (UInt32.ofNat c.classLevel).toNat * 10 < UInt32.size
  conditions : (UInt32.ofNat c.ids.length * 100).toNat + (UInt32.ofNat c.classLevel * 10).toNat < UInt32.size
  /-- The tag name is added last. -/
  total : (UInt32.ofNat c.ids.length * 100 + UInt32.ofNat c.classLevel * 10).toNat + tagWeight c.tag? < UInt32.size

/-- **A selector is weighed within words**: each compound is, and no sum runs over when the compounds are added up from
the first one. -/
def Selector.FitsWord : Selector → Prop
  | compound c => c.FitsWord
  | combined left _ right =>
    left.FitsWord ∧ right.FitsWord ∧ left.specificity.toNat + right.specificity.toNat < UInt32.size

section Words

variable {a b w : UInt32} {c : CompoundSelector} {selector : Selector}

theorem toNat_add_of_lt (h : a.toNat + b.toNat < UInt32.size) : (a + b).toNat = a.toNat + b.toNat := by
  rw [UInt32.toNat_add]
  exact Nat.mod_eq_of_lt h

theorem toNat_mul_of_lt (h : a.toNat * b.toNat < UInt32.size) : (a * b).toNat = a.toNat * b.toNat := by
  rw [UInt32.toNat_mul]
  exact Nat.mod_eq_of_lt h

/-- A count times a word, if both the count and the product are words. -/
theorem toNat_ofNat_mul_of_lt {n k : ℕ} (hn : n < UInt32.size) (hw : w.toNat = k)
    (h : (UInt32.ofNat n).toNat * k < UInt32.size) : (UInt32.ofNat n * w).toNat = n * k := by
  subst hw
  rw [toNat_mul_of_lt h, UInt32.toNat_ofNat_of_lt' hn]

/-- The specificity of a compound is its weight up to multiples of the size of a word. -/
theorem CompoundSelector.toNat_specificity (c : CompoundSelector) : c.specificity.toNat = c.weight % UInt32.size := by
  have htag : (if c.tag?.isSome then (1 : UInt32) else 0).toNat = tagWeight c.tag? := by
    unfold tagWeight
    split <;> rfl
  unfold CompoundSelector.specificity CompoundSelector.weight
  rw [UInt32.toNat_add, htag]
  simp only [UInt32.toNat_add, UInt32.toNat_mul, UInt32.toNat_ofNat', UInt32.reduceToNat, UInt32.size]
  omega

/-- **The specificity is the weight** up to multiples of the size of a word. -/
theorem Selector.toNat_specificity (selector : Selector) :
    selector.specificity.toNat = selector.weight % UInt32.size := by
  induction selector with
  | compound c => rw [specificity, c.toNat_specificity, weight_compound]
  | combined left r right ih =>
    rw [specificity, UInt32.toNat_add, ih, right.toNat_specificity, weight_combined]
    exact (Nat.add_mod _ _ _).symm

/-- Nothing runs over in a compound exactly if its weight is a word: each step adds to the one before it. -/
theorem CompoundSelector.fitsWord_iff : c.FitsWord ↔ c.weight < UInt32.size := by
  -- As long as no step runs over, each word is the number it should be.
  have hids (ids : c.ids.length < UInt32.size) (hundreds : (UInt32.ofNat c.ids.length).toNat * 100 < UInt32.size) :
      (UInt32.ofNat c.ids.length * 100).toNat = c.ids.length * 100 := toNat_ofNat_mul_of_lt ids rfl hundreds
  have hlevel (classLevel : c.classLevel < UInt32.size)
      (tens : (UInt32.ofNat c.classLevel).toNat * 10 < UInt32.size) :
      (UInt32.ofNat c.classLevel * 10).toNat = c.classLevel * 10 := toNat_ofNat_mul_of_lt classLevel rfl tens
  unfold weight
  constructor
  · rintro ⟨ids, classLevel, hundreds, tens, conditions, total⟩
    rw [toNat_add_of_lt conditions, hids ids hundreds, hlevel classLevel tens] at total
    omega
  · intro h
    -- The weight is the largest of the numbers, so all of them are words, from the counts up.
    have ids : c.ids.length < UInt32.size := by omega
    have classLevel : c.classLevel < UInt32.size := by omega
    have hundreds : (UInt32.ofNat c.ids.length).toNat * 100 < UInt32.size := by
      rw [UInt32.toNat_ofNat_of_lt' ids]
      omega
    have tens : (UInt32.ofNat c.classLevel).toNat * 10 < UInt32.size := by
      rw [UInt32.toNat_ofNat_of_lt' classLevel]
      omega
    have conditions : (UInt32.ofNat c.ids.length * 100).toNat + (UInt32.ofNat c.classLevel * 10).toNat <
        UInt32.size := by
      rw [hids ids hundreds, hlevel classLevel tens]
      omega
    refine ⟨ids, classLevel, hundreds, tens, conditions, ?_⟩
    rw [toNat_add_of_lt conditions, hids ids hundreds, hlevel classLevel tens]
    omega

/-- **Nothing runs over exactly if the weight is a word.** -/
theorem Selector.fitsWord_iff : selector.FitsWord ↔ selector.weight < UInt32.size := by
  induction selector with
  | compound c =>
    rw [weight_compound]
    exact CompoundSelector.fitsWord_iff
  | combined left r right ih =>
    rw [FitsWord, ih, CompoundSelector.fitsWord_iff, weight_combined, left.toNat_specificity, right.toNat_specificity]
    constructor
    · rintro ⟨hleft, hright, hsum⟩
      rwa [Nat.mod_eq_of_lt hleft, Nat.mod_eq_of_lt hright] at hsum
    · -- The parts are no heavier than the sum, so they fit as well.
      intro hsum
      have hleft : left.weight < UInt32.size := by omega
      have hright : right.weight < UInt32.size := by omega
      rw [Nat.mod_eq_of_lt hleft, Nat.mod_eq_of_lt hright]
      exact ⟨hleft, hright, hsum⟩

end Words

/-! ### What a text pays for -/

section Readers

variable {s rest : List Char}

/-- What stands behind the characters of a name is shorter, if there are any. -/
theorem length_dropWhile_isNameChar_lt (h : s.takeWhile isNameChar ≠ []) :
    (s.dropWhile isNameChar).length < s.length := by
  have hpos : 0 < (s.takeWhile isNameChar).length := List.length_pos_iff.2 h
  have hlength := congrArg List.length (List.takeWhile_append_dropWhile (p := isNameChar) (l := s))
  rw [List.length_append] at hlength
  omega

/-- A name has at least one character. -/
theorem length_readName_lt {name : String} (h : readName s = .ok (name, rest)) : rest.length < s.length := by
  unfold readName at h
  dsimp only at h
  split at h
  · cases h
  · next hname =>
    cases h
    exact length_dropWhile_isNameChar_lt fun hnil => hname (List.isEmpty_iff.2 hnil)

/-- **A condition is paid for.** The mark alone would do for all but an identifier, which has a name as well. -/
theorem weight_readSimple?_le {part : SimpleSelector} (h : readSimple? s = .ok (some (part, rest))) :
    part.weight + 50 * rest.length ≤ 50 * s.length := by
  have hmark : rest.length < s.length := length_readSimple?_lt h
  have hten : part.weight = 10 → part.weight + 50 * rest.length ≤ 50 * s.length := by omega
  unfold readSimple? at h
  split at h
  -- An identifier weighs as much as its mark and a name of one character.
  case h_1 =>
    obtain ⟨⟨name, after⟩, hname, he⟩ := exists_of_map_eq_ok h
    cases he
    have hlength := length_readName_lt hname
    rw [SimpleSelector.weight, List.length_cons]
    omega
  case h_5 => cases h
  all_goals
    obtain ⟨⟨_, _⟩, -, he⟩ := exists_of_map_eq_ok h
    cases he
    exact hten rfl

/-- **Conditions are paid for**, one after the other. -/
theorem weight_readSimples_le {parts : List SimpleSelector} (h : readSimples s = .ok (parts, rest)) :
    (parts.map SimpleSelector.weight).sum + 50 * rest.length ≤ 50 * s.length := by
  fun_induction readSimples s generalizing parts with
  | case1 => cases h
  | case2 s hnone =>
    cases h
    simp
  | case3 s part after hsome ih =>
    obtain ⟨⟨parts', rest'⟩, hrest, he⟩ := exists_of_map_eq_ok h
    cases he
    have hfirst : part.weight + 50 * after.length ≤ 50 * s.length := weight_readSimple?_le hsome
    have hothers : (parts'.map SimpleSelector.weight).sum + 50 * rest.length ≤ 50 * after.length := ih hrest
    rw [List.map_cons, List.sum_cons]
    omega

/-- **A tag name is paid for** by its first character. -/
theorem weight_readTag_le (s : List Char) : tagWeight (readTag s).1 + 50 * (readTag s).2.length ≤ 50 * s.length := by
  by_cases hstar : s.head? = some '*'
  · obtain ⟨after, rfl⟩ := List.head?_eq_some_iff.1 hstar
    change 0 + 50 * after.length ≤ 50 * (after.length + 1)
    omega
  · rw [readTag_of_head hstar]
    split
    · exact Nat.le_of_eq (Nat.zero_add _)
    · next hname =>
      have hlength := length_dropWhile_isNameChar_lt hname
      change 1 + 50 * (s.dropWhile isNameChar).length ≤ 50 * s.length
      omega

/-- **A compound is paid for.** -/
theorem weight_readCompound_le {c : CompoundSelector} (h : readCompound s = .ok (c, rest)) :
    c.weight + 50 * rest.length ≤ 50 * s.length := by
  have htag := weight_readTag_le s
  unfold readCompound at h
  generalize readTag s = tagged at h htag
  obtain ⟨tag?, afterTag⟩ := tagged
  obtain ⟨⟨parts, after⟩, hparts, h⟩ := exists_of_bind_eq_ok h
  -- Both the tag name and the conditions pay for their weight with what they are made of.
  have hconditions := weight_readSimples_le hparts
  dsimp only at h htag
  split at h
  · cases h
    rw [weight_ofParts]
    omega
  · cases h

/-- **The rest of a selector is paid for**, on top of what stands in front of it. A combinator weighs nothing. -/
theorem weight_readFrom_le {left selector : Selector} (h : readFrom left s = .ok selector) :
    selector.weight ≤ left.weight + 50 * s.length := by
  fun_induction readFrom left s with
  | case1 left s hblank =>
    cases h
    exact Nat.le_add_right _ _
  | case2 => cases h
  | case3 => cases h
  | case4 left s hblank combinator afterCombinator hcombinator right rest hright ih =>
    have hlength : afterCombinator.length ≤ s.length := length_readCombinator_le hcombinator
    have hcompound : right.weight + 50 * rest.length ≤ 50 * afterCombinator.length := weight_readCompound_le hright
    -- Now the compound stands in front, and what is behind it pays for the rest.
    have hrest : selector.weight ≤ left.weight + right.weight + 50 * rest.length := by
      rw [← Selector.weight_combined left combinator right]
      exact ih h
    omega

theorem weight_readSelector_le {selector : Selector} (h : readSelector s = .ok selector) :
    selector.weight ≤ 50 * s.length := by
  obtain ⟨⟨first, rest⟩, hfirst, hrest⟩ := exists_of_bind_eq_ok h
  have hcompound := weight_readCompound_le hfirst
  have hothers := weight_readFrom_le hrest
  rw [Selector.weight_compound] at hothers
  omega

end Readers

/-! ### Whole texts -/

section Texts

variable {text : String} {selector : Selector}

theorem readSelector_of_parse (h : Selector.parse text = .ok selector) :
    readSelector (trim text.toList) = .ok selector := by
  unfold Selector.parse at h
  cases hread : readSelector (trim text.toList) with
  | error e =>
    rw [hread] at h
    cases h
  | ok found =>
    rw [hread] at h
    cases h
    rfl

theorem weight_le_of_parse (h : Selector.parse text = .ok selector) : selector.weight ≤ 50 * text.length := by
  have htrim : (trim text.toList).length ≤ text.length := by
    rw [← String.length_toList]
    exact (trimEnd_isPrefix _).length_le.trans (length_trimStart_le _)
  calc selector.weight
    _ ≤ 50 * (trim text.toList).length := weight_readSelector_le (readSelector_of_parse h)
    _ ≤ 50 * text.length := Nat.mul_le_mul_left 50 htrim

/-- **A selector weighs fifty for each character of its text at most.** So with up to 85899345 characters nothing runs
over, and the specificity is the weight itself. -/
theorem Selector.specificity_eq_weight_of_parse (h : Selector.parse text = .ok selector) :
    selector.weight ≤ 50 * text.length ∧
      (text.length ≤ 85899345 → selector.FitsWord ∧ selector.specificity.toNat = selector.weight) := by
  have hweight : selector.weight ≤ 50 * text.length := weight_le_of_parse h
  refine ⟨hweight, fun hlength => ?_⟩
  have hword : selector.weight < UInt32.size :=
    calc selector.weight
      _ ≤ 50 * text.length := hweight
      _ ≤ 50 * 85899345 := Nat.mul_le_mul_left 50 hlength
      _ < UInt32.size := by decide
  refine ⟨fitsWord_iff.2 hword, ?_⟩
  rw [selector.toNat_specificity]
  exact Nat.mod_eq_of_lt hword

/-- A text of three compounds with conditions of every kind. -/
def heavyCellText : String := "table#a.b.c  *#d#e[lang|=en] > TD:first-child "

/-- The selector it denotes. -/
def heavyCell : Selector :=
  .combined
    (.combined (.compound ⟨some "table", ["a"], ["b", "c"], [], []⟩) .descendant
      ⟨none, ["d", "e"], [], [⟨"lang", .dashMatch, "en"⟩], []⟩)
    .child ⟨some "td", [], [], [], [.firstChild]⟩

/-- Its three identifiers weigh most, and with them it is far below what the text could pay for. -/
theorem specificity_heavyCell :
    Selector.parse heavyCellText = .ok heavyCell ∧ heavyCellText.length = 46 ∧
      342 ≤ 50 * heavyCellText.length ∧ heavyCell.FitsWord ∧ heavyCell.specificity.toNat = 342 := by
  have hfound : (Selector.parse heavyCellText).toOption = some heavyCell := by decide +kernel
  have hparse : Selector.parse heavyCellText = .ok heavyCell := by
    cases hp : Selector.parse heavyCellText with
    | error e =>
      rw [hp] at hfound
      cases hfound
    | ok found =>
      rw [hp] at hfound
      exact congrArg Except.ok (Option.some.inj hfound)
  have hlength : heavyCellText.length = 46 := by decide
  have hweight : heavyCell.weight = 342 := by decide
  obtain ⟨hbound, hexact⟩ := Selector.specificity_eq_weight_of_parse hparse
  obtain ⟨hfits, hspecificity⟩ := hexact (by rw [hlength]; decide)
  rw [hweight] at hbound hspecificity
  exact ⟨hparse, hlength, hbound, hfits, hspecificity⟩

/-! ### The heaviest texts -/

/-- So many identifiers and nothing else. -/
def identifiers (k : ℕ) : Selector := .compound (.ofParts none (List.replicate k (.id "a")))

/-- The shortest spelling of so many identifiers. -/
def identifiersText (k : ℕ) : List Char := (List.replicate k ['#', 'a']).flatten

theorem length_identifiersText (k : ℕ) : (identifiersText k).length = 2 * k := by
  rw [identifiersText, List.length_flatten, List.map_replicate, List.sum_replicate_nat]
  exact Nat.mul_comm k 2

theorem weight_identifiers (k : ℕ) : (identifiers k).weight = 100 * k := by
  rw [identifiers, Selector.weight_compound, weight_ofParts, List.map_replicate, List.sum_replicate_nat]
  change 0 + k * 100 = 100 * k
  omega

theorem spellsAll_identifiersText (k : ℕ) : SpellsAll (List.replicate k (.id "a")) (identifiersText k) := by
  unfold identifiersText
  induction k with
  | zero => exact .nil
  | succ k ih =>
    rw [List.replicate_succ, List.replicate_succ, List.flatten_cons]
    exact .cons (@SimpleSelector.Spells.id ['a'] (by decide)) ih

theorem spells_identifiers {k : ℕ} (hk : k ≠ 0) : (identifiers k).Spells (identifiersText k) := by
  have hne : [] ++ identifiersText k ≠ [] := by
    rw [List.nil_append, ne_eq, ← List.length_eq_zero_iff, length_identifiersText]
    omega
  exact .compound (.mk rfl .nothing (spellsAll_identifiersText k) hne)

/-- **The bounds are reached**: identifiers alone weigh fifty for each of their characters, and with one character more
than 85899345 they run over. -/
theorem parse_identifiers {k : ℕ} (hk : k ≠ 0) :
    Selector.parse (String.ofList (identifiersText k)) = .ok (identifiers k) ∧
      (identifiers k).weight = 50 * (identifiersText k).length ∧
      ((identifiers k).FitsWord ↔ (identifiersText k).length ≤ 85899345) := by
  have hspells : (identifiers k).Spells (identifiersText k) := spells_identifiers hk
  have htrim : trim (identifiersText k) = identifiersText k := by
    rw [trim, trimStart_eq_self fun _ => hspells.isTrimmed.head, trimEnd_eq_self fun _ => hspells.isTrimmed.last]
  refine ⟨?_, ?_, ?_⟩
  · rw [Selector.parse, String.toList_ofList, htrim, readSelector_of_spells hspells]
    rfl
  · rw [weight_identifiers, length_identifiersText]
    omega
  · rw [Selector.fitsWord_iff, weight_identifiers, length_identifiersText, UInt32.size]
    omega

end Texts

end HtmlMail.Css
