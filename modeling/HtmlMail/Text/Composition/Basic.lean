import HtmlMail.Text.Composition.Characters

/-!
# Composition

Texts that differ only in how characters with marks are written have one form in common: everything is
taken apart, the marks are put in order, and what can be one character is put together again.

- `Chars.decompose` : a character taken apart
- `Chars.orderMarks` : a text with its marks in order
- `Chars.compose` : a text put together
- `Chars.normalForm` : the form that equivalent texts have in common
-/

namespace HtmlMail.Chars

/-! ### Syllables -/

/-- The first of the syllables of the Korean script. They are in the order of their consonants and vowels:
leading consonant, vowel, trailing consonant. -/
def firstSyllable : Nat := 0xAC00

/-- The first leading consonant, of 19. -/
def firstLead : Nat := 0x1100

/-- The first vowel, of 21. -/
def firstVowel : Nat := 0x1161

/-- The place in front of the first trailing consonant, of 27. -/
def beforeTrails : Nat := 0x11A7

/-- The number of a syllable, from zero. -/
def syllableNumber? (c : Char) : Option Nat :=
  if firstSyllable ≤ c.toNat ∧ c.toNat < firstSyllable + 19 * 21 * 28 then
    some (c.toNat - firstSyllable)
  else none

/-- The consonants and the vowel of a syllable. -/
def syllableParts? (c : Char) : Option (List Char) :=
  (syllableNumber? c).map fun n =>
    let trail := n % 28
    [Char.ofNat (firstLead + n / 28 / 21), Char.ofNat (firstVowel + n / 28 % 21)] ++
      if trail = 0 then [] else [Char.ofNat (beforeTrails + trail)]

/-- The syllable of two characters: a leading consonant and a vowel, or a syllable without a trailing
consonant and one. -/
def syllable? (a b : Char) : Option Char :=
  let lead := a.toNat - firstLead
  let vowel := b.toNat - firstVowel
  let trail := b.toNat - beforeTrails
  if firstLead ≤ a.toNat ∧ lead < 19 ∧ firstVowel ≤ b.toNat ∧ vowel < 21 then
    some (Char.ofNat (firstSyllable + (lead * 21 + vowel) * 28))
  else if (syllableNumber? a).any (· % 28 == 0) ∧ 0 < trail ∧ trail < 28 then
    some (Char.ofNat (a.toNat + trail))
  else none

/-! ### Taking apart -/

/-- How often parts can have parts. -/
def partsDepth : Nat := 3

/-- A character taken apart, and its parts so many times. -/
def decomposeTo : Nat → Char → List Char
  | 0, c => [c]
  | depth + 1, c => ((listedParts? c).map (·.flatMap (decomposeTo depth))).getD [c]

/-- A character taken apart. -/
def decompose (c : Char) : List Char :=
  if c.toNat < 0x80 then [c] else (syllableParts? c).getD (decomposeTo partsDepth c)

/-! ### Marks in order -/

/-- A text with a character in front of it; a mark goes behind the marks of lower classes. -/
def placeMark (c : Char) : List Char → List Char
  | [] => [c]
  | d :: rest =>
    if 0 < combiningClass d ∧ combiningClass d < combiningClass c then d :: placeMark c rest
    else c :: d :: rest

/-- A text with its marks in the order of their classes; marks of one class stay in their order. -/
def orderMarks (s : List Char) : List Char := s.foldr placeMark []

/-! ### Putting together -/

/-- The character that two others are put together to. -/
def whole? (a b : Char) : Option Char := (syllable? a b).or (listedWhole? a b)

/-- A text put together behind the character `base` and the marks that stay apart from it, the last one
first. A mark behind one of the same class stays apart too, and so does any character behind marks. -/
def composeFrom (base : Char) (marks : List Char) : List Char → List Char
  | [] => base :: marks.reverse
  | c :: rest =>
    let isBlocked := marks.head?.any fun mark => combiningClass c ≤ combiningClass mark
    match if isBlocked then none else whole? base c with
    | some whole => composeFrom whole marks rest
    | none =>
      if combiningClass c = 0 then base :: marks.reverse ++ composeFrom c [] rest
      else composeFrom base (c :: marks) rest

/-- A text put together. -/
def compose : List Char → List Char
  | [] => []
  | c :: rest => composeFrom c [] rest

/-- The form that equivalent texts have in common. -/
def normalForm (s : List Char) : List Char := compose (orderMarks (s.flatMap decompose))

end HtmlMail.Chars
