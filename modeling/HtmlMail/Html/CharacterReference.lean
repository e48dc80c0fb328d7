import HtmlMail.Html.CharacterNames
import HtmlMail.Text.Utf8

/-!
# Character references

In markup a character can be written as an ampersand with its name or its number. Both forms may lack
the semicolon at the end, which is a fault but not in vain.

- `CharacterReference.read?` : the reference that follows an ampersand
-/

namespace HtmlMail.Html

open Chars

/-- A reference that was read, and what follows it. -/
structure CharacterReference where
  characters : List Char
  /-- Whether it lacks its semicolon. -/
  isFaulty : Bool
  rest : List Char

namespace CharacterReference

/-- The characters that numbers from 128 to 159 stand for, by their place in an old code page; zero
where the number stands for itself. -/
def codePageTable : List Nat :=
  [0x20AC, 0, 0x201A, 0x0192, 0x201E, 0x2026, 0x2020, 0x2021, 0x02C6, 0x2030, 0x0160, 0x2039, 0x0152, 0,
    0x017D, 0, 0, 0x2018, 0x2019, 0x201C, 0x201D, 0x2022, 0x2013, 0x2014, 0x02DC, 0x2122, 0x0161,
    0x203A, 0x0153, 0, 0x017E, 0x0178]

/-- The character that a number stands for. -/
def ofNumber (n : Nat) : Char :=
  if n = 0 ∨ 0x10FFFF < n ∨ (0xD800 ≤ n ∧ n ≤ 0xDFFF) then Utf8.replacement
  else if 0x80 ≤ n ∧ n ≤ 0x9F then
    let other := (codePageTable[n - 0x80]?).getD 0
    Char.ofNat (if other = 0 then n else other)
  else Char.ofNat n

/-- The reference by a number in a base, read from its first digit on. -/
def readNumber? (base : Nat) (s : List Char) : Option CharacterReference :=
  let digits := s.takeWhile (isDigitOf base)
  let after := s.dropWhile (isDigitOf base)
  (numeral? base digits).map fun n =>
    match after with
    | ';' :: rest => ⟨[ofNumber n], false, rest⟩
    | rest => ⟨[ofNumber n], true, rest⟩

/-- The longest name at the start of a text, with its characters. -/
def longestName? (s : List Char) : Option (List Char × List Char) :=
  characterNames.foldl (fun best entry =>
    if entry.1.isPrefixOf s && best.all fun found => found.1.length < entry.1.length then some entry
    else best) none

/-- The reference by a name. In an attribute value, a name without its semicolon is none where an equals
sign, a letter or a digit follows. -/
def readName? (inAttribute : Bool) (s : List Char) : Option CharacterReference :=
  (longestName? s).bind fun (name, characters) =>
    let rest := s.drop name.length
    if name.getLast? = some ';' then some ⟨characters, false, rest⟩
    else if inAttribute && (rest.head?.any fun c => c == '=' || c.isAlphanum) then none
    else some ⟨characters, true, rest⟩

/-- The reference that follows an ampersand, if there is one. -/
def read? (inAttribute : Bool) (s : List Char) : Option CharacterReference :=
  match s with
  | '#' :: 'x' :: rest => readNumber? 16 rest
  | '#' :: 'X' :: rest => readNumber? 16 rest
  | '#' :: rest => readNumber? 10 rest
  | _ => readName? inAttribute s

theorem readNumber?_isSuffix {base : Nat} {s : List Char} {r : CharacterReference}
    (h : readNumber? base s = some r) : r.rest <:+ s := by
  have hs : s.dropWhile (isDigitOf base) <:+ s := List.dropWhile_suffix _
  simp only [readNumber?, Option.map_eq_some_iff] at h
  obtain ⟨n, -, rfl⟩ := h
  split
  · next rest hd => exact .trans ⟨[';'], by simp⟩ (hd ▸ hs)
  · exact hs

theorem readName?_isSuffix {inAttribute : Bool} {s : List Char} {r : CharacterReference}
    (h : readName? inAttribute s = some r) : r.rest <:+ s := by
  simp only [readName?, Option.bind_eq_some_iff] at h
  obtain ⟨⟨name, characters⟩, -, h⟩ := h
  dsimp only at h
  split at h
  · exact Option.some.inj h ▸ List.drop_suffix _ _
  · split at h
    · simp at h
    · exact Option.some.inj h ▸ List.drop_suffix _ _

/-- What follows a reference is the end of the text. -/
theorem read?_isSuffix {inAttribute : Bool} {s : List Char} {r : CharacterReference}
    (h : read? inAttribute s = some r) : r.rest <:+ s := by
  unfold read? at h
  split at h
  · next rest => exact (readNumber?_isSuffix h).trans ⟨['#', 'x'], rfl⟩
  · next rest => exact (readNumber?_isSuffix h).trans ⟨['#', 'X'], rfl⟩
  · next rest => exact (readNumber?_isSuffix h).trans ⟨['#'], rfl⟩
  · exact readName?_isSuffix h

end CharacterReference

end HtmlMail.Html
