import HtmlMail.Proofs.Text.Utf8
import HtmlMail.Url.Form
import Mathlib.Data.List.Basic

/-!
# Writing and reading form data

A query is written pair by pair, and the bytes of a text one by one, each of them plainly, as a plus sign or by
number. The reader cuts at the ampersands and equals signs first. None of these is written for a byte, so it
finds the pairs that were written, and in them every byte.

* `encodeByte_cases` : the three ways to write a byte;
* `isAlphanum_or_of_mem_encode`, `not_mem_encode` : the characters of a written text, and no separator among them;
* `decode_encode` : a written text is read back, whatever characters it has;
* `encode_of_isAlphanum` : texts that are written as they are;
* `query` : the query of some pairs, and `pairs_query` : it has these pairs.
-/

namespace HtmlMail.Url

open Chars

/-! ### Bytes by number -/

namespace Percent

variable {c : Char} {rest : List Char}

theorem hexValue?_digit : ∀ n < 16, hexValue? (digit n) = some n := by decide

/-- **A byte written by number** is read back. -/
theorem decode_encodeByte (b : UInt8) (rest : List Char) :
    decode (encodeByte b ++ rest) = b :: decode rest := by
  have hb := b.toNat_lt
  have hhigh := hexValue?_digit (b.toNat / 16) (by omega)
  have hlow := hexValue?_digit (b.toNat % 16) (by omega)
  have hsum : b.toNat / 16 * 16 + b.toNat % 16 = b.toNat := by omega
  simp only [encodeByte, List.cons_append, List.nil_append, decode, hhigh, hlow, hsum, UInt8.ofNat_toNat]

/-- Other characters than the percent sign stand for themselves. -/
theorem decode_cons_of_ne (h : c ≠ '%') : decode (c :: rest) = String.utf8EncodeChar c ++ decode rest := by
  rw [decode]
  rintro a b rest rfl
  exact absurd rfl h

end Percent

/-! ### Texts -/

namespace Form

variable {c : Char} {rest : List Char} {text : String}

/-- An ASCII character is written as one byte. -/
theorem utf8EncodeChar_of_lt (h : c.toNat < 128) : String.utf8EncodeChar c = [UInt8.ofNat c.toNat] :=
  if_pos (Nat.le_of_lt_succ h)

/-- The bytes that a written text stands for. -/
def bytes (s : List Char) : List UInt8 := Percent.decode (s.map fun c => if c = '+' then ' ' else c)

/-- A character that is neither a plus sign nor a percent sign stands for itself. -/
theorem bytes_cons (hplus : c ≠ '+') (hpercent : c ≠ '%') :
    bytes (c :: rest) = String.utf8EncodeChar c ++ bytes rest := by
  rw [bytes, List.map_cons, if_neg hplus, Percent.decode_cons_of_ne hpercent, bytes]

/-- What cuts a query, or sets it off from the rest of a URL. -/
def separators : List Char := ['&', '=', '?']

/-- A byte that is written plainly is an ASCII character without any other meaning. -/
theorem of_isPlain : ∀ n < 256, isPlain (UInt8.ofNat n) →
    n < 128 ∧ (Char.ofNat n).toNat = n ∧ Char.ofNat n ∉ '%' :: '+' :: separators := by
  decide +kernel

theorem digit_not_mem : ∀ n < 16, Percent.digit n ∉ '+' :: separators := by decide

/-- **How a byte is written**, by cases: as a plus sign, as its own character, or by number. -/
theorem encodeByte_cases (b : UInt8) : b = 0x20 ∧ encodeByte b = ['+'] ∨
    (∃ c : Char, c.toNat < 128 ∧ b = UInt8.ofNat c.toNat ∧ c ∉ '%' :: '+' :: separators ∧
      encodeByte b = [c]) ∨
    ∃ high low, high ∉ '+' :: separators ∧ low ∉ '+' :: separators ∧
      Percent.encodeByte b = ['%', high, low] ∧ encodeByte b = Percent.encodeByte b := by
  have hb := b.toNat_lt
  rw [encodeByte]
  split
  · next h => exact .inl ⟨h, rfl⟩
  split
  · next h =>
    obtain ⟨hlt, hval, hc⟩ := of_isPlain b.toNat hb (by rwa [UInt8.ofNat_toNat])
    refine .inr (.inl ⟨Char.ofNat b.toNat, ?_, ?_, hc, rfl⟩)
    · rw [hval]
      exact hlt
    · rw [hval, UInt8.ofNat_toNat]
  · exact .inr (.inr ⟨_, _, digit_not_mem (b.toNat / 16) (by omega), digit_not_mem (b.toNat % 16) (by omega),
      rfl, rfl⟩)

/-- **A written byte** is read back. -/
theorem bytes_encodeByte (b : UInt8) (rest : List Char) : bytes (encodeByte b ++ rest) = b :: bytes rest := by
  rcases encodeByte_cases b with ⟨rfl, he⟩ | ⟨c, hlt, rfl, hc, he⟩ | ⟨high, low, hhigh, hlow, hn, he⟩
  · -- The plus sign becomes a blank before the percent signs are looked at, and a blank stands for itself.
    rw [he]
    exact Percent.decode_cons_of_ne (by decide)
  · simp only [List.mem_cons, not_or] at hc
    rw [he, List.singleton_append, bytes_cons hc.2.1 hc.1, utf8EncodeChar_of_lt hlt, List.singleton_append]
  · -- There is no plus sign that would become a blank.
    have hsame : (encodeByte b).map (fun c => if c = '+' then ' ' else c) = Percent.encodeByte b := by
      have hhigh := List.ne_of_not_mem_cons hhigh
      have hlow := List.ne_of_not_mem_cons hlow
      rw [he, hn]
      simp [hhigh, hlow]
    rw [bytes, List.map_append, hsame, Percent.decode_encodeByte, bytes]

theorem bytes_flatMap_encodeByte (l : List UInt8) : bytes (l.flatMap encodeByte) = l := by
  induction l with
  | nil => rfl
  | cons b l ih => rw [List.flatMap_cons, bytes_encodeByte, ih]

/-- **A written text** is read back, whatever characters it has. -/
theorem decode_encode (text : String) : decode (encode text).toList = text := by
  show String.ofList (Utf8.decode (bytes (encode text).toList)) = text
  rw [encode, String.toList_ofList, bytes_flatMap_encodeByte, Utf8.decode_encode, String.ofList_toList]

/-- The characters other than letters and digits that a written text can hold. -/
def marks : List Char := ['*', '-', '.', '_', '+', '%']

/-- **A written text** holds letters, digits and a few marks. -/
theorem isAlphanum_or_of_mem_encode (h : c ∈ (encode text).toList) : c.isAlphanum ∨ c ∈ marks := by
  have hdigit : ∀ n < 16, (Percent.digit n).isAlphanum := by decide
  rw [encode, String.toList_ofList, List.mem_flatMap] at h
  obtain ⟨b, -, hb⟩ := h
  have hlt := b.toNat_lt
  -- A blank, a character that stays, or a percent sign and two digits.
  rw [encodeByte] at hb
  split at hb
  · rw [List.mem_singleton.1 hb]
    exact .inr (by decide)
  split at hb
  · next hplain =>
    rw [isPlain, ← List.mem_singleton.1 hb] at hplain
    simp only [Bool.or_eq_true, beq_iff_eq] at hplain
    rcases hplain with (((h | rfl) | rfl) | rfl) | rfl
    · exact .inl h
    all_goals exact .inr (by decide)
  · simp only [Percent.encodeByte, List.mem_cons, List.not_mem_nil, or_false] at hb
    rcases hb with rfl | rfl | rfl
    · exact .inr (by decide)
    · exact .inl (hdigit (b.toNat / 16) (by omega))
    · exact .inl (hdigit (b.toNat % 16) (by omega))

/-- **A written text holds no separators.** -/
theorem not_mem_encode (hc : c ∈ separators) : c ∉ (encode text).toList := by
  have hall : separators.all fun c => !c.isAlphanum && !marks.contains c := by decide
  have hnone := List.all_eq_true.1 hall c hc
  rw [Bool.and_eq_true, Bool.not_eq_true', Bool.not_eq_true'] at hnone
  intro h
  rcases isAlphanum_or_of_mem_encode h with hword | hmark
  · rw [hword] at hnone
    exact absurd hnone.1 (by decide)
  · rw [List.contains_iff_mem.2 hmark] at hnone
    exact absurd hnone.2 (by decide)

/-- Letters and digits are ASCII characters. -/
theorem toNat_lt_of_isAlphanum (h : c.isAlphanum) : c.toNat < 128 := by
  have hranges : (decide (c.val ≥ 'A'.val ∧ c.val ≤ 'Z'.val) ||
      decide (c.val ≥ 'a'.val) && decide (c.val ≤ 'z'.val) || decide (c.val ≥ '0'.val) && decide (c.val ≤ '9'.val)) = true := h
  simp only [Bool.or_eq_true, Bool.and_eq_true, decide_eq_true_eq, ge_iff_le, UInt32.le_iff_toNat_le] at hranges
  have hval : c.toNat = c.val.toNat := rfl
  simp at hranges
  omega

/-- A letter or digit is written as its own byte, and the byte as the letter or digit. -/
theorem flatMap_encodeByte_of_isAlphanum (h : c.isAlphanum) :
    (String.utf8EncodeChar c).flatMap encodeByte = [c] := by
  have hlt := toNat_lt_of_isAlphanum h
  -- A letter or digit is one byte, which stands for itself.
  have hback : Char.ofNat (UInt8.ofNat c.toNat).toNat = c := by
    rw [Utf8.toNat_ofNat (by omega), Char.ofNat_toNat]
  have hplain : isPlain (UInt8.ofNat c.toNat) := by simp only [isPlain, hback, h, Bool.true_or]
  have hblank : UInt8.ofNat c.toNat ≠ 0x20 := by
    intro he
    rw [he] at hplain
    revert hplain
    decide
  rw [utf8EncodeChar_of_lt hlt, List.flatMap_singleton, encodeByte, if_neg hblank, if_pos hplain, hback]

/-- **Letters and digits** are written as they are. -/
theorem encode_of_isAlphanum (h : text.toList.all Char.isAlphanum) : encode text = text := by
  have hsame : ∀ s : List Char, s.all Char.isAlphanum → (Utf8.encode s).flatMap encodeByte = s := by
    intro s hs
    induction s with
    | nil => rfl
    | cons c s ih =>
      rw [List.all_cons, Bool.and_eq_true] at hs
      have hencode : Utf8.encode (c :: s) = String.utf8EncodeChar c ++ Utf8.encode s := List.flatMap_cons
      rw [hencode, List.flatMap_append, flatMap_encodeByte_of_isAlphanum hs.1, ih hs.2,
        List.singleton_append]
  rw [encode, hsame _ h, String.ofList_toList]

/-! ### Queries -/

/-- A pair as it is written in a query. -/
def encodePair (pair : String × String) : List Char :=
  (encode pair.1).toList ++ '=' :: (encode pair.2).toList

/-- The query of some pairs. -/
def query (pairs : List (String × String)) : String :=
  String.ofList (List.intercalate ['&'] (pairs.map encodePair))

/-- **A written pair** is read back. -/
theorem decodePair_encodePair (pair : String × String) : decodePair (encodePair pair) = pair := by
  have hkey : '=' ∉ (encode pair.1).toList := not_mem_encode (by decide)
  rw [decodePair, encodePair, splitAtChar?_append_cons _ hkey]
  simp only [decode_encode]

theorem not_mem_encodePair (hc : c ∈ separators) (hne : c ≠ '=') {pair : String × String} :
    c ∉ encodePair pair := by
  rw [encodePair, List.mem_append, List.mem_cons]
  exact not_or.2 ⟨not_mem_encode hc, not_or.2 ⟨hne, not_mem_encode hc⟩⟩

/-- A query holds no question mark. -/
theorem not_mem_query (ps : List (String × String)) : '?' ∉ (query ps).toList := by
  rw [query, String.toList_ofList]
  induction ps with
  | nil => exact List.not_mem_nil
  | cons pair ps ih =>
    have hpair : '?' ∉ encodePair pair := not_mem_encodePair (by decide) (by decide)
    cases ps with
    | nil =>
      rw [List.map_singleton, List.intercalate_singleton]
      exact hpair
    | cons next ps =>
      rw [List.map_cons, List.map_cons, List.intercalate_cons_cons, ← List.map_cons, List.mem_append,
        List.mem_append, List.mem_singleton]
      exact not_or.2 ⟨not_or.2 ⟨hpair, by decide⟩, ih⟩

/-- **A written query** has the pairs that were written. -/
theorem pairs_query (ps : List (String × String)) : pairs (query ps) = ps := by
  cases ps with
  | nil => decide
  | cons pair ps =>
    have hsep : ∀ piece ∈ (pair :: ps).map encodePair, '&' ∉ piece := by
      intro piece hp
      obtain ⟨pair, -, rfl⟩ := List.mem_map.1 hp
      exact not_mem_encodePair (by decide) (by decide)
    -- Each piece has its equals sign at least.
    have hne : ∀ piece ∈ (pair :: ps).map encodePair, (!piece.isEmpty) = true := by
      intro piece hp
      obtain ⟨pair, -, rfl⟩ := List.mem_map.1 hp
      simp [encodePair]
    have hback : decodePair ∘ encodePair = id := by
      funext pair
      rw [Function.comp_apply, decodePair_encodePair, id]
    rw [pairs, query, String.toList_ofList, splitOnChar_intercalate (by simp) hsep,
      List.filter_eq_self.2 hne, List.map_map, hback, List.map_id]

end Form

end HtmlMail.Url
