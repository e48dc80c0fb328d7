import HtmlMail.Text.Utf8
import Mathlib.Data.List.Basic

/-!
# Writing and reading UTF-8

The reader takes any bytes, and keeps what it knows inside a character in a `Pending`: how many bytes are still
to come, between which bounds the next one lies, and the number so far. The writer spreads the number of a
character over one to four bytes. What is written is read back, whatever follows it.

* `pieces_single`, `pieces_long`, `pieces_more`, `pieces_last` : what each byte of a character does;
* `pieces_utf8EncodeChar` : the bytes of a character are read as that character;
* `decode_encode` : the bytes of a text are read as that text.
-/

namespace HtmlMail.Utf8

variable {p : Pending} {n k missing low high value : Nat} {rest : List UInt8}

/-! ### Byte by byte -/

theorem toNat_ofNat (h : n < 256) : (UInt8.ofNat n).toNat = n := by
  rw [UInt8.toNat_ofNat', Nat.mod_eq_of_lt h]

/-- A byte that is a character of its own. -/
theorem pieces_single (h : n < 128) :
    pieces none (UInt8.ofNat n :: rest) = some (Char.ofNat n) :: pieces none rest := by
  have hlead : lead n = .single (Char.ofNat n) := if_pos h
  simp only [pieces, toNat_ofNat (n := n) (by omega), hlead]

/-- The first byte of a longer character. -/
theorem pieces_long (hn : n < 256) (h : lead n = .long p) :
    pieces none (UInt8.ofNat n :: rest) = pieces (some p) rest := by
  simp only [pieces, toNat_ofNat hn, h]

/-- The first of two bytes holds five bits. -/
theorem lead_two (hlow : 2 ≤ k) (hhigh : k < 32) :
    lead (k + 192) = .long ⟨1, 0x80, 0xBF, k⟩ := by
  rw [lead, if_neg (by omega), if_neg (by omega), if_pos (by omega), Nat.add_sub_cancel]

/-- The first of three bytes holds four bits. -/
theorem lead_three (h : k < 16) : lead (k + 224) =
    .long ⟨2, if k = 0 then 0xA0 else 0x80, if k = 13 then 0x9F else 0xBF, k⟩ := by
  rw [lead, if_neg (by omega), if_neg (by omega), if_neg (by omega), if_pos (by omega),
    Nat.add_sub_cancel]
  simp only [show k + 224 = 0xE0 ↔ k = 0 by omega, show k + 224 = 0xED ↔ k = 13 by omega]

/-- The first of four bytes holds what is left of the number, which is in range. -/
theorem lead_four (h : k < 5) : lead (k + 240) =
    .long ⟨3, if k = 0 then 0x90 else 0x80, if k = 4 then 0x8F else 0xBF, k⟩ := by
  rw [lead, if_neg (by omega), if_neg (by omega), if_neg (by omega), if_neg (by omega),
    if_pos (by omega), Nat.add_sub_cancel]
  simp only [show k + 240 = 0xF0 ↔ k = 0 by omega, show k + 240 = 0xF4 ↔ k = 4 by omega]

/-- A byte inside of a character adds six bits to its number. -/
theorem pieces_more (hk : k < 64) (hlow : low ≤ k + 128) (hhigh : k + 128 ≤ high) :
    pieces (some ⟨missing + 2, low, high, value⟩) (UInt8.ofNat (k + 128) :: rest) =
      pieces (some ⟨missing + 1, 0x80, 0xBF, value * 64 + k⟩) rest := by
  rw [pieces, toNat_ofNat (by omega)]
  simp only [hlow, hhigh, and_self, if_true, Nat.add_sub_cancel]
  rw [if_neg (by omega)]
  rfl

/-- The last byte of a character completes its number. -/
theorem pieces_last (hk : k < 64) : pieces (some ⟨1, 0x80, 0xBF, value⟩) (UInt8.ofNat (k + 128) :: rest) =
    some (Char.ofNat (value * 64 + k)) :: pieces none rest := by
  rw [pieces, toNat_ofNat (by omega)]
  simp only [Nat.add_sub_cancel, Nat.le_refl, if_true]
  rw [if_pos (by omega)]

/-! ### Character by character -/

/-- The number of a character is in range and not that of a surrogate. -/
theorem toNat_bounds (c : Char) : c.toNat < 0xD800 ∨ 0xDFFF < c.toNat ∧ c.toNat < 0x110000 := c.valid

/-- **A written character** is read back, whatever follows it. -/
theorem pieces_utf8EncodeChar (c : Char) (rest : List UInt8) :
    pieces none (String.utf8EncodeChar c ++ rest) = some c :: pieces none rest := by
  have hc := toNat_bounds c
  have hback : Char.ofNat c.toNat = c := Char.ofNat_toNat c
  have hval : c.val.toNat = c.toNat := rfl
  simp only [String.utf8EncodeChar, hval]
  generalize c.toNat = v at hc hback
  simp only [apply_ite (· ++ rest), apply_ite (pieces none), List.cons_append, List.nil_append]
  split
  · rw [pieces_single (by omega), hback]
  split
  · rw [Nat.mod_eq_of_lt (by omega : v / 64 < 32), pieces_long (by omega) (lead_two (by omega) (by omega)),
      pieces_last (by omega), show v / 64 * 64 + v % 64 = v by omega, hback]
  split
  · -- A first byte without bits asks for many in the second one; one that might begin a surrogate, for few.
    rw [Nat.mod_eq_of_lt (by omega : v / 4096 < 16), pieces_long (by omega) (lead_three (by omega)),
      pieces_more (by omega) (by split <;> omega) (by split <;> omega), pieces_last (by omega),
      show (v / 4096 * 64 + v / 64 % 64) * 64 + v % 64 = v by omega, hback]
  · rw [Nat.mod_eq_of_lt (by omega : v / 262144 < 8), pieces_long (by omega) (lead_four (by omega)),
      pieces_more (by omega) (by split <;> omega) (by split <;> omega),
      pieces_more (by omega) (by omega) (by omega), pieces_last (by omega),
      show ((v / 262144 * 64 + v / 4096 % 64) * 64 + v / 64 % 64) * 64 + v % 64 = v by omega, hback]

/-- **A written text** is read back, and holds nothing that is not well formed. -/
theorem pieces_encode (s : List Char) : pieces none (encode s) = s.map some := by
  induction s with
  | nil => rfl
  | cons c s ih =>
    have hencode : encode (c :: s) = String.utf8EncodeChar c ++ encode s := List.flatMap_cons
    rw [hencode, pieces_utf8EncodeChar, ih, List.map_cons]

theorem decode_encode (s : List Char) : decode (encode s) = s := by
  rw [decode, pieces_encode, List.map_map]
  exact List.map_id'' (fun _ => rfl) s

end HtmlMail.Utf8
