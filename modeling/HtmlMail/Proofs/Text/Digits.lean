import HtmlMail.Text.Digits
import Mathlib.Data.Nat.Digits.Lemmas

/-!
# Writing and reading numerals

`Nat.toDigits` writes a number from its last digit on, and `Chars.numeral?` reads it from the first. So the
step between them is the digit at the end: it multiplies what has been read so far by the base.

* `numeralFrom?_append_singleton` : reading one more digit;
* `numeral?_toDigits` : a written number is read back;
* `unsigned64?_toString` : so is a number of 64 bits in base ten;
* `decimal` : the number that decimal digits denote, and `numeralFrom?_ten_eq_some_iff` : it is the number that is read;
* `unsigned64?_eq_some_iff` : the texts that are read as a number of 64 bits.
-/

namespace HtmlMail.Chars

variable {base acc : Nat}

/-- **One more digit** at the end. -/
theorem numeralFrom?_append_singleton (s : List Char) (c : Char) : numeralFrom? base acc (s ++ [c]) =
    (numeralFrom? base acc s).bind fun n => (digitValue? base c).map fun d => n * base + d := by
  induction s generalizing acc with
  | nil =>
    rw [List.nil_append, numeralFrom?, numeralFrom?, Option.bind_some]
    cases digitValue? base c with
    | none => rfl
    | some d => rfl
  | cons a s ih =>
    rw [List.cons_append, numeralFrom?, numeralFrom?]
    cases digitValue? base a with
    | none => rfl
    | some d => exact ih

/-- A digit has its value. -/
theorem digitValue?_digitChar (hbase : base ≤ 16) {d : Nat} (hd : d < base) :
    digitValue? base d.digitChar = some d := by
  have hhex : ∀ d < 16, hexValue? d.digitChar = some d := by decide
  rw [digitValue?, hhex d (by omega), Option.filter_some, if_pos (decide_eq_true hd)]

theorem numeralFrom?_toDigits (hlow : 1 < base) (hhigh : base ≤ 16) (n : Nat) :
    numeralFrom? base 0 (Nat.toDigits base n) = some n := by
  induction n using Nat.strong_induction_on with
  | _ n ih =>
    by_cases hn : n < base
    · rw [Nat.toDigits_of_lt_base hn, numeralFrom?, digitValue?_digitChar hhigh hn, Option.bind_some,
        numeralFrom?, Nat.zero_mul, Nat.zero_add]
    · -- The quotient has the digits in front of the last one, and the remainder is the last one.
      have hle : base ≤ n := Nat.le_of_not_lt hn
      have hdiv := ih (n / base) (Nat.div_lt_self (by omega) hlow)
      have hmod := digitValue?_digitChar hhigh (Nat.mod_lt n (Nat.zero_lt_of_lt hlow))
      rw [Nat.toDigits_of_base_le hlow hle, numeralFrom?_append_singleton, hdiv, hmod, Option.bind_some,
        Option.map_some, Nat.div_add_mod']

/-- **A written number** is read back. -/
theorem numeral?_toDigits (hlow : 1 < base) (hhigh : base ≤ 16) (n : Nat) :
    numeral? base (Nat.toDigits base n) = some n := by
  have hne : (Nat.toDigits base n).isEmpty = false := by simp
  rw [numeral?, hne, if_neg Bool.false_ne_true, numeralFrom?_toDigits hlow hhigh]

/-- The digits of a number do not begin with a sign. -/
theorem toDigits_ne_plus_cons (n : Nat) (rest : List Char) : Nat.toDigits 10 n ≠ '+' :: rest := by
  intro h
  have hread : numeral? 10 (Nat.toDigits 10 n) = some n := numeral?_toDigits (by decide) (by decide) n
  rw [h] at hread
  exact nomatch (hread : none = some n)

/-- The text of a number is made of its digits. -/
theorem toList_toString (n : Nat) : (toString n).toList = Nat.toDigits 10 n := by
  rw [Nat.toString_eq_repr, Nat.repr_eq_ofList_toDigits, String.toList_ofList]

/-- **A number of 64 bits** is read back. -/
theorem unsigned64?_toString {n : Nat} (h : n < 2 ^ 64) : unsigned64? (toString n).toList = some n := by
  rw [toList_toString, unsigned64?]
  · rw [numeral?_toDigits (by decide) (by decide), Option.filter_some]
    exact if_pos (decide_eq_true h)
  · exact toDigits_ne_plus_cons n

/-! ### Decimal digits -/

variable {c : Char} {s : List Char} {n : Nat}

/-- The value of a decimal digit. -/
theorem digitValue?_ten (c : Char) :
    digitValue? 10 c = if c.isDigit then some (c.toNat - '0'.toNat) else none := by
  have hrange : c.isDigit = true ↔ 48 ≤ c.toNat ∧ c.toNat ≤ 57 := by
    show (decide (c.val ≥ '0'.val) && decide (c.val ≤ '9'.val)) = true ↔ 48 ≤ c.val.toNat ∧ c.val.toNat ≤ 57
    rw [Bool.and_eq_true, decide_eq_true_iff, decide_eq_true_iff]
    rfl
  rw [digitValue?, hexValue?]
  split
  · next hdigit =>
    have hlt : c.toNat - 48 < 10 := by omega
    rw [if_pos (hrange.2 hdigit), Option.filter_some, if_pos (decide_eq_true hlt)]
    rfl
  · next hdigit =>
    -- The letters that are digits of larger bases have values from ten on.
    rw [if_neg (hdigit ∘ hrange.1)]
    split
    · have hge : ¬ c.toNat - 87 < 10 := by omega
      rw [Option.filter_some, if_neg (by simpa using hge)]
    split
    · have hge : ¬ c.toNat - 55 < 10 := by omega
      rw [Option.filter_some, if_neg (by simpa using hge)]
    · rfl

/-- The number that decimal digits denote, of which the last one counts ones. -/
def decimal (digits : List Char) : Nat := Nat.ofDigits 10 (digits.reverse.map fun c => c.toNat - '0'.toNat)

theorem decimal_append_singleton (s : List Char) (c : Char) :
    decimal (s ++ [c]) = decimal s * 10 + (c.toNat - '0'.toNat) := by
  rw [decimal, List.reverse_append, List.reverse_singleton, List.singleton_append, List.map_cons, Nat.ofDigits_cons,
    Nat.add_comm, Nat.mul_comm]
  rfl

/-- **What is read of a text** is what its decimal digits denote, if it is made of them. -/
theorem numeralFrom?_ten_eq_some_iff :
    numeralFrom? 10 0 s = some n ↔ (∀ c ∈ s, c.isDigit) ∧ decimal s = n := by
  -- From the end, where both read one more digit.
  induction s using List.reverseRecOn generalizing n with
  | nil =>
    show some 0 = some n ↔ _
    rw [Option.some_inj]
    exact ⟨fun h => ⟨fun c hc => absurd hc List.not_mem_nil, h⟩, fun h => h.2⟩
  | append_singleton s c ih =>
    rw [numeralFrom?_append_singleton, digitValue?_ten, decimal_append_singleton, List.forall_mem_append,
      List.forall_mem_singleton, Option.bind_eq_some_iff]
    constructor
    · rintro ⟨front, hfront, hlast⟩
      obtain ⟨hdigits, rfl⟩ := ih.1 hfront
      split at hlast
      · next hc => exact ⟨⟨hdigits, hc⟩, Option.some_inj.1 hlast⟩
      · exact absurd hlast (by simp)
    · rintro ⟨⟨hdigits, hc⟩, hn⟩
      refine ⟨decimal s, ih.2 ⟨hdigits, rfl⟩, ?_⟩
      rw [if_pos hc, Option.map_some, hn]

/-- How a number can be spelled: in decimal digits, of which the first ones may be zeros, with or without a plus sign. -/
def Denotes (s : List Char) (n : Nat) : Prop :=
  ∃ digits, (s = digits ∨ s = '+' :: digits) ∧ digits ≠ [] ∧ (∀ c ∈ digits, c.isDigit) ∧ decimal digits = n

/-- **The numbers of 64 bits** that are read are those that are spelled. -/
theorem unsigned64?_eq_some_iff : unsigned64? s = some n ↔ Denotes s n ∧ n < 2 ^ 64 := by
  have hread (digits : List Char) : (numeral? 10 digits).filter (· < Nat.pow 2 64) = some n ↔
      (digits ≠ [] ∧ (∀ c ∈ digits, c.isDigit) ∧ decimal digits = n) ∧ n < 2 ^ 64 := by
    rw [Option.filter_eq_some_iff, decide_eq_true_iff, numeral?]
    refine and_congr_left fun _ => ?_
    cases digits with
    | nil => simp
    | cons c digits =>
      rw [if_neg (by simp), numeralFrom?_ten_eq_some_iff]
      simp
  unfold unsigned64? Denotes
  split
  · next rest =>
    rw [hread]
    refine and_congr_left fun _ => ⟨fun h => ⟨rest, .inr rfl, h⟩, ?_⟩
    rintro ⟨digits, rfl | hrest, hne, hdigits, hvalue⟩
    · -- A plus sign is no digit.
      exact absurd (hdigits '+' List.mem_cons_self) (by decide)
    · obtain rfl := (List.cons.inj hrest).2
      exact ⟨hne, hdigits, hvalue⟩
  · next hplus =>
    rw [hread]
    refine and_congr_left fun _ => ⟨fun h => ⟨s, .inl rfl, h⟩, ?_⟩
    rintro ⟨digits, rfl | rfl, h⟩
    · exact h
    · exact absurd rfl (hplus digits)

end HtmlMail.Chars
