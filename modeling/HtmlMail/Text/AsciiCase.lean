/-!
# Letters up to ASCII case

Names of elements, attributes and properties are compared without regard to the case of the letters
`A` to `Z`; all other characters stand for themselves.

- `Chars.lower` : a text with the ASCII letters in lower case
- `Chars.eqIgnoringCase` : equality after `lower`
-/

namespace HtmlMail.Chars

/-- A text with its ASCII letters in lower case. -/
def lower (s : List Char) : List Char := s.map Char.toLower

/-- Whether two texts differ at most in the case of ASCII letters. -/
def eqIgnoringCase (s t : List Char) : Bool := lower s == lower t

/-- The text after `pat` when `s` starts with `pat` up to ASCII case. -/
def dropPrefixIgnoringCase? (pat s : List Char) : Option (List Char) :=
  if eqIgnoringCase (s.take pat.length) pat then some (s.drop pat.length) else none

/-- What follows an expected beginning is the end of the text. -/
theorem isSuffix_of_dropPrefixIgnoringCase? {pat s after : List Char}
    (h : dropPrefixIgnoringCase? pat s = some after) : after <:+ s := by
  simp only [dropPrefixIgnoringCase?] at h
  split at h
  · exact Option.some.inj h ▸ List.drop_suffix _ _
  · simp at h

@[simp] theorem lower_cons (c : Char) (s : List Char) : lower (c :: s) = c.toLower :: lower s := rfl

@[simp] theorem lower_append (s t : List Char) : lower (s ++ t) = lower s ++ lower t :=
  List.map_append

/-- Only the letters from `A` to `Z` change, and they become the letters from `a` to `z`. -/
theorem toLower_cases (c : Char) :
    c.toLower = c ∨ (65 ≤ c.toNat ∧ c.toNat ≤ 90 ∧ c.toLower.toNat = c.toNat + 32) := by
  unfold Char.toLower
  split
  · next h =>
    have h₁ : 65 ≤ c.val.toNat := h.1
    have h₂ : c.val.toNat ≤ 90 := h.2
    refine .inr ⟨h₁, h₂, ?_⟩
    show (c.val + 32).toNat = c.val.toNat + 32
    rw [UInt32.toNat_add]
    have : (32 : UInt32).toNat = 32 := rfl
    omega
  · exact .inl rfl

/-- A character that is no letter from `a` to `z` comes from no other one. -/
theorem eq_of_toLower_eq {c d : Char} (hd : d.toNat < 97 ∨ 122 < d.toNat) (h : c.toLower = d) :
    c = d := by
  rcases toLower_cases c with hc | ⟨h₁, h₂, h₃⟩
  · rw [← h, hc]
  · rw [h] at h₃
    omega

theorem toLower_toLower (c : Char) : c.toLower.toLower = c.toLower := by
  rcases toLower_cases c with hc | ⟨h₁, h₂, h₃⟩
  · rw [hc, hc]
  · rcases toLower_cases c.toLower with hc | ⟨h₄, h₅, -⟩
    · exact hc
    · omega

@[simp] theorem lower_lower (s : List Char) : lower (lower s) = lower s := by
  rw [lower, lower, List.map_map]
  exact List.map_congr_left fun c _ => toLower_toLower c

/-- Lower case brings in no character that is no letter. -/
theorem mem_of_mem_lower {d : Char} {s : List Char} (hd : d.toNat < 97 ∨ 122 < d.toNat)
    (h : d ∈ lower s) : d ∈ s := by
  obtain ⟨c, hc, he⟩ := List.mem_map.1 h
  rwa [← eq_of_toLower_eq hd he]

end HtmlMail.Chars

namespace HtmlMail.Text

/-- A text with its ASCII letters in lower case. -/
def lower (s : String) : String := String.ofList (Chars.lower s.toList)

/-- Whether two texts differ at most in the case of ASCII letters. -/
def eqIgnoringCase (s t : String) : Bool := Chars.eqIgnoringCase s.toList t.toList

end HtmlMail.Text
