import HtmlMail.Proofs.Html.UniqueReading

/-!
# Escapes are undone

A text is put back together from what was written for it in one pass from the left: where the name of a character stands
behind an ampersand, the character is taken for both, and the pass goes on behind the name. What a reference stands for
is not looked at again, so a text that spells references itself comes back as it was.

This rests on two things. The list of names is a code (`IsCode`): the ampersand has a name, no name holds a character
that has one, and no name begins another. And escaping goes by the list (`EscapesBy`): the characters with names are
written by them, and all others as they are. The rest is said of any such list.

* `textReferences` and `references` : the names for texts and those for values;
* `unescape` : the pass;
* `EscapesBy.unescape_escape_append` : one character is put back, whatever stands behind it;
* `EscapesBy.unescape_flatMap_append` : a whole text is, by induction on it, and what follows is left alone;
* `EscapesBy.not_mem_flatMap`, `EscapesBy.exists_prefix_of_suffix` : what is not written, and what an ampersand begins;
* `isReversible_escapes` : all this for texts and for values.
-/

namespace HtmlMail.Html

/-- Characters with their names. A reference to a character has its name behind the ampersand. -/
abbrev Names := List (Char × List Char)

/-- The names that are used in texts: `amp;`, `lt;`, `gt;` and `nbsp;`. A double quote needs none there. -/
def textReferences : Names := references.filter fun r => r.1 != '"'

example : textReferences =
    [('&', "amp;".toList), ('<', "lt;".toList), ('>', "gt;".toList), ('\u00A0', "nbsp;".toList)] := by decide

/-- **Puts back the characters that references stand for**, in one pass from the left. An ampersand with no name behind
it stays, like every other character. -/
def unescape (names : Names) : List Char → List Char
  | [] => []
  | c :: s =>
    match if c = '&' then names.find? fun r => r.2.isPrefixOf s else none with
    | some r => r.1 :: unescape names (s.drop r.2.length)
    | none => c :: unescape names s
termination_by s => s.length
decreasing_by
  · rw [List.length_drop, List.length_cons]
    exact Nat.lt_succ_of_le (Nat.sub_le _ _)
  · exact Nat.lt_succ_self _

/-- **A list of names is a code** if each name can be told from what stands around it. -/
structure IsCode (names : Names) : Prop where
  /-- The ampersand has a name itself. -/
  ampersand : '&' ∈ names.map Prod.fst
  /-- No name holds a character that has one. -/
  not_mem : ∀ r ∈ names, ∀ r' ∈ names, r.1 ∉ r'.2
  eq_of_prefix : ∀ r ∈ names, ∀ r' ∈ names, r.2 <+: r'.2 → r = r'

theorem isCode_references : IsCode references where
  ampersand := by decide
  not_mem := by decide +kernel
  eq_of_prefix := eq_of_prefix_references

theorem isCode_textReferences : IsCode textReferences where
  ampersand := by decide
  not_mem r hr r' hr' := isCode_references.not_mem r (List.mem_of_mem_filter hr) r' (List.mem_of_mem_filter hr')
  eq_of_prefix r hr r' hr' :=
    isCode_references.eq_of_prefix r (List.mem_of_mem_filter hr) r' (List.mem_of_mem_filter hr')

theorem IsCode.ne_ampersand {names : Names} (hcode : IsCode names) {c : Char} (hc : c ∉ names.map Prod.fst) :
    c ≠ '&' := by
  rintro rfl
  exact hc hcode.ampersand

/-- **Escaping goes by a list of names**: a character with a name is written by it, and every other one as it is. -/
structure EscapesBy (names : Names) (escape : Char → List Char) : Prop where
  of_mem : ∀ r ∈ names, escape r.1 = '&' :: r.2
  of_not_mem : ∀ c ∉ names.map Prod.fst, escape c = [c]

theorem escapesBy_escapeTextChar : EscapesBy textReferences escapeTextChar where
  of_mem := by decide
  of_not_mem c hc := by
    unfold escapeTextChar
    split
    case h_5 => rfl
    all_goals exact absurd (by decide) hc

theorem escapesBy_escapeAttributeChar : EscapesBy references escapeAttributeChar where
  of_mem := by decide
  of_not_mem c hc := by
    have hquote : c ≠ '"' := by
      rintro rfl
      exact hc (by decide)
    -- The names of text are among those of values.
    have htext : c ∉ textReferences.map Prod.fst := by
      intro hmem
      obtain ⟨r, hr, rfl⟩ := List.mem_map.1 hmem
      exact hc (List.mem_map_of_mem (List.mem_of_mem_filter hr))
    unfold escapeAttributeChar
    rw [if_neg hquote]
    exact escapesBy_escapeTextChar.of_not_mem c htext

section Code

variable {names : Names} {escape : Char → List Char} {after s t : List Char} {c : Char}

/-- What begins with a character cannot begin in a part that does not hold it. -/
theorem suffix_of_not_mem (hc : c ∉ s) (h : c :: after <:+ s ++ t) : c :: after <:+ t := by
  induction s with
  | nil => exact h
  | cons d s ih =>
    rw [List.cons_append, List.suffix_cons_iff] at h
    rcases h with h | h
    · exact absurd ((List.cons.inj h).1 ▸ List.mem_cons_self) hc
    · exact ih (fun hmem => hc (List.mem_cons_of_mem _ hmem)) h

/-- A character other than the ampersand is not the beginning of a reference. -/
theorem unescape_cons_of_ne (hc : c ≠ '&') (s : List Char) : unescape names (c :: s) = c :: unescape names s := by
  rw [unescape, if_neg hc]

/-- **A reference is put back**, whatever stands behind it: no other name on the list can be found there. -/
theorem IsCode.unescape_append (hcode : IsCode names) {r : Char × List Char} (hr : r ∈ names) (s : List Char) :
    unescape names ('&' :: (r.2 ++ s)) = r.1 :: unescape names s := by
  have hfound : names.find? (fun r' => r'.2.isPrefixOf (r.2 ++ s)) = some r := by
    have hsome : (names.find? fun r' => r'.2.isPrefixOf (r.2 ++ s)).isSome := by
      rw [List.find?_isSome]
      exact ⟨r, hr, List.isPrefixOf_iff_prefix.2 (List.prefix_append _ _)⟩
    obtain ⟨r', hr'⟩ := Option.isSome_iff_exists.1 hsome
    have hmem : r' ∈ names := List.mem_of_find?_eq_some hr'
    have hfits := List.find?_some hr'
    have hprefix : r'.2 <+: r.2 ++ s := List.isPrefixOf_iff_prefix.1 hfits
    -- One of the two names begins the other.
    rcases List.prefix_or_prefix_of_prefix hprefix (List.prefix_append r.2 s) with hp | hp
    · rw [hr', hcode.eq_of_prefix r' hmem r hr hp]
    · rw [hr', hcode.eq_of_prefix r hr r' hmem hp]
  rw [unescape, if_pos rfl, hfound]
  dsimp only
  rw [List.drop_left]

variable (hcode : IsCode names) (hescape : EscapesBy names escape)
include hcode hescape

/-- **One character is put back.** -/
theorem EscapesBy.unescape_escape_append (c : Char) (s : List Char) :
    unescape names (escape c ++ s) = c :: unescape names s := by
  by_cases hc : c ∈ names.map Prod.fst
  · obtain ⟨r, hr, rfl⟩ := List.mem_map.1 hc
    rw [hescape.of_mem r hr]
    exact hcode.unescape_append hr s
  · rw [hescape.of_not_mem c hc]
    -- The ampersand has a name, so it is none of the characters that stay.
    exact unescape_cons_of_ne (hcode.ne_ampersand hc) s

/-- **A text is put back**, and reading goes on behind it as if it had not been there. -/
theorem EscapesBy.unescape_flatMap_append (s rest : List Char) :
    unescape names (s.flatMap escape ++ rest) = s ++ unescape names rest := by
  induction s with
  | nil => rfl
  | cons c s ih =>
    calc unescape names ((c :: s).flatMap escape ++ rest)
      _ = unescape names (escape c ++ (s.flatMap escape ++ rest)) := by rw [List.flatMap_cons, List.append_assoc]
      _ = c :: unescape names (s.flatMap escape ++ rest) := hescape.unescape_escape_append hcode c _
      _ = c :: (s ++ unescape names rest) := by rw [ih]

/-- **The characters with names are not written**, the ampersand apart. -/
theorem EscapesBy.not_mem_flatMap (hc : c ∈ names.map Prod.fst) (hamp : c ≠ '&') (s : List Char) :
    c ∉ s.flatMap escape := by
  rw [List.mem_flatMap]
  rintro ⟨d, -, hd⟩
  obtain ⟨r, hr, rfl⟩ := List.mem_map.1 hc
  by_cases hnamed : d ∈ names.map Prod.fst
  · obtain ⟨r', hr', rfl⟩ := List.mem_map.1 hnamed
    rw [hescape.of_mem r' hr'] at hd
    exact hcode.not_mem r hr r' hr' (List.mem_of_ne_of_mem hamp hd)
  · rw [hescape.of_not_mem d hnamed, List.mem_singleton] at hd
    exact hnamed (hd ▸ hc)

/-- **Every ampersand that is written begins a reference.** -/
theorem EscapesBy.exists_prefix_of_suffix (h : '&' :: after <:+ s.flatMap escape) : ∃ r ∈ names, r.2 <+: after := by
  obtain ⟨ampersand, hampersand, hname⟩ := List.mem_map.1 hcode.ampersand
  induction s with
  | nil => exact absurd (List.suffix_nil.1 h) (List.cons_ne_nil _ _)
  | cons c s ih =>
    rw [List.flatMap_cons] at h
    -- An ampersand begins an escape and stands neither inside one nor for itself.
    by_cases hc : c ∈ names.map Prod.fst
    · obtain ⟨r, hr, rfl⟩ := List.mem_map.1 hc
      rw [hescape.of_mem r hr, List.cons_append, List.suffix_cons_iff] at h
      rcases h with h | h
      · exact ⟨r, hr, (List.cons.inj h).2 ▸ List.prefix_append _ _⟩
      · have hfree : '&' ∉ r.2 := hname ▸ hcode.not_mem ampersand hampersand r hr
        exact ih (suffix_of_not_mem hfree h)
    · rw [hescape.of_not_mem c hc] at h
      refine ih (suffix_of_not_mem ?_ h)
      rw [List.mem_singleton]
      exact (hcode.ne_ampersand hc).symm

end Code

/-! ### Texts and values -/

/-- **A way of writing texts is reversible** by a list of names, and keeps some characters out. -/
structure IsReversible (names : Names) (keptOut : List Char) (write : List Char → List Char) : Prop where
  not_mem (s : List Char) : ∀ c ∈ keptOut, c ∉ write s
  /-- Wherever an ampersand stands, a name stands behind it. -/
  exists_prefix (s after : List Char) : '&' :: after <:+ write s → ∃ r ∈ names, r.2 <+: after
  unescape_write (s : List Char) : unescape names (write s) = s
  write_append (s t : List Char) : write (s ++ t) = write s ++ write t

/-- Escaping by a code is reversible, and keeps out any characters with names but the ampersand. -/
theorem EscapesBy.isReversible {names : Names} {escape : Char → List Char} {keptOut : List Char}
    (hescape : EscapesBy names escape) (hcode : IsCode names) (hnamed : keptOut ⊆ names.map Prod.fst)
    (hamp : '&' ∉ keptOut) : IsReversible names keptOut (List.flatMap escape) where
  not_mem s c hc := hescape.not_mem_flatMap hcode (hnamed hc) (ne_of_mem_of_not_mem hc hamp) s
  exists_prefix s after h := hescape.exists_prefix_of_suffix hcode h
  unescape_write s := by
    have h := hescape.unescape_flatMap_append hcode s []
    rwa [List.append_nil, unescape, List.append_nil] at h
  write_append s t := List.flatMap_append

/-- **Escaping is reversible and leaves no way out**: a text holds no angle bracket and no hard blank, a value no double
quote either, every ampersand begins one of the references, reading these once from the left gives back what was
written, and parts are escaped on their own. -/
theorem isReversible_escapes :
    IsReversible textReferences ['<', '>', '\u00A0'] escapeText ∧
      IsReversible references ['"', '<', '>', '\u00A0'] escapeAttribute :=
  ⟨escapesBy_escapeTextChar.isReversible isCode_textReferences (by decide) (by decide),
    escapesBy_escapeAttributeChar.isReversible isCode_references (by decide) (by decide)⟩

/-- The ampersand of a text that spells a reference is written by a reference of its own. -/
example : escapeText "&lt;".toList = "&amp;lt;".toList ∧
    unescape textReferences "&amp;lt;".toList = "&lt;".toList := by decide +kernel

end HtmlMail.Html
