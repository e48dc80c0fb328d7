/-!
# Finding, cutting and replacing

Occurrences of one text in another, always taken from the left and never overlapping.

- `Chars.splitFirst?` : what stands before and after the first occurrence
- `Chars.splitOn` : the pieces between the occurrences
- `Chars.replaceAll` : every occurrence exchanged for another text

The pieces put together again with the separator between them give the text back
(`Chars.splitFirst?_eq_some`), and a piece after the first occurrence is shorter than the text,
which is why `splitOn` ends.
-/

namespace HtmlMail.Chars

variable {pat s before after : List Char}

/-- What stands before and after the first occurrence of `pat` in a text. -/
def splitFirst? (pat : List Char) : List Char → Option (List Char × List Char)
  | [] => if pat.isEmpty then some ([], []) else none
  | c :: rest =>
    match pat.isPrefixOf? (c :: rest) with
    | some after => some ([], after)
    | none => (splitFirst? pat rest).map fun (before, after) => (c :: before, after)

/-- What stands before and after the last occurrence of `pat` in a text. -/
def splitLast? (pat s : List Char) : Option (List Char × List Char) :=
  (splitFirst? pat.reverse s.reverse).map fun (after, before) => (before.reverse, after.reverse)

/-- Whether `pat` occurs in a text. -/
def contains (pat s : List Char) : Bool := (splitFirst? pat s).isSome

/-- The pieces of a text between the occurrences of `pat`, at least one. An empty `pat` separates
nothing. -/
def splitOn (pat s : List Char) : List (List Char) :=
  match splitFirst? pat s with
  | none => [s]
  | some (before, after) =>
    if _h : after.length < s.length then before :: splitOn pat after else [s]
termination_by s.length

/-- The pieces of a text between the occurrences of the character `sep`, at least one. -/
def splitOnChar (sep : Char) : List Char → List (List Char)
  | [] => [[]]
  | c :: rest =>
    if c = sep then [] :: splitOnChar sep rest
    else match splitOnChar sep rest with
      | [] => [[c]]
      | piece :: pieces => (c :: piece) :: pieces

/-- What stands before and after the first character `sep` of a text. -/
def splitAtChar? (sep : Char) : List Char → Option (List Char × List Char)
  | [] => none
  | c :: rest =>
    if c = sep then some ([], rest)
    else (splitAtChar? sep rest).map fun (before, after) => (c :: before, after)

/-- Every occurrence of `pat` exchanged for `new`. -/
def replaceAll (pat new s : List Char) : List Char := List.intercalate new (splitOn pat s)

/-- The first occurrence of `pat` exchanged for `new`. -/
def replaceFirst (pat new s : List Char) : List Char :=
  match splitFirst? pat s with
  | none => s
  | some (before, after) => before ++ new ++ after

theorem isPrefixOf?_cons_cons (p c : Char) (pat s : List Char) :
    (p :: pat).isPrefixOf? (c :: s) = if p == c then pat.isPrefixOf? s else none := rfl

theorem eq_append_of_isPrefixOf? : ∀ {pat s after : List Char},
    pat.isPrefixOf? s = some after → s = pat ++ after
  | [], _, _, h => Option.some.inj h
  | _ :: _, [], _, h => nomatch (h : none = some _)
  | p :: pat, c :: s, after, h => by
    rw [isPrefixOf?_cons_cons] at h
    split at h
    · next hc => rw [eq_of_beq hc, eq_append_of_isPrefixOf? h, List.cons_append]
    · cases h

/-- **Nothing is lost at a cut.** The two parts with the separator between them are the text. -/
theorem splitFirst?_eq_some : ∀ {s before after : List Char},
    splitFirst? pat s = some (before, after) → s = before ++ pat ++ after
  | [], before, after, h => by
    simp only [splitFirst?, List.isEmpty_iff] at h
    split at h <;> simp_all
  | c :: rest, before, after, h => by
    simp only [splitFirst?] at h
    split at h
    · next hp =>
      simp only [Option.some.injEq, Prod.mk.injEq] at h
      obtain ⟨rfl, rfl⟩ := h
      simpa using eq_append_of_isPrefixOf? hp
    · obtain ⟨⟨b, a⟩, hs, he⟩ := Option.map_eq_some_iff.1 h
      simp only [Prod.mk.injEq] at he
      obtain ⟨rfl, rfl⟩ := he
      simp [splitFirst?_eq_some hs]

theorem isPrefixOf?_append : ∀ pat after : List Char, pat.isPrefixOf? (pat ++ after) = some after
  | [], _ => rfl
  | p :: pat, after => by
    rw [List.cons_append, isPrefixOf?_cons_cons, if_pos (beq_self_eq_true p), isPrefixOf?_append pat after]

/-- A text is found where it occurs. -/
theorem contains_iff_isInfix : ∀ {s : List Char}, contains pat s ↔ pat <:+: s
  | [] => by
    rw [contains, splitFirst?, List.infix_nil]
    cases pat <;> simp
  | c :: s => by
    have ih : (splitFirst? pat s).isSome ↔ pat <:+: s := contains_iff_isInfix
    rw [contains, splitFirst?, List.infix_cons_iff, ← ih]
    cases h : pat.isPrefixOf? (c :: s) with
    | some after => exact iff_of_true rfl (.inl ⟨after, (eq_append_of_isPrefixOf? h).symm⟩)
    | none =>
      have hno : ¬ pat <+: c :: s := by
        rintro ⟨after, ha⟩
        rw [← ha, isPrefixOf?_append] at h
        cases h
      rw [or_iff_right hno, Option.isSome_map]

/-- What follows an expected beginning is the end of the text. -/
theorem isSuffix_of_isPrefixOf? (h : pat.isPrefixOf? s = some after) : after <:+ s :=
  ⟨pat, (eq_append_of_isPrefixOf? h).symm⟩

/-- What follows an occurrence is the end of the text. -/
theorem isSuffix_of_splitFirst? (h : splitFirst? pat s = some (before, after)) : after <:+ s :=
  ⟨before ++ pat, (splitFirst?_eq_some h).symm⟩

/-- **Nothing is lost at a character.** The two parts with the separator between them are the text. -/
theorem splitAtChar?_eq_some {sep : Char} : ∀ {s before after : List Char},
    splitAtChar? sep s = some (before, after) → s = before ++ sep :: after
  | [], _, _, h => by simp [splitAtChar?] at h
  | c :: rest, before, after, h => by
    simp only [splitAtChar?] at h
    split at h
    · next hc =>
      simp only [Option.some.injEq, Prod.mk.injEq] at h
      obtain ⟨rfl, rfl⟩ := h
      simp [hc]
    · obtain ⟨⟨b, a⟩, hs, he⟩ := Option.map_eq_some_iff.1 h
      simp only [Prod.mk.injEq] at he
      obtain ⟨rfl, rfl⟩ := he
      simp [splitAtChar?_eq_some hs]

/-- What follows a separator is the end of the text. -/
theorem isSuffix_of_splitAtChar? {sep : Char} (h : splitAtChar? sep s = some (before, after)) :
    after <:+ s :=
  ⟨before ++ [sep], by simp [splitAtChar?_eq_some h]⟩

/-- The first part ends at the first separator. -/
theorem not_mem_of_splitAtChar? {sep : Char} : ∀ {s before after : List Char},
    splitAtChar? sep s = some (before, after) → sep ∉ before
  | [], _, _, h => by simp [splitAtChar?] at h
  | c :: rest, before, after, h => by
    simp only [splitAtChar?] at h
    split at h
    · simp only [Option.some.injEq, Prod.mk.injEq] at h
      obtain ⟨rfl, rfl⟩ := h
      exact List.not_mem_nil
    · next hc =>
      obtain ⟨⟨b, a⟩, hs, he⟩ := Option.map_eq_some_iff.1 h
      simp only [Prod.mk.injEq] at he
      obtain ⟨rfl, rfl⟩ := he
      exact List.not_mem_cons_of_ne_of_not_mem (Ne.symm hc) (not_mem_of_splitAtChar? hs)

/-- A text is cut at its first separator. -/
theorem splitAtChar?_append_cons {sep : Char} (after : List Char) : ∀ {before : List Char},
    sep ∉ before → splitAtChar? sep (before ++ sep :: after) = some (before, after)
  | [], _ => by simp [splitAtChar?]
  | c :: before, h => by
    obtain ⟨hc, hb⟩ := List.ne_and_not_mem_of_not_mem_cons h
    simp [splitAtChar?, Ne.symm hc, splitAtChar?_append_cons after hb]

theorem splitAtChar?_eq_none {sep : Char} : ∀ {s : List Char},
    sep ∉ s → splitAtChar? sep s = none
  | [], _ => rfl
  | c :: s, h => by
    obtain ⟨hc, hs⟩ := List.ne_and_not_mem_of_not_mem_cons h
    simp [splitAtChar?, Ne.symm hc, splitAtChar?_eq_none hs]

/-- To look for a single character is to cut at it. -/
theorem splitFirst?_singleton (sep : Char) : ∀ s : List Char,
    splitFirst? [sep] s = splitAtChar? sep s
  | [] => rfl
  | c :: s => by
    have hnil : [].isPrefixOf? s = some s := rfl
    by_cases hc : sep = c
    · simp [splitFirst?, splitAtChar?, isPrefixOf?_cons_cons, hnil, hc]
    · simp [splitFirst?, splitAtChar?, isPrefixOf?_cons_cons, hc, Ne.symm hc,
        splitFirst?_singleton sep s]

/-- A text is cut at its last separator. -/
theorem splitLast?_append_cons {sep : Char} (before : List Char) {after : List Char}
    (h : sep ∉ after) : splitLast? [sep] (before ++ sep :: after) = some (before, after) := by
  have hr : (before ++ sep :: after).reverse = after.reverse ++ sep :: before.reverse := by simp
  rw [splitLast?, List.reverse_singleton, splitFirst?_singleton, hr,
    splitAtChar?_append_cons _ (by simpa using h)]
  simp

/-- **Nothing is lost at the last separator**, and none follows it. -/
theorem splitLast?_eq_some {sep : Char} (h : splitLast? [sep] s = some (before, after)) :
    s = before ++ sep :: after ∧ sep ∉ after := by
  rw [splitLast?, List.reverse_singleton, splitFirst?_singleton] at h
  obtain ⟨⟨b, a⟩, hs, he⟩ := Option.map_eq_some_iff.1 h
  simp only [Prod.mk.injEq] at he
  obtain ⟨rfl, rfl⟩ := he
  have hr := congrArg List.reverse (splitAtChar?_eq_some hs)
  rw [List.reverse_reverse] at hr
  exact ⟨by rw [hr]; simp, by simpa using not_mem_of_splitAtChar? hs⟩

/-- A text without the separator is one piece. -/
theorem splitOnChar_eq_singleton {sep : Char} : ∀ {s : List Char},
    sep ∉ s → splitOnChar sep s = [s]
  | [], _ => rfl
  | c :: s, h => by
    obtain ⟨hc, hs⟩ := List.ne_and_not_mem_of_not_mem_cons h
    simp [splitOnChar, Ne.symm hc, splitOnChar_eq_singleton hs]

theorem splitOnChar_ne_nil (sep : Char) (s : List Char) : splitOnChar sep s ≠ [] := by
  cases s with
  | nil => simp [splitOnChar]
  | cons c s =>
    rw [splitOnChar]
    split
    · simp
    · split <;> simp

/-- **A separator separates**: the pieces of the two sides follow one another. -/
theorem splitOnChar_append_cons (sep : Char) (t : List Char) : ∀ s : List Char,
    splitOnChar sep (s ++ sep :: t) = splitOnChar sep s ++ splitOnChar sep t
  | [] => by simp [splitOnChar]
  | c :: s => by
    by_cases hc : c = sep
    · simp [splitOnChar, hc, splitOnChar_append_cons sep t s]
    · obtain ⟨piece, pieces, hs⟩ := List.exists_cons_of_ne_nil (splitOnChar_ne_nil sep s)
      simp [splitOnChar, hc, splitOnChar_append_cons sep t s, hs]

/-- **Pieces put together** with separators between them come apart again. -/
theorem splitOnChar_intercalate {sep : Char} : ∀ {pieces : List (List Char)},
    pieces ≠ [] → (∀ piece ∈ pieces, sep ∉ piece) →
      splitOnChar sep (List.intercalate [sep] pieces) = pieces
  | [], hne, _ => absurd rfl hne
  | [piece], _, h => by
    rw [List.intercalate_singleton]
    exact splitOnChar_eq_singleton (h piece List.mem_cons_self)
  | piece :: next :: rest, _, h => by
    have hrest := splitOnChar_intercalate (List.cons_ne_nil next rest) fun p hp =>
      h p (List.mem_cons_of_mem _ hp)
    rw [List.intercalate_cons_cons, List.append_assoc, List.singleton_append, splitOnChar_append_cons,
      splitOnChar_eq_singleton (h piece List.mem_cons_self), hrest, List.singleton_append]

/-- No piece holds the separator. -/
theorem not_mem_of_mem_splitOnChar {sep : Char} : ∀ {s piece : List Char},
    piece ∈ splitOnChar sep s → sep ∉ piece
  | [], piece, h => by
    rw [splitOnChar, List.mem_singleton] at h
    rw [h]
    exact List.not_mem_nil
  | c :: s, piece, h => by
    rw [splitOnChar] at h
    split at h
    · rcases List.mem_cons.1 h with rfl | h
      · exact List.not_mem_nil
      · exact not_mem_of_mem_splitOnChar h
    · next hc =>
      obtain ⟨first, pieces, hs⟩ := List.exists_cons_of_ne_nil (splitOnChar_ne_nil sep s)
      rw [hs] at h
      rcases List.mem_cons.1 h with rfl | h
      · have hfirst : first ∈ splitOnChar sep s := by rw [hs]; exact List.mem_cons_self
        exact List.not_mem_cons_of_ne_of_not_mem (Ne.symm hc) (not_mem_of_mem_splitOnChar hfirst)
      · have hlater : piece ∈ splitOnChar sep s := by rw [hs]; exact List.mem_cons_of_mem _ h
        exact not_mem_of_mem_splitOnChar hlater

/-- A piece holds no other characters than the text. -/
theorem mem_of_mem_splitOnChar {sep c : Char} : ∀ {s piece : List Char},
    piece ∈ splitOnChar sep s → c ∈ piece → c ∈ s
  | [], piece, h, hc => by
    rw [splitOnChar, List.mem_singleton] at h
    rwa [h] at hc
  | d :: s, piece, h, hc => by
    rw [splitOnChar] at h
    split at h
    · rcases List.mem_cons.1 h with rfl | h
      · cases hc
      · exact List.mem_cons_of_mem _ (mem_of_mem_splitOnChar h hc)
    · obtain ⟨first, pieces, hs⟩ := List.exists_cons_of_ne_nil (splitOnChar_ne_nil sep s)
      rw [hs] at h
      rcases List.mem_cons.1 h with rfl | h
      · have hfirst : first ∈ splitOnChar sep s := by rw [hs]; exact List.mem_cons_self
        rcases List.mem_cons.1 hc with rfl | hc
        · exact List.mem_cons_self
        · exact List.mem_cons_of_mem _ (mem_of_mem_splitOnChar hfirst hc)
      · have hlater : piece ∈ splitOnChar sep s := by rw [hs]; exact List.mem_cons_of_mem _ h
        exact List.mem_cons_of_mem _ (mem_of_mem_splitOnChar hlater hc)

/-- What follows an occurrence of a text that is not empty is shorter than the whole. -/
theorem length_after_lt (hp : pat ≠ []) (h : splitFirst? pat s = some (before, after)) :
    after.length < s.length := by
  have := congrArg List.length (splitFirst?_eq_some h)
  have : 0 < pat.length := List.length_pos_iff.2 hp
  simp only [List.length_append] at *
  omega

end HtmlMail.Chars

namespace HtmlMail.Text

/-- Whether `pat` occurs in `s`. -/
def contains (pat s : String) : Bool := Chars.contains pat.toList s.toList

/-- Whether `s` starts with `pat`. -/
def startsWith (pat s : String) : Bool := pat.toList.isPrefixOf s.toList

/-- Every occurrence of `pat` in `s` exchanged for `new`. -/
def replaceAll (pat new s : String) : String :=
  String.ofList (Chars.replaceAll pat.toList new.toList s.toList)

/-- The first occurrence of `pat` in `s` exchanged for `new`. -/
def replaceFirst (pat new s : String) : String :=
  String.ofList (Chars.replaceFirst pat.toList new.toList s.toList)

/-- What stands before and after the first occurrence of `pat` in `s`. -/
def splitFirst? (pat s : String) : Option (String × String) :=
  (Chars.splitFirst? pat.toList s.toList).map fun (before, after) =>
    (String.ofList before, String.ofList after)

/-- The pieces of `s` between the occurrences of `sep`. -/
def splitOnChar (sep : Char) (s : String) : List String :=
  (Chars.splitOnChar sep s.toList).map String.ofList

end HtmlMail.Text
