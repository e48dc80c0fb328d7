import HtmlMail.Text.Search
import Mathlib.Data.List.Infix

/-!
# Where a text is found, and what is left when it is replaced

A text that is put together from parts may hold a pattern that none of its parts holds: the pattern can lie across
a border. What excludes that is said about the pattern and the part alone, so that the parts can be looked at one by
one.

* `infix_append_right`, `prefix_of_append_of_head` : no occurrence lies across a border behind a part without the first
  character, or in front of one that begins with another one;
* `Apart` : no occurrence lies across the border between two texts, which the two characters there can exclude
  (`apart_of_pair`);
* `Separates` : an occurrence around a part lies in what stands before it or in what stands after it;
* `IsForeign.separates`, `IsBarrier.separates` : parts that no occurrence can touch, and parts that none can get across;
* `splitFirst?_append` : the search goes on behind a part in which no occurrence begins;
* `takeWhile_append_of_head` : a run of characters goes up to a text that does not go on with it;
* `length_le_of_splitFirst?`, `splitLast?_spec` : the first occurrence and the last one among all;
* `replaceAll_eq_append` : replacement goes from occurrence to occurrence, and `Apart.replaceAll_append` : in two texts it
  can be done one by one;
* `Separates.not_infix_replaceAll_self`, `Separates.not_infix_replaceAll` : what comes in leaves no occurrence behind and
  makes none, if it separates the pattern.
-/

namespace HtmlMail.Chars

variable {c : Char} {pat new s t u before after : List Char}

/-! ### Occurrences across a border -/

/-- A text is not found across a border if its first character does not stand in front of it. -/
theorem infix_append_right (hc : c ∉ s) (h : c :: pat <:+: s ++ t) : c :: pat <:+: t := by
  induction s with
  | nil => exact h
  | cons a s ih =>
    obtain ⟨hne, hs⟩ := List.ne_and_not_mem_of_not_mem_cons hc
    rw [List.cons_append, List.infix_cons_iff] at h
    rcases h with h | h
    · -- It would begin with the first character of what stands in front.
      exact absurd (List.cons_prefix_cons.1 h).1 hne
    · exact ih hs h

/-- A text is not lost with what stands in front of its first character. -/
theorem infix_dropWhile {p : Char → Bool} (hc : p c = false) (h : c :: pat <:+: s) :
    c :: pat <:+: s.dropWhile p := by
  induction s with
  | nil => exact h
  | cons a s ih =>
    rw [List.dropWhile_cons]
    split
    · next ha =>
      rcases List.infix_cons_iff.1 h with h | h
      · rw [← (List.cons_prefix_cons.1 h).1, hc] at ha
        cases ha
      · exact ih h
    · exact h

/-- **No occurrence across a border**: what ends at the end of one text and goes on at the beginning of another one is
not the pattern. -/
def Apart (pat s t : List Char) : Prop :=
  ∀ ⦃left right⦄, pat = left ++ right → left <:+ s → right <+: t → left = [] ∨ right = []

/-- Two characters that do not follow one another in a pattern keep it from lying across the border between them. -/
theorem apart_of_pair (h : ∀ c ∈ s.getLast?, ∀ d ∈ t.head?, ¬ [c, d] <:+: pat) : Apart pat s t := by
  rintro left right rfl hleft hright
  by_contra hboth
  obtain ⟨hl, hr⟩ := not_or.1 hboth
  obtain ⟨left, c, rfl⟩ := (List.eq_nil_or_concat' left).resolve_left hl
  obtain ⟨d, right, rfl⟩ := List.exists_cons_of_ne_nil hr
  obtain ⟨front, rfl⟩ := hleft
  obtain ⟨rest, rfl⟩ := hright
  refine h c ?_ d rfl ⟨left, right, by simp⟩
  rw [← List.append_assoc, List.getLast?_concat]
  rfl

/-- A character that follows another one is not the first, and the other one is not the last. -/
theorem mem_of_pair {d : Char} (h : [c, d] <:+: pat) : c ∈ pat.dropLast ∧ d ∈ pat.tail := by
  obtain ⟨left, right, rfl⟩ := h
  have hfront : left ++ [c, d] ++ right = (left ++ [c]) ++ d :: right := by simp
  constructor
  · rw [hfront, List.dropLast_append_of_ne_nil (List.cons_ne_nil d right)]
    simp
  · cases left <;> simp

theorem apart_of_getLast (h : ∀ c ∈ s.getLast?, c ∉ pat.dropLast) : Apart pat s t :=
  apart_of_pair fun c hc _ _ hpair => h c hc (mem_of_pair hpair).1

theorem apart_of_head (h : ∀ d ∈ t.head?, d ∉ pat.tail) : Apart pat s t :=
  apart_of_pair fun _ _ d hd hpair => h d hd (mem_of_pair hpair).2

namespace Apart

/-- An occurrence in two texts lies in one of them. -/
theorem infix_append_iff (h : Apart pat s t) : pat <:+: s ++ t ↔ pat <:+: s ∨ pat <:+: t := by
  constructor
  · intro hocc
    rcases List.infix_append_iff.1 hocc with hs | ht | ⟨left, right, hp, hleft, hright⟩
    · exact .inl hs
    · exact .inr ht
    · -- Across the border there is nothing of the pattern on one of the sides.
      rcases h hp hleft hright with rfl | rfl
      · exact .inr (hp ▸ hright.isInfix)
      · rw [List.append_nil] at hp
        exact .inl (hp ▸ hleft.isInfix)
  · rintro (hs | ht)
    · exact hs.trans (List.prefix_append s t).isInfix
    · exact ht.trans (List.suffix_append s t).isInfix

/-- None begins in the first text if none lies in it. -/
theorem not_begins (h : Apart pat s t) (hs : ¬ pat <:+: s) (c : Char) (u : List Char) (hu : c :: u <:+ s) :
    ¬ pat <+: c :: u ++ t := by
  intro hprefix
  rcases List.prefix_or_prefix_of_prefix hprefix (List.prefix_append (c :: u) t) with hin | ⟨right, hp⟩
  · exact hs (hin.isInfix.trans hu.isInfix)
  · rw [← hp] at hprefix
    rcases h hp.symm hu ((List.prefix_append_right_inj _).1 hprefix) with hnil | rfl
    · cases hnil
    · rw [List.append_nil] at hp
      exact hs (hp ▸ hu.isInfix)

theorem of_suffix (h : Apart pat s t) (hu : u <:+ s) : Apart pat u t :=
  fun _ _ hp hleft hright => h hp (hleft.trans hu) hright

end Apart

/-- A text is **foreign** to a pattern if it holds neither the first nor the last character of the pattern and is
no part of it. -/
structure IsForeign (pat u : List Char) : Prop where
  first : ∀ c ∈ pat.head?, c ∉ u
  last : ∀ c ∈ pat.getLast?, c ∉ u
  not_infix : ¬ u <:+: pat

/-- A text **separates** a pattern if an occurrence around it lies in what stands before it or in what stands after
it. -/
def Separates (pat u : List Char) : Prop :=
  ∀ ⦃s t : List Char⦄, pat <:+: s ++ u ++ t → pat <:+: s ∨ pat <:+: t

/-- A text that separates a pattern makes no occurrence when it comes in between two others. -/
theorem Separates.not_infix_append (hu : Separates pat u) (h : ¬ pat <:+: s ++ t) : ¬ pat <:+: s ++ u ++ t := by
  intro hocc
  rcases hu hocc with hleft | hright
  · exact h (hleft.trans (List.prefix_append _ _).isInfix)
  · exact h (hright.trans (List.suffix_append _ _).isInfix)

/-- **No occurrence touches a foreign text.** -/
theorem IsForeign.separates (hu : IsForeign pat u) (hne : pat ≠ []) : Separates pat u := by
  intro s t h
  obtain ⟨c, p, rfl⟩ := List.exists_cons_of_ne_nil hne
  have hfirst : c ∉ u := hu.first c rfl
  rw [List.append_assoc, List.infix_append_iff] at h
  rcases h with h | h | ⟨left, right, hp, hleft, hright⟩
  · exact .inl h
  · exact .inr (infix_append_right hfirst h)
  · -- It begins before the foreign text and reaches into it, so it ends there or goes on behind it.
    rcases List.eq_nil_or_concat' right with rfl | ⟨right, d, rfl⟩
    · rw [hp, List.append_nil]
      exact .inl hleft.isInfix
    rcases List.prefix_or_prefix_of_prefix hright (List.prefix_append u t) with hin | hover
    · have hd : d ∈ u := hin.subset (by simp)
      have hlast : d ∈ (c :: p).getLast? := by
        rw [hp, ← List.append_assoc, List.getLast?_concat]
        rfl
      exact absurd hd (hu.last d hlast)
    · have hpart : u <:+: c :: p := by
        rw [hp]
        exact hover.isInfix.trans (List.suffix_append _ _).isInfix
      exact absurd hpart hu.not_infix

/-- A text is a **barrier** to the patterns that end in the characters `q` and `z` if these two do not follow one
another in it and, at its ends, no occurrence can go on: it does not begin with `z`, and its last character is none
of those that stand in front of `z`. -/
structure IsBarrier (p : List Char) (q z : Char) (u : List Char) : Prop where
  ne_nil : u ≠ []
  head : u.head? ≠ some z
  not_infix : ¬ [q, z] <:+: u
  last : ∀ c ∈ u.getLast?, c ∉ p ++ [q]

/-- **No occurrence gets across a barrier.** Where the last two characters stand decides on which side it lies. -/
theorem IsBarrier.separates {p : List Char} {q z : Char} (hu : IsBarrier p q z u) :
    Separates (p ++ [q, z]) u := by
  intro s t h
  have hpat : p ++ [q, z] = (p ++ [q]) ++ [z] := by rw [List.append_assoc, List.singleton_append]
  have hbehind : Apart (p ++ [q, z]) (s ++ u) t := by
    refine apart_of_getLast fun c hc => ?_
    rw [List.getLast?_append_of_ne_nil _ hu.ne_nil] at hc
    rw [hpat, List.dropLast_concat]
    exact hu.last c hc
  refine (hbehind.infix_append_iff.1 h).imp_left fun h => ?_
  rcases List.infix_append_iff.1 h with h | h | ⟨left, right, hp, hleft, hright⟩
  · exact h
  · exact absurd ((List.suffix_append p [q, z]).isInfix.trans h) hu.not_infix
  -- What begins with the barrier ends in `z`, or in both.
  rcases List.eq_nil_or_concat' right with rfl | ⟨right, f, rfl⟩
  · rw [List.append_nil] at hp
    exact hp ▸ hleft.isInfix
  rw [hpat, ← List.append_assoc] at hp
  obtain ⟨hfront, hlast⟩ := List.append_inj' hp rfl
  cases List.singleton_inj.1 hlast
  rcases List.eq_nil_or_concat' right with rfl | ⟨right, g, rfl⟩
  · obtain ⟨w, hw⟩ := hright
    exact absurd (by rw [← hw]; rfl) hu.head
  · rw [← List.append_assoc] at hfront
    cases List.singleton_inj.1 (List.append_inj' hfront rfl).2
    refine absurd ((?_ : [q, z] <:+: right ++ [q] ++ [z]).trans hright.isInfix) hu.not_infix
    exact ⟨right, [], by simp⟩

/-- A text begins with what a longer one begins with, if what comes behind it cannot go on with that. -/
theorem prefix_of_append_of_head (ht : ∀ c ∈ t.head?, c ∉ pat) (h : pat <+: s ++ t) : pat <+: s := by
  rcases List.prefix_or_prefix_of_prefix h (List.prefix_append s t) with hin | ⟨more, rfl⟩
  · exact hin
  · -- It would go on with the first character behind the text.
    cases more with
    | nil => exact ⟨[], by simp⟩
    | cons c more =>
      obtain ⟨after, rfl⟩ := (List.prefix_append_right_inj s).1 h
      exact absurd (List.mem_append_right s List.mem_cons_self) (ht c rfl)

/-! ### Runs of characters -/

section Runs

variable {p : Char → Bool}

/-- **A run goes up to a text** that does not go on with it. -/
theorem takeWhile_append_of_head (hs : ∀ c ∈ s, p c) (ht : ∀ c ∈ t.head?, p c = false) :
    (s ++ t).takeWhile p = s ∧ (s ++ t).dropWhile p = t := by
  rw [List.takeWhile_append_of_pos hs, List.dropWhile_append_of_pos hs]
  cases t with
  | nil => exact ⟨List.append_nil s, rfl⟩
  | cons c t =>
    have hc : ¬ p c := by
      rw [ht c rfl]
      exact Bool.false_ne_true
    rw [List.takeWhile_cons_of_neg hc, List.dropWhile_cons_of_neg hc]
    exact ⟨List.append_nil s, rfl⟩

/-- What goes on to a character without a property is taken up to there. -/
theorem takeWhile_append_cons (hs : ∀ d ∈ s, p d) (hc : p c = false) (rest : List Char) :
    (s ++ c :: rest).takeWhile p = s ∧ (s ++ c :: rest).dropWhile p = c :: rest := by
  refine takeWhile_append_of_head hs ?_
  intro d hd
  cases hd
  exact hc

end Runs

/-! ### The first occurrence and the last one -/

theorem splitFirst?_eq_none_iff : splitFirst? pat s = none ↔ ¬ pat <:+: s := by
  rw [← contains_iff_isInfix, contains, Bool.not_eq_true, Option.isSome_eq_false_iff,
    Option.isNone_iff_eq_none]

theorem splitFirst?_append_self (pat s : List Char) : splitFirst? pat (pat ++ s) = some ([], s) := by
  cases h : pat ++ s with
  | nil =>
    obtain ⟨rfl, rfl⟩ := List.append_eq_nil_iff.1 h
    rfl
  | cons c rest => rw [splitFirst?, ← h, isPrefixOf?_append]

/-- **The search goes on behind a part** in which no occurrence begins. -/
theorem splitFirst?_append (h : ∀ c t, c :: t <:+ s → ¬ pat <+: c :: t ++ u) :
    splitFirst? pat (s ++ u) = (splitFirst? pat u).map fun (before, after) => (s ++ before, after) := by
  induction s with
  | nil => simp
  | cons c s ih =>
    -- The pattern does not begin here, in the text or across its end.
    have hnone : pat.isPrefixOf? (c :: (s ++ u)) = none := by
      cases hp : pat.isPrefixOf? (c :: (s ++ u)) with
      | none => rfl
      | some after =>
        have hocc : pat <+: c :: s ++ u := ⟨after, (eq_append_of_isPrefixOf? hp).symm⟩
        exact absurd hocc (h c s List.suffix_rfl)
    have hrest := ih fun d t ht => h d t (ht.trans (List.suffix_cons c s))
    rw [List.cons_append, splitFirst?, hnone, hrest, Option.map_map]
    rfl

/-- No occurrence begins before the first one. -/
theorem length_le_of_splitFirst? : ∀ {s before after : List Char},
    splitFirst? pat s = some (before, after) → ∀ {a b}, s = a ++ pat ++ b → before.length ≤ a.length
  | [], before, after, h, a, b, hs => by
    have hbefore := congrArg List.length (splitFirst?_eq_some h)
    simp only [List.length_append, List.length_nil] at hbefore
    omega
  | c :: rest, before, after, h, a, b, hs => by
    rw [splitFirst?] at h
    split at h
    · simp only [Option.some.injEq, Prod.mk.injEq] at h
      obtain ⟨rfl, -⟩ := h
      exact Nat.zero_le _
    · next hno =>
      obtain ⟨⟨b', a'⟩, hrest, he⟩ := Option.map_eq_some_iff.1 h
      simp only [Prod.mk.injEq] at he
      obtain ⟨rfl, rfl⟩ := he
      -- The pattern does not stand at the start, so the other place for it is behind the first character.
      cases a with
      | nil =>
        rw [hs, List.nil_append, isPrefixOf?_append] at hno
        cases hno
      | cons d a =>
        rw [List.cons_append, List.cons_append] at hs
        exact Nat.succ_le_succ (length_le_of_splitFirst? hrest (List.cons.inj hs).2)

/-- No occurrence begins in the part in front of the first one, whatever comes behind that. -/
theorem not_begins_of_splitFirst? (h : splitFirst? pat s = some (before, after)) (t : List Char) (c : Char)
    (u : List Char) (hu : c :: u <:+ before) : ¬ pat <+: c :: u ++ (pat ++ t) := by
  obtain ⟨front, hfront⟩ := hu
  intro hprefix
  -- It would be an earlier occurrence in the text itself.
  have hin : pat <+: (c :: u) ++ pat :=
    List.prefix_of_prefix_length_le hprefix ⟨t, by simp only [List.append_assoc]⟩
      (by rw [List.length_append]; omega)
  obtain ⟨rest, hrest⟩ := hin
  have hs : s = front ++ pat ++ (rest ++ after) := by
    rw [splitFirst?_eq_some h, ← hfront, List.append_assoc front, List.append_assoc front, ← hrest]
    simp only [List.append_assoc]
  have hle := length_le_of_splitFirst? h hs
  rw [← hfront, List.length_append, List.length_cons] at hle
  omega

/-- The first occurrence in a text stays the first one when something comes behind the text. -/
theorem splitFirst?_append_right (h : splitFirst? pat s = some (before, after)) (t : List Char) :
    splitFirst? pat (s ++ t) = some (before, after ++ t) := by
  have hskip := not_begins_of_splitFirst? h (after ++ t)
  rw [splitFirst?_eq_some h, List.append_assoc, List.append_assoc, splitFirst?_append hskip, splitFirst?_append_self]
  simp only [Option.map_some, List.append_nil]

/-- In front of the first occurrence there is none. -/
theorem not_infix_of_splitFirst? (hne : pat ≠ []) (h : splitFirst? pat s = some (before, after)) :
    ¬ pat <:+: before := by
  rintro ⟨a, b, hab⟩
  have hs : s = a ++ pat ++ (b ++ pat ++ after) := by
    rw [splitFirst?_eq_some h, ← hab]
    simp only [List.append_assoc]
  have hle := length_le_of_splitFirst? h hs
  have hlt : 0 < pat.length := List.length_pos_iff.2 hne
  rw [← hab] at hle
  simp only [List.length_append] at hle
  omega

/-- **The last occurrence**: the text stands there, and in no later place. -/
theorem splitLast?_spec (h : splitLast? pat s = some (before, after)) :
    s = before ++ pat ++ after ∧ ∀ a b, s = a ++ pat ++ b → a.length ≤ before.length := by
  obtain ⟨⟨rest, front⟩, hr, he⟩ := Option.map_eq_some_iff.1 h
  simp only [Prod.mk.injEq] at he
  obtain ⟨rfl, rfl⟩ := he
  have hcut : s = front.reverse ++ pat ++ rest.reverse := by
    rw [← List.reverse_reverse s, splitFirst?_eq_some hr]
    simp
  refine ⟨hcut, fun a b hab => ?_⟩
  -- Read backwards, the last occurrence is the first one.
  have hmirror : s.reverse = b.reverse ++ pat.reverse ++ a.reverse := by
    rw [hab]
    simp
  have hle := length_le_of_splitFirst? hr hmirror
  have hlength := congrArg List.length (hab.symm.trans hcut)
  simp only [List.length_append, List.length_reverse] at hle hlength ⊢
  omega

theorem splitLast?_eq_none_iff : splitLast? pat s = none ↔ ¬ pat <:+: s := by
  rw [splitLast?, Option.map_eq_none_iff, splitFirst?_eq_none_iff, List.reverse_infix]

/-! ### Pieces and replacement -/

theorem splitOn_eq_singleton (h : ¬ pat <:+: s) : splitOn pat s = [s] := by
  rw [splitOn, splitFirst?_eq_none_iff.2 h]

theorem splitOn_eq_cons (hne : pat ≠ []) (h : splitFirst? pat s = some (before, after)) :
    splitOn pat s = before :: splitOn pat after := by
  rw [splitOn, h]
  exact dif_pos (length_after_lt hne h)

theorem splitOn_ne_nil (pat s : List Char) : splitOn pat s ≠ [] := by
  rw [splitOn]
  split
  · exact List.cons_ne_nil _ _
  · split <;> exact List.cons_ne_nil _ _

/-- **The pieces** with the separator between them are the text. -/
theorem intercalate_splitOn (pat s : List Char) : List.intercalate pat (splitOn pat s) = s := by
  rw [splitOn]
  split
  · exact List.intercalate_singleton
  · next before after h =>
    split
    · next hlt =>
      have hrest := intercalate_splitOn pat after
      obtain ⟨piece, pieces, hpieces⟩ := List.exists_cons_of_ne_nil (splitOn_ne_nil pat after)
      rw [hpieces] at hrest ⊢
      rw [List.intercalate_cons_cons, hrest, splitFirst?_eq_some h]
    · exact List.intercalate_singleton
termination_by s.length

theorem splitOn_append_self (hne : pat ≠ []) (s : List Char) :
    splitOn pat (pat ++ s) = [] :: splitOn pat s :=
  splitOn_eq_cons hne (splitFirst?_append_self pat s)

/-- A part in which no occurrence begins belongs to the first piece. -/
theorem splitOn_append (hne : pat ≠ []) (h : ∀ c t, c :: t <:+ s → ¬ pat <+: c :: t ++ u) :
    splitOn pat (s ++ u) = (splitOn pat u).modifyHead (s ++ ·) := by
  have hsearch := splitFirst?_append h
  cases hu : splitFirst? pat u with
  | none =>
    rw [hu] at hsearch
    rw [splitOn_eq_singleton (splitFirst?_eq_none_iff.1 hsearch),
      splitOn_eq_singleton (splitFirst?_eq_none_iff.1 hu)]
    rfl
  | some cut =>
    rw [hu] at hsearch
    rw [splitOn_eq_cons hne hsearch, splitOn_eq_cons hne hu]
    rfl

theorem replaceAll_eq_self (h : ¬ pat <:+: s) : replaceAll pat new s = s := by
  rw [replaceAll, splitOn_eq_singleton h, List.intercalate_singleton]

/-- **Replacement goes from occurrence to occurrence.** -/
theorem replaceAll_eq_append (hne : pat ≠ []) (h : splitFirst? pat s = some (before, after)) :
    replaceAll pat new s = before ++ new ++ replaceAll pat new after := by
  obtain ⟨piece, pieces, hpieces⟩ := List.exists_cons_of_ne_nil (splitOn_ne_nil pat after)
  rw [replaceAll, replaceAll, splitOn_eq_cons hne h, hpieces, List.intercalate_cons_cons]

theorem replaceAll_append_self (hne : pat ≠ []) (s : List Char) :
    replaceAll pat new (pat ++ s) = new ++ replaceAll pat new s := by
  rw [replaceAll_eq_append hne (splitFirst?_append_self pat s), List.nil_append]

theorem replaceAll_self (hne : pat ≠ []) : replaceAll pat new pat = new := by
  have hnil : replaceAll pat new [] = [] := replaceAll_eq_self fun h => hne (List.infix_nil.1 h)
  have hself : replaceAll pat new (pat ++ []) = new ++ replaceAll pat new [] := replaceAll_append_self hne []
  rwa [List.append_nil, hnil, List.append_nil] at hself

/-- Replacement leaves a part alone in which no occurrence begins. -/
theorem replaceAll_append (hne : pat ≠ []) (h : ∀ c t, c :: t <:+ s → ¬ pat <+: c :: t ++ u) :
    replaceAll pat new (s ++ u) = s ++ replaceAll pat new u := by
  -- The front belongs to the first piece, and is what comes first in the pieces put together.
  obtain ⟨piece, pieces, hpieces⟩ := List.exists_cons_of_ne_nil (splitOn_ne_nil pat u)
  rw [replaceAll, replaceAll, splitOn_append hne h, hpieces, List.modifyHead_cons]
  cases pieces with
  | nil => rw [List.intercalate_singleton, List.intercalate_singleton]
  | cons next others => simp only [List.intercalate_cons_cons, List.append_assoc]

/-- **Replacement in two texts**, one behind the other, is replacement in each of them if no occurrence lies across the
border. -/
theorem Apart.replaceAll_append (hne : pat ≠ []) {s : List Char} (h : Apart pat s t) :
    replaceAll pat new (s ++ t) = replaceAll pat new s ++ replaceAll pat new t := by
  match hcut : splitFirst? pat s with
  | none =>
    have hs : ¬ pat <:+: s := splitFirst?_eq_none_iff.1 hcut
    rw [Chars.replaceAll_append hne (h.not_begins hs), replaceAll_eq_self hs]
  | some (before, after) =>
    have hafter : Apart pat after t := h.of_suffix (isSuffix_of_splitFirst? hcut)
    rw [replaceAll_eq_append hne (splitFirst?_append_right hcut t), replaceAll_eq_append hne hcut,
      hafter.replaceAll_append hne]
    simp only [List.append_assoc]
termination_by s.length
decreasing_by exact length_after_lt hne hcut

/-- A piece between two occurrences is a part of the text. -/
theorem infix_of_mem_splitOn {s : List Char} (h : u ∈ splitOn pat s) : u <:+: s := by
  rw [splitOn] at h
  split at h
  · exact List.mem_singleton.1 h ▸ List.infix_rfl
  · next before after hcut =>
    split at h
    · next hlt =>
      rw [splitFirst?_eq_some hcut]
      rcases List.mem_cons.1 h with rfl | h
      · exact ⟨[], pat ++ after, by simp only [List.nil_append, List.append_assoc]⟩
      · exact (infix_of_mem_splitOn h).trans (List.suffix_append _ _).isInfix
    · exact List.mem_singleton.1 h ▸ List.infix_rfl
termination_by s.length

/-- No piece holds what the text was cut at. -/
theorem not_infix_of_mem_splitOn (hne : pat ≠ []) {s : List Char} (h : u ∈ splitOn pat s) :
    ¬ pat <:+: u := by
  match hcut : splitFirst? pat s with
  | none =>
    have hs : ¬ pat <:+: s := splitFirst?_eq_none_iff.1 hcut
    rw [splitOn_eq_singleton hs, List.mem_singleton] at h
    rwa [h]
  | some (before, after) =>
    rw [splitOn_eq_cons hne hcut] at h
    rcases List.mem_cons.1 h with rfl | h
    · exact not_infix_of_splitFirst? hne hcut
    · exact not_infix_of_mem_splitOn hne h
termination_by s.length
decreasing_by exact length_after_lt hne hcut

/-- Pieces without a pattern make a text without it if what stands between them separates it. -/
theorem Separates.not_infix_intercalate (hu : Separates pat u) (hne : pat ≠ []) :
    ∀ {pieces : List (List Char)}, (∀ piece ∈ pieces, ¬ pat <:+: piece) → ¬ pat <:+: List.intercalate u pieces
  | [], _ => fun h => hne (List.infix_nil.1 h)
  | [piece], h => by
    rw [List.intercalate_singleton]
    exact h piece List.mem_cons_self
  | piece :: next :: pieces, h => by
    rw [List.intercalate_cons_cons]
    intro hocc
    rcases hu hocc with hpiece | hrest
    · exact h piece List.mem_cons_self hpiece
    · exact not_infix_intercalate hu hne (fun p hp => h p (List.mem_cons_of_mem _ hp)) hrest

/-- **Nothing is left to replace** if what comes in separates what goes. -/
theorem Separates.not_infix_replaceAll_self (hnew : Separates pat new) (hne : pat ≠ []) (s : List Char) :
    ¬ pat <:+: replaceAll pat new s :=
  hnew.not_infix_intercalate hne fun _ hpiece => not_infix_of_mem_splitOn hne hpiece

/-- **Nothing comes in** with a text that separates it. -/
theorem Separates.not_infix_replaceAll (hnew : Separates pat new) (hne : pat ≠ []) (old : List Char)
    (h : ¬ pat <:+: s) : ¬ pat <:+: replaceAll old new s :=
  hnew.not_infix_intercalate hne fun _ hpiece hocc => h (hocc.trans (infix_of_mem_splitOn hpiece))

end HtmlMail.Chars

namespace HtmlMail.Text

variable {pat new s : String}

theorem contains_iff_isInfix : contains pat s ↔ pat.toList <:+: s.toList := Chars.contains_iff_isInfix

theorem not_contains_iff : ¬ contains pat s ↔ ¬ pat.toList <:+: s.toList := not_congr contains_iff_isInfix

theorem startsWith_iff_prefix : startsWith pat s ↔ pat.toList <+: s.toList := List.isPrefixOf_iff_prefix

theorem replaceAll_eq_self (h : ¬ contains pat s) : replaceAll pat new s = s := by
  rw [replaceAll, Chars.replaceAll_eq_self (not_contains_iff.1 h), String.ofList_toList]

end HtmlMail.Text
