import HtmlMail.Css.LegacyAttributes
import Mathlib.Data.List.Basic

/-!
# Marks of importance

Marks are read in two places: a declaration takes one off the end of its value, and a style that is to be
written without importance drops all of them from its text. Both agree on what a mark is (`IsMark`).

* `splitImportant_append_mark`, `exists_isMark_of_splitImportant` : a value is important if and only if it
  ends in a mark, blanks aside;
* `afterImportantMark?_eq_some_iff` : dropping looks for the same marks;
* `splitOnChar_dropImportantMarks` : no mark holds a semicolon, so marks are dropped piece by piece.
-/

namespace HtmlMail.Css

open Chars

/-! ### What a mark is -/

/-- **A mark of importance** with the blanks in front of it. -/
def IsMark (m : List Char) : Prop :=
  ∃ lead gap word, m = lead ++ '!' :: (gap ++ word) ∧ allBlank lead ∧ allBlank gap ∧
    lower word = "important".toList

section Mark

variable {s t v m word before after : List Char} {c : Char}

/-- Lower case neither brings in nor takes away blanks. -/
theorem isBlank_toLower (c : Char) : isBlank c.toLower = isBlank c := by
  rcases toLower_cases c with hc | ⟨h₁, h₂, h₃⟩
  · rw [hc]
  · have hletter (n : Nat) (hl : 65 ≤ n) (hr : n ≤ 122) : ((9 ≤ n && n ≤ 13) || n == 0x20 ||
        n == 0x85 || n == 0xA0 || n == 0x1680 || (0x2000 ≤ n && n ≤ 0x200A) || n == 0x2028 ||
        n == 0x2029 || n == 0x202F || n == 0x205F || n == 0x3000) = false := by
      simp
      omega
    rw [isBlank, isBlank, hletter _ (by omega) (by omega), hletter _ (by omega) (by omega)]

/-- The characters of the word are letters in any case. -/
theorem toLower_mem_of_word (hw : lower word = "important".toList) (hc : c ∈ word) :
    c.toLower ∈ "important".toList := by
  rw [← hw]
  exact List.mem_map_of_mem hc

theorem isBlank_of_word (hw : lower word = "important".toList) (hc : c ∈ word) : isBlank c = false := by
  have hletters : "important".toList.all (!isBlank ·) = true := by decide
  have hletter := List.all_eq_true.1 hletters _ (toLower_mem_of_word hw hc)
  rwa [Bool.not_eq_true', isBlank_toLower] at hletter

theorem word_ne_nil (hw : lower word = "important".toList) : word ≠ [] := by
  rintro rfl
  revert hw
  decide

theorem isTrimmed_word (hw : lower word = "important".toList) : IsTrimmed word where
  head h := isBlank_of_word hw (List.mem_of_mem_head? h)
  last h := isBlank_of_word hw (List.mem_of_getLast? h)

/-- **A mark has no other characters** than blanks, its exclamation mark and the letters of its word. -/
theorem IsMark.mem_cases (hm : IsMark m) (hc : c ∈ m) :
    isBlank c ∨ c = '!' ∨ c.toLower ∈ "important".toList := by
  obtain ⟨lead, gap, word, rfl, hlead, hgap, hw⟩ := hm
  rw [List.mem_append, List.mem_cons, List.mem_append] at hc
  rcases hc with hc | hc | hc | hc
  · exact .inl (List.all_eq_true.1 hlead c hc)
  · exact .inr (.inl hc)
  · exact .inl (List.all_eq_true.1 hgap c hc)
  · exact .inr (.inr (toLower_mem_of_word hw hc))

theorem IsMark.no_semicolon (hm : IsMark m) : ';' ∉ m := by
  intro h
  have := hm.mem_cases h
  revert this
  decide

theorem IsMark.no_colon (hm : IsMark m) : ':' ∉ m := by
  intro h
  have := hm.mem_cases h
  revert this
  decide

/-- A mark is not blank. -/
theorem IsMark.mem_exclamation (hm : IsMark m) : '!' ∈ m := by
  obtain ⟨lead, gap, word, rfl, -⟩ := hm
  exact List.mem_append_right _ List.mem_cons_self

theorem isMark_importantMark : IsMark importantMark.toList :=
  ⟨[], [], "important".toList, by decide, rfl, rfl, by decide⟩

/-! ### The mark at the end of a value -/

/-- A value is what stands in front of its mark, or all of the text if it has none. -/
theorem splitImportant_cases (s : List Char) :
    splitImportant s = (trim s, false) ∨
      ∃ before after, trim s = before ++ '!' :: after ∧ lower (trim after) = "important".toList ∧
        splitImportant s = (trimEnd before, true) := by
  unfold splitImportant
  dsimp only
  split
  · exact .inl rfl
  · next before after h =>
    split
    · next hw =>
      refine .inr ⟨before, after, (splitLast?_eq_some h).1, ?_, rfl⟩
      have hword : lower "important".toList = "important".toList := by decide
      exact (eq_of_beq hw).trans hword
    · exact .inl rfl

/-- **A mark at the end is taken off**, blanks around it included. -/
theorem splitImportant_append_mark (v : List Char) (hm : IsMark m) (hafter : allBlank after) :
    splitImportant (v ++ m ++ after) = (trim v, true) := by
  obtain ⟨lead, gap, word, rfl, hlead, hgap, hw⟩ := hm
  have hbang : isBlank '!' = false := by decide
  -- The exclamation mark of the mark is the last one, so it is the one that is found.
  have hno : '!' ∉ gap ++ word := by
    rw [List.mem_append]
    rintro (h | h)
    · exact not_mem_of_allBlank hgap hbang h
    · have := toLower_mem_of_word hw h
      revert this
      decide
  have htext : v ++ (lead ++ '!' :: (gap ++ word)) ++ after =
      (v ++ lead) ++ '!' :: (gap ++ word) ++ after := by simp
  have hlast : trimEnd (trimStart (v ++ lead) ++ '!' :: (gap ++ word)) =
      trimStart (v ++ lead) ++ '!' :: (gap ++ word) := by
    refine trimEnd_eq_self fun c hc => (isTrimmed_word hw).last ?_
    rw [← hc, ← List.cons_append, ← List.append_assoc, List.getLast?_append_of_ne_nil _ (word_ne_nil hw)]
  have htrim : trim (v ++ (lead ++ '!' :: (gap ++ word)) ++ after) =
      trimStart (v ++ lead) ++ '!' :: (gap ++ word) := by
    rw [htext, trim_append_of_allBlank hafter, trim, trimStart_append_cons hbang, hlast]
  have hword : eqIgnoringCase (trim (gap ++ word)) "important".toList := by
    rw [trim, trimStart_append_of_allBlank hgap, ← trim, (isTrimmed_word hw).trim_eq, eqIgnoringCase, hw]
    decide
  unfold splitImportant
  dsimp only
  rw [htrim, splitLast?_append_cons _ hno]
  dsimp only
  rw [if_pos hword, ← trim, trim_append_of_allBlank hlead]

/-- **What is read as important ends in a mark.** -/
theorem exists_isMark_of_splitImportant (h : (splitImportant s).2 = true) :
    ∃ v m after, s = v ++ m ++ after ∧ IsMark m ∧ allBlank after := by
  rcases splitImportant_cases s with hs | ⟨before, rest, hs, hw, -⟩
  · rw [hs] at h
    cases h
  · -- The blanks that were trimmed off are put back, around the value and around the word of the mark.
    obtain ⟨lead, hlead, hl⟩ := exists_eq_append_trimStart s
    obtain ⟨tail, htail, ht⟩ := exists_eq_trimEnd_append (trimStart s)
    obtain ⟨gap, hgap, hg⟩ := exists_eq_append_trimStart rest
    obtain ⟨gap', hgap', hg'⟩ := exists_eq_trimEnd_append (trimStart rest)
    rw [← trim] at ht hg'
    refine ⟨lead ++ before, '!' :: (gap ++ trim rest), gap' ++ tail, ?_,
      ⟨[], gap, trim rest, rfl, rfl, hgap, hw⟩, ?_⟩
    · have hrest : rest = gap ++ (trim rest ++ gap') := hg.trans (congrArg (gap ++ ·) hg')
      calc s = lead ++ (before ++ '!' :: rest ++ tail) := by rw [← hs, ← ht, ← hl]
        _ = lead ++ (before ++ '!' :: (gap ++ (trim rest ++ gap')) ++ tail) := by rw [← hrest]
        _ = lead ++ before ++ '!' :: (gap ++ trim rest) ++ (gap' ++ tail) := by simp
    · rw [allBlank, List.all_append, Bool.and_eq_true]
      exact ⟨hgap', htail⟩

/-- An unmarked value is all of the text. -/
theorem splitImportant_of_unmarked (h : (splitImportant s).2 = false) :
    splitImportant s = (trim s, false) := by
  rcases splitImportant_cases s with hs | ⟨before, rest, -, -, hs⟩
  · exact hs
  · rw [hs] at h
    cases h

/-- A value has no blanks at its ends, marked or not. -/
theorem isTrimmed_splitImportant (s : List Char) : IsTrimmed (splitImportant s).1 := by
  cases h : (splitImportant s).2 with
  | false =>
    rw [splitImportant_of_unmarked h]
    exact isTrimmed_trim s
  | true =>
    obtain ⟨v, m, after, rfl, hm, hafter⟩ := exists_isMark_of_splitImportant h
    rw [splitImportant_append_mark v hm hafter]
    exact isTrimmed_trim v

/-- A value holds no other characters than the text it is read from. -/
theorem mem_of_mem_splitImportant (h : c ∈ (splitImportant s).1) : c ∈ s := by
  cases hi : (splitImportant s).2 with
  | false =>
    rw [splitImportant_of_unmarked hi] at h
    exact mem_of_mem_trim h
  | true =>
    obtain ⟨v, m, after, rfl, hm, hafter⟩ := exists_isMark_of_splitImportant hi
    rw [splitImportant_append_mark v hm hafter] at h
    rw [List.append_assoc]
    exact List.mem_append_left _ (mem_of_mem_trim h)

/-- **No mark is left** in a value that is read as unmarked. -/
theorem splitImportant_splitImportant (h : (splitImportant s).2 = false) :
    splitImportant (splitImportant s).1 = ((splitImportant s).1, false) := by
  have hsame : splitImportant (trim s) = splitImportant s := by
    unfold splitImportant
    rw [(isTrimmed_trim s).trim_eq]
  have hs := splitImportant_of_unmarked h
  rw [hs, hsame, hs]

/-! ### The marks in a text -/

/-- **Dropping looks for the same marks.** -/
theorem afterImportantMark?_eq_some_iff :
    afterImportantMark? s = some after ↔ ∃ m, IsMark m ∧ s = m ++ after := by
  have hlength : "important".toList.length = 9 := by decide
  have hword : lower "important".toList = "important".toList := by decide
  constructor
  · -- The blanks that are skipped, the exclamation mark and the word are a mark.
    intro h
    obtain ⟨lead, hlead, hs⟩ := exists_eq_append_trimStart s
    unfold afterImportantMark? at h
    split at h
    · next rest hrest =>
      obtain ⟨gap, hgap, hg⟩ := exists_eq_append_trimStart rest
      unfold dropPrefixIgnoringCase? at h
      split at h
      · next hw =>
        have hafter : (trimStart rest).drop "important".toList.length = after := Option.some.inj h
        refine ⟨lead ++ '!' :: (gap ++ (trimStart rest).take "important".toList.length),
          ⟨lead, gap, _, rfl, hlead, hgap, (eq_of_beq hw).trans hword⟩, ?_⟩
        rw [← hafter, List.append_assoc, List.cons_append, List.append_assoc, List.take_append_drop, ← hg,
          ← hrest, ← hs]
      · cases h
    · cases h
  · -- The blanks of a mark are all that is skipped, for its word begins with a letter.
    rintro ⟨m, ⟨lead, gap, word, rfl, hlead, hgap, hw⟩, rfl⟩
    have hbang : isBlank '!' = false := by decide
    have hlen : word.length = "important".toList.length := by
      rw [← hw, lower, List.length_map]
    have hstart : trimStart (lead ++ '!' :: (gap ++ word) ++ after) = '!' :: (gap ++ (word ++ after)) := by
      rw [List.append_assoc, trimStart_append_of_allBlank hlead, List.cons_append, List.append_assoc]
      exact trimStart_append_cons hbang [] _
    have hgapped : trimStart (gap ++ (word ++ after)) = word ++ after := by
      rw [trimStart_append_of_allBlank hgap]
      refine trimStart_eq_self fun c hc => ?_
      obtain ⟨d, rest, rfl⟩ := List.exists_cons_of_ne_nil (word_ne_nil hw)
      obtain rfl : d = c := Option.some.inj hc
      exact isBlank_of_word hw List.mem_cons_self
    unfold afterImportantMark?
    rw [hstart]
    show dropPrefixIgnoringCase? "important".toList (trimStart (gap ++ (word ++ after))) = some after
    rw [hgapped, dropPrefixIgnoringCase?, ← hlen, List.take_left', List.drop_left', if_pos]
    · rw [eqIgnoringCase, hw, hword]
      exact beq_self_eq_true _
    · rfl
    · rfl

/-- **A mark is found in front of a part** of the text, if no mark goes on into that part. -/
theorem afterImportantMark?_append_of_stop (h : ∀ d c after, t = d :: c ++ after → ¬ IsMark (s ++ d :: c)) :
    afterImportantMark? (s ++ t) = (afterImportantMark? s).map (· ++ t) := by
  apply Option.ext
  intro after
  rw [Option.map_eq_some_iff, afterImportantMark?_eq_some_iff]
  constructor
  · rintro ⟨m, hm, hs⟩
    -- Either the mark ends in front of the part, or it goes on into it.
    rcases List.append_eq_append_iff.1 hs with ⟨c, rfl, hc⟩ | ⟨c, rfl, hc⟩
    · cases c with
      | nil =>
        refine ⟨[], afterImportantMark?_eq_some_iff.2 ⟨s, by simpa using hm, by simp⟩, ?_⟩
        simpa using hc
      | cons d c => exact absurd hm (h d c after hc)
    · exact ⟨c, afterImportantMark?_eq_some_iff.2 ⟨m, hm, rfl⟩, hc.symm⟩
  · rintro ⟨a, ha, rfl⟩
    obtain ⟨m, hm, rfl⟩ := afterImportantMark?_eq_some_iff.1 ha
    exact ⟨m, hm, List.append_assoc m a _⟩

/-- A mark does not reach across a semicolon. -/
theorem afterImportantMark?_append (s t : List Char) :
    afterImportantMark? (s ++ ';' :: t) = (afterImportantMark? s).map (· ++ ';' :: t) := by
  refine afterImportantMark?_append_of_stop fun d c after ht hm => ?_
  obtain ⟨rfl, -⟩ := List.cons.inj ht
  exact hm.no_semicolon (List.mem_append_right s List.mem_cons_self)

@[simp] theorem dropImportantMarks_nil : dropImportantMarks [] = [] := by
  unfold dropImportantMarks
  rfl

theorem dropImportantMarks_cons_of_none (h : afterImportantMark? (c :: s) = none) :
    dropImportantMarks (c :: s) = c :: dropImportantMarks s := by
  rw [dropImportantMarks.eq_def]
  dsimp only
  split
  · rfl
  · next a ha =>
    rw [h] at ha
    cases ha

theorem dropImportantMarks_cons_of_some (h : afterImportantMark? (c :: s) = some after) :
    dropImportantMarks (c :: s) = dropImportantMarks after := by
  rw [dropImportantMarks.eq_def]
  dsimp only
  split
  · next hn =>
    rw [h] at hn
    cases hn
  · next a ha =>
    rw [h] at ha
    rw [Option.some.inj ha]

/-- **Marks are dropped on each side of a semicolon** by itself. -/
theorem dropImportantMarks_append (s t : List Char) :
    dropImportantMarks (s ++ ';' :: t) = dropImportantMarks s ++ ';' :: dropImportantMarks t := by
  -- As the marks are dropped; no mark reaches over a semicolon.
  induction s using dropImportantMarks.induct with
  | case1 =>
    have hnone : afterImportantMark? (';' :: t) = none := afterImportantMark?_append [] t
    rw [List.nil_append, dropImportantMarks_cons_of_none hnone, dropImportantMarks_nil, List.nil_append]
  | case2 c rest h ih =>
    have hnone : afterImportantMark? (c :: (rest ++ ';' :: t)) = none := by
      rw [← List.cons_append, afterImportantMark?_append, h]
      rfl
    rw [List.cons_append, dropImportantMarks_cons_of_none hnone, dropImportantMarks_cons_of_none h, ih]
    rfl
  | case3 c rest after h ih =>
    have hsome : afterImportantMark? (c :: (rest ++ ';' :: t)) = some (after ++ ';' :: t) := by
      rw [← List.cons_append, afterImportantMark?_append, h]
      rfl
    rw [List.cons_append, dropImportantMarks_cons_of_some hsome, dropImportantMarks_cons_of_some h, ih]

/-- A text without an exclamation mark has no marks. -/
theorem dropImportantMarks_of_not_mem : ∀ {s : List Char}, '!' ∉ s → dropImportantMarks s = s
  | [], _ => dropImportantMarks_nil
  | c :: rest, h => by
    have hnone : afterImportantMark? (c :: rest) = none := by
      refine Option.eq_none_iff_forall_ne_some.2 fun after ha => ?_
      obtain ⟨m, hm, hs⟩ := afterImportantMark?_eq_some_iff.1 ha
      exact h (hs ▸ List.mem_append_left _ hm.mem_exclamation)
    rw [dropImportantMarks_cons_of_none hnone,
      dropImportantMarks_of_not_mem fun hr => h (List.mem_cons_of_mem c hr)]

/-- No characters come in. -/
theorem mem_of_mem_dropImportantMarks (h : c ∈ dropImportantMarks s) : c ∈ s := by
  induction s using dropImportantMarks.induct with
  | case1 =>
    rw [dropImportantMarks_nil] at h
    cases h
  | case2 d rest hn ih =>
    rw [dropImportantMarks_cons_of_none hn] at h
    rcases List.mem_cons.1 h with rfl | h
    · exact List.mem_cons_self
    · exact List.mem_cons_of_mem d (ih h)
  | case3 d rest after hs ih =>
    rw [dropImportantMarks_cons_of_some hs] at h
    obtain ⟨m, -, hm⟩ := afterImportantMark?_eq_some_iff.1 hs
    rw [hm]
    exact List.mem_append_right m (ih h)

/-- **Marks are dropped piece by piece.** -/
theorem splitOnChar_dropImportantMarks (s : List Char) :
    splitOnChar ';' (dropImportantMarks s) = (splitOnChar ';' s).map dropImportantMarks := by
  induction hn : s.length using Nat.strongRecOn generalizing s with
  | ind n ih =>
    -- Piece by piece: a mark holds no semicolon, so none is dropped with it.
    by_cases h : ';' ∈ s
    · obtain ⟨piece, rest, rfl, hp⟩ := List.eq_append_cons_of_mem h
      have hrest := ih rest.length (by simp at hn; omega) rest rfl
      rw [dropImportantMarks_append, splitOnChar_append_cons, splitOnChar_append_cons, hrest,
        splitOnChar_eq_singleton hp,
        splitOnChar_eq_singleton fun hd => hp (mem_of_mem_dropImportantMarks hd), List.map_append]
      rfl
    · rw [splitOnChar_eq_singleton h,
        splitOnChar_eq_singleton fun hd => h (mem_of_mem_dropImportantMarks hd)]
      rfl

end Mark

end HtmlMail.Css
