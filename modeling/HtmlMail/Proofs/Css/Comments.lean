import HtmlMail.Css.Stylesheet
import HtmlMail.Proofs.Text.Search

/-!
# The comments of a stylesheet

Comments are taken out one at a time, and each time the search begins at the front of what is left. A scan that reads
the text only once (`onePass`) takes the same comments out, unless something that is left begins a comment only
because the one behind it went.

* `joinedLines` : a stylesheet on one line, where the lines are those that do not begin with `//`;
* `onePass` : one scan from left to right, which leaves out what it finds between `/*` and `*/`;
* `withoutFirst?`, `Rounds` : one round of the loop, which takes the first comment out, and the rounds up to the one
  that finds none;
* `withoutFirst?_cases` : all that one round can do. It makes the text shorter (`length_of_withoutFirst?`), leaves its
  characters in their order (`sublist_of_withoutFirst?`), and the scan finds the same before and after
  (`onePass_of_withoutFirst?`);
* `rounds_removeComments`, `Rounds.onePass_eq` : the loop ends with the text without comments, which is what the scan
  has found;
* `stripComments_spec` : the same for stylesheets.
-/

namespace HtmlMail.Css

open Chars

/-! ### Lines -/

/-- The lines of a stylesheet that do not begin with `//`, one behind the other. -/
def joinedLines (css : String) : List Char :=
  ((css.toList.splitOn '\n').filter fun line => ¬ ['/', '/'] <+: trim line).flatten.filter (· ≠ '\r')

theorem splitOnChar_eq_splitOn (sep : Char) : ∀ s : List Char, splitOnChar sep s = s.splitOn sep
  | [] => List.splitOnP_nil.symm
  | c :: s => by
    have ih : splitOnChar sep s = s.splitOnP (· == sep) := splitOnChar_eq_splitOn sep s
    rw [List.splitOn, List.splitOnP_cons_eq_if_modifyHead, splitOnChar, ih]
    cases hs : s.splitOnP (· == sep) with
    | nil => exact absurd hs (List.splitOnP_ne_nil _ _)
    | cons piece pieces =>
      simp only [beq_iff_eq, List.modifyHead_cons]

theorem stripComments_eq (css : String) :
    (stripComments css).toList = removeComments (joinedLines css) := by
  have hline : (fun line => decide (¬ ['/', '/'] <+: trim line)) = (!isCommentLine ·) := by
    funext line
    simp only [isCommentLine, decide_not, ← List.isPrefixOf_iff_prefix, Bool.decide_eq_true]
  have hcr : (fun c : Char => decide (c ≠ '\r')) = (· != '\r') := by
    funext c
    rw [decide_not, bne, Bool.beq_eq_decide_eq]
  rw [stripComments, String.toList_ofList, joinedLines, hline, hcr, splitOnChar_eq_splitOn]

/-- No line end is left between the lines. -/
theorem not_mem_joinedLines (css : String) : '\r' ∉ joinedLines css ∧ '\n' ∉ joinedLines css := by
  constructor
  · intro h
    simp [joinedLines] at h
  · intro h
    obtain ⟨line, hline, hc⟩ := List.mem_flatten.1 (List.mem_of_mem_filter h)
    have hpiece : line ∈ splitOnChar '\n' css.toList := by
      rw [splitOnChar_eq_splitOn]
      exact List.mem_of_mem_filter hline
    exact not_mem_of_mem_splitOnChar hpiece hc

/-! ### The scan -/

section Scan

variable {c : Char} {s t : List Char}

mutual

/-- **One scan** from left to right. A comment is left out, everything else is kept. -/
def onePass : List Char → List Char
  | [] => []
  | '/' :: '*' :: rest => onePassComment rest
  | c :: rest => c :: onePass rest

/-- The scan in a comment: nothing is kept up to the end of the comment. -/
def onePassComment : List Char → List Char
  | [] => []
  | '*' :: '/' :: rest => onePass rest
  | _ :: rest => onePassComment rest

end

theorem onePass_commentStart (s : List Char) : onePass (commentStart ++ s) = onePassComment s := by
  rw [commentStart, List.cons_append, List.cons_append, List.nil_append, onePass]

theorem onePassComment_commentEnd (s : List Char) : onePassComment (commentEnd ++ s) = onePass s := by
  rw [commentEnd, List.cons_append, List.cons_append, List.nil_append, onePassComment]

theorem onePass_cons (h : ¬ commentStart <+: c :: s) : onePass (c :: s) = c :: onePass s := by
  rw [onePass]
  rintro rest rfl rfl
  exact h ⟨rest, rfl⟩

theorem onePassComment_cons (h : ¬ commentEnd <+: c :: s) :
    onePassComment (c :: s) = onePassComment s := by
  rw [onePassComment]
  rintro rest rfl rfl
  exact h ⟨rest, rfl⟩

/-- The scan keeps a part in which no comment begins. -/
theorem onePass_append (h : ∀ c u, c :: u <:+ s → ¬ commentStart <+: c :: u ++ t) :
    onePass (s ++ t) = s ++ onePass t := by
  induction s with
  | nil => rfl
  | cons c s ih =>
    have hrest := ih fun d u hu => h d u (hu.trans (List.suffix_cons c s))
    have hc : ¬ commentStart <+: c :: (s ++ t) := h c s List.suffix_rfl
    rw [List.cons_append, onePass_cons hc, hrest, List.cons_append]

/-- The scan leaves out a part in which a comment does not end. -/
theorem onePassComment_append (h : ∀ c u, c :: u <:+ s → ¬ commentEnd <+: c :: u ++ t) :
    onePassComment (s ++ t) = onePassComment t := by
  induction s with
  | nil => rfl
  | cons c s ih =>
    have hrest := ih fun d u hu => h d u (hu.trans (List.suffix_cons c s))
    have hc : ¬ commentEnd <+: c :: (s ++ t) := h c s List.suffix_rfl
    rw [List.cons_append, onePassComment_cons hc, hrest]

theorem onePass_eq_self (h : ¬ commentStart <:+: s) : onePass s = s := by
  have hend : Apart commentStart s [] := apart_of_head fun d hd => nomatch hd
  have happend := onePass_append (hend.not_begins h)
  rwa [List.append_nil, onePass, List.append_nil] at happend

theorem onePassComment_eq_nil (h : ¬ commentEnd <:+: s) : onePassComment s = [] := by
  have hend : Apart commentEnd s [] := apart_of_head fun d hd => nomatch hd
  have happend := onePassComment_append (hend.not_begins h)
  rwa [List.append_nil, onePassComment] at happend

end Scan

/-! ### One round -/

section Round

variable {s t : List Char}

/-- **One round of the loop**: the text without its first comment, or nothing if it has none. A comment that is not
closed runs to the end. -/
def withoutFirst? (s : List Char) : Option (List Char) :=
  (splitFirst? commentStart s).map fun (before, comment) =>
    match splitFirst? commentEnd comment with
    | none => before
    | some (_, after) => before ++ after

theorem withoutFirst?_eq_none_iff : withoutFirst? s = none ↔ ¬ commentStart <:+: s := by
  rw [withoutFirst?, Option.map_eq_none_iff, splitFirst?_eq_none_iff]

/-- **All that one round can do**: the first comment is closed and goes, or it is not and goes with all that follows. -/
theorem withoutFirst?_cases (h : withoutFirst? s = some t) : ∃ before comment,
    splitFirst? commentStart s = some (before, comment) ∧
    ((splitFirst? commentEnd comment = none ∧ t = before) ∨
      ∃ inner after, splitFirst? commentEnd comment = some (inner, after) ∧ t = before ++ after) := by
  obtain ⟨⟨before, comment⟩, hstart, ht⟩ := Option.map_eq_some_iff.1 h
  refine ⟨before, comment, hstart, ?_⟩
  dsimp only at ht
  split at ht
  · next hopen => exact .inl ⟨hopen, ht.symm⟩
  · next inner after hclosed => exact .inr ⟨inner, after, hclosed, ht.symm⟩

/-- What a round leaves is part of the text, in the same order. -/
theorem sublist_of_withoutFirst? (h : withoutFirst? s = some t) : t.Sublist s := by
  obtain ⟨before, comment, hstart, ⟨-, rfl⟩ | ⟨inner, after, hclosed, rfl⟩⟩ := withoutFirst?_cases h
  · rw [splitFirst?_eq_some hstart, List.append_assoc]
    exact List.sublist_append_left _ _
  · rw [splitFirst?_eq_some hstart, splitFirst?_eq_some hclosed, List.append_assoc]
    exact (List.sublist_append_of_sublist_right
      (List.sublist_append_of_sublist_right (List.Sublist.refl after))).append_left before

/-- A round takes two characters at least. -/
theorem length_of_withoutFirst? (h : withoutFirst? s = some t) : t.length + 2 ≤ s.length := by
  obtain ⟨before, comment, hstart, ht⟩ := withoutFirst?_cases h
  have hs := congrArg List.length (splitFirst?_eq_some hstart)
  simp only [List.length_append, commentStart, List.length_cons, List.length_nil] at hs
  obtain ⟨-, rfl⟩ | ⟨inner, after, hclosed, rfl⟩ := ht
  · omega
  · have hcomment := congrArg List.length (splitFirst?_eq_some hclosed)
    simp only [List.length_append] at hcomment ⊢
    omega

/-- **The scan finds the same** before and after a round, if nothing of what it found begins a comment. -/
theorem onePass_of_withoutFirst? (h : withoutFirst? s = some t) (hs : ¬ commentStart <:+: onePass s) :
    onePass t = onePass s := by
  obtain ⟨before, comment, hstart, ht⟩ := withoutFirst?_cases h
  have hbefore : ¬ commentStart <:+: before := not_infix_of_splitFirst? (List.cons_ne_nil _ _) hstart
  have hscan : onePass s = before ++ onePassComment comment :=
    calc
      onePass s = onePass (before ++ (commentStart ++ comment)) := by
        rw [splitFirst?_eq_some hstart, List.append_assoc]
      _ = before ++ onePass (commentStart ++ comment) := onePass_append (not_begins_of_splitFirst? hstart comment)
      _ = before ++ onePassComment comment := by rw [onePass_commentStart]
  obtain ⟨hopen, rfl⟩ | ⟨inner, after, hclosed, rfl⟩ := ht
  · -- The comment is not closed, and the scan finds nothing in it either.
    rw [hscan, onePassComment_eq_nil (splitFirst?_eq_none_iff.1 hopen), List.append_nil, onePass_eq_self hbefore]
  · have hcomment : onePassComment comment = onePass after :=
      calc
        onePassComment comment = onePassComment (inner ++ (commentEnd ++ after)) := by
          rw [splitFirst?_eq_some hclosed, List.append_assoc]
        _ = onePassComment (commentEnd ++ after) := onePassComment_append (not_begins_of_splitFirst? hclosed after)
        _ = onePass after := onePassComment_commentEnd after
    rw [hscan, hcomment] at hs ⊢
    -- What begins across the border would stand in what the scan found, too.
    have hborder : Apart commentStart before after := by
      refine apart_of_pair fun c hc d hd hpair => hs ?_
      obtain ⟨front, rfl⟩ := List.getLast?_eq_some_iff.1 hc
      obtain ⟨rest, rfl⟩ := List.head?_eq_some_iff.1 hd
      obtain ⟨rfl, rfl⟩ : c = '/' ∧ d = '*' := by
        simpa [commentStart] using mem_of_pair hpair
      have hkept : onePass ('*' :: rest) = '*' :: onePass rest := onePass_cons (by simp [commentStart])
      rw [hkept]
      exact ⟨front, onePass rest, by simp [commentStart]⟩
    exact onePass_append (hborder.not_begins hbefore)

end Round

/-! ### The loop -/

/-- **The rounds of the loop** from a text to the first one without comments. -/
inductive Rounds : ℕ → List Char → List Char → Prop
  | stop {s : List Char} (h : withoutFirst? s = none) : Rounds 0 s s
  | again {n : ℕ} {s t u : List Char} (h : withoutFirst? s = some t) (rounds : Rounds n t u) : Rounds (n + 1) s u

namespace Rounds

variable {n : ℕ} {s t : List Char}

/-- No comment begins in what the loop ends with. -/
theorem not_infix (h : Rounds n s t) : ¬ commentStart <:+: t := by
  induction h with
  | stop hstop => exact withoutFirst?_eq_none_iff.1 hstop
  | again _ _ ih => exact ih

theorem sublist (h : Rounds n s t) : t.Sublist s := by
  induction h with
  | stop => exact List.Sublist.refl _
  | again hround _ ih => exact ih.trans (sublist_of_withoutFirst? hround)

/-- The rounds are few, since each of them takes two characters at least. -/
theorem length_le (h : Rounds n s t) : t.length + 2 * n ≤ s.length := by
  induction h with
  | stop => exact Nat.le_refl _
  | again hround _ ih =>
    have := length_of_withoutFirst? hround
    omega

/-- **The loop ends with what the scan finds**, if no comment begins in that. -/
theorem onePass_eq (h : Rounds n s t) (hs : ¬ commentStart <:+: onePass s) : t = onePass s := by
  induction h with
  | stop hstop => exact (onePass_eq_self (withoutFirst?_eq_none_iff.1 hstop)).symm
  | again hround _ ih =>
    have hsame := onePass_of_withoutFirst? hround hs
    rw [ih (hsame ▸ hs), hsame]

end Rounds

/-- **The loop ends** with the text without comments. -/
theorem rounds_removeComments (s : List Char) : ∃ n, Rounds n s (removeComments s) := by
  -- One case for each way out of a round; only the last one goes on.
  fun_induction removeComments s with
  | case1 s hstart => exact ⟨0, .stop (by rw [withoutFirst?, hstart]; rfl)⟩
  | case2 s before comment hstart hopen =>
    have hbefore : ¬ commentStart <:+: before := not_infix_of_splitFirst? (List.cons_ne_nil _ _) hstart
    refine ⟨1, .again (t := before) ?_ (.stop (withoutFirst?_eq_none_iff.2 hbefore))⟩
    rw [withoutFirst?, hstart, Option.map_some]
    simp only [hopen]
  | case3 s before comment hstart inner after hclosed ih =>
    obtain ⟨n, hrest⟩ := ih
    refine ⟨n + 1, .again ?_ hrest⟩
    rw [withoutFirst?, hstart, Option.map_some]
    simp only [hclosed]

/-- **Comments are taken out of a stylesheet.** Whatever its text, the loop that begins with its joined lines ends,
after half as many rounds as they have characters at the most. What it ends with has no line ends and begins no
comment; and it is what one scan finds in the joined lines exactly when no comment begins in that. -/
theorem stripComments_spec (css : String) :
    (∃ n, 2 * n ≤ (joinedLines css).length ∧ Rounds n (joinedLines css) (stripComments css).toList) ∧
    ('\r' ∉ (stripComments css).toList ∧ '\n' ∉ (stripComments css).toList ∧
      ¬ commentStart <:+: (stripComments css).toList) ∧
    ((stripComments css).toList = onePass (joinedLines css) ↔ ¬ commentStart <:+: onePass (joinedLines css)) := by
  rw [stripComments_eq]
  obtain ⟨n, hrounds⟩ := rounds_removeComments (joinedLines css)
  -- The rounds only leave characters out, so no line break comes back.
  obtain ⟨hcr, hlf⟩ := not_mem_joinedLines css
  have hlength := hrounds.length_le
  refine ⟨⟨n, by omega, hrounds⟩, ⟨?_, ?_, hrounds.not_infix⟩, fun h => h ▸ hrounds.not_infix, hrounds.onePass_eq⟩
  · exact fun h => hcr (hrounds.sublist.subset h)
  · exact fun h => hlf (hrounds.sublist.subset h)

/-- What is left of a text around a comment can make another comment, which a single scan does not see. -/
example : stripComments "a//**/*b*/c" = "ac" ∧ onePass (joinedLines "a//**/*b*/c") = "a/*b*/c".toList := by
  decide +kernel

end HtmlMail.Css
