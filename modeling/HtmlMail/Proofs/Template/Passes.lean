import HtmlMail.Proofs.Template.Blocks
import Mathlib.Dynamics.FixedPoints.Basic

/-!
# Passes over a text

A flag is evaluated pass by pass, because a block that goes can leave another one behind: one that stood in it, or
one whose marks were apart before. So it is not plain how many passes a text needs. What settles it is the length.
A pass that finds a block takes its two marks off and puts nothing in but a part of what stood between them, and a pass
that finds none changes nothing. The marks of a block have at least `2 * |name| + 9` characters. So a text does
not stand more passes with a change than these marks find room in it, and a text that has no room for 33 blocks is
finished by the passes that are allowed.

* `length_chosenBranch_le` : what a block shows is not longer than its content;
* `HoldsBlock.exists_cut` : the search for a block finds one if there is any;
* `length_resolveBlocks_of_block`, `HoldsBlock.length_resolveBlocks_add_le` : then the text loses the marks;
* `evaluate_eq_or_length_add_le` : what one pass does to a text, and `isFixedPt_or_length_iterate_le` : what some passes
  do, by induction;
* `evaluateUpTo_eq_iterate` : it makes no difference that the passes stop once nothing changes;
* `evaluate_shrinks_to_fixedPt` : every text is finished after some passes, and a text of bounded length after those that
  are allowed, also in a template with other flags.
-/

namespace HtmlMail.Template

open Chars Function

/-! ### What a pass takes off -/

section Blocks

variable {name s : List Char} {negated shown : Bool}

/-- **What a block shows** is not longer than its content. -/
theorem length_chosenBranch_le (inner : List Char) (shown : Bool) :
    (chosenBranch inner shown).length ≤ inner.length := by
  by_cases h : ∃ whenShown otherwise, AreParts inner whenShown otherwise
  · obtain ⟨whenShown, otherwise, hparts⟩ := h
    have hlength := congrArg List.length hparts.1
    rw [List.length_append, List.length_append] at hlength
    rw [chosenBranch_of_parts hparts]
    split <;> omega
  · rw [chosenBranch_of_not_parts h]
    split
    · exact Nat.le_refl _
    · exact Nat.zero_le _

/-- The marks of a block; those of a negated block have one character more each. -/
theorem le_length_marks (name : List Char) (negated : Bool) :
    2 * name.length + 9 ≤ (openingMark name negated).length + (closingMark name negated).length := by
  cases negated <;> simp [openingMark, closingMark] <;> omega

/-- **The search finds a block** if there is any, though not always the one that is known. -/
theorem HoldsBlock.exists_cut (h : HoldsBlock name negated s) : ∃ before opened inner after,
    splitFirst? (openingMark name negated) s = some (before, opened) ∧
      splitFirst? (closingMark name negated) opened = some (inner, after) := by
  cases hopen : splitFirst? (openingMark name negated) s with
  | none => exact absurd h.infix.1 (splitFirst?_eq_none_iff.1 hopen)
  | some cut =>
    obtain ⟨before, opened⟩ := cut
    obtain ⟨front, inner, after, hs⟩ := h
    -- The first opening mark is not behind the known one, so the known closing mark is behind the first one.
    have hle := length_le_of_splitFirst? hopen hs
    have hcut := splitFirst?_eq_some hopen
    have hlength := congrArg List.length (hs.symm.trans hcut)
    simp only [List.length_append] at hlength
    have hsuffix : inner ++ closingMark name negated ++ after <:+ opened := by
      refine List.suffix_of_suffix_length_le ⟨front ++ openingMark name negated, hs.symm⟩
        ⟨before ++ openingMark name negated, hcut.symm⟩ ?_
      simp only [List.length_append]
      omega
    have hclosing : closingMark name negated <:+: opened :=
      List.IsInfix.trans ⟨inner, after, rfl⟩ hsuffix.isInfix
    cases hclose : splitFirst? (closingMark name negated) opened with
    | none => exact absurd hclosing (splitFirst?_eq_none_iff.1 hclose)
    | some cut => exact ⟨before, opened, cut.1, cut.2, rfl, hclose⟩

/-- **A block** takes its marks with it when it goes, and behind it the text goes on. -/
theorem length_resolveBlocks_of_block (shown : Bool) {before opened inner after : List Char}
    (hopen : splitFirst? (openingMark name negated) s = some (before, opened))
    (hclose : splitFirst? (closingMark name negated) opened = some (inner, after)) :
    (resolveBlocks name negated shown s).length + (2 * name.length + 9) + after.length ≤
      s.length + (resolveBlocks name negated shown after).length := by
  -- Both marks are gone, and no more is shown than there was inside.
  have hinner := length_chosenBranch_le inner shown
  have hmarks := le_length_marks name negated
  have hlength : s.length = _ := congrArg List.length (splitFirst?_eq_some hopen)
  rw [splitFirst?_eq_some hclose] at hlength
  rw [resolveBlocks_of_block hopen hclose]
  simp only [List.length_append] at hlength ⊢
  omega

/-- No pass makes a text longer. -/
theorem length_resolveBlocks_le (name : List Char) (negated shown : Bool) (s : List Char) :
    (resolveBlocks name negated shown s).length ≤ s.length := by
  by_cases h : HoldsBlock name negated s
  · obtain ⟨before, opened, inner, after, hopen, hclose⟩ := h.exists_cut
    have hafter := length_resolveBlocks_le name negated shown after
    have hblock := length_resolveBlocks_of_block shown hopen hclose
    omega
  · rw [resolveBlocks_eq_self h]
termination_by s.length
decreasing_by
  exact Nat.lt_trans (length_after_lt (closingMark_ne_nil name negated) hclose)
    (length_after_lt (openingMark_ne_nil name negated) hopen)

/-- **A text with a block** loses the marks of the block at least. -/
theorem HoldsBlock.length_resolveBlocks_add_le (h : HoldsBlock name negated s) :
    (resolveBlocks name negated shown s).length + (2 * name.length + 9) ≤ s.length := by
  obtain ⟨before, opened, inner, after, hopen, hclose⟩ := h.exists_cut
  have hafter := length_resolveBlocks_le name negated shown after
  have hblock := length_resolveBlocks_of_block shown hopen hclose
  omega

end Blocks

/-! ### One pass and many -/

section Passes

variable {name text : String} {state : Bool}

theorem length_evaluate_le (name : String) (state : Bool) (text : String) :
    (evaluate name state text).length ≤ text.length := by
  rw [evaluate, String.length_ofList, ← String.length_toList (s := text)]
  exact (length_resolveBlocks_le _ _ _ _).trans (length_resolveBlocks_le _ _ _ _)

/-- **A pass that finds a block**, of whichever sense, takes its marks off. -/
theorem length_evaluate_add_le {negated : Bool} (h : HoldsBlock name.toList negated text.toList) :
    (evaluate name state text).length + (2 * name.length + 9) ≤ text.length := by
  rw [evaluate, String.length_ofList, ← String.length_toList (s := text), ← String.length_toList (s := name)]
  by_cases hset : HoldsBlock name.toList false text.toList
  · have hfirst : (resolveBlocks name.toList false state text.toList).length + (2 * name.toList.length + 9) ≤
        text.toList.length := hset.length_resolveBlocks_add_le
    have hsecond := length_resolveBlocks_le name.toList true (!state) (resolveBlocks name.toList false state text.toList)
    omega
  · -- The blocks of the set flag leave the text to the negated ones as it is.
    cases negated with
    | false => exact absurd h hset
    | true =>
      rw [resolveBlocks_eq_self hset]
      exact h.length_resolveBlocks_add_le

/-- **What is left alone** is a text without a block of either sense. -/
theorem evaluate_eq_self_iff :
    evaluate name state text = text ↔ ∀ negated, ¬ HoldsBlock name.toList negated text.toList := by
  constructor
  · intro h negated hblock
    have hlength : (evaluate name state text).length + (2 * name.length + 9) ≤ text.length :=
      length_evaluate_add_le hblock
    rw [h] at hlength
    omega
  · intro h
    rw [evaluate, resolveBlocks_eq_self (h false), resolveBlocks_eq_self (h true), String.ofList_toList]

/-- **One pass** changes nothing or takes the marks of a block off. -/
theorem evaluate_eq_or_length_add_le (name : String) (state : Bool) (text : String) :
    evaluate name state text = text ∨
      (evaluate name state text).length + (2 * name.length + 9) ≤ text.length := by
  by_cases h : ∀ negated, ¬ HoldsBlock name.toList negated text.toList
  · exact .inl (evaluate_eq_self_iff.2 h)
  · obtain ⟨negated, hblock⟩ := not_forall_not.1 h
    exact .inr (length_evaluate_add_le hblock)

/-- **Some passes** come to an end, or each of them and the next one take marks off. -/
theorem isFixedPt_or_length_iterate_le (name : String) (state : Bool) (passes : Nat) (text : String) :
    IsFixedPt (evaluate name state) ((evaluate name state)^[passes] text) ∨
      ((evaluate name state)^[passes + 1] text).length + (passes + 1) * (2 * name.length + 9) ≤ text.length := by
  induction passes generalizing text with
  | zero =>
    rw [Nat.zero_add, Nat.one_mul]
    exact evaluate_eq_or_length_add_le name state text
  | succ passes ih =>
    rcases evaluate_eq_or_length_add_le name state text with hsame | hless
    · -- Nothing changes in the first pass, so nothing changes later.
      left
      rwa [iterate_fixed hsame]
    · rcases ih (evaluate name state text) with hfixed | hlater
      · exact .inl hfixed
      · right
        rw [iterate_succ_apply, Nat.succ_mul]
        omega

/-- A text that has no room for the marks of one more block is finished. -/
theorem isFixedPt_iterate_evaluate {passes : Nat} (h : text.length < (passes + 1) * (2 * name.length + 9)) :
    IsFixedPt (evaluate name state) ((evaluate name state)^[passes] text) := by
  refine (isFixedPt_or_length_iterate_le name state passes text).resolve_right fun hlength => ?_
  omega

/-- **To stop once nothing changes** makes no difference. -/
theorem evaluateUpTo_eq_iterate (name : String) (state : Bool) (passes : Nat) (text : String) :
    evaluateUpTo name state passes text = (evaluate name state)^[passes] text := by
  induction passes generalizing text with
  | zero => rfl
  | succ passes ih =>
    unfold evaluateUpTo
    dsimp only
    split
    · next hsame => exact (iterate_fixed hsame _).symm
    · rw [ih, iterate_succ_apply]

/-- **One pass is enough** for a flag that finds nothing more to do in the next one. -/
theorem evaluateUpTo_succ_of_stable
    (h : evaluate name state (evaluate name state text) = evaluate name state text) (passes : Nat) :
    evaluateUpTo name state (passes + 1) text = evaluate name state text := by
  rw [evaluateUpTo_eq_iterate, iterate_succ_apply, iterate_fixed h]

/-- A tag does not make a text longer when its turn comes. -/
theorem length_resolveIn_le (tag : Tag) (text : String) : (tag.resolveIn text).length ≤ text.length := by
  unfold Tag.resolveIn
  split
  · exact Nat.le_refl _
  · next state _ =>
    rw [evaluateUpTo_eq_iterate]
    -- However many passes there are, none makes the text longer.
    generalize maxPasses = passes
    induction passes generalizing text with
    | zero => exact Nat.le_refl _
    | succ passes ih =>
      rw [iterate_succ_apply]
      exact (ih _).trans (length_evaluate_le tag.name state text)

/-- Nor do several tags in turn. -/
theorem length_foldl_resolveIn_le (tags : List Tag) (text : String) :
    (tags.foldl (fun text tag => tag.resolveIn text) text).length ≤ text.length := by
  induction tags generalizing text with
  | nil => exact Nat.le_refl _
  | cons tag tags ih =>
    rw [List.foldl_cons]
    exact (ih _).trans (length_resolveIn_le tag text)

end Passes

/-- **Passes make a text shorter until nothing is left to do.** Let a flag of any name be in any state.

* A pass over any text changes nothing or makes the text shorter by `2 * |name| + 9` characters or more, and it changes
  nothing exactly if the text holds no block of the flag, of either sense.
* Every text is finished after as many passes as this number goes into its length.
* A text of less than 33 times this number of characters is finished after the passes that are allowed, and more of
  them would change nothing.
* So it is when the turn of the flag comes in a template of such a length, whatever tags were there before. -/
theorem evaluate_shrinks_to_fixedPt (name : String) (state : Bool) :
    (∀ text, evaluate name state text = text ∨
      (evaluate name state text).length + (2 * name.length + 9) ≤ text.length) ∧
    (∀ text, evaluate name state text = text ↔ ∀ negated, ¬ HoldsBlock name.toList negated text.toList) ∧
    (∀ text, IsFixedPt (evaluate name state)
      ((evaluate name state)^[text.length / (2 * name.length + 9)] text)) ∧
    (∀ text, text.length < 33 * (2 * name.length + 9) →
      IsFixedPt (evaluate name state) (evaluateUpTo name state maxPasses text) ∧
      ∀ passes, maxPasses ≤ passes → evaluateUpTo name state passes text = evaluateUpTo name state maxPasses text) ∧
    ∀ (tags : List Tag) (tag : Tag) (text : String), tag.name = name → tag.flagState? = some state →
      text.length < 33 * (2 * name.length + 9) →
      IsFixedPt (evaluate name state) ((tags ++ [tag]).foldl (fun text tag => tag.resolveIn text) text) := by
  have hfixed : ∀ text : String, text.length < 33 * (2 * name.length + 9) →
      IsFixedPt (evaluate name state) (evaluateUpTo name state maxPasses text) := by
    intro text htext
    rw [evaluateUpTo_eq_iterate]
    exact isFixedPt_iterate_evaluate htext
  refine ⟨evaluate_eq_or_length_add_le name state, fun text => evaluate_eq_self_iff, fun text => ?_,
    fun text htext => ⟨hfixed text htext, fun passes hpasses => ?_⟩, fun tags tag text hname hstate htext => ?_⟩
  · apply isFixedPt_iterate_evaluate
    rw [Nat.mul_comm]
    exact Nat.lt_mul_div_succ text.length (Nat.succ_pos _)
  · -- Behind a text that is fixed, further passes change nothing.
    obtain ⟨more, rfl⟩ := Nat.exists_eq_add_of_le' hpasses
    have hend := hfixed text htext
    rw [evaluateUpTo_eq_iterate] at hend
    rw [evaluateUpTo_eq_iterate, evaluateUpTo_eq_iterate, iterate_add_apply]
    exact iterate_fixed hend more
  · -- The tags in front can only have made the text shorter.
    subst hname
    rw [List.foldl_append, List.foldl_cons, List.foldl_nil, Tag.resolveIn, hstate]
    exact hfixed _ ((length_foldl_resolveIn_le tags text).trans_lt htext)

/-- A flag that is set. -/
def setFlag : Tag := ⟨"y", "true", by decide⟩

/-- A flag that is not set. -/
def unsetFlag : Tag := ⟨"x", "false", by decide⟩

/-- A block stands between the halves of a mark. When it has gone they are a mark, and a second pass finds one more
block, also in a template where the block of another flag has to go first. -/
theorem evaluate_splitMark : "[#x[#x#]a[#/x#]#]b[#else#]c[#/x#]".length < 33 * (2 * "x".length + 9) ∧
    evaluate "x" false "[#x[#x#]a[#/x#]#]b[#else#]c[#/x#]" = "[#x#]b[#else#]c[#/x#]" ∧
    evaluateUpTo "x" false maxPasses "[#x[#x#]a[#/x#]#]b[#else#]c[#/x#]" = "c" ∧
    IsFixedPt (evaluate "x" false) (evaluateUpTo "x" false maxPasses "[#x[#x#]a[#/x#]#]b[#else#]c[#/x#]") ∧
    unsetFlag.name = "x" ∧ unsetFlag.flagState? = some false ∧
    "[#x[#y#][#x#]a[#/x#][#/y#]#]b[#/x#]".length < 33 * (2 * "x".length + 9) ∧
    IsFixedPt (evaluate "x" false) (([setFlag] ++ [unsetFlag]).foldl (fun text tag => tag.resolveIn text)
      "[#x[#y#][#x#]a[#/x#][#/y#]#]b[#/x#]") := by
  have hshort : "[#x[#x#]a[#/x#]#]b[#else#]c[#/x#]".length < 33 * (2 * "x".length + 9) := by decide
  have hlong : "[#x[#y#][#x#]a[#/x#][#/y#]#]b[#/x#]".length < 33 * (2 * "x".length + 9) := by decide
  have hstate : unsetFlag.flagState? = some false := by decide
  obtain ⟨-, -, -, hpasses, htemplate⟩ := evaluate_shrinks_to_fixedPt "x" false
  exact ⟨hshort, by decide +kernel, by decide +kernel, (hpasses _ hshort).1, rfl, hstate, hlong,
    htemplate [setFlag] unsetFlag _ rfl hstate hlong⟩

end HtmlMail.Template
