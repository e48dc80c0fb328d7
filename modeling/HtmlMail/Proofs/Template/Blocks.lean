import HtmlMail.Proofs.Text.Search
import HtmlMail.Template.Conditional
import Mathlib.Data.List.Basic

/-!
# One flag in a text

A flag is evaluated by a search for its marks, first those of the one sense and then, in the result, those of the
other. What it comes to is said here block by block, for any text around the blocks and in them: the text between blocks
stays, and a block shows its branch. The text may hold other marks, and halves of marks, as long as no mark of the flag
comes in beside those of the blocks.

A mark begins with the only opening bracket in it and ends with the only closing one. So none lies across the border in
front of another mark or behind it, and the first closing mark after an opening one is that of the block. But a
mark may lie across the borders of a branch, once the marks around it are gone.

* `chosenBranch_of_parts`, `chosenBranch_of_not_parts` : what a block shows;
* `resolveBlocks_of_block`, `resolveBlocks_append` : the first block of a text, and what stands in front of it;
* `Segment`, `Segment.spell` : a text and its blocks, `runs` : the texts between blocks, and `IsFree` : no mark of the
  flag comes in;
* `resolveBlocks_spell` : the blocks of one sense;
* `evaluate_spell` : the blocks of a flag, and the texts without one.
-/

namespace HtmlMail.Template

open Chars

/-! ### The branches of a block -/

section Branches

variable {inner whenShown otherwise : List Char} {shown : Bool}

theorem chosenBranch_of_pair (h : splitOn elseMark inner = [whenShown, otherwise]) :
    chosenBranch inner shown = if shown then whenShown else otherwise := by
  unfold chosenBranch
  rw [h]
  cases shown <;> rfl

theorem chosenBranch_of_length_ne (h : (splitOn elseMark inner).length ≠ 2) :
    chosenBranch inner shown = if shown then inner else [] := by
  unfold chosenBranch
  split
  · next heq =>
    rw [heq] at h
    exact absurd rfl h
  · next heq =>
    rw [heq] at h
    exact absurd rfl h
  · rfl
  · rfl

/-- **The two parts of a content** that holds the mark between branches once. -/
def AreParts (inner whenShown otherwise : List Char) : Prop :=
  inner = whenShown ++ elseMark ++ otherwise ∧ ¬ elseMark <:+: whenShown ∧ ¬ elseMark <:+: otherwise

theorem splitOn_eq_pair_iff : splitOn elseMark inner = [whenShown, otherwise] ↔ AreParts inner whenShown otherwise := by
  have hne : elseMark ≠ [] := by decide
  constructor
  · intro h
    have hwhole := intercalate_splitOn elseMark inner
    rw [h, List.intercalate_cons_cons, List.intercalate_singleton] at hwhole
    refine ⟨hwhole.symm, not_infix_of_mem_splitOn hne (s := inner) ?_, not_infix_of_mem_splitOn hne (s := inner) ?_⟩
    · rw [h]
      exact List.mem_cons_self
    · rw [h]
      exact List.mem_cons_of_mem _ (List.mem_singleton.2 rfl)
  · rintro ⟨rfl, hfirst, hsecond⟩
    -- The first part is taken whole, since no mark lies across its end.
    have hapart : Apart elseMark whenShown (elseMark ++ otherwise) := by
      have hhead : elseMark.head? = some '[' := by decide
      refine apart_of_head fun d hd => ?_
      rw [List.head?_append_of_ne_nil _ hne, hhead] at hd
      cases hd
      decide
    rw [List.append_assoc, splitOn_append hne (hapart.not_begins hfirst), splitOn_append_self hne,
      splitOn_eq_singleton hsecond, List.modifyHead_cons, List.append_nil]

/-- **A content with two parts** shows one of them. -/
theorem chosenBranch_of_parts (h : AreParts inner whenShown otherwise) (shown : Bool) :
    chosenBranch inner shown = if shown then whenShown else otherwise :=
  chosenBranch_of_pair (splitOn_eq_pair_iff.2 h)

/-- **Any other content** is shown as it is, or not at all. -/
theorem chosenBranch_of_not_parts (h : ¬ ∃ whenShown otherwise, AreParts inner whenShown otherwise) (shown : Bool) :
    chosenBranch inner shown = if shown then inner else [] := by
  refine chosenBranch_of_length_ne fun hlength => h ?_
  obtain ⟨first, second, hparts⟩ := List.length_eq_two.1 hlength
  exact ⟨first, second, splitOn_eq_pair_iff.1 hparts⟩

end Branches

/-! ### The first block of a text -/

section FirstBlock

variable {name s u before opened inner after : List Char} {negated shown : Bool}

/-- Without an opening mark there is nothing to resolve. -/
theorem resolveBlocks_of_no_opening (hopen : splitFirst? (openingMark name negated) s = none) :
    resolveBlocks name negated shown s = s := by
  rw [resolveBlocks]
  split
  · rfl
  · next h =>
    rw [hopen] at h
    cases h

/-- So it is without a closing mark behind it. -/
theorem resolveBlocks_of_unclosed (hopen : splitFirst? (openingMark name negated) s = some (before, opened))
    (hclose : splitFirst? (closingMark name negated) opened = none) :
    resolveBlocks name negated shown s = s := by
  rw [resolveBlocks]
  split
  · rfl
  · next h =>
    obtain ⟨rfl, rfl⟩ := Prod.mk.inj (Option.some.inj (hopen.symm.trans h))
    split
    · rfl
    · next h =>
      rw [hclose] at h
      cases h

/-- The first block is resolved, and then what follows it. -/
theorem resolveBlocks_of_block (hopen : splitFirst? (openingMark name negated) s = some (before, opened))
    (hclose : splitFirst? (closingMark name negated) opened = some (inner, after)) :
    resolveBlocks name negated shown s =
      before ++ chosenBranch inner shown ++ resolveBlocks name negated shown after := by
  rw [resolveBlocks]
  split
  · next h =>
    rw [hopen] at h
    cases h
  · next h =>
    obtain ⟨rfl, rfl⟩ := Prod.mk.inj (Option.some.inj (hopen.symm.trans h))
    split
    · next h =>
      rw [hclose] at h
      cases h
    · next h =>
      obtain ⟨rfl, rfl⟩ := Prod.mk.inj (Option.some.inj (hclose.symm.trans h))
      rfl

/-- **What opens no block** is passed over. -/
theorem resolveBlocks_append (h : ∀ c t, c :: t <:+ s → ¬ openingMark name negated <+: c :: t ++ u) :
    resolveBlocks name negated shown (s ++ u) = s ++ resolveBlocks name negated shown u := by
  -- The search for an opening mark passes over the front.
  have hsearch := splitFirst?_append h
  cases hopen : splitFirst? (openingMark name negated) u with
  | none =>
    rw [hopen] at hsearch
    rw [resolveBlocks_of_no_opening hsearch, resolveBlocks_of_no_opening hopen]
  | some cut =>
    obtain ⟨before, opened⟩ := cut
    rw [hopen] at hsearch
    cases hclose : splitFirst? (closingMark name negated) opened with
    | none => rw [resolveBlocks_of_unclosed hsearch hclose, resolveBlocks_of_unclosed hopen hclose]
    | some cut =>
      obtain ⟨inner, after⟩ := cut
      rw [resolveBlocks_of_block hsearch hclose, resolveBlocks_of_block hopen hclose]
      simp only [List.append_assoc]

/-- Whether a text holds a block: an opening mark and, somewhere behind it, the closing mark of the same sense. -/
def HoldsBlock (name : List Char) (negated : Bool) (s : List Char) : Prop :=
  ∃ before inner after, s = before ++ openingMark name negated ++ (inner ++ closingMark name negated ++ after)

theorem HoldsBlock.infix (h : HoldsBlock name negated s) :
    openingMark name negated <:+: s ∧ closingMark name negated <:+: s := by
  obtain ⟨before, inner, after, rfl⟩ := h
  exact ⟨⟨before, _, rfl⟩, ⟨before ++ openingMark name negated ++ inner, after, by simp only [List.append_assoc]⟩⟩

/-- **A text without a block** stays as it is, whatever marks it holds. -/
theorem resolveBlocks_eq_self (h : ¬ HoldsBlock name negated s) : resolveBlocks name negated shown s = s := by
  cases hopen : splitFirst? (openingMark name negated) s with
  | none => exact resolveBlocks_of_no_opening hopen
  | some cut =>
    obtain ⟨before, opened⟩ := cut
    refine resolveBlocks_of_unclosed hopen (splitFirst?_eq_none_iff.2 fun hclose => h ?_)
    obtain ⟨inner, after, rfl⟩ := hclose
    exact ⟨before, inner, after, splitFirst?_eq_some hopen⟩

end FirstBlock

/-! ### Marks in brackets -/

/-- A text that begins with the only opening bracket in it and ends with the only closing one. -/
def IsBracketed (m : List Char) : Prop := ∃ body, m = '[' :: (body ++ [']']) ∧ '[' ∉ body ∧ ']' ∉ body

namespace IsBracketed

variable {m m' s t : List Char}

theorem getLast? (h : IsBracketed m) : m.getLast? = some ']' := by
  obtain ⟨body, rfl, -⟩ := h
  rw [← List.cons_append, List.getLast?_concat]

/-- None lies across the border behind a closing bracket. -/
theorem apart_of_getLast (h : IsBracketed m) (hs : s.getLast? = some ']') : Apart m s t := by
  obtain ⟨body, rfl, -, hbody⟩ := h
  refine Chars.apart_of_getLast fun c hc => ?_
  obtain rfl : ']' = c := Option.some.inj (hs.symm.trans hc)
  rw [← List.cons_append, List.dropLast_concat]
  exact List.not_mem_cons_of_ne_of_not_mem (by decide) hbody

/-- None lies across the border in front of an opening bracket. -/
theorem apart_of_head (h : IsBracketed m) (ht : ∀ d ∈ t.head?, d = '[') : Apart m s t := by
  obtain ⟨body, rfl, hbody, -⟩ := h
  refine Chars.apart_of_head fun d hd => ?_
  rw [ht d hd, List.tail_cons, List.mem_append, not_or]
  exact ⟨hbody, by decide⟩

/-- One inside another one is that one. -/
theorem eq_of_infix (h : IsBracketed m) (h' : IsBracketed m') (hin : m <:+: m') : m = m' := by
  obtain ⟨body, rfl, -, hclosing⟩ := h
  obtain ⟨body', rfl, hopening', hclosing'⟩ := h'
  rcases List.infix_cons_iff.1 hin with hprefix | hlater
  · -- Both end at the first closing bracket.
    obtain ⟨rest, hrest⟩ := (List.cons_prefix_cons.1 hprefix).2
    rw [List.append_assoc, List.singleton_append] at hrest
    have hcut := congrArg (splitAtChar? ']') hrest
    rw [splitAtChar?_append_cons _ hclosing, splitAtChar?_append_cons _ hclosing'] at hcut
    rw [(Prod.mk.inj (Option.some.inj hcut)).1]
  · have hmem : '[' ∈ body' ++ [']'] := hlater.subset List.mem_cons_self
    rcases List.mem_append.1 hmem with hmem | hmem
    · exact absurd hmem hopening'
    · exact absurd hmem (by decide)

end IsBracketed

/-- Whether a text can stand between brackets. -/
def IsFlagText (name : List Char) : Prop := '[' ∉ name ∧ ']' ∉ name

instance : DecidablePred IsFlagText := fun name => inferInstanceAs (Decidable ('[' ∉ name ∧ ']' ∉ name))

section Marks

variable {name : List Char} {negated negated' : Bool}

/-- The marks of a flag. -/
def marks (name : List Char) : List (List Char) :=
  [openingMark name false, closingMark name false, openingMark name true, closingMark name true]

theorem openingMark_mem_marks (negated : Bool) : openingMark name negated ∈ marks name := by
  cases negated <;> simp [marks]

theorem closingMark_mem_marks (negated : Bool) : closingMark name negated ∈ marks name := by
  cases negated <;> simp [marks]

theorem IsFlagText.isBracketed_openingMark (h : IsFlagText name) (negated : Bool) :
    IsBracketed (openingMark name negated) := by
  refine ⟨'#' :: ((if negated then ['!'] else []) ++ name ++ ['#']), by simp [openingMark], ?_, ?_⟩
  · cases negated <;> simp [h.1]
  · cases negated <;> simp [h.2]

theorem IsFlagText.isBracketed_closingMark (h : IsFlagText name) (negated : Bool) :
    IsBracketed (closingMark name negated) := by
  refine ⟨'#' :: '/' :: ((if negated then ['!'] else []) ++ name ++ ['#']), by simp [closingMark], ?_, ?_⟩
  · cases negated <;> simp [h.1]
  · cases negated <;> simp [h.2]

theorem openingMark_injective (h : openingMark name negated = openingMark name negated') : negated = negated' := by
  have hlength := congrArg List.length h
  cases negated <;> cases negated' <;> simp [openingMark] at hlength ⊢

/-- No mark that opens a block closes one of the other sense. -/
theorem openingMark_ne_closingMark (negated : Bool) : openingMark name negated ≠ closingMark name (!negated) := by
  cases negated
  · intro h
    have hlength := congrArg List.length h
    simp [openingMark, closingMark] at hlength
  · simp [openingMark, closingMark]

end Marks

/-! ### A text as a row of blocks -/

/-- A part of a text: some text between blocks, or a block of one sense with its content. -/
inductive Segment where
  | chunk (s : List Char)
  | block (negated : Bool) (inner : List Char)
  deriving DecidableEq, Repr

namespace Segment

/-- How a part is written. -/
def text (name : List Char) : Segment → List Char
  | chunk s => s
  | block negated inner => openingMark name negated ++ inner ++ closingMark name negated

/-- The text that is made of some parts. -/
def spell (name : List Char) (segments : List Segment) : List Char := segments.flatMap (text name)

/-- What stands between the marks of a block. -/
def content? : Segment → Option (List Char)
  | chunk _ => none
  | block _ inner => some inner

/-- The part with the blocks of one sense replaced by what they show. -/
def resolve (negated shown : Bool) : Segment → Segment
  | chunk s => chunk s
  | block neg inner => if neg = negated then chunk (chosenBranch inner shown) else block neg inner

/-- **What is shown of a part** in a state of the flag: a text as it is, and a branch of a block. -/
def shown (state : Bool) : Segment → List Char
  | chunk s => s
  | block negated inner => chosenBranch inner (if negated then !state else state)

end Segment

open Segment

/-- The texts between the blocks, each one joined from the parts that follow one another there. -/
def runs : List Segment → List (List Char)
  | [] => [[]]
  | chunk s :: rest => (runs rest).modifyHead (s ++ ·)
  | block _ _ :: rest => [] :: runs rest

/-- **No mark of the flag comes in** beside those of the blocks: neither the texts between blocks, as they are joined,
nor the contents of the blocks hold one. -/
def IsFree (name : List Char) (segments : List Segment) : Prop :=
  ∀ s ∈ runs segments ++ segments.filterMap content?, ∀ m ∈ marks name, ¬ m <:+: s

instance (name : List Char) (segments : List Segment) : Decidable (IsFree name segments) :=
  inferInstanceAs (Decidable (∀ s ∈ runs segments ++ segments.filterMap content?, ∀ m ∈ marks name, ¬ m <:+: s))

section Segments

variable {name r s x : List Char} {negated neg shown state : Bool} {segments : List Segment}

@[simp] theorem spell_nil : spell name [] = [] := rfl

@[simp] theorem spell_cons (segment : Segment) (segments : List Segment) :
    spell name (segment :: segments) = segment.text name ++ spell name segments := List.flatMap_cons

theorem runs_ne_nil : ∀ segments : List Segment, runs segments ≠ []
  | [] => List.cons_ne_nil _ _
  | .chunk s :: rest => by
    obtain ⟨run, more, hruns⟩ := List.exists_cons_of_ne_nil (runs_ne_nil rest)
    rw [runs, hruns]
    exact List.cons_ne_nil _ _
  | .block _ _ :: _ => List.cons_ne_nil _ _

/-- A text in front of the parts belongs to the first text between blocks. -/
theorem not_infix_of_isFree {m : List Char} (h : IsFree name (.chunk r :: segments)) (hm : m ∈ marks name) :
    ¬ m <:+: r := by
  obtain ⟨run, more, hruns⟩ := List.exists_cons_of_ne_nil (runs_ne_nil segments)
  intro hin
  refine h (r ++ run) ?_ m hm (hin.trans (List.prefix_append r run).isInfix)
  simp [runs, hruns]

theorem isFree_chunk_append (h : IsFree name (.chunk r :: .chunk s :: segments)) :
    IsFree name (.chunk (r ++ s) :: segments) := by
  obtain ⟨run, more, hruns⟩ := List.exists_cons_of_ne_nil (runs_ne_nil segments)
  intro t ht
  refine h t ?_
  simpa [runs, hruns, content?] using ht

theorem isFree_of_chunk_block (h : IsFree name (.chunk r :: .block neg x :: segments)) :
    (∀ m ∈ marks name, ¬ m <:+: x) ∧ IsFree name (.chunk [] :: segments) := by
  obtain ⟨run, more, hruns⟩ := List.exists_cons_of_ne_nil (runs_ne_nil segments)
  refine ⟨h x (by simp [content?]), fun t ht => h t ?_⟩
  simp only [runs, hruns, List.modifyHead_cons, List.nil_append, List.filterMap_cons, content?, List.mem_append,
    List.mem_cons] at ht ⊢
  tauto

/-- **No block of the other sense** holds an opening mark. -/
theorem not_infix_text (hname : IsFlagText name) (hx : ∀ m ∈ marks name, ¬ m <:+: x) :
    ¬ openingMark name negated <:+: (Segment.block (!negated) x).text name := by
  have hm := hname.isBracketed_openingMark negated
  have hopens := hname.isBracketed_openingMark !negated
  have hcloses := hname.isBracketed_closingMark !negated
  have hclosing : ∀ d ∈ (closingMark name !negated).head?, d = '[' := fun d hd => (Option.some.inj hd).symm
  intro hin
  rw [Segment.text, (hm.apart_of_head hclosing).infix_append_iff,
    (hm.apart_of_getLast hopens.getLast?).infix_append_iff] at hin
  -- In the other opening mark, inside, or in the closing mark.
  rcases hin with (hin | hin) | hin
  · have hsame : negated = !negated := openingMark_injective (hm.eq_of_infix hopens hin)
    cases negated <;> cases hsame
  · exact hx _ (openingMark_mem_marks negated) hin
  · exact openingMark_ne_closingMark negated (hm.eq_of_infix hcloses hin)

/-- **A block of the sense** begins at the first opening mark and ends at the first closing one behind it. -/
theorem resolveBlocks_own (hname : IsFlagText name) (hr : ¬ openingMark name negated <:+: r)
    (hx : ¬ closingMark name negated <:+: x) (u : List Char) :
    resolveBlocks name negated shown (r ++ ((Segment.block negated x).text name ++ u)) =
      r ++ (chosenBranch x shown ++ resolveBlocks name negated shown u) := by
  have hbefore : Apart (openingMark name negated) r ((Segment.block negated x).text name ++ u) :=
    (hname.isBracketed_openingMark negated).apart_of_head fun d hd => (Option.some.inj hd).symm
  -- The closing mark does not reach out of what is inside.
  have hinner : Apart (closingMark name negated) x (closingMark name negated ++ u) :=
    (hname.isBracketed_closingMark negated).apart_of_head fun d hd => (Option.some.inj hd).symm
  have hopen := splitFirst?_append_self (openingMark name negated) (x ++ (closingMark name negated ++ u))
  have hclose := splitFirst?_append (hinner.not_begins hx)
  simp only [splitFirst?_append_self, Option.map_some, List.append_nil] at hclose
  rw [resolveBlocks_append (hbefore.not_begins hr), Segment.text, List.append_assoc, List.append_assoc,
    resolveBlocks_of_block hopen hclose, List.nil_append]

/-- **A block of the other sense** is passed over, with what stands in front of it. -/
theorem resolveBlocks_other (hname : IsFlagText name) (hr : ¬ openingMark name negated <:+: r)
    (hx : ∀ m ∈ marks name, ¬ m <:+: x) (u : List Char) :
    resolveBlocks name negated shown (r ++ ((Segment.block (!negated) x).text name ++ u)) =
      r ++ ((Segment.block (!negated) x).text name ++ resolveBlocks name negated shown u) := by
  have hm := hname.isBracketed_openingMark negated
  have hbefore : Apart (openingMark name negated) r ((Segment.block (!negated) x).text name) :=
    hm.apart_of_head fun d hd => (Option.some.inj hd).symm
  have hnone : ¬ openingMark name negated <:+: r ++ (Segment.block (!negated) x).text name := by
    rw [hbefore.infix_append_iff, not_or]
    exact ⟨hr, not_infix_text hname hx⟩
  have hlast : (r ++ (Segment.block (!negated) x).text name).getLast? = some ']' := by
    rw [Segment.text, ← List.append_assoc, List.getLast?_append, (hname.isBracketed_closingMark !negated).getLast?]
    rfl
  rw [← List.append_assoc, resolveBlocks_append ((hm.apart_of_getLast hlast).not_begins hnone), List.append_assoc]

/-- **To resolve a text is to resolve its parts.** -/
theorem resolveBlocks_append_spell (hname : IsFlagText name) : ∀ r, IsFree name (.chunk r :: segments) →
    resolveBlocks name negated shown (r ++ spell name segments) =
      r ++ spell name (segments.map (resolve negated shown)) := by
  -- The text in front gathers what stands between two blocks.
  induction segments with
  | nil =>
    intro r hfree
    have hr := not_infix_of_isFree hfree (openingMark_mem_marks negated)
    rw [List.map_nil, spell_nil, List.append_nil, resolveBlocks_of_no_opening (splitFirst?_eq_none_iff.2 hr)]
  | cons segment segments ih =>
    intro r hfree
    cases segment with
    | chunk s =>
      have hrest := ih (r ++ s) (isFree_chunk_append hfree)
      simpa only [spell_cons, Segment.text, List.append_assoc, List.map_cons, resolve] using hrest
    | block neg x =>
      have hr := not_infix_of_isFree hfree (openingMark_mem_marks negated)
      obtain ⟨hx, hrest⟩ := isFree_of_chunk_block hfree
      have hrest := ih [] hrest
      rw [List.nil_append, List.nil_append] at hrest
      rw [spell_cons, List.map_cons, resolve, spell_cons]
      split
      · next hsense =>
        subst hsense
        rw [resolveBlocks_own hname hr (hx _ (closingMark_mem_marks neg)), hrest]
        rfl
      · next hsense =>
        obtain rfl : neg = !negated := Bool.eq_not.2 hsense
        rw [resolveBlocks_other hname hr hx, hrest]

theorem resolveBlocks_spell (hname : IsFlagText name) (hfree : IsFree name segments) :
    resolveBlocks name negated shown (spell name segments) = spell name (segments.map (resolve negated shown)) := by
  refine resolveBlocks_append_spell hname [] fun s hs => hfree s ?_
  obtain ⟨run, more, hruns⟩ := List.exists_cons_of_ne_nil (runs_ne_nil segments)
  simpa [runs, hruns, content?] using hs

/-- Both senses resolved, a part is what is shown of it. -/
theorem resolve_resolve (segment : Segment) :
    resolve true (!state) (resolve false state segment) = .chunk (segment.shown state) := by
  cases segment with
  | chunk s => rfl
  | block neg x => cases neg <;> rfl

end Segments

/-- **One flag, block by block.** Let a name hold no brackets, and let a text be made of blocks of the flag and texts
between them, such that no mark of the flag comes in beside those of the blocks, neither before nor after the blocks of
the set flag are replaced. Then to evaluate the flag is to replace each block by what is shown of it. A block whose
content holds the mark between branches once shows the part before it or the part behind it, and any other block
its content or nothing. A text without a block, closed or not, stays as it is. -/
theorem evaluate_spell {name : String} (hname : IsFlagText name.toList) (state : Bool) :
    (∀ segments, IsFree name.toList segments → IsFree name.toList (segments.map (resolve false state)) →
      evaluate name state (String.ofList (spell name.toList segments)) =
        String.ofList (segments.flatMap (Segment.shown state))) ∧
    (∀ inner whenShown otherwise, AreParts inner whenShown otherwise → ∀ negated,
      (Segment.block negated inner).shown state = if state != negated then whenShown else otherwise) ∧
    (∀ inner, (¬ ∃ whenShown otherwise, AreParts inner whenShown otherwise) → ∀ negated,
      (Segment.block negated inner).shown state = if state != negated then inner else []) ∧
    ∀ text : String, (∀ negated, ¬ HoldsBlock name.toList negated text.toList) → evaluate name state text = text := by
  have hstate (negated : Bool) : (if negated then !state else state) = (state != negated) := by
    cases negated <;> cases state <;> rfl
  refine ⟨fun segments hbefore hafter => ?_, fun inner whenShown otherwise h negated => ?_, fun inner h negated => ?_,
    fun text h => ?_⟩
  · -- The blocks that the first pass leaves are shown by the second one, so nothing but chunks is left.
    have hshown : ∀ segments : List Segment, spell name.toList (segments.map fun segment =>
        .chunk (segment.shown state)) = segments.flatMap (Segment.shown state) := by
      intro segments
      rw [spell, List.flatMap_map]
      rfl
    simp only [evaluate, String.toList_ofList]
    rw [resolveBlocks_spell hname hbefore, resolveBlocks_spell hname hafter, List.map_map, ← hshown]
    congr 2
    exact List.map_congr_left fun segment _ => resolve_resolve segment
  · rw [Segment.shown, hstate, chosenBranch_of_parts h]
  · rw [Segment.shown, hstate, chosenBranch_of_not_parts h]
  · rw [evaluate, resolveBlocks_eq_self (h false), resolveBlocks_eq_self (h true), String.ofList_toList]

/-- A text with halves of marks at the ends of its parts; the flag bears some of the characters that marks are made
of. -/
def halfMarks : List Segment :=
  [.chunk "[".toList, .block false "x[#else#]y[#".toList, .chunk "a/#".toList, .block true "z\n[#else#]".toList,
    .chunk "#]".toList]

/-- The first block shows its second part and the other one its first part, and the halves stay halves. A mark that is
not closed stays too. -/
theorem evaluate_halfMarks : IsFlagText "a/#".toList ∧ IsFree "a/#".toList halfMarks ∧
    evaluate "a/#" false "[[#a/##]x[#else#]y[#[#/a/##]a/#[#!a/##]z\n[#else#][#/!a/##]#]" = "[y[#a/#z\n#]" ∧
    AreParts "x[#else#]y[#".toList "x".toList "y[#".toList ∧
    (Segment.block false "x[#else#]y[#".toList).shown false = "y[#".toList ∧
    (∀ negated, ¬ HoldsBlock "a/#".toList negated "x[#a/##]y[#/!a/##]".toList) ∧
    evaluate "a/#" true "x[#a/##]y[#/!a/##]" = "x[#a/##]y[#/!a/##]" := by
  have hname : IsFlagText "a/#".toList := by decide
  have hbefore : IsFree "a/#".toList halfMarks := by decide +kernel
  have hafter : IsFree "a/#".toList (halfMarks.map (resolve false false)) := by decide +kernel
  have htext : String.ofList (spell "a/#".toList halfMarks) =
      "[[#a/##]x[#else#]y[#[#/a/##]a/#[#!a/##]z\n[#else#][#/!a/##]#]" := by decide +kernel
  have hshown : String.ofList (halfMarks.flatMap (Segment.shown false)) = "[y[#a/#z\n#]" := by decide +kernel
  have hparts : AreParts "x[#else#]y[#".toList "x".toList "y[#".toList := ⟨by decide, by decide, by decide⟩
  have hopen : ∀ negated, ¬ HoldsBlock "a/#".toList negated "x[#a/##]y[#/!a/##]".toList := by
    rintro negated h
    have hin := h.infix
    revert hin
    cases negated <;> decide +kernel
  have hblocks := (evaluate_spell hname false).1 halfMarks hbefore hafter
  rw [htext, hshown] at hblocks
  exact ⟨hname, hbefore, hblocks, hparts, (evaluate_spell hname false).2.1 _ _ _ hparts false, hopen,
    (evaluate_spell hname true).2.2.2 _ hopen⟩

end HtmlMail.Template
