import HtmlMail.Proofs.Template.Blocks
import HtmlMail.Proofs.Template.Outline
import HtmlMail.Proofs.Template.Substitution

/-!
# Nested blocks and one flag

A flag is evaluated on the text of the template. Its blocks are found there as they stand in the outline, since the
first closing mark of a flag behind an opening one is its own: no block stands inside one of its own name. But the
mark between two branches bears no name. A block takes it for its own wherever it stands, also inside a block that
has not been resolved yet, and only if there is exactly one. So a flag resolves its blocks as they are meant if they
are *clear*: a block with two branches holds no other mark of this kind, and a block with one branch does not hold
exactly one.

* `Outline.chosenBranch_block_iff`, `Outline.chosenBranch_choice_iff` : a block shows its branches if and only if it
  is clear;
* `Outline.resolveBlocks_pieces` : on clear blocks, to resolve the text is to resolve the outline;
* `Outline.evaluate_template` : the same for both senses of the flag.
-/

namespace HtmlMail.Template

open Chars BlockMark

/-! ### Blocks that show their branches -/

theorem elseMark_eq : elseMark = mark separates.name := rfl

namespace Outline

/-- The flags of the blocks with two branches, also of those that stand inside others. -/
def choices : Outline → List FlagName
  | empty => []
  | text _ rest => rest.choices
  | block _ _ t rest => t.choices ++ rest.choices
  | choice n _ t e rest => n :: (t.choices ++ e.choices ++ rest.choices)

variable {t e : Outline}

theorem isProper_of_mem_pieces : ∀ p ∈ t.pieces, p.IsProper := by
  induction t with
  | empty => exact fun p hp => absurd hp List.not_mem_nil
  | text s rest ih => exact List.forall_mem_cons.2 ⟨isProper_text s.no_bracket, ih⟩
  | block n neg t rest iht ih =>
    have hclosed := List.forall_mem_cons.2 ⟨isProper_piece (closes n neg), ih⟩
    exact List.forall_mem_cons.2 ⟨isProper_piece _, List.forall_mem_append.2 ⟨iht, hclosed⟩⟩
  | choice n neg t e rest iht ihe ih =>
    have hclosed := List.forall_mem_cons.2 ⟨isProper_piece (closes n neg), ih⟩
    have helse := List.forall_mem_cons.2 ⟨isProper_piece separates, List.forall_mem_append.2 ⟨ihe, hclosed⟩⟩
    exact List.forall_mem_cons.2 ⟨isProper_piece _, List.forall_mem_append.2 ⟨iht, helse⟩⟩

/-- Each block with two branches has one mark between them. -/
theorem count_separates (t : Outline) : t.pieces.count separates.piece = t.choices.length := by
  have hopens (n : FlagName) (neg : Bool) : (opens n neg).piece ≠ separates.piece :=
    fun h => nomatch piece_inj.1 h
  have hcloses (n : FlagName) (neg : Bool) : (closes n neg).piece ≠ separates.piece :=
    fun h => nomatch piece_inj.1 h
  -- A choice has one mark between its branches, and no other piece is such a mark.
  induction t with
  | empty => rfl
  | text s rest ih =>
    have htext : Piece.text s.chars ≠ separates.piece := fun h => by cases h
    rw [pieces, choices, List.count_cons_of_ne htext, ih]
  | block n neg t rest iht ih =>
    rw [pieces, choices, List.count_cons_of_ne (hopens n neg), List.count_append,
      List.count_cons_of_ne (hcloses n neg), iht, ih, List.length_append]
  | choice n neg t e rest iht ihe ih =>
    rw [pieces, choices, List.count_cons_of_ne (hopens n neg), List.count_append, List.count_cons_self,
      List.count_append, List.count_cons_of_ne (hcloses n neg), iht, ihe, ih, List.length_cons,
      List.length_append, List.length_append]
    omega

theorem separates_not_mem_pieces (h : t.choices = []) : separates.piece ∉ t.pieces := by
  rw [← List.count_eq_zero, count_separates, h]
  rfl

/-- An outline whose blocks have one branch each is not cut by the mark between branches. -/
theorem splitOn_pieces (h : t.choices = []) : splitOn elseMark (spelling t.pieces) = [spelling t.pieces] := by
  have hnot := not_infix_spelling isProper_of_mem_pieces (not_mem_name (by decide)) (separates_not_mem_pieces h)
  rw [elseMark_eq]
  exact splitOn_eq_singleton hnot

theorem length_splitOn_pieces {ps : List Piece} (hproper : ∀ p ∈ ps, p.IsProper) :
    (splitOn elseMark (spelling ps)).length = ps.count separates.piece + 1 := by
  rw [elseMark_eq]
  exact length_splitOn_spelling hproper (not_mem_name (by decide))

/-- The content of a block with two branches. -/
def branches (t e : Outline) : List Char := spelling (t.pieces ++ separates.piece :: e.pieces)

theorem isProper_of_mem_branches : ∀ p ∈ t.pieces ++ separates.piece :: e.pieces, p.IsProper := by
  have hsecond := List.forall_mem_cons.2 ⟨isProper_piece separates, (isProper_of_mem_pieces : ∀ p ∈ e.pieces, _)⟩
  exact List.forall_mem_append.2 ⟨isProper_of_mem_pieces, hsecond⟩

theorem branches_eq (t e : Outline) :
    branches t e = spelling t.pieces ++ (elseMark ++ spelling e.pieces) := by
  rw [branches, spelling_append, spelling_cons]
  rfl

/-- **A block with one branch** shows it, or nothing, if and only if it does not hold exactly one block with two
branches. -/
theorem chosenBranch_block_iff : (∀ shown, chosenBranch (spelling t.pieces) shown =
    if shown then spelling t.pieces else []) ↔ t.choices.length ≠ 1 := by
  have hlength := length_splitOn_pieces (isProper_of_mem_pieces : ∀ p ∈ t.pieces, p.IsProper)
  rw [count_separates] at hlength
  constructor
  · intro hshows hone
    -- The one mark inside would cut the branch in two, and the first part is shorter than the whole.
    rw [hone] at hlength
    obtain ⟨first, second, hparts⟩ := List.length_eq_two.1 hlength
    have hfirst : first = spelling t.pieces := (chosenBranch_of_pair hparts).symm.trans (hshows true)
    have hwhole := intercalate_splitOn elseMark (spelling t.pieces)
    rw [hparts, List.intercalate_cons_cons, List.intercalate_singleton, hfirst] at hwhole
    have hlengths := congrArg List.length hwhole
    have hmark : elseMark.length = 8 := rfl
    simp only [List.length_append, hmark] at hlengths
    omega
  · intro hclear shown
    exact chosenBranch_of_length_ne (by omega)

/-- **A block with two branches** shows the one that is meant if and only if no other such block stands in it. -/
theorem chosenBranch_choice_iff : (∀ shown, chosenBranch (branches t e) shown =
    if shown then spelling t.pieces else spelling e.pieces) ↔ t.choices = [] ∧ e.choices = [] := by
  have hlength : (splitOn elseMark (branches t e)).length = t.choices.length + e.choices.length + 2 := by
    rw [branches, length_splitOn_pieces isProper_of_mem_branches, List.count_append, List.count_cons_self, count_separates,
      count_separates]
    omega
  constructor
  · intro hshows
    by_contra hother
    -- With more than one mark nothing is cut, and the whole is longer than its first branch.
    have hmany : (splitOn elseMark (branches t e)).length ≠ 2 := by
      intro htwo
      refine hother ⟨List.length_eq_zero_iff.1 ?_, List.length_eq_zero_iff.1 ?_⟩ <;> omega
    have hwhole : branches t e = spelling t.pieces :=
      (chosenBranch_of_length_ne hmany).symm.trans (hshows true)
    rw [branches_eq] at hwhole
    have hlengths := congrArg List.length hwhole
    have hmark : elseMark.length = 8 := rfl
    simp only [List.length_append, hmark] at hlengths
    omega
  · rintro ⟨ht, he⟩ shown
    have hcut : splitFirst? elseMark (branches t e) = some (spelling t.pieces, spelling e.pieces) := by
      rw [branches_eq]
      exact splitFirst?_spelling_mark isProper_of_mem_pieces (not_mem_name (by decide))
        (separates_not_mem_pieces ht) _
    have hparts : splitOn elseMark (branches t e) = [spelling t.pieces, spelling e.pieces] := by
      rw [splitOn_eq_cons (by decide) hcut, splitOn_pieces he]
    exact chosenBranch_of_pair hparts

end Outline

/-! ### One flag and one sense -/

section Blocks

variable {name : FlagName} {negated shown : Bool} {s before opened inner after : List Char} {p : Piece}

theorem openingMark_eq (name : FlagName) (negated : Bool) :
    openingMark name.chars negated = mark (opens name negated).name := by
  simp [openingMark, mark, BlockMark.name, sense]

theorem closingMark_eq (name : FlagName) (negated : Bool) :
    closingMark name.chars negated = mark (closes name negated).name := by
  simp [closingMark, mark, BlockMark.name, sense]

/-- **A piece that opens no block of the flag** is passed over. -/
theorem resolveBlocks_piece (hp : p.IsProper) (hne : p ≠ (opens name negated).piece) (u : List Char) :
    resolveBlocks name.chars negated shown (p.chars ++ u) =
      p.chars ++ resolveBlocks name.chars negated shown u := by
  refine resolveBlocks_append fun c t hsuffix => ?_
  rw [openingMark_eq]
  exact Piece.not_mark_begins hp (not_mem_name (by decide)) hne c t hsuffix

/-- **A block** is closed by the first closing mark of its flag, which is not inside it. -/
theorem resolveBlocks_block {ps : List Piece} (hproper : ∀ p ∈ ps, p.IsProper)
    (hnot : (closes name negated).piece ∉ ps) (u : List Char) :
    resolveBlocks name.chars negated shown
        ((opens name negated).piece.chars ++ (spelling ps ++ ((closes name negated).piece.chars ++ u))) =
      chosenBranch (spelling ps) shown ++ resolveBlocks name.chars negated shown u := by
  have hopen := splitFirst?_append_self (openingMark name.chars negated)
    (spelling ps ++ ((closes name negated).piece.chars ++ u))
  have hclose := splitFirst?_spelling_mark hproper (not_mem_name (by decide)) hnot u
  rw [← closingMark_eq] at hclose
  have hmarks : (opens name negated).piece.chars = openingMark name.chars negated :=
    (openingMark_eq name negated).symm
  have hclosing : (closes name negated).piece.chars = closingMark name.chars negated :=
    (closingMark_eq name negated).symm
  rw [hclosing] at hopen ⊢
  rw [hmarks, resolveBlocks_of_block hopen hclose, List.nil_append]

end Blocks

namespace Outline

variable {name : FlagName} {negated shown state : Bool} {t u : Outline}

/-- **The blocks of a flag are clear** if each of them shows its own branches: one with two branches holds no other
such block, and one with one branch does not hold exactly one. -/
def IsClear (name : FlagName) : Outline → Prop
  | empty => True
  | text _ rest => rest.IsClear name
  | block n _ t rest => (n = name → t.choices.length ≠ 1) ∧ t.IsClear name ∧ rest.IsClear name
  | choice n _ t e rest =>
    (n = name → t.choices = [] ∧ e.choices = []) ∧ t.IsClear name ∧ e.IsClear name ∧ rest.IsClear name

instance decidableIsClear (name : FlagName) : ∀ t : Outline, Decidable (t.IsClear name)
  | empty => isTrue trivial
  | text _ rest => decidableIsClear name rest
  | block n _ t rest =>
    have := decidableIsClear name t
    have := decidableIsClear name rest
    inferInstanceAs (Decidable ((n = name → t.choices.length ≠ 1) ∧ t.IsClear name ∧ rest.IsClear name))
  | choice n _ t e rest =>
    have := decidableIsClear name t
    have := decidableIsClear name e
    have := decidableIsClear name rest
    inferInstanceAs (Decidable ((n = name → t.choices = [] ∧ e.choices = []) ∧ t.IsClear name ∧ e.IsClear name ∧
      rest.IsClear name))

/-- A closing mark belongs to a block. -/
theorem mem_blocks_of_closes_mem (h : (closes name negated).piece ∈ t.pieces) : (name, negated) ∈ t.blocks := by
  induction t with
  | empty => cases h
  | text s rest ih =>
    rcases List.mem_cons.1 h with h | h
    · cases h
    · exact ih h
  | block n neg t rest iht ih =>
    rw [blocks, List.mem_cons, List.mem_append]
    rw [pieces, List.mem_cons, List.mem_append, List.mem_cons] at h
    -- The opening mark, what is inside, the closing mark, what stands behind.
    rcases h with h | h | h | h
    · cases piece_inj.1 h
    · exact .inr (.inl (iht h))
    · cases piece_inj.1 h
      exact .inl rfl
    · exact .inr (.inr (ih h))
  | choice n neg t e rest iht ihe ih =>
    rw [blocks, List.mem_cons, List.mem_append, List.mem_append]
    rw [pieces, List.mem_cons, List.mem_append, List.mem_cons, List.mem_append, List.mem_cons] at h
    rcases h with h | h | h | h | h | h
    · cases piece_inj.1 h
    · exact .inr (.inl (.inl (iht h)))
    · cases piece_inj.1 h
    · exact .inr (.inl (.inr (ihe h)))
    · cases piece_inj.1 h
      exact .inl rfl
    · exact .inr (.inr (ih h))

/-- Where a flag has no block, there is no closing mark of it. -/
theorem closes_not_mem_pieces (h : ∀ b ∈ t.blocks, b.1 ≠ name) : (closes name negated).piece ∉ t.pieces :=
  fun hmem => h _ (mem_blocks_of_closes_mem hmem) rfl

/-- Neither do two branches hold the closing mark of a flag that has no block in them. -/
theorem closes_not_mem_branches {e : Outline} (ht : ∀ b ∈ t.blocks, b.1 ≠ name) (he : ∀ b ∈ e.blocks, b.1 ≠ name) :
    (closes name negated).piece ∉ t.pieces ++ separates.piece :: e.pieces := by
  rw [List.mem_append, List.mem_cons]
  rintro (h | h | h)
  · exact closes_not_mem_pieces ht h
  · cases piece_inj.1 h
  · exact closes_not_mem_pieces he h

theorem spelling_block (n : FlagName) (neg : Bool) (t rest : Outline) (u : List Char) :
    spelling (block n neg t rest).pieces ++ u = (opens n neg).piece.chars ++
      (spelling t.pieces ++ ((closes n neg).piece.chars ++ (spelling rest.pieces ++ u))) := by
  simp [pieces]

theorem spelling_choice (n : FlagName) (neg : Bool) (t e rest : Outline) (u : List Char) :
    spelling (choice n neg t e rest).pieces ++ u = (opens n neg).piece.chars ++
      (spelling t.pieces ++ (separates.piece.chars ++
        (spelling e.pieces ++ ((closes n neg).piece.chars ++ (spelling rest.pieces ++ u))))) := by
  simp [pieces]

/-- Both branches together are the inside of a block. -/
theorem spelling_choice_branches (n : FlagName) (neg : Bool) (t e rest : Outline) (u : List Char) :
    spelling (choice n neg t e rest).pieces ++ u = (opens n neg).piece.chars ++
      (branches t e ++ ((closes n neg).piece.chars ++ (spelling rest.pieces ++ u))) := by
  simp [pieces, branches]

/-- **To resolve the text is to resolve the outline**, if the blocks of the flag are clear. -/
theorem resolveBlocks_pieces (hw : t.WellNamed) (hclear : t.IsClear name) (u : List Char) :
    resolveBlocks name.chars negated shown (spelling t.pieces ++ u) =
      spelling (t.resolve name negated shown).pieces ++ resolveBlocks name.chars negated shown u := by
  -- What follows the outline is arbitrary: behind a branch there are the rest of its block and what comes after.
  induction t generalizing u with
  | empty => rfl
  | text s rest ih =>
    have htext : Piece.text s.chars ≠ (opens name negated).piece := fun h => by cases h
    rw [pieces, spelling_cons, List.append_assoc, resolveBlocks_piece (isProper_text s.no_bracket) htext,
      ih hw hclear, resolve, pieces, spelling_cons, List.append_assoc]
  | block n neg t rest iht ih =>
    obtain ⟨hinside, ht, hrest⟩ := hw
    obtain ⟨hshows, hct, hcrest⟩ := hclear
    rw [spelling_block, resolve]
    split
    · next hsame =>
      -- The block ends at its own closing mark, and what it shows is the branch, which holds no block of the flag.
      obtain ⟨rfl, rfl⟩ := hsame
      rw [resolveBlocks_block isProper_of_mem_pieces (closes_not_mem_pieces hinside), ih hrest hcrest,
        chosenBranch_block_iff.2 (hshows rfl), pieces_append, spelling_append, List.append_assoc]
      cases shown <;> rfl
    · next hother =>
      -- The marks of another block are passed over, and what stands between them is resolved.
      have hcloses : (closes n neg).piece ≠ (opens name negated).piece := fun h => by cases piece_inj.1 h
      rw [resolveBlocks_piece (isProper_piece _) (opens_ne hother), iht ht hct,
        resolveBlocks_piece (isProper_piece _) hcloses, ih hrest hcrest, spelling_block]
  | choice n neg t e rest iht ihe ih =>
    obtain ⟨hinside, hinsideElse, ht, he, hrest⟩ := hw
    obtain ⟨hshows, hct, hce, hcrest⟩ := hclear
    rw [resolve]
    split
    · next hsame =>
      obtain ⟨rfl, rfl⟩ := hsame
      rw [spelling_choice_branches, branches, resolveBlocks_block isProper_of_mem_branches
        (closes_not_mem_branches hinside hinsideElse), ← branches, ih hrest hcrest,
        chosenBranch_choice_iff.2 (hshows rfl), pieces_append, spelling_append, List.append_assoc]
      cases shown <;> rfl
    · next hother =>
      have hseparates : separates.piece ≠ (opens name negated).piece := fun h => by cases piece_inj.1 h
      have hcloses : (closes n neg).piece ≠ (opens name negated).piece := fun h => by cases piece_inj.1 h
      rw [spelling_choice, resolveBlocks_piece (isProper_piece _) (opens_ne hother), iht ht hct,
        resolveBlocks_piece (isProper_piece _) hseparates, ihe he hce,
        resolveBlocks_piece (isProper_piece _) hcloses, ih hrest hcrest, spelling_choice]

/-! ### One flag -/

theorem IsClear.append (ht : t.IsClear name) (hu : u.IsClear name) : (t.append u).IsClear name := by
  induction t with
  | empty => exact hu
  | text s rest ih => exact ih ht
  | block n neg t rest _ ih => exact ⟨ht.1, ht.2.1, ih ht.2.2⟩
  | choice n neg t e rest _ _ ih => exact ⟨ht.1, ht.2.1, ht.2.2.1, ih ht.2.2.2⟩

/-- The blocks of the other sense are clear as before, since none of the flag's blocks was inside them. -/
theorem IsClear.resolve (hw : t.WellNamed) (hclear : t.IsClear name) :
    (t.resolve name negated shown).IsClear name := by
  induction t with
  | empty => exact hclear
  | text s rest ih => exact ih hw hclear
  | block n neg t rest iht ih =>
    obtain ⟨hinside, ht, hrest⟩ := hw
    obtain ⟨hshows, hct, hcrest⟩ := hclear
    rw [Outline.resolve]
    split
    · cases shown with
      | true => exact hct.append (ih hrest hcrest)
      | false => exact ih hrest hcrest
    · -- A block of the flag in the other sense holds no block of the flag, so its branch is what it was.
      refine ⟨?_, iht ht hct, ih hrest hcrest⟩
      rintro rfl
      rw [resolve_of_not_mem (ne_of_ne_fst hinside)]
      exact hshows rfl
  | choice n neg t e rest iht ihe ih =>
    obtain ⟨hinside, hinsideElse, ht, he, hrest⟩ := hw
    obtain ⟨hshows, hct, hce, hcrest⟩ := hclear
    rw [Outline.resolve]
    split
    · cases shown with
      | true => exact hct.append (ih hrest hcrest)
      | false => exact hce.append (ih hrest hcrest)
    · refine ⟨?_, iht ht hct, ihe he hce, ih hrest hcrest⟩
      rintro rfl
      rw [resolve_of_not_mem (ne_of_ne_fst hinside), resolve_of_not_mem (ne_of_ne_fst hinsideElse)]
      exact hshows rfl

/-- The template of an outline. -/
def template (t : Outline) : String := String.ofList (spelling t.pieces)

/-- **To evaluate a flag is to settle it**, if its blocks are clear. -/
theorem evaluate_template (hw : t.WellNamed) (hclear : t.IsClear name) :
    evaluate (String.ofList name.chars) state t.template = (t.settle name state).template := by
  have hnil (negated shown : Bool) : resolveBlocks name.chars negated shown [] = [] :=
    resolveBlocks_of_no_opening rfl
  have hresolve {t : Outline} (hw : t.WellNamed) (hclear : t.IsClear name) (negated shown : Bool) :
      resolveBlocks name.chars negated shown (spelling t.pieces) =
        spelling (t.resolve name negated shown).pieces := by
    have h : resolveBlocks name.chars negated shown (spelling t.pieces ++ []) =
        spelling (t.resolve name negated shown).pieces ++ resolveBlocks name.chars negated shown [] :=
      resolveBlocks_pieces hw hclear []
    rwa [hnil, List.append_nil, List.append_nil] at h
  simp only [evaluate, template, String.toList_ofList]
  rw [hresolve hw hclear, hresolve hw.resolve (hclear.resolve hw)]
  rfl

end Outline

end HtmlMail.Template
