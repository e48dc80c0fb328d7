import HtmlMail.Proofs.Text.Search
import HtmlMail.Template.Conditional

/-!
# Templates as pieces

A template is a row of texts and marks. The functions that read it know nothing of this: they look for the spelling
of one mark in the spelling of all pieces. They find it exactly where it is a piece, as long as the pieces are proper,
that is, as long as no text holds the beginning of a mark or ends in the middle of one, and no name holds the
characters that marks are made of. This module says so for the search and for replacement.

* `Piece`, `spelling` : the pieces and the template they spell;
* `Piece.not_mark_begins` : a mark begins nowhere in the spelling of another piece, whatever follows;
* `splitFirst?_spelling` : the first occurrence of a mark is the first piece that is this mark;
* `replaceAll_spelling` : to replace a mark is to replace the pieces that are this mark.
-/

namespace HtmlMail.Template

open Chars

/-- **A mark** is a name between the two ends that tell it from the text around it. -/
def mark (name : List Char) : List Char := '[' :: '#' :: (name ++ ['#', ']'])

/-- A piece of a template. -/
inductive Piece where
  | text (chars : List Char)
  | mark (name : List Char)
  deriving DecidableEq, Repr

/-- How a piece is written. -/
def Piece.chars : Piece → List Char
  | text s => s
  | mark name => Template.mark name

/-- **A piece is proper** if it does not take part in a mark that is not a piece: a text holds no beginning of a mark
and does not end in half of one, and the name in a mark has neither of the characters that begin or end a mark. -/
def Piece.IsProper : Piece → Prop
  | text s => ¬ ['[', '#'] <:+: s ∧ '[' ∉ s.getLast?
  | mark name => '[' ∉ name ∧ '#' ∉ name

instance : DecidablePred Piece.IsProper
  | .text s => inferInstanceAs (Decidable (¬ ['[', '#'] <:+: s ∧ '[' ∉ s.getLast?))
  | .mark name => inferInstanceAs (Decidable ('[' ∉ name ∧ '#' ∉ name))

/-- The template that is made of some pieces. -/
def spelling (pieces : List Piece) : List Char := pieces.flatMap Piece.chars

variable {name m : List Char} {p : Piece} {pieces : List Piece} {s u new : List Char}

@[simp] theorem spelling_nil : spelling [] = [] := rfl

@[simp] theorem spelling_cons (p : Piece) (pieces : List Piece) :
    spelling (p :: pieces) = p.chars ++ spelling pieces := List.flatMap_cons

@[simp] theorem spelling_append (left right : List Piece) :
    spelling (left ++ right) = spelling left ++ spelling right := List.flatMap_append

theorem mark_ne_nil (name : List Char) : mark name ≠ [] := List.cons_ne_nil _ _

/-- A text without the character that begins a mark is a proper piece. -/
theorem isProper_text (h : '[' ∉ s) : (Piece.text s).IsProper := by
  refine ⟨fun hbegin => h (hbegin.subset List.mem_cons_self), fun hend => ?_⟩
  exact h (List.mem_of_mem_getLast? hend)

/-! ### Where a mark can begin -/

/-- Two marks that begin in the same place are one mark. -/
theorem eq_of_mark_begins (hm : '#' ∉ m) (hname : '#' ∉ name) (h : mark m <+: mark name ++ u) : m = name := by
  obtain ⟨rest, hrest⟩ := h
  have hnames : m ++ '#' :: (']' :: rest) = name ++ '#' :: (']' :: u) := by
    simpa [mark] using hrest
  -- A name ends at the first sharp.
  have hcut := congrArg (splitAtChar? '#') hnames
  rw [splitAtChar?_append_cons _ hm, splitAtChar?_append_cons _ hname] at hcut
  exact (Prod.mk.inj (Option.some.inj hcut)).1

/-- **A mark begins nowhere in another piece**, whatever follows the piece. -/
theorem Piece.not_mark_begins (hp : p.IsProper) (hm : '#' ∉ m) (hne : p ≠ .mark m) (c : Char) (t : List Char)
    (hsuffix : c :: t <:+ p.chars) : ¬ Template.mark m <+: c :: t ++ u := by
  intro hprefix
  obtain ⟨rfl, hsharp⟩ := List.cons_prefix_cons.1 hprefix
  cases p with
  | text s =>
    obtain ⟨hbegin, hend⟩ := hp
    cases t with
    | nil =>
      -- The text would end in the bracket.
      obtain ⟨front, rfl⟩ := hsuffix
      exact hend (by simp)
    | cons d t =>
      obtain ⟨rfl, -⟩ := List.cons_prefix_cons.1 hsharp
      exact hbegin ((List.prefix_append ['[', '#'] t).isInfix.trans hsuffix.isInfix)
  | mark name =>
    obtain ⟨hbracket, hname⟩ := hp
    rcases List.suffix_cons_iff.1 hsuffix with hwhole | hlater
    · rw [hwhole] at hprefix
      exact hne (congrArg Piece.mark (eq_of_mark_begins hm hname hprefix).symm)
    · -- The bracket at the beginning of a mark is the only one in it.
      have hmem : '[' ∈ '#' :: (name ++ ['#', ']']) := hlater.subset List.mem_cons_self
      simp [hbracket] at hmem

/-! ### Looking for a mark -/

/-- **The first occurrence of a mark** is the first piece that is this mark. -/
theorem splitFirst?_spelling (hproper : ∀ p ∈ pieces, p.IsProper) (hm : '#' ∉ m) (hnot : .mark m ∉ pieces)
    (u : List Char) : splitFirst? (mark m) (spelling pieces ++ u) =
      (splitFirst? (mark m) u).map fun (before, after) => (spelling pieces ++ before, after) := by
  induction pieces with
  | nil => simp
  | cons p pieces ih =>
    obtain ⟨hp, hpieces⟩ := List.forall_mem_cons.1 hproper
    obtain ⟨hne, hrest⟩ := List.ne_and_not_mem_of_not_mem_cons hnot
    have hskip := splitFirst?_append (Piece.not_mark_begins hp hm hne.symm) (u := spelling pieces ++ u)
    rw [spelling_cons, List.append_assoc, hskip, ih hpieces hrest, Option.map_map]
    simp only [Function.comp_def, List.append_assoc]

theorem splitFirst?_spelling_mark (hproper : ∀ p ∈ pieces, p.IsProper) (hm : '#' ∉ m)
    (hnot : .mark m ∉ pieces) (u : List Char) :
    splitFirst? (mark m) (spelling pieces ++ (mark m ++ u)) = some (spelling pieces, u) := by
  have hskip := splitFirst?_spelling hproper hm hnot (mark m ++ u)
  simpa only [splitFirst?_append_self, Option.map_some, List.append_nil] using hskip

/-- A mark that is no piece is not found. -/
theorem not_infix_spelling (hproper : ∀ p ∈ pieces, p.IsProper) (hm : '#' ∉ m) (hnot : .mark m ∉ pieces) :
    ¬ mark m <:+: spelling pieces := by
  have hnil : splitFirst? (mark m) [] = none := rfl
  have hsearch := splitFirst?_spelling hproper hm hnot []
  rw [hnil, Option.map_none, List.append_nil] at hsearch
  exact splitFirst?_eq_none_iff.1 hsearch

/-- **A mark cuts a template** into one part more than it has pieces that are this mark. -/
theorem length_splitOn_spelling (hproper : ∀ p ∈ pieces, p.IsProper) (hm : '#' ∉ m) :
    (splitOn (mark m) (spelling pieces)).length = pieces.count (.mark m) + 1 := by
  induction pieces with
  | nil =>
    rw [splitOn_eq_singleton (not_infix_spelling hproper hm List.not_mem_nil)]
    rfl
  | cons p pieces ih =>
    obtain ⟨hp, hpieces⟩ := List.forall_mem_cons.1 hproper
    rw [spelling_cons]
    -- Only the mark itself cuts the text; it neither stands in another piece nor across two of them.
    by_cases hmark : p = .mark m
    · rw [hmark, List.count_cons_self, ← ih hpieces, ← List.length_cons]
      exact congrArg List.length (splitOn_append_self (mark_ne_nil m) _)
    · rw [List.count_cons_of_ne hmark, ← ih hpieces,
        splitOn_append (mark_ne_nil m) (Piece.not_mark_begins hp hm hmark), List.length_modifyHead]

/-! ### Replacing a mark -/

/-- The piece with a text in place of a mark. -/
def Piece.replace (m new : List Char) (p : Piece) : Piece := if p = .mark m then .text new else p

/-- **To replace a mark** in a template is to replace the pieces that are this mark. -/
theorem replaceAll_spelling (hproper : ∀ p ∈ pieces, p.IsProper) (hm : '#' ∉ m) :
    replaceAll (mark m) new (spelling pieces) = spelling (pieces.map (Piece.replace m new)) := by
  induction pieces with
  | nil => exact replaceAll_eq_self (not_infix_spelling hproper hm List.not_mem_nil)
  | cons p pieces ih =>
    obtain ⟨hp, hpieces⟩ := List.forall_mem_cons.1 hproper
    rw [spelling_cons, List.map_cons, spelling_cons, ← ih hpieces]
    by_cases hmark : p = .mark m
    · rw [Piece.replace, if_pos hmark, hmark]
      exact replaceAll_append_self (mark_ne_nil m) _
    · rw [Piece.replace, if_neg hmark]
      exact replaceAll_append (mark_ne_nil m) (Piece.not_mark_begins hp hm hmark)

end HtmlMail.Template
