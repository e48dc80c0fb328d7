import HtmlMail.Css.Stylesheet
import HtmlMail.Proofs.Text.Search
import Mathlib.Data.List.TakeWhile

/-!
# Where the rules of a stylesheet come from

The rules of a stylesheet are found by a search that goes from block to block. What it finds is said here without the
search. The braces of a text cut it into pieces, and a block is wherever two neighbouring pieces, neither of them
empty, have an opening brace between them and a closing one behind them (`blockAt?`). Nothing else about the text
matters: braces that are missing, doubled or nested spoil the blocks that they belong to, and no others.

* `segments`, `braces` : a text cut at its braces;
* `blocks_append` : the search after a piece and a brace, which is the search after the brace, with a block in front
  if there is one. So the search is in step with the text again behind every brace;
* `blocks_eq_flatMap` : the search finds the blocks, in the order of the text;
* `blocks_append_closing` : a closing brace cuts the search in two;
* `Rule.ofStylesheet_eq_rulesAt` : the rules of a stylesheet, and those of two stylesheets behind one another.
-/

namespace HtmlMail.Css

open Chars

/-! ### A text cut at its braces -/

/-- The pieces between the braces of a text, which are one more than the braces. -/
def segments (css : List Char) : List (List Char) := css.splitOnP isBrace

/-- The braces of a text in their order. -/
def braces (css : List Char) : List Char := css.filter isBrace

/-- **The block at a piece**: the piece and the next one, if neither is empty and they have an opening brace between
them and a closing one behind them. -/
def blockAt? (css : List Char) (i : ℕ) : Option (List Char × List Char) :=
  match (segments css)[i]?, (segments css)[i + 1]? with
  | some list, some declarations =>
    if list ≠ [] ∧ declarations ≠ [] ∧ (braces css)[i]? = some '\x7b' ∧ (braces css)[i + 1]? = some '\x7d' then
      some (list, declarations)
    else none
  | _, _ => none

section Cut

variable {c : Char} {piece rest declarations after css : List Char}

/-- A text without braces is one piece. -/
theorem segments_of_braceless (h : ∀ d ∈ css, isBrace d = false) : segments css = [css] :=
  List.splitOnP_eq_singleton h

theorem braces_of_braceless (h : ∀ d ∈ css, isBrace d = false) : braces css = [] := by
  rw [braces, List.filter_eq_nil_iff]
  intro d hd
  rw [h d hd]
  exact Bool.false_ne_true

/-- **A brace cuts** a text in two. -/
theorem segments_append (hpiece : ∀ d ∈ piece, isBrace d = false) (hc : isBrace c) (rest : List Char) :
    segments (piece ++ c :: rest) = piece :: segments rest := by
  rw [segments, List.splitOnP_append_cons piece rest hc, List.splitOnP_eq_singleton hpiece]
  rfl

theorem braces_append (hpiece : ∀ d ∈ piece, isBrace d = false) (hc : isBrace c) (rest : List Char) :
    braces (piece ++ c :: rest) = c :: braces rest := by
  have hnone := braces_of_braceless hpiece
  rw [braces] at hnone ⊢
  rw [List.filter_append, hnone, List.filter_cons_of_pos hc]
  rfl

/-- The first brace of a text ends its first piece. -/
theorem takeWhile_piece (hpiece : ∀ d ∈ piece, isBrace d = false) (hc : isBrace c) (rest : List Char) :
    (piece ++ c :: rest).takeWhile (!isBrace ·) = piece ∧ (piece ++ c :: rest).dropWhile (!isBrace ·) = c :: rest := by
  refine takeWhile_append_cons ?_ ?_ rest
  · intro d hd
    rw [hpiece d hd]
    rfl
  · rw [hc]
    rfl

/-- **A text is cut at its first brace**, if there is one. -/
@[elab_as_elim]
theorem segments_cases {p : List Char → Prop} (last : ∀ piece, (∀ d ∈ piece, isBrace d = false) → p piece)
    (brace : ∀ piece c rest, (∀ d ∈ piece, isBrace d = false) → isBrace c → p (piece ++ c :: rest))
    (css : List Char) : p css := by
  have hcut := List.takeWhile_append_dropWhile (p := (!isBrace ·)) (l := css)
  have hpiece : ∀ d ∈ css.takeWhile (!isBrace ·), isBrace d = false := by
    intro d hd
    simpa using List.mem_takeWhile_imp hd
  cases hrest : css.dropWhile (!isBrace ·) with
  | nil =>
    rw [hrest, List.append_nil] at hcut
    rw [← hcut]
    exact last _ hpiece
  | cons c rest =>
    rw [hrest] at hcut
    have hc : isBrace c := by
      have hhead := List.head?_dropWhile_not (!isBrace ·) css
      rw [hrest] at hhead
      simpa using hhead
    rw [← hcut]
    exact brace _ c rest hpiece hc

/-- **A text is put together** from a last piece and, in front of it, pieces with a brace behind each. -/
@[elab_as_elim]
theorem segments_induction {p : List Char → Prop} (last : ∀ piece, (∀ d ∈ piece, isBrace d = false) → p piece)
    (brace : ∀ piece c rest, (∀ d ∈ piece, isBrace d = false) → isBrace c → p rest → p (piece ++ c :: rest))
    (css : List Char) : p css := by
  -- On the length, since the rest begins behind the first brace.
  induction hn : css.length using Nat.strongRecOn generalizing css with
  | ind n ih =>
    cases css using segments_cases with
    | last css hcss => exact last css hcss
    | brace piece c rest hpiece hc =>
      have hlength : rest.length < n := by
        rw [← hn, List.length_append, List.length_cons]
        omega
      exact brace piece c rest hpiece hc (ih rest.length hlength rest rfl)

end Cut

/-! ### The search for blocks -/

section Search

variable {c d : Char} {piece rest declarations after css : List Char} {block : List Char × List Char}

@[simp] theorem blocks_nil : blocks [] = [] := by
  unfold blocks
  rfl

theorem blocks_cons_of_none (h : blockAtStart? (c :: rest) = none) : blocks (c :: rest) = blocks rest := by
  rw [blocks.eq_def]
  dsimp only
  split
  · rfl
  · next block after hsome =>
    rw [h] at hsome
    cases hsome

theorem blocks_cons_of_some (h : blockAtStart? (c :: rest) = some (block, after)) :
    blocks (c :: rest) = block :: blocks after := by
  rw [blocks.eq_def]
  dsimp only
  split
  · next hnone =>
    rw [h] at hnone
    cases hnone
  · next block' after' hsome =>
    rw [h] at hsome
    cases hsome
    rfl

/-- **What a block begins with** is a piece that is not empty, and declarations in braces behind it. -/
theorem blockAtStart?_append (hpiece : ∀ d ∈ piece, isBrace d = false) (hc : isBrace c) (rest : List Char) :
    blockAtStart? (piece ++ c :: rest) =
      if piece = [] then none
      else (braced? (c :: rest)).map fun (declarations, after) => ((piece, declarations), after) := by
  obtain ⟨htake, hdrop⟩ := takeWhile_piece hpiece hc rest
  rw [blockAtStart?, htake, hdrop]
  simp only [List.isEmpty_iff]

/-- No block begins at a brace. -/
theorem blocks_cons_brace (hc : isBrace c) (rest : List Char) : blocks (c :: rest) = blocks rest := by
  refine blocks_cons_of_none ?_
  have hempty : ∀ d ∈ ([] : List Char), isBrace d = false := nofun
  have hnone := blockAtStart?_append hempty hc rest
  rwa [if_pos rfl] at hnone

/-- A text without braces has no blocks. -/
theorem blocks_of_braceless (h : ∀ d ∈ css, isBrace d = false) : blocks css = [] := by
  induction css with
  | nil => exact blocks_nil
  | cons c rest ih =>
    have hall : ∀ d ∈ c :: rest, (!isBrace d) = true := by
      intro d hd
      rw [h d hd]
      rfl
    have hbraced : braced? [] = none := rfl
    -- Without a brace there is nothing to cut at.
    have hnone : blockAtStart? (c :: rest) = none := by
      rw [blockAtStart?, List.dropWhile_eq_nil_iff.2 hall, hbraced, Option.map_none]
      split
      · rfl
      · rfl
    rw [blocks_cons_of_none hnone]
    exact ih fun d hd => h d (List.mem_cons_of_mem c hd)

/-- **What stands in braces** is a piece with an opening brace in front of it and a closing one behind it. -/
theorem braced?_append (hdeclarations : ∀ x ∈ declarations, isBrace x = false) (hd : isBrace d) (after : List Char) :
    braced? (c :: (declarations ++ d :: after)) =
      if c = '\x7b' ∧ d = '\x7d' ∧ declarations ≠ [] then some (declarations, after) else none := by
  obtain ⟨htake, hdrop⟩ := takeWhile_piece hdeclarations hd after
  unfold braced?
  split
  · next inner hinner =>
    obtain ⟨rfl, rfl⟩ := List.cons.inj hinner
    dsimp only
    rw [hdrop, htake]
    split
    · next rest hrest =>
      obtain ⟨rfl, rfl⟩ := List.cons.inj hrest
      simp only [List.isEmpty_iff, true_and, ne_eq, ite_not]
    · -- The declarations are not closed, but cut off by another opening brace.
      next hother =>
      rw [if_neg]
      rintro ⟨-, rfl, -⟩
      exact hother after rfl
  · next hother =>
    rw [if_neg]
    rintro ⟨rfl, -⟩
    exact hother _ rfl

/-- Without a second brace nothing stands in braces. -/
theorem braced?_of_braceless (hrest : ∀ x ∈ rest, isBrace x = false) (c : Char) : braced? (c :: rest) = none := by
  have hdrop : rest.dropWhile (!isBrace ·) = [] := by
    rw [List.dropWhile_eq_nil_iff]
    intro x hx
    rw [hrest x hx]
    rfl
  unfold braced?
  split
  · next inner hinner =>
    obtain ⟨-, rfl⟩ := List.cons.inj hinner
    dsimp only
    rw [hdrop]
  · rfl

theorem eq_of_braced? (h : braced? (c :: rest) = some (declarations, after)) :
    rest = declarations ++ '\x7d' :: after ∧ ∀ x ∈ declarations, isBrace x = false := by
  cases rest using segments_cases with
  | last rest hrest =>
    rw [braced?_of_braceless hrest] at h
    cases h
  | brace piece d rest hpiece hd =>
    rw [braced?_append hpiece hd] at h
    split at h
    · next hbraces =>
      cases h
      exact ⟨by rw [hbraces.2.1], hpiece⟩
    · cases h

/-- **The block at the first piece** is the one that a search from its start finds there. -/
theorem blockAt?_zero (hpiece : ∀ x ∈ piece, isBrace x = false) (hc : isBrace c) (rest : List Char) :
    blockAt? (piece ++ c :: rest) 0 =
      if piece = [] then none else (braced? (c :: rest)).map fun found => (piece, found.1) := by
  unfold blockAt?
  rw [segments_append hpiece hc, braces_append hpiece hc]
  -- The rest is cut at its own first brace, which has to be the closing one.
  cases rest using segments_cases with
  | last rest hrest =>
    rw [segments_of_braceless hrest, braces_of_braceless hrest, braced?_of_braceless hrest]
    simp
  | brace declarations d after hdeclarations hd =>
    rw [segments_append hdeclarations hd, braces_append hdeclarations hd, braced?_append hdeclarations hd]
    dsimp only [List.getElem?_cons_zero, List.getElem?_cons_succ]
    by_cases hne : piece = []
    · rw [if_pos hne, if_neg fun h => h.1 hne]
    · rw [if_neg hne]
      by_cases hbraces : c = '\x7b' ∧ d = '\x7d' ∧ declarations ≠ []
      · obtain ⟨hc', hd', hdecl⟩ := hbraces
        rw [if_pos ⟨hne, hdecl, congrArg some hc', congrArg some hd'⟩, if_pos ⟨hc', hd', hdecl⟩, Option.map_some]
      · rw [if_neg hbraces, Option.map_none, if_neg]
        rintro ⟨-, hdecl, hc', hd'⟩
        exact hbraces ⟨Option.some.inj hc', Option.some.inj hd', hdecl⟩

/-- The blocks behind a brace are those of the text there. -/
theorem blockAt?_succ (hpiece : ∀ x ∈ piece, isBrace x = false) (hc : isBrace c) (rest : List Char) (i : ℕ) :
    blockAt? (piece ++ c :: rest) (i + 1) = blockAt? rest i := by
  unfold blockAt?
  rw [segments_append hpiece hc, braces_append hpiece hc]
  rfl

/-- Where nothing stands in braces behind a piece, no block begins anywhere in it. -/
theorem blocks_append_of_none (hpiece : ∀ x ∈ piece, isBrace x = false) (hc : isBrace c)
    (hbraced : braced? (c :: rest) = none) : blocks (piece ++ c :: rest) = blocks rest := by
  induction piece with
  | nil => exact blocks_cons_brace hc rest
  | cons d piece ih =>
    have hnone := blockAtStart?_append hpiece hc rest
    rw [hbraced, Option.map_none, ite_self, List.cons_append] at hnone
    rw [List.cons_append, blocks_cons_of_none hnone]
    exact ih fun x hx => hpiece x (List.mem_cons_of_mem d hx)

/-- **Behind a brace the search starts anew**, whatever it has met before: the blocks are the one at the first piece,
if there is one, and those of the text behind the first brace. -/
theorem blocks_append (hpiece : ∀ x ∈ piece, isBrace x = false) (hc : isBrace c) (rest : List Char) :
    blocks (piece ++ c :: rest) = (blockAt? (piece ++ c :: rest) 0).toList ++ blocks rest := by
  rw [blockAt?_zero hpiece hc]
  cases hbraced : braced? (c :: rest) with
  | none =>
    rw [blocks_append_of_none hpiece hc hbraced, Option.map_none, ite_self]
    rfl
  | some found =>
    obtain ⟨declarations, after⟩ := found
    obtain ⟨hrest, hdeclarations⟩ := eq_of_braced? hbraced
    cases piece with
    | nil => exact blocks_cons_brace hc rest
    | cons d piece =>
      -- The search goes on behind the closing brace, and there is no block before that.
      have hsome := blockAtStart?_append hpiece hc rest
      rw [if_neg (List.cons_ne_nil d piece), hbraced, Option.map_some] at hsome
      have hafter : blocks rest = blocks after := by
        rw [hrest]
        exact blocks_append_of_none hdeclarations (by decide) rfl
      rw [List.cons_append] at hsome ⊢
      rw [blocks_cons_of_some hsome, hafter, if_neg (List.cons_ne_nil d piece)]
      rfl

/-- **The search finds the blocks**, each one at its piece and in the order of the text. -/
theorem blocks_eq_flatMap (css : List Char) :
    blocks css = (List.range (segments css).length).flatMap fun i => (blockAt? css i).toList := by
  induction css using segments_induction with
  | last css hcss =>
    have hnone : blockAt? css 0 = none := by
      rw [blockAt?, segments_of_braceless hcss]
      rfl
    rw [blocks_of_braceless hcss, segments_of_braceless hcss]
    simp [hnone]
  | brace piece c rest hpiece hc ih =>
    calc blocks (piece ++ c :: rest)
        = (blockAt? (piece ++ c :: rest) 0).toList ++ blocks rest := blocks_append hpiece hc rest
      _ = (blockAt? (piece ++ c :: rest) 0).toList ++
            (List.range (segments rest).length).flatMap fun i => (blockAt? (piece ++ c :: rest) (i + 1)).toList := by
          simp only [ih, blockAt?_succ hpiece hc]
      _ = (List.range (segments (piece ++ c :: rest)).length).flatMap
            fun i => (blockAt? (piece ++ c :: rest) i).toList := by
          rw [segments_append hpiece hc, List.length_cons, List.range_succ_eq_map, List.flatMap_cons,
            List.flatMap_map]

/-- What stands in braces at the start does not depend on the text behind a later closing brace. -/
theorem braced?_append_closing (c : Char) (front rest : List Char) :
    (braced? (c :: (front ++ '\x7d' :: rest))).map Prod.fst = (braced? (c :: (front ++ ['\x7d']))).map Prod.fst := by
  have hclosing : isBrace '\x7d' := rfl
  cases front using segments_cases with
  | last front hfront =>
    rw [braced?_append hfront hclosing, braced?_append hfront hclosing]
    split
    · rfl
    · rfl
  | brace piece d front hpiece hd =>
    rw [List.append_assoc, List.append_assoc, List.cons_append, List.cons_append, braced?_append hpiece hd,
      braced?_append hpiece hd]
    split
    · rfl
    · rfl

/-- **A closing brace ends every block**: those behind it have nothing to do with what stands in front. -/
theorem blocks_append_closing (css rest : List Char) :
    blocks (css ++ '\x7d' :: rest) = blocks (css ++ ['\x7d']) ++ blocks rest := by
  have hclosing : isBrace '\x7d' := rfl
  induction css using segments_induction with
  | last css hcss =>
    -- No block has a closing brace behind its first piece.
    rw [blocks_append_of_none hcss hclosing rfl, blocks_append_of_none hcss hclosing rfl, blocks_nil, List.nil_append]
  | brace piece c front hpiece hc ih =>
    have hfirst : blockAt? (piece ++ c :: (front ++ '\x7d' :: rest)) 0 =
        blockAt? (piece ++ c :: (front ++ ['\x7d'])) 0 := by
      have hbraced := congrArg (Option.map (piece, ·)) (braced?_append_closing c front rest)
      rw [Option.map_map, Option.map_map] at hbraced
      rw [blockAt?_zero hpiece hc, blockAt?_zero hpiece hc]
      split
      · rfl
      · exact hbraced
    calc blocks (piece ++ c :: front ++ '\x7d' :: rest)
        = blocks (piece ++ c :: (front ++ '\x7d' :: rest)) := by rw [List.append_assoc, List.cons_append]
      _ = (blockAt? (piece ++ c :: (front ++ ['\x7d'])) 0).toList ++
            (blocks (front ++ ['\x7d']) ++ blocks rest) := by rw [blocks_append hpiece hc, hfirst, ih]
      _ = blocks (piece ++ c :: (front ++ ['\x7d'])) ++ blocks rest := by
          rw [← List.append_assoc, ← blocks_append hpiece hc]
      _ = blocks (piece ++ c :: front ++ ['\x7d']) ++ blocks rest := by rw [List.append_assoc, List.cons_append]

end Search

/-! ### The rules of the blocks -/

/-- Rules with numbers in their order, the first one with the number `order`. -/
def numberedFrom (order : ℕ) (rules : List Rule) : List Rule :=
  rules.mapIdx fun i rule => { rule with order := order + i }

/-- **The rules of one block**, which have no numbers yet: one for each selector of the list that can be read, with
the declarations in single quotes only. -/
def Rule.accepted (list declarations : List Char) : List Rule :=
  (((splitOnChar ',' list).map trim).filter (· ≠ [])).filterMap fun piece =>
    (Selector.parse (String.ofList piece)).toOption.map fun selector =>
      { selector := String.ofList piece
        declarations := String.ofList ((trim declarations).map fun c => if c = '"' then '\'' else c)
        specificity := selector.specificity
        order := 0 }

/-- The rules of the block at a piece, none if there is no block. -/
def rulesAt (css : List Char) (i : ℕ) : List Rule :=
  (blockAt? css i).toList.flatMap fun (list, declarations) => Rule.accepted list declarations

section Numbers

variable {x y : List Char}

theorem numberedFrom_append (order : ℕ) (front rules : List Rule) :
    numberedFrom order (front ++ rules) = numberedFrom order front ++ numberedFrom (order + front.length) rules := by
  simp only [numberedFrom, List.mapIdx_append, Nat.add_assoc, Nat.add_comm front.length]

@[simp] theorem length_numberedFrom (order : ℕ) (rules : List Rule) :
    (numberedFrom order rules).length = rules.length :=
  List.length_mapIdx

/-- Numbers that start further back are higher by as much. -/
theorem numberedFrom_add (order n : ℕ) (rules : List Rule) :
    numberedFrom (order + n) rules =
      (numberedFrom n rules).map fun rule => { rule with order := order + rule.order } := by
  apply List.ext_getElem
  · rw [List.length_map, length_numberedFrom, length_numberedFrom]
  · intro i _ _
    simp only [numberedFrom, List.getElem_map, List.getElem_mapIdx, Nat.add_assoc]

theorem ofBlock_eq (order : ℕ) (list declarations : List Char) :
    Rule.ofBlock order list declarations = numberedFrom order (Rule.accepted list declarations) := by
  -- First all pieces are trimmed, and the empty ones left out.
  have hpieces : ((splitOnChar ',' list).map fun s => String.ofList (trim s)).filter (· ≠ "") =
      (((splitOnChar ',' list).map trim).filter (· ≠ [])).map String.ofList := by
    have htrim : (splitOnChar ',' list).map (fun s => String.ofList (trim s)) =
        ((splitOnChar ',' list).map trim).map String.ofList := by
      rw [List.map_map]
      rfl
    rw [htrim, List.filter_map]
    congr 2
    funext piece
    simp only [Function.comp_apply, ne_eq, String.ofList_eq_empty_iff]
  unfold Rule.ofBlock
  dsimp only
  rw [hpieces, List.filterMap_map]
  have hread : Rule.accepted list declarations =
      ((((splitOnChar ',' list).map trim).filter (· ≠ [])).filterMap ((fun text =>
        (Selector.parse text).toOption.map fun selector => (text, selector.specificity)) ∘ String.ofList)).map
        fun read =>
          ⟨read.1, String.ofList ((trim declarations).map fun c => if c = '"' then '\'' else c), read.2, 0⟩ := by
    rw [List.map_filterMap, Rule.accepted]
    simp only [Function.comp_apply, Option.map_map]
    rfl
  rw [hread]
  apply List.ext_getElem
  · rw [List.length_mapIdx, length_numberedFrom, List.length_map]
  · intro i _ _
    simp only [numberedFrom, List.getElem_map, List.getElem_mapIdx]

/-- The rules are collected block by block, and each one gets the number that is free. -/
theorem ofStylesheet_eq_numberedFrom (css : String) :
    Rule.ofStylesheet css =
      numberedFrom 0 ((blocks (stripComments css).toList).flatMap fun (list, declarations) =>
        Rule.accepted list declarations) := by
  -- The rules that are there already number the ones of the next block.
  have hfold (found : List (List Char × List Char)) : ∀ rules : List Rule,
      found.foldl (fun rules (list, declarations) => rules ++ Rule.ofBlock rules.length list declarations)
          (numberedFrom 0 rules) =
        numberedFrom 0 (rules ++ found.flatMap fun (list, declarations) => Rule.accepted list declarations) := by
    induction found with
    | nil =>
      intro rules
      rw [List.flatMap_nil, List.append_nil]
      rfl
    | cons block found ih =>
      obtain ⟨list, declarations⟩ := block
      intro rules
      have hstep := numberedFrom_append 0 rules (Rule.accepted list declarations)
      rw [Nat.zero_add] at hstep
      rw [List.foldl_cons, List.flatMap_cons, ← List.append_assoc, ← ih, hstep]
      dsimp only
      rw [ofBlock_eq, length_numberedFrom]
  exact hfold _ []

end Numbers

/-! ### Stylesheets -/

/-- A stylesheet is **plain** if it is one line without comments. -/
structure IsPlain (css : String) : Prop where
  carriageReturn : '\r' ∉ css.toList
  lineFeed : '\n' ∉ css.toList
  comment : ¬ commentStart <:+: css.toList
  commentLine : ¬ ['/', '/'] <+: trim css.toList

section Plain

variable {x y : String}

/-- Nothing is taken out of a plain stylesheet. -/
theorem IsPlain.stripComments_eq (h : IsPlain x) : stripComments x = x := by
  -- One line that begins no comment is kept as it is, and there is no comment in it.
  have hline : isCommentLine x.toList = false := by
    rw [isCommentLine, Bool.eq_false_iff, ne_eq, List.isPrefixOf_iff_prefix]
    exact h.commentLine
  have hlines : (splitOnChar '\n' x.toList).filter (!isCommentLine ·) = [x.toList] := by
    rw [splitOnChar_eq_singleton h.lineFeed, List.filter_cons_of_pos (by rw [hline]; rfl), List.filter_nil]
  have hreturns : x.toList.filter (· != '\r') = x.toList := by
    rw [List.filter_eq_self]
    intro c hc
    rw [bne_iff_ne]
    rintro rfl
    exact h.carriageReturn hc
  have hcomments : removeComments x.toList = x.toList := by
    rw [removeComments]
    split
    · rfl
    · next hstart =>
      rw [splitFirst?_eq_none_iff.2 h.comment] at hstart
      cases hstart
  unfold stripComments
  dsimp only
  rw [hlines, List.flatten_singleton, hreturns, hcomments, String.ofList_toList]

/-- Plain stylesheets with a closing brace between them are a plain stylesheet. -/
theorem IsPlain.append_closing (hx : IsPlain x) (hy : IsPlain y) : IsPlain (x ++ "\x7d" ++ y) := by
  have htext : (x ++ "\x7d" ++ y).toList = x.toList ++ ['\x7d'] ++ y.toList := by
    rw [String.toList_append, String.toList_append]
    rfl
  constructor
  · rw [htext]
    simp [hx.carriageReturn, hy.carriageReturn]
  · rw [htext]
    simp [hx.lineFeed, hy.lineFeed]
  · rw [htext]
    have hforeign : IsForeign commentStart ['\x7d'] := by
      refine ⟨?_, ?_, by decide⟩
      · intro c hc
        cases hc
        decide
      · intro c hc
        cases hc
        decide
    have hbrace : Separates commentStart ['\x7d'] := hforeign.separates (List.cons_ne_nil _ _)
    intro hocc
    rcases hbrace hocc with hleft | hright
    · exact hx.comment hleft
    · exact hy.comment hright
  · -- What is visible in front of the brace is the beginning of the trimmed text, with the brace behind it.
    rw [htext]
    intro hslashes
    have hstart : trimStart (x.toList ++ ['\x7d'] ++ y.toList) = trimStart x.toList ++ '\x7d' :: y.toList := by
      rw [List.append_assoc]
      exact trimStart_append_cons (by decide) _ _
    have hfront : ['/', '/'] <+: trimStart x.toList ++ '\x7d' :: y.toList := by
      rw [← hstart]
      exact hslashes.trans (trimEnd_isPrefix _)
    have hvisible : ['/', '/'] <+: trimStart x.toList := prefix_of_append_of_head (by simp) hfront
    obtain ⟨b, hb, hblanks⟩ := exists_eq_trimEnd_append (trimStart x.toList)
    rw [hblanks] at hvisible
    refine hx.commentLine (prefix_of_append_of_head ?_ hvisible)
    intro c hc hslash
    have hsolid : isBlank c = false := by
      rw [List.eq_of_mem_replicate (n := 2) hslash]
      decide
    exact not_mem_of_allBlank hb hsolid (List.mem_of_mem_head? hc)

/-- The rules of a plain stylesheet are those of its blocks. -/
theorem IsPlain.ofStylesheet_eq (h : IsPlain x) :
    Rule.ofStylesheet x =
      numberedFrom 0 ((blocks x.toList).flatMap fun (list, declarations) => Rule.accepted list declarations) := by
  rw [ofStylesheet_eq_numberedFrom, h.stripComments_eq]

/-- **The rules of a plain stylesheet** come from its blocks, piece by piece, and are numbered from zero. So a closing
brace ends all that stands in front of it: the rules behind it are those of a stylesheet of its own, with the numbers
that are free. -/
theorem Rule.ofStylesheet_eq_rulesAt (hx : IsPlain x) :
    Rule.ofStylesheet x = numberedFrom 0 ((List.range (segments x.toList).length).flatMap (rulesAt x.toList)) ∧
      ∀ y, IsPlain y →
        Rule.ofStylesheet (x ++ "\x7d" ++ y) =
          Rule.ofStylesheet (x ++ "\x7d") ++
            (Rule.ofStylesheet y).map fun rule =>
              { rule with order := (Rule.ofStylesheet (x ++ "\x7d")).length + rule.order } := by
  constructor
  · rw [hx.ofStylesheet_eq, blocks_eq_flatMap, List.flatMap_assoc]
    rfl
  · intro y hy
    -- The brace in the middle ends the blocks of the front, so both texts are read on their own.
    have hempty : IsPlain "" := ⟨by decide, by decide, by decide, by decide⟩
    have hclosed : IsPlain (x ++ "\x7d") := by
      have h := hx.append_closing hempty
      rwa [String.append_empty] at h
    have htext : (x ++ "\x7d" ++ y).toList = x.toList ++ '\x7d' :: y.toList := by
      rw [String.toList_append, String.toList_append, List.append_assoc]
      rfl
    have hfront : (x ++ "\x7d").toList = x.toList ++ ['\x7d'] := by
      rw [String.toList_append]
      rfl
    rw [(hx.append_closing hy).ofStylesheet_eq, hclosed.ofStylesheet_eq, hy.ofStylesheet_eq, htext, hfront,
      blocks_append_closing, List.flatMap_append, numberedFrom_append, length_numberedFrom, ← numberedFrom_add,
      Nat.zero_add, Nat.add_zero]

/-- A stylesheet with a nested block, a brace too many, an empty block, a selector that cannot be read, and a block
that is not closed. -/
def brokenRules : String := "@media\x7btd, ..a ,#b \x7bc:\"d\"\x7d\x7d\x7dp\x7b\x7dq\x7bx:1"

/-- Its four pieces give three rules, and a rule behind it is not lost. -/
theorem ofStylesheet_brokenRules :
    IsPlain brokenRules ∧ IsPlain "em\x7by:2\x7dh1\x7b" ∧
      Rule.ofStylesheet (brokenRules ++ "\x7d" ++ "em\x7by:2\x7dh1\x7b") =
        [⟨"td", "c:'d'", 1, 0⟩, ⟨"#b", "c:'d'", 100, 1⟩, ⟨"q", "x:1", 1, 2⟩, ⟨"em", "y:2", 1, 3⟩] := by
  have hbroken : IsPlain brokenRules := ⟨by decide +kernel, by decide +kernel, by decide +kernel, by decide +kernel⟩
  have hplain : IsPlain "em\x7by:2\x7dh1\x7b" :=
    ⟨by decide +kernel, by decide +kernel, by decide +kernel, by decide +kernel⟩
  refine ⟨hbroken, hplain, ?_⟩
  rw [(Rule.ofStylesheet_eq_rulesAt hbroken).2 _ hplain]
  decide +kernel

end Plain

end HtmlMail.Css
