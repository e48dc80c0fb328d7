import HtmlMail.Proofs.Template.Pieces

/-!
# Templates as trees

Conditional blocks stand inside one another, so a template with blocks is a tree: its outline. An outline has a
spelling, which is the template, and for all truth values of its flags a value, which is what a reader expects of the
template: each block is its first branch or its second one, or nothing where there is no second one.

A flag that is evaluated resolves its blocks, wherever they stand, and leaves the others. On outlines this is
`resolve`. It keeps the value, so the order of the flags would not count if the template were read in this way.

* `FlagName`, `BlockMark` : the names of flags and the marks of blocks; `BlockMark.name_injective` : different marks
  have different spellings;
* `Outline`, with `Outline.pieces` and `Outline.value` : the tree, its template and its value;
* `Outline.WellNamed` : no block stands inside one of its own name;
* `Outline.resolve` : the blocks of one flag and one sense replaced by a branch, and `Outline.settle` : both senses;
* `Outline.value_settle` : the value stays, and `Outline.ne_of_mem_blocks_settle` : the blocks of the flag are gone.
-/

namespace HtmlMail.Template

/-! ### Names and marks -/

/-- The characters that no name of a flag holds. -/
def reserved : List Char := ['[', ']', '#', '/', '!']

/-- A name of a flag that is told apart from every other part of a mark. -/
@[ext]
structure FlagName where
  chars : List Char
  chars_ne_nil : chars ≠ []
  ordinary : ∀ c ∈ chars, c ∉ reserved
  ne_else : chars ≠ "else".toList
  deriving DecidableEq, Repr

/-- A name is checked character by character. -/
theorem not_mem_reserved_of_all {chars : List Char} (h : chars.all (· ∉ reserved)) :
    ∀ c ∈ chars, c ∉ reserved := by
  intro c hc
  exact of_decide_eq_true (List.all_eq_true.1 h c hc)

/-- A text in which no mark begins. -/
structure PlainText where
  chars : List Char
  no_bracket : '[' ∉ chars
  deriving DecidableEq, Repr

/-- The marks of blocks. -/
inductive BlockMark where
  | opens (name : FlagName) (negated : Bool)
  | closes (name : FlagName) (negated : Bool)
  | separates
  deriving DecidableEq, Repr

namespace BlockMark

/-- The name of a flag as it stands in the marks of one sense. -/
def sense (name : FlagName) (negated : Bool) : List Char := (if negated then ['!'] else []) ++ name.chars

/-- What stands between the ends of a mark. -/
def name : BlockMark → List Char
  | opens n negated => sense n negated
  | closes n negated => '/' :: sense n negated
  | separates => "else".toList

/-- The mark as a piece of a template. -/
def piece (m : BlockMark) : Piece := .mark m.name

variable {m m' : BlockMark} {n n' : FlagName} {negated negated' : Bool} {c : Char}

theorem not_mem_sense (hc : c ∈ ['[', '#', '/']) : c ∉ sense n negated := by
  have hreserved : ['[', '#', '/'] ⊆ reserved := by decide
  intro h
  rcases List.mem_append.1 h with h | h
  · cases negated with
    | false => cases h
    | true =>
      rw [List.mem_singleton.1 h] at hc
      exact absurd hc (by decide)
  · exact n.ordinary c h (hreserved hc)

theorem not_mem_name (hc : c ∈ ['[', '#']) : c ∉ m.name := by
  have hmore : ['[', '#'] ⊆ ['[', '#', '/'] := by decide
  cases m with
  | opens n negated => exact not_mem_sense (hmore hc)
  | closes n negated =>
    refine List.not_mem_cons_of_ne_of_not_mem ?_ (not_mem_sense (hmore hc))
    rintro rfl
    exact absurd hc (by decide)
  | separates =>
    have helse : ∀ c ∈ ['[', '#'], c ∉ "else".toList :=
      List.forall_mem_cons.2 ⟨by decide, List.forall_mem_singleton.2 (by decide)⟩
    exact helse c hc

theorem isProper_piece (m : BlockMark) : m.piece.IsProper :=
  ⟨not_mem_name (by decide), not_mem_name (by decide)⟩

theorem sense_ne_else : sense n negated ≠ "else".toList := by
  cases negated with
  | false => exact n.ne_else
  | true => exact fun h => absurd (List.cons.inj h).1 (by decide)

/-- A sense is read off the first character: no name begins with the sign of negation. -/
theorem sense_injective (h : sense n negated = sense n' negated') : n = n' ∧ negated = negated' := by
  have hsign (n n' : FlagName) : n.chars ≠ '!' :: n'.chars := by
    intro h
    have hmem : '!' ∈ n.chars := h ▸ List.mem_cons_self
    exact n.ordinary '!' hmem (by decide)
  cases negated <;> cases negated'
  · exact ⟨FlagName.ext h, rfl⟩
  · exact absurd h (hsign n n')
  · exact absurd h.symm (hsign n' n)
  · exact ⟨FlagName.ext (List.cons.inj h).2, rfl⟩

/-- **Different marks** have different spellings. -/
theorem name_injective (h : m.name = m'.name) : m = m' := by
  -- Only the name of a closing mark begins with a slash.
  have hslash (n n' : FlagName) (negated negated' : Bool) : sense n negated ≠ '/' :: sense n' negated' := by
    intro h
    have hmem : '/' ∈ sense n negated := h ▸ List.mem_cons_self
    exact not_mem_sense (by decide) hmem
  cases m with
  | opens n negated =>
    cases m' with
    | opens n' negated' =>
      obtain ⟨rfl, rfl⟩ := sense_injective h
      rfl
    | closes n' negated' => exact absurd h (hslash _ _ _ _)
    | separates => exact absurd h sense_ne_else
  | closes n negated =>
    cases m' with
    | opens n' negated' => exact absurd h.symm (hslash _ _ _ _)
    | closes n' negated' =>
      obtain ⟨rfl, rfl⟩ := sense_injective (List.cons.inj h).2
      rfl
    | separates => exact absurd (List.cons.inj h).1 (by decide)
  | separates =>
    cases m' with
    | opens n' negated' => exact absurd h.symm sense_ne_else
    | closes n' negated' => exact absurd (List.cons.inj h).1 (by decide)
    | separates => rfl

theorem piece_inj : m.piece = m'.piece ↔ m = m' :=
  ⟨fun h => name_injective (Piece.mark.inj h), fun h => h ▸ rfl⟩

theorem opens_ne (h : ¬ (n = n' ∧ negated = negated')) : (opens n negated).piece ≠ (opens n' negated').piece :=
  fun hsame => h (BlockMark.opens.inj (piece_inj.1 hsame))

end BlockMark

/-! ### Outlines -/

/-- **An outline**: texts and blocks in a row. A block belongs to a flag, is shown while the flag is set or, if it is
negated, while it is not set, and may have a second branch for the other case. -/
inductive Outline where
  | empty
  | text (s : PlainText) (rest : Outline)
  | block (name : FlagName) (negated : Bool) (shown rest : Outline)
  | choice (name : FlagName) (negated : Bool) (shown otherwise rest : Outline)
  deriving DecidableEq, Repr

namespace Outline

open BlockMark

/-- The pieces of the template. -/
def pieces : Outline → List Piece
  | empty => []
  | text s rest => .text s.chars :: rest.pieces
  | block n negated t rest => (opens n negated).piece :: (t.pieces ++ (closes n negated).piece :: rest.pieces)
  | choice n negated t e rest => (opens n negated).piece ::
      (t.pieces ++ separates.piece :: (e.pieces ++ (closes n negated).piece :: rest.pieces))

/-- **The value** of an outline: of each block the branch that its flag selects. -/
def value (σ : FlagName → Bool) : Outline → List Char
  | empty => []
  | text s rest => s.chars ++ rest.value σ
  | block n negated t rest => (if σ n != negated then t.value σ else []) ++ rest.value σ
  | choice n negated t e rest => (if σ n != negated then t.value σ else e.value σ) ++ rest.value σ

/-- The flag and the sense of each block, also of those that stand inside others. -/
def blocks : Outline → List (FlagName × Bool)
  | empty => []
  | text _ rest => rest.blocks
  | block n negated t rest => (n, negated) :: (t.blocks ++ rest.blocks)
  | choice n negated t e rest => (n, negated) :: (t.blocks ++ e.blocks ++ rest.blocks)

/-- **No block stands inside one of its own name**, in whatever sense. -/
def WellNamed : Outline → Prop
  | empty => True
  | text _ rest => rest.WellNamed
  | block n _ t rest => (∀ b ∈ t.blocks, b.1 ≠ n) ∧ t.WellNamed ∧ rest.WellNamed
  | choice n _ t e rest =>
    (∀ b ∈ t.blocks, b.1 ≠ n) ∧ (∀ b ∈ e.blocks, b.1 ≠ n) ∧ t.WellNamed ∧ e.WellNamed ∧ rest.WellNamed

instance decidableWellNamed : ∀ t : Outline, Decidable t.WellNamed
  | empty => isTrue trivial
  | text _ rest => decidableWellNamed rest
  | block n _ t rest =>
    have := decidableWellNamed t
    have := decidableWellNamed rest
    inferInstanceAs (Decidable ((∀ b ∈ t.blocks, b.1 ≠ n) ∧ t.WellNamed ∧ rest.WellNamed))
  | choice n _ t e rest =>
    have := decidableWellNamed t
    have := decidableWellNamed e
    have := decidableWellNamed rest
    inferInstanceAs (Decidable ((∀ b ∈ t.blocks, b.1 ≠ n) ∧ (∀ b ∈ e.blocks, b.1 ≠ n) ∧ t.WellNamed ∧
      e.WellNamed ∧ rest.WellNamed))

/-- One outline after the other. -/
def append : Outline → Outline → Outline
  | empty, u => u
  | text s rest, u => text s (rest.append u)
  | block n negated t rest, u => block n negated t (rest.append u)
  | choice n negated t e rest, u => choice n negated t e (rest.append u)

/-- **The blocks of one flag and one sense resolved**: the first branch in place of the block if it is shown, else the
second one. -/
def resolve (name : FlagName) (negated shown : Bool) : Outline → Outline
  | empty => empty
  | text s rest => text s (rest.resolve name negated shown)
  | block n neg t rest =>
    if n = name ∧ neg = negated then
      (if shown then t else empty).append (rest.resolve name negated shown)
    else block n neg (t.resolve name negated shown) (rest.resolve name negated shown)
  | choice n neg t e rest =>
    if n = name ∧ neg = negated then
      (if shown then t else e).append (rest.resolve name negated shown)
    else choice n neg (t.resolve name negated shown) (e.resolve name negated shown)
      (rest.resolve name negated shown)

/-- The blocks of one flag resolved, first those for the set flag, then the negated ones. -/
def settle (name : FlagName) (state : Bool) (t : Outline) : Outline :=
  (t.resolve name false state).resolve name true (!state)

variable {σ : FlagName → Bool} {name : FlagName} {negated neg shown state : Bool} {t u : Outline}
  {b : FlagName × Bool}

/-! ### Outlines in a row -/

/-- All blocks of a block: itself, and those inside it and behind it. -/
theorem forall_mem_blocks_block {P : FlagName × Bool → Prop} {n : FlagName} {rest : Outline} :
    (∀ b ∈ (block n neg t rest).blocks, P b) ↔
      P (n, neg) ∧ (∀ b ∈ t.blocks, P b) ∧ ∀ b ∈ rest.blocks, P b := by
  rw [blocks, List.forall_mem_cons, List.forall_mem_append]

theorem forall_mem_blocks_choice {P : FlagName × Bool → Prop} {n : FlagName} {e rest : Outline} :
    (∀ b ∈ (choice n neg t e rest).blocks, P b) ↔
      P (n, neg) ∧ (∀ b ∈ t.blocks, P b) ∧ (∀ b ∈ e.blocks, P b) ∧ ∀ b ∈ rest.blocks, P b := by
  rw [blocks, List.forall_mem_cons, List.forall_mem_append, List.forall_mem_append, and_assoc]

theorem pieces_append (t u : Outline) : (t.append u).pieces = t.pieces ++ u.pieces := by
  induction t with
  | empty => rfl
  | text s rest ih => simp [append, pieces, ih]
  | block n neg t rest _ ih => simp [append, pieces, ih]
  | choice n neg t e rest _ _ ih => simp [append, pieces, ih]

theorem value_append (σ : FlagName → Bool) (t u : Outline) :
    (t.append u).value σ = t.value σ ++ u.value σ := by
  induction t with
  | empty => rfl
  | text s rest ih => simp [append, value, ih]
  | block n neg t rest _ ih => simp [append, value, ih]
  | choice n neg t e rest _ _ ih => simp [append, value, ih]

theorem blocks_append (t u : Outline) : (t.append u).blocks = t.blocks ++ u.blocks := by
  induction t with
  | empty => rfl
  | text s rest ih => exact ih
  | block n neg t rest _ ih => simp [append, blocks, ih]
  | choice n neg t e rest _ _ ih => simp [append, blocks, ih]

theorem WellNamed.append (ht : t.WellNamed) (hu : u.WellNamed) : (t.append u).WellNamed := by
  induction t with
  | empty => exact hu
  | text s rest ih => exact ih ht
  | block n neg t rest _ ih => exact ⟨ht.1, ht.2.1, ih ht.2.2⟩
  | choice n neg t e rest _ _ ih => exact ⟨ht.1, ht.2.1, ht.2.2.1, ht.2.2.2.1, ih ht.2.2.2.2⟩

/-! ### What resolving does -/

/-- Blocks are taken away and none comes in. -/
theorem mem_blocks_of_mem_resolve (h : b ∈ (t.resolve name negated shown).blocks) : b ∈ t.blocks := by
  induction t with
  | empty => exact h
  | text s rest ih => exact ih h
  | block n neg t rest iht ih =>
    rw [blocks, List.mem_cons, List.mem_append]
    rw [resolve] at h
    split at h
    · -- A block of the flag gives way to the branch that is shown.
      rw [blocks_append, List.mem_append] at h
      rcases h with h | h
      · cases shown with
        | true => exact .inr (.inl h)
        | false => cases h
      · exact .inr (.inr (ih h))
    · rw [blocks, List.mem_cons, List.mem_append] at h
      exact h.imp_right (Or.imp iht ih)
  | choice n neg t e rest iht ihe ih =>
    rw [blocks, List.mem_cons, List.mem_append, List.mem_append]
    rw [resolve] at h
    split at h
    · rw [blocks_append, List.mem_append] at h
      rcases h with h | h
      · cases shown with
        | true => exact .inr (.inl (.inl h))
        | false => exact .inr (.inl (.inr h))
      · exact .inr (.inr (ih h))
    · rw [blocks, List.mem_cons, List.mem_append, List.mem_append] at h
      exact h.imp_right (Or.imp (Or.imp iht ihe) ih)

/-- Without a block of the flag there is nothing to resolve. -/
theorem resolve_of_not_mem (h : ∀ b ∈ t.blocks, b ≠ (name, negated)) : t.resolve name negated shown = t := by
  induction t with
  | empty => rfl
  | text s rest ih => rw [resolve, ih h]
  | block n neg t rest iht ih =>
    obtain ⟨hhere, ht, hrest⟩ := forall_mem_blocks_block.1 h
    rw [resolve, if_neg fun hsame => hhere (Prod.ext hsame.1 hsame.2), iht ht, ih hrest]
  | choice n neg t e rest iht ihe ih =>
    obtain ⟨hhere, ht, he, hrest⟩ := forall_mem_blocks_choice.1 h
    rw [resolve, if_neg fun hsame => hhere (Prod.ext hsame.1 hsame.2), iht ht, ihe he, ih hrest]

/-- An outline without blocks of a name has none of either sense. -/
theorem ne_of_ne_fst (h : ∀ b ∈ t.blocks, b.1 ≠ name) : ∀ b ∈ t.blocks, b ≠ (name, negated) :=
  fun b hb hsame => h b hb (congrArg Prod.fst hsame)

/-- **The blocks are gone** that have been resolved: what has come in their place was inside them. -/
theorem ne_of_mem_blocks_resolve (hw : t.WellNamed) (h : b ∈ (t.resolve name negated shown).blocks) :
    b ≠ (name, negated) := by
  induction t with
  | empty => cases h
  | text s rest ih => exact ih hw h
  | block n neg t rest iht ih =>
    obtain ⟨hinside, ht, hrest⟩ := hw
    rw [resolve] at h
    split at h
    · next hsame =>
      -- Only its branch has come in, and there no block has its name.
      obtain ⟨rfl, rfl⟩ := hsame
      rw [blocks_append, List.mem_append] at h
      rcases h with h | h
      · cases shown with
        | true => exact ne_of_ne_fst hinside b h
        | false => cases h
      · exact ih hrest h
    · next hother =>
      rw [blocks, List.mem_cons, List.mem_append] at h
      rcases h with rfl | h | h
      · exact fun hsame => hother (Prod.mk.inj hsame)
      · exact iht ht h
      · exact ih hrest h
  | choice n neg t e rest iht ihe ih =>
    obtain ⟨hinside, hinsideElse, ht, he, hrest⟩ := hw
    rw [resolve] at h
    split at h
    · next hsame =>
      obtain ⟨rfl, rfl⟩ := hsame
      rw [blocks_append, List.mem_append] at h
      rcases h with h | h
      · cases shown with
        | true => exact ne_of_ne_fst hinside b h
        | false => exact ne_of_ne_fst hinsideElse b h
      · exact ih hrest h
    · next hother =>
      rw [blocks, List.mem_cons, List.mem_append, List.mem_append] at h
      rcases h with rfl | (h | h) | h
      · exact fun hsame => hother (Prod.mk.inj hsame)
      · exact iht ht h
      · exact ihe he h
      · exact ih hrest h

theorem WellNamed.resolve (hw : t.WellNamed) : (t.resolve name negated shown).WellNamed := by
  induction t with
  | empty => exact hw
  | text s rest ih => exact ih hw
  | block n neg t rest iht ih =>
    obtain ⟨hinside, ht, hrest⟩ := hw
    rw [Outline.resolve]
    split
    · -- What is shown takes the place of the block, so nothing is around it any more.
      cases shown with
      | true => exact ht.append (ih hrest)
      | false => exact ih hrest
    · exact ⟨fun b hb => hinside b (mem_blocks_of_mem_resolve hb), iht ht, ih hrest⟩
  | choice n neg t e rest iht ihe ih =>
    obtain ⟨hinside, hinsideElse, ht, he, hrest⟩ := hw
    rw [Outline.resolve]
    split
    · cases shown with
      | true => exact ht.append (ih hrest)
      | false => exact he.append (ih hrest)
    · exact ⟨fun b hb => hinside b (mem_blocks_of_mem_resolve hb),
        fun b hb => hinsideElse b (mem_blocks_of_mem_resolve hb), iht ht, ihe he, ih hrest⟩

/-- **The value stays** if the blocks that are resolved show what their flag selects. -/
theorem value_resolve (σ : FlagName → Bool) (name : FlagName) (negated : Bool) (t : Outline) :
    (t.resolve name negated (σ name != negated)).value σ = t.value σ := by
  induction t with
  | empty => rfl
  | text s rest ih => rw [Outline.resolve, value, value, ih]
  | block n neg t rest iht ih =>
    rw [Outline.resolve]
    split
    · next hsame =>
      -- The branch that has come in is the one that the value of the block selects.
      obtain ⟨rfl, rfl⟩ := hsame
      rw [value_append, ih, value]
      cases σ n != neg <;> rfl
    · rw [value, value, iht, ih]
  | choice n neg t e rest iht ihe ih =>
    rw [Outline.resolve]
    split
    · next hsame =>
      obtain ⟨rfl, rfl⟩ := hsame
      rw [value_append, ih, value]
      cases σ n != neg <;> rfl
    · rw [value, value, iht, ihe, ih]

/-! ### What settling does -/

/-- **The value stays** when a flag is settled as it is set. -/
theorem value_settle (σ : FlagName → Bool) (name : FlagName) (t : Outline) :
    (t.settle name (σ name)).value σ = t.value σ := by
  have hset := value_resolve σ name false t
  have hnegated := value_resolve σ name true (t.resolve name false (σ name))
  rw [Bool.bne_false] at hset
  rw [Bool.bne_true] at hnegated
  rw [settle, hnegated, hset]

theorem WellNamed.settle (hw : t.WellNamed) : (t.settle name state).WellNamed := hw.resolve.resolve

theorem mem_blocks_of_mem_settle (h : b ∈ (t.settle name state).blocks) : b ∈ t.blocks :=
  mem_blocks_of_mem_resolve (mem_blocks_of_mem_resolve h)

/-- **The blocks of a flag are gone** once it is settled. -/
theorem ne_of_mem_blocks_settle (hw : t.WellNamed) (h : b ∈ (t.settle name state).blocks) : b.1 ≠ name := by
  have hset := ne_of_mem_blocks_resolve hw (mem_blocks_of_mem_resolve h)
  have hnegated := ne_of_mem_blocks_resolve hw.resolve h
  rintro rfl
  rcases b with ⟨n, negated⟩
  cases negated with
  | false => exact hset rfl
  | true => exact hnegated rfl

/-- A flag without blocks has nothing to settle. -/
theorem settle_of_not_mem (h : ∀ b ∈ t.blocks, b.1 ≠ name) : t.settle name state = t := by
  rw [settle, resolve_of_not_mem (ne_of_ne_fst h), resolve_of_not_mem (ne_of_ne_fst h)]

/-- The template of an outline without blocks is its value. -/
theorem spelling_pieces_of_blocks_eq_nil (h : t.blocks = []) : spelling t.pieces = t.value σ := by
  induction t with
  | empty => rfl
  | text s rest ih =>
    rw [pieces, spelling_cons, value, ih h]
    rfl
  | block n neg t rest _ _ => cases h
  | choice n neg t e rest _ _ _ => cases h

end Outline

end HtmlMail.Template
