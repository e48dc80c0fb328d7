import HtmlMail.Proofs.Template.Nesting
import HtmlMail.Proofs.Template.Passes

/-!
# Nested blocks and the order of flags

The flags of a template are evaluated in the order of their tags. Each of them settles its own blocks if these are
clear when its turn comes. Whether they are is decided by what stands in them at that time: a block with two branches
that is not settled yet lends its mark to the block around it. So the order counts, unless every flag of a block with
two branches comes before the flags of the blocks around.

* `Outline.resolveIn_template` : what the tag of one flag does, and `Outline.foldl_resolveIn` : what all of them do;
* `Outline.ClearAlong` : the blocks of each flag are clear when its turn comes, and
  `Outline.clearAlong_of_innerFirst` : it is so if inner flags come first;
* `Outline.render_outline` : under either condition a template is rendered as its value;
* `Outline.render_outerFirst` : with the outer flag first, its block takes the mark of the block inside.
-/

namespace HtmlMail.Template

/-! ### Tags of flags -/

namespace FlagName

theorem ofList_chars_ne_empty (n : FlagName) : String.ofList n.chars ≠ "" := by
  intro h
  exact n.chars_ne_nil (String.ofList_eq_empty_iff.1 h)

/-- The tag of a flag that is set or not. -/
def tag (n : FlagName) (state : Bool) : Tag :=
  ⟨String.ofList n.chars, if state then "true" else "false", n.ofList_chars_ne_empty⟩

variable {n : FlagName} {state : Bool}

theorem flagState?_tag : (n.tag state).flagState? = some state := by
  have htrue : Text.eqIgnoringCase "true" "true" = true := by decide
  have hfalse : Text.eqIgnoringCase "false" "true" = false := by decide
  have hsame : Text.eqIgnoringCase "false" "false" = true := by decide
  cases state <;> simp [Tag.flagState?, tag, htrue, hfalse, hsame]

/-- The marks of a token take nothing off the name of a flag. -/
theorem bareName_ofList_chars (n : FlagName) : bareName (String.ofList n.chars) = String.ofList n.chars := by
  have hnot {c : Char} {pat s : List Char} (h : c ∉ s) : (c :: pat).isPrefixOf? s = none := by
    cases s with
    | nil => rfl
    | cons d s => simp [List.isPrefixOf?, List.ne_of_not_mem_cons h]
  -- There are no brackets in the name, so none are taken off.
  have hbegin : tokenStart.toList.isPrefixOf? n.chars = none :=
    hnot fun h => n.ordinary '[' h (by decide)
  have hend : tokenEnd.toList.isSuffixOf? n.chars = none := by
    have hbracket : ']' ∉ n.chars.reverse :=
      fun h => n.ordinary ']' (List.mem_reverse.1 h) (by decide)
    exact congrArg (Option.map List.reverse) (hnot hbracket)
  rw [bareName, String.toList_ofList, hbegin, Option.getD_none, hend, Option.getD_none]

/-- It is the tag that is made of the name and the truth value. -/
theorem ofFlag_ofList_chars (n : FlagName) (state : Bool) :
    Tag.ofFlag (String.ofList n.chars) state = .ok (n.tag state) := by
  have hname : bareName (String.ofList n.chars) ≠ "" := by
    rw [bareName_ofList_chars]
    exact n.ofList_chars_ne_empty
  rw [Tag.ofFlag, Tag.ofNameValue, dif_neg hname]
  simp only [n.bareName_ofList_chars]
  rfl

theorem isPlain_tag : (n.tag state).IsPlain := by
  have hname : (n.tag state).name.toList = n.chars := String.toList_ofList
  refine ⟨?_, ?_, ?_⟩
  · rw [hname]
    exact fun h => n.ordinary '[' h (by decide)
  · rw [hname]
    exact fun h => n.ordinary '#' h (by decide)
  · have htrue : '[' ∉ "true".toList := by decide
    have hfalse : '[' ∉ "false".toList := by decide
    cases state with
    | false => exact hfalse
    | true => exact htrue

end FlagName

namespace Outline

variable {σ : FlagName → Bool} {name n : FlagName} {negated shown : Bool} {t u : Outline}
  {names : List FlagName} {b : FlagName × Bool}

/-! ### One flag after the other -/

theorem isClear_of_not_mem (h : ∀ b ∈ t.blocks, b.1 ≠ name) : t.IsClear name := by
  induction t with
  | empty => trivial
  | text s rest ih => exact ih h
  | block n neg t rest iht ih =>
    obtain ⟨hhere, ht, hrest⟩ := forall_mem_blocks_block.1 h
    exact ⟨fun hsame => absurd hsame hhere, iht ht, ih hrest⟩
  | choice n neg t e rest iht ihe ih =>
    obtain ⟨hhere, ht, he, hrest⟩ := forall_mem_blocks_choice.1 h
    exact ⟨fun hsame => absurd hsame hhere, iht ht, ihe he, ih hrest⟩

/-- **The tag of a flag settles it**, if its blocks are clear: in a second pass there are none left. -/
theorem resolveIn_template (hw : t.WellNamed) (hclear : t.IsClear name) (state : Bool) :
    (name.tag state).resolveIn t.template = (t.settle name state).template := by
  have hgone : ∀ b ∈ (t.settle name state).blocks, b.1 ≠ name := fun b hb => ne_of_mem_blocks_settle hw hb
  have hfirst : evaluate (String.ofList name.chars) state t.template = (t.settle name state).template :=
    evaluate_template hw hclear
  have hsecond : evaluate (String.ofList name.chars) state (t.settle name state).template =
      (t.settle name state).template := by
    rw [evaluate_template hw.settle (isClear_of_not_mem hgone), settle_of_not_mem hgone]
  -- One pass is enough, for the second one finds no block of the flag.
  have hstable : evaluate (String.ofList name.chars) state
      (evaluate (String.ofList name.chars) state t.template) =
        evaluate (String.ofList name.chars) state t.template := by
    rw [hfirst, hsecond]
  calc (name.tag state).resolveIn t.template
      = evaluateUpTo (String.ofList name.chars) state maxPasses t.template := by
        rw [Tag.resolveIn, FlagName.flagState?_tag]
        rfl
    _ = evaluate (String.ofList name.chars) state t.template := evaluateUpTo_succ_of_stable hstable _
    _ = (t.settle name state).template := hfirst

/-- The outline with the blocks of all these flags settled, flag by flag. -/
def settleAll (σ : FlagName → Bool) (names : List FlagName) (t : Outline) : Outline :=
  names.foldl (fun t n => t.settle n (σ n)) t

/-- **The blocks of each flag are clear when its turn comes.** -/
def ClearAlong (σ : FlagName → Bool) : List FlagName → Outline → Prop
  | [], _ => True
  | n :: names, t => t.IsClear n ∧ ClearAlong σ names (t.settle n (σ n))

instance decidableClearAlong (σ : FlagName → Bool) : ∀ (names : List FlagName) (t : Outline),
    Decidable (ClearAlong σ names t)
  | [], _ => isTrue trivial
  | n :: names, t =>
    have := decidableClearAlong σ names (t.settle n (σ n))
    inferInstanceAs (Decidable (t.IsClear n ∧ ClearAlong σ names (t.settle n (σ n))))

/-- **All tags settle their flags**, if the blocks of each flag are clear when its turn comes. -/
theorem foldl_resolveIn (hw : t.WellNamed) (hclear : ClearAlong σ names t) :
    (names.map fun n => n.tag (σ n)).foldl (fun text tag => tag.resolveIn text) t.template =
      (t.settleAll σ names).template := by
  induction names generalizing t with
  | nil => rfl
  | cons n names ih =>
    -- The first flag settles the outline, and the others find what it has left.
    obtain ⟨hhere, hlater⟩ := hclear
    rw [List.map_cons, List.foldl_cons, resolveIn_template hw hhere, ih hw.settle hlater]
    rfl

/-- The value stays, whatever is settled. -/
theorem value_settleAll (σ : FlagName → Bool) (names : List FlagName) (t : Outline) :
    (t.settleAll σ names).value σ = t.value σ := by
  induction names generalizing t with
  | nil => rfl
  | cons n names ih => exact (ih (t.settle n (σ n))).trans (value_settle σ n t)

/-- What is left belongs to other flags. -/
theorem mem_blocks_of_mem_settleAll (hw : t.WellNamed) (h : b ∈ (t.settleAll σ names).blocks) :
    b ∈ t.blocks ∧ b.1 ∉ names := by
  induction names generalizing t with
  | nil => exact ⟨h, List.not_mem_nil⟩
  | cons n names ih =>
    obtain ⟨hleft, hother⟩ := ih hw.settle h
    have hne := ne_of_mem_blocks_settle hw hleft
    exact ⟨mem_blocks_of_mem_settle hleft, List.not_mem_cons_of_ne_of_not_mem hne hother⟩

/-- Once every flag is settled, the template is the value. -/
theorem template_settleAll (hw : t.WellNamed) (hnames : ∀ b ∈ t.blocks, b.1 ∈ names) :
    (t.settleAll σ names).template = String.ofList (t.value σ) := by
  have hgone : (t.settleAll σ names).blocks = [] := by
    refine List.eq_nil_iff_forall_not_mem.2 fun b hb => ?_
    obtain ⟨hmem, hother⟩ := mem_blocks_of_mem_settleAll hw hb
    exact hother (hnames b hmem)
  have hspelling : spelling (t.settleAll σ names).pieces = (t.settleAll σ names).value σ :=
    spelling_pieces_of_blocks_eq_nil hgone
  rw [template, hspelling, value_settleAll]

theorem bracket_not_mem_value (σ : FlagName → Bool) (t : Outline) : '[' ∉ t.value σ := by
  induction t with
  | empty => exact List.not_mem_nil
  | text s rest ih =>
    rw [value, List.mem_append, not_or]
    exact ⟨s.no_bracket, ih⟩
  | block n neg t rest iht ih =>
    rw [value, List.mem_append, not_or]
    refine ⟨?_, ih⟩
    split
    · exact iht
    · exact List.not_mem_nil
  | choice n neg t e rest iht ihe ih =>
    rw [value, List.mem_append, not_or]
    refine ⟨?_, ih⟩
    split
    · exact iht
    · exact ihe

/-- The tags find no token in the value. -/
theorem substitute_value (σ : FlagName → Bool) (names : List FlagName) (t : Outline) :
    substitute (names.map fun n => n.tag (σ n)) (String.ofList (t.value σ)) = String.ofList (t.value σ) := by
  have hproper : ∀ p ∈ [Piece.text (t.value σ)], p.IsProper :=
    List.forall_mem_singleton.2 (isProper_text (bracket_not_mem_value σ t))
  have hplain : ∀ tag ∈ names.map fun n => n.tag (σ n), tag.IsPlain := by
    intro tag hmem
    obtain ⟨n, -, rfl⟩ := List.mem_map.1 hmem
    exact FlagName.isPlain_tag
  have hspelling : spelling [Piece.text (t.value σ)] = t.value σ := List.append_nil _
  have hsubstitute := substitute_spelling hproper hplain
  rwa [hspelling, List.map_singleton, fillFirst, hspelling] at hsubstitute

/-- **A template is rendered as its value**, if the blocks of each flag are clear when its turn comes. -/
theorem render_of_clearAlong (hw : t.WellNamed) (hnames : ∀ b ∈ t.blocks, b.1 ∈ names)
    (hclear : ClearAlong σ names t) :
    render (names.map fun n => n.tag (σ n)) t.template = String.ofList (t.value σ) := by
  rw [render, foldl_resolveIn hw hclear, template_settleAll hw hnames, substitute_value]

/-! ### Inner flags first -/

/-- **Inner flags first**: the flags of the blocks with two branches inside a block are named before its own. -/
def InnerFirst (names : List FlagName) : Outline → Prop
  | empty => True
  | text _ rest => rest.InnerFirst names
  | block n _ t rest =>
    (∀ m ∈ t.choices, names.idxOf m < names.idxOf n) ∧ t.InnerFirst names ∧ rest.InnerFirst names
  | choice n _ t e rest =>
    (∀ m ∈ t.choices ++ e.choices, names.idxOf m < names.idxOf n) ∧ t.InnerFirst names ∧ e.InnerFirst names ∧
      rest.InnerFirst names

instance decidableInnerFirst (names : List FlagName) : ∀ t : Outline, Decidable (t.InnerFirst names)
  | empty => isTrue trivial
  | text _ rest => decidableInnerFirst names rest
  | block n _ t rest =>
    have := decidableInnerFirst names t
    have := decidableInnerFirst names rest
    inferInstanceAs (Decidable ((∀ m ∈ t.choices, names.idxOf m < names.idxOf n) ∧ t.InnerFirst names ∧
      rest.InnerFirst names))
  | choice n _ t e rest =>
    have := decidableInnerFirst names t
    have := decidableInnerFirst names e
    have := decidableInnerFirst names rest
    inferInstanceAs (Decidable ((∀ m ∈ t.choices ++ e.choices, names.idxOf m < names.idxOf n) ∧
      t.InnerFirst names ∧ e.InnerFirst names ∧ rest.InnerFirst names))

theorem choices_append (t u : Outline) : (t.append u).choices = t.choices ++ u.choices := by
  induction t with
  | empty => rfl
  | text s rest ih => exact ih
  | block n neg t rest _ ih => simp [append, choices, ih]
  | choice n neg t e rest _ _ ih => simp [append, choices, ih]

/-- Blocks with two branches are taken away and none comes in. -/
theorem mem_choices_of_mem_resolve (h : n ∈ (t.resolve name negated shown).choices) : n ∈ t.choices := by
  induction t with
  | empty => exact h
  | text s rest ih => exact ih h
  | block m neg t rest iht ih =>
    rw [choices, List.mem_append]
    rw [resolve] at h
    split at h
    · -- A block of the flag gives way to the branch that is shown.
      rw [choices_append, List.mem_append] at h
      rcases h with h | h
      · cases shown with
        | true => exact .inl h
        | false => cases h
      · exact .inr (ih h)
    · rw [choices, List.mem_append] at h
      exact h.imp iht ih
  | choice m neg t e rest iht ihe ih =>
    rw [choices, List.mem_cons, List.mem_append, List.mem_append]
    rw [resolve] at h
    split at h
    · rw [choices_append, List.mem_append] at h
      rcases h with h | h
      · cases shown with
        | true => exact .inr (.inl (.inl h))
        | false => exact .inr (.inl (.inr h))
      · exact .inr (.inr (ih h))
    · rw [choices, List.mem_cons, List.mem_append, List.mem_append] at h
      exact h.imp_right (Or.imp (Or.imp iht ihe) ih)

theorem InnerFirst.append (ht : t.InnerFirst names) (hu : u.InnerFirst names) : (t.append u).InnerFirst names := by
  induction t with
  | empty => exact hu
  | text s rest ih => exact ih ht
  | block n neg t rest _ ih => exact ⟨ht.1, ht.2.1, ih ht.2.2⟩
  | choice n neg t e rest _ _ ih => exact ⟨ht.1, ht.2.1, ht.2.2.1, ih ht.2.2.2⟩

/-- To resolve other blocks puts nothing into a block that was not inside it before. -/
theorem InnerFirst.resolve (h : t.InnerFirst names) : (t.resolve name negated shown).InnerFirst names := by
  induction t with
  | empty => exact h
  | text s rest ih => exact ih h
  | block n neg t rest iht ih =>
    obtain ⟨hinner, ht, hrest⟩ := h
    rw [Outline.resolve]
    split
    · cases shown with
      | true => exact ht.append (ih hrest)
      | false => exact ih hrest
    · exact ⟨fun m hm => hinner m (mem_choices_of_mem_resolve hm), iht ht, ih hrest⟩
  | choice n neg t e rest iht ihe ih =>
    obtain ⟨hinner, ht, he, hrest⟩ := h
    rw [Outline.resolve]
    split
    · cases shown with
      | true => exact ht.append (ih hrest)
      | false => exact he.append (ih hrest)
    · -- The choice of another flag stays, with no more choices in it than before.
      obtain ⟨hinnerThen, hinnerElse⟩ := List.forall_mem_append.1 hinner
      have hstill : ∀ m ∈ (t.resolve name negated shown).choices ++ (e.resolve name negated shown).choices,
          names.idxOf m < names.idxOf n := List.forall_mem_append.2
        ⟨fun m hm => hinnerThen m (mem_choices_of_mem_resolve hm),
          fun m hm => hinnerElse m (mem_choices_of_mem_resolve hm)⟩
      exact ⟨hstill, iht ht, ihe he, ih hrest⟩

/-- The flag that is named first has no other one before it. -/
theorem InnerFirst.isClear (h : t.InnerFirst (name :: names)) : t.IsClear name := by
  -- No flag comes before the one named first, so its blocks hold none with two branches.
  have hnone {ms : List FlagName}
      (hms : ∀ m ∈ ms, (name :: names).idxOf m < (name :: names).idxOf name) : ms = [] := by
    refine List.eq_nil_iff_forall_not_mem.2 fun m hm => ?_
    have hlt := hms m hm
    rw [List.idxOf_cons_self] at hlt
    exact Nat.not_lt_zero _ hlt
  induction t with
  | empty => trivial
  | text s rest ih => exact ih h
  | block n neg t rest iht ih =>
    obtain ⟨hinner, ht, hrest⟩ := h
    refine ⟨?_, iht ht, ih hrest⟩
    rintro rfl
    rw [hnone hinner]
    decide
  | choice n neg t e rest iht ihe ih =>
    obtain ⟨hinner, ht, he, hrest⟩ := h
    refine ⟨?_, iht ht, ihe he, ih hrest⟩
    rintro rfl
    exact List.append_eq_nil_iff.1 (hnone hinner)

theorem ne_of_mem_choices (h : ∀ b ∈ t.blocks, b.1 ≠ name) : ∀ m ∈ t.choices, m ≠ name := by
  induction t with
  | empty => exact fun m hm => absurd hm List.not_mem_nil
  | text s rest ih => exact ih h
  | block n neg t rest iht ih =>
    obtain ⟨-, ht, hrest⟩ := forall_mem_blocks_block.1 h
    exact List.forall_mem_append.2 ⟨iht ht, ih hrest⟩
  | choice n neg t e rest iht ihe ih =>
    obtain ⟨hhere, ht, he, hrest⟩ := forall_mem_blocks_choice.1 h
    have hbranches := List.forall_mem_append.2 ⟨iht ht, ihe he⟩
    exact List.forall_mem_cons.2 ⟨hhere, List.forall_mem_append.2 ⟨hbranches, ih hrest⟩⟩

/-- The order of the others does not depend on a flag without blocks. -/
theorem InnerFirst.of_cons (h : t.InnerFirst (name :: names)) (hgone : ∀ b ∈ t.blocks, b.1 ≠ name) :
    t.InnerFirst names := by
  -- Behind the flag that goes, every other one moves up by one place.
  have hshift {n m : FlagName} (hn : n ≠ name) (hm : m ≠ name)
      (hlt : (name :: names).idxOf m < (name :: names).idxOf n) : names.idxOf m < names.idxOf n := by
    rw [List.idxOf_cons_ne _ hm.symm, List.idxOf_cons_ne _ hn.symm] at hlt
    exact Nat.lt_of_succ_lt_succ hlt
  induction t with
  | empty => trivial
  | text s rest ih => exact ih h hgone
  | block n neg t rest iht ih =>
    obtain ⟨hinner, ht, hrest⟩ := h
    obtain ⟨hn, hgonet, hgonerest⟩ := forall_mem_blocks_block.1 hgone
    exact ⟨fun m hm => hshift hn (ne_of_mem_choices hgonet m hm) (hinner m hm), iht ht hgonet, ih hrest hgonerest⟩
  | choice n neg t e rest iht ihe ih =>
    obtain ⟨hinner, ht, he, hrest⟩ := h
    obtain ⟨hn, hgonet, hgonee, hgonerest⟩ := forall_mem_blocks_choice.1 hgone
    have hne : ∀ m ∈ t.choices ++ e.choices, m ≠ name :=
      List.forall_mem_append.2 ⟨ne_of_mem_choices hgonet, ne_of_mem_choices hgonee⟩
    exact ⟨fun m hm => hshift hn (hne m hm) (hinner m hm), iht ht hgonet, ihe he hgonee, ih hrest hgonerest⟩

/-- **With inner flags first**, the blocks of each flag hold no other mark between branches when its turn comes. -/
theorem clearAlong_of_innerFirst (hw : t.WellNamed) (hfirst : t.InnerFirst names) : ClearAlong σ names t := by
  induction names generalizing t with
  | nil => trivial
  | cons n names ih =>
    -- The flag just settled has no blocks any more, so its place in the order no longer counts.
    have hgone : ∀ b ∈ (t.settle n (σ n)).blocks, b.1 ≠ n := fun b hb => ne_of_mem_blocks_settle hw hb
    have hstill : (t.settle n (σ n)).InnerFirst (n :: names) := hfirst.resolve.resolve
    exact ⟨hfirst.isClear, ih hw.settle (hstill.of_cons hgone)⟩

/-! ### Rendering -/

/-- **Nested blocks are rendered as their tree**, whatever the truth values of their flags, if inner flags come first;
and for given truth values in every other order, too, in which the blocks of each flag are clear when its turn comes.
Every flag has a tag for each truth value. There may be tags of more flags than the template has, and a flag may be
named again. -/
theorem render_outline (hw : t.WellNamed) (hnames : ∀ b ∈ t.blocks, b.1 ∈ names) :
    (∀ (n : FlagName) (state : Bool), Tag.ofFlag (String.ofList n.chars) state = .ok (n.tag state)) ∧
    (t.InnerFirst names → ∀ σ : FlagName → Bool,
      render (names.map fun n => n.tag (σ n)) t.template = String.ofList (t.value σ)) ∧
    ∀ σ : FlagName → Bool, ClearAlong σ names t →
      render (names.map fun n => n.tag (σ n)) t.template = String.ofList (t.value σ) := by
  refine ⟨FlagName.ofFlag_ofList_chars, ?_, ?_⟩
  · intro hfirst σ
    exact render_of_clearAlong hw hnames (clearAlong_of_innerFirst hw hfirst)
  · intro σ hclear
    exact render_of_clearAlong hw hnames hclear

end Outline

/-! ### A mail for a guest -/

open Outline

/-- The flag of a mail to a guest. -/
def guest : FlagName := ⟨"guest".toList, by decide, not_mem_reserved_of_all (by decide), by decide⟩

/-- The flag of a mail to somebody whose name is known. -/
def named : FlagName := ⟨"named".toList, by decide, not_mem_reserved_of_all (by decide), by decide⟩

/-- Two blocks with two branches inside one with a single branch. -/
def invitation : Outline :=
  block guest false
    (text ⟨"Dear ".toList, by decide⟩ <|
      choice named true (text ⟨"guest".toList, by decide⟩ empty) (text ⟨"Ann".toList, by decide⟩ empty) <|
      text ⟨", ".toList, by decide⟩ <|
      choice named false (text ⟨"you".toList, by decide⟩ empty) (text ⟨"all".toList, by decide⟩ empty) <|
      text ⟨" come".toList, by decide⟩ empty)
    (text ⟨".".toList, by decide⟩ empty)

/-- The inner flag may come first, and here the outer one as well, as its block holds two marks between branches. -/
theorem render_invitation :
    invitation.template =
      "[#guest#]Dear [#!named#]guest[#else#]Ann[#/!named#], [#named#]you[#else#]all[#/named#] come[#/guest#]." ∧
    render [named.tag true, guest.tag true] invitation.template = "Dear Ann, you come." ∧
    render [guest.tag true, named.tag true] invitation.template = "Dear Ann, you come." := by
  have hw : invitation.WellNamed := by decide
  have hvalue : String.ofList (invitation.value fun _ => true) = "Dear Ann, you come." := by decide
  have hinner := (render_outline hw (by decide : ∀ b ∈ invitation.blocks, b.1 ∈ [named, guest])).2.1
    (by decide) fun _ => true
  have houter := (render_outline hw (by decide : ∀ b ∈ invitation.blocks, b.1 ∈ [guest, named])).2.2
    (fun _ => true) (by decide)
  rw [hvalue] at hinner houter
  exact ⟨by decide, hinner, houter⟩

/-- One block with two branches inside one with a single branch. -/
def salutation : Outline :=
  block guest false
    (choice named false (text ⟨"Ann".toList, by decide⟩ empty) (text ⟨"you".toList, by decide⟩ empty) empty) empty

/-- **With the outer flag first**, its block takes the mark of the block inside for its own: what is left of this is an
opening mark, which is then replaced as if it were a token. -/
theorem render_outerFirst :
    salutation.WellNamed ∧ (∀ b ∈ salutation.blocks, b.1 ∈ [guest, named]) ∧
    salutation.template = "[#guest#][#named#]Ann[#else#]you[#/named#][#/guest#]" ∧
    String.ofList (salutation.value fun _ => true) = "Ann" ∧
    render [guest.tag true, named.tag true] salutation.template = "trueAnn" := by
  refine ⟨by decide, by decide, by decide, by decide, ?_⟩
  decide +kernel

end HtmlMail.Template
