import HtmlMail.Proofs.CommandLine.Acceptance
import HtmlMail.Proofs.Template.Blocks
import HtmlMail.Proofs.Template.Substitution

/-!
# Which tag of a name counts

The first tag of a name decides what is put in place of its token, and on a command line tags are given by two
options. One would think that the first one on the command line counts. But the options `--tag` and `--flag` are
collected apart from each other, and all tags with a value come before all tags with a truth value, wherever they
stood. So a flag gives way to a tag of its name that comes later.

* `tagsInOrder` : the tags in the order of the command line;
* `tagsBy_append_tagsBy` : when sorting them by kind leaves this order alone;
* `find?_tagsBy_eq_some_iff` : whose turn is first, among the tags of a name;
* `render_spelling` : what a template without blocks becomes;
* `Arguments.allTags_of_parse` : the tags of a command line, and what that means for a name that both options give;
* `Arguments.allTags_flagFirst` : a flag in front of a tag of its name does not count.
-/

namespace HtmlMail.CommandLine

open Chars Template

/-- **The tags in the order of the command line**, whichever option denotes them. -/
def tagsInOrder (uses : List Use) : List Tag := uses.filterMap Use.tag?

variable {use : Use} {uses : List Use} {opt : Opt} {p : Tag → Bool} {first : Tag} {tags : List Tag}
  {pieces : List Piece}

/-! ### Sorting by kind -/

theorem tagsInOrder_cons (use : Use) (uses : List Use) :
    tagsInOrder (use :: uses) = use.tag?.toList ++ tagsInOrder uses := by
  rw [tagsInOrder, List.filterMap_cons]
  cases use.tag? <;> rfl

/-- Only two options denote tags. -/
theorem Use.tag?_eq_none (htag : use.opt ≠ .tag) (hflag : use.opt ≠ .flag) : use.tag? = none := by
  unfold tag?
  split
  · next h _ => exact absurd h htag
  · next h _ => exact absurd h hflag
  · rfl

theorem tagsBy_eq_nil (h : ∀ use ∈ uses, use.opt ≠ opt) : tagsBy opt uses = [] := by
  rw [tagsBy, List.filter_eq_nil_iff.2 (by simpa using h), List.filterMap_nil]

/-- **Nothing moves** if no flag stands in front of a tag. -/
theorem tagsBy_append_tagsBy (h : uses.Pairwise fun front behind => ¬ (front.opt = .flag ∧ behind.opt = .tag)) :
    tagsBy .tag uses ++ tagsBy .flag uses = tagsInOrder uses := by
  induction h with
  | nil => rfl
  | @cons use uses hfront _ ih =>
    rw [tagsBy_cons .tag, tagsBy_cons .flag, tagsInOrder_cons, ← ih, tagsBy_singleton, tagsBy_singleton]
    by_cases htag : use.opt = .tag
    · simp [htag]
    · by_cases hflag : use.opt = .flag
      · -- Behind a flag there are no tags for it to give way to.
        have hnone : tagsBy .tag uses = [] := tagsBy_eq_nil fun behind hmem hopt => hfront behind hmem ⟨hflag, hopt⟩
        simp [hflag, hnone]
      · simp [htag, hflag, Use.tag?_eq_none htag hflag]

/-- **Where no tag is asked for**, the first flag is the first one of both. -/
theorem find?_tagsBy_flag (h : (tagsBy .tag uses).find? p = none) :
    (tagsBy .flag uses).find? p = (tagsInOrder uses).find? p := by
  induction uses with
  | nil => rfl
  | cons use uses ih =>
    rw [tagsBy_cons, List.find?_append, Option.or_eq_none_iff] at h
    rw [tagsBy_cons, tagsInOrder_cons, List.find?_append, List.find?_append, ih h.2]
    congr 1
    -- A tag is not asked for, a flag stands in both rows, and other options in neither.
    by_cases htag : use.opt = .tag
    · rw [tagsBy_singleton, if_pos htag] at h
      rw [tagsBy_singleton, if_neg (by simp [htag]), h.1, List.find?_nil]
    · by_cases hflag : use.opt = .flag
      · rw [tagsBy_singleton, if_pos hflag]
      · rw [tagsBy_singleton, if_neg hflag, Use.tag?_eq_none htag hflag]
        rfl

/-- **The first one of both kinds** comes first exactly if it is the first one with a value or there is none. -/
theorem find?_tagsBy_eq_some_iff (h : (tagsInOrder uses).find? p = some first) :
    (tagsBy .tag uses ++ tagsBy .flag uses).find? p = some first ↔
      ∀ tag, (tagsBy .tag uses).find? p = some tag → tag = first := by
  rw [List.find?_append]
  cases hfind : (tagsBy .tag uses).find? p with
  | none => simp [find?_tagsBy_flag hfind, h]
  | some tag => simp

/-! ### Templates without blocks -/

/-- A flag leaves a template alone that holds no closing mark. -/
theorem resolveIn_spelling {tag : Tag} (hproper : ∀ p ∈ pieces, p.IsProper)
    (hclosing : ∀ name, .mark ('/' :: name) ∉ pieces) (htag : tag.IsPlain) :
    tag.resolveIn (String.ofList (spelling pieces)) = String.ofList (spelling pieces) := by
  -- A block would need a closing mark.
  have hblock (negated : Bool) : ¬ HoldsBlock tag.name.toList negated (spelling pieces) := by
    intro h
    have hmark : closingMark tag.name.toList negated =
        mark ('/' :: ((if negated then ['!'] else []) ++ tag.name.toList)) := by
      simp [closingMark, mark]
    have hsharp : '#' ∉ '/' :: ((if negated then ['!'] else []) ++ tag.name.toList) := by
      cases negated <;> simp [htag.name_sharp]
    exact not_infix_spelling hproper hsharp (hclosing _) (hmark ▸ h.infix.2)
  have hevaluate (state : Bool) : evaluate tag.name state (String.ofList (spelling pieces)) =
      String.ofList (spelling pieces) := by
    rw [evaluate, String.toList_ofList, resolveBlocks_eq_self (hblock false), resolveBlocks_eq_self (hblock true)]
  rw [Tag.resolveIn]
  split
  · rfl
  · next state _ => rw [maxPasses, evaluateUpTo, hevaluate, if_pos rfl]

/-- **A template without blocks** is filled in, piece by piece. -/
theorem render_spelling (hproper : ∀ p ∈ pieces, p.IsProper) (hclosing : ∀ name, .mark ('/' :: name) ∉ pieces)
    (htags : ∀ tag ∈ tags, tag.IsPlain) : render tags (String.ofList (spelling pieces)) =
      String.ofList (spelling (pieces.map (fillFirst tags))) := by
  have hkeep : tags.foldl (fun text tag => tag.resolveIn text) (String.ofList (spelling pieces)) =
      String.ofList (spelling pieces) := by
    induction tags with
    | nil => rfl
    | cons tag tags ih =>
      obtain ⟨htag, hrest⟩ := List.forall_mem_cons.1 htags
      rw [List.foldl_cons, resolveIn_spelling hproper hclosing htag, ih hrest]
  rw [render, hkeep, substitute_spelling hproper htags]

/-! ### Command lines -/

/-- **Tags come by kind.** A command line is accepted exactly if it spells options that are. Its tags are then those of
the options `--tag`, and behind them those of the options `--flag`, both in the order of the command line. So they are
in this order altogether if no flag stands in front of a tag. Of the tags of one name, the first one on the command
line comes first exactly if it is the first one of that name among the options `--tag` as well, or none of these has
the name. And in a template of proper pieces without blocks, a token becomes the value of the first option `--tag` of
its name, and only where there is none the value of the first option `--flag`. -/
theorem Arguments.allTags_of_parse (arguments : List String) :
    ((∃ args, Arguments.parse arguments = .ok args) ↔ ∃ uses, Spells arguments uses ∧ Accepted uses) ∧
      ∀ uses args, Spells arguments uses → Arguments.parse arguments = .ok args →
        args.allTags = tagsBy .tag uses ++ tagsBy .flag uses ∧
        (uses.Pairwise (fun front behind => ¬ (front.opt = .flag ∧ behind.opt = .tag)) →
          args.allTags = tagsInOrder uses) ∧
        (∀ name first, (tagsInOrder uses).find? (·.name == name) = some first →
          (args.allTags.find? (·.name == name) = some first ↔
            ∀ tag, (tagsBy .tag uses).find? (·.name == name) = some tag → tag = first)) ∧
        ∀ pieces : List Piece, (∀ p ∈ pieces, p.IsProper) → (∀ name, .mark ('/' :: name) ∉ pieces) →
          (∀ tag ∈ args.allTags, tag.IsPlain) → render args.allTags (String.ofList (spelling pieces)) =
            String.ofList (spelling (pieces.map (fillFirst (tagsBy .tag uses ++ tagsBy .flag uses)))) := by
  refine ⟨⟨?_, ?_⟩, fun uses args hspells hparse => ?_⟩
  · rintro ⟨args, hparse⟩
    obtain ⟨uses, hspells⟩ := exists_spells_of_parse hparse
    exact ⟨uses, hspells, hspells.exists_parse_eq_ok_iff.1 ⟨args, hparse⟩⟩
  · rintro ⟨uses, hspells, haccepted⟩
    exact hspells.exists_parse_eq_ok_iff.2 haccepted
  · -- The rest goes by the one equation that lists the tags in front of the flags.
    obtain ⟨htags, hflags⟩ := hspells.tags_of_parse hparse
    have hall : args.allTags = tagsBy .tag uses ++ tagsBy .flag uses := by rw [allTags, htags, hflags]
    rw [hall]
    exact ⟨rfl, tagsBy_append_tagsBy, fun name first => find?_tagsBy_eq_some_iff,
      fun pieces hproper hclosing hplain => render_spelling hproper hclosing hplain⟩

/-- A command line in several spellings, on which both options give a tag of one name. -/
def guestLine : List String :=
  ["--tag", "name=Ann", "-tmail.html", "--tag=name=Bob", "--flag", "name= True", "--flag=member=false", "--"]

/-- What it spells. -/
def guestUses : List Use :=
  [⟨.tag, some "name=Ann"⟩, ⟨.template, some "mail.html"⟩, ⟨.tag, some "name=Bob"⟩, ⟨.flag, some "name= True"⟩,
    ⟨.flag, some "member=false"⟩]

theorem spells_guestLine : Spells guestLine guestUses := by
  have hann : Use.Spelled ⟨.tag, some "name=Ann"⟩ ["--tag", "name=Ann"] :=
    @Use.Spelled.apart .tag rfl _ (by decide)
  have hmail : Use.Spelled ⟨.template, some "mail.html"⟩ ["-tmail.html"] :=
    @Use.Spelled.letterJoined .template 't' rfl rfl "mail.html" (by decide) (by decide)
  have hbob : Use.Spelled ⟨.tag, some "name=Bob"⟩ ["--tag=name=Bob"] := @Use.Spelled.attached .tag rfl "name=Bob"
  have hname : Use.Spelled ⟨.flag, some "name= True"⟩ ["--flag", "name= True"] :=
    @Use.Spelled.apart .flag rfl _ (by decide)
  have hmember : Use.Spelled ⟨.flag, some "member=false"⟩ ["--flag=member=false"] :=
    @Use.Spelled.attached .flag rfl "member=false"
  exact .cons hann (.cons hmail (.cons hbob (.cons hname (.cons hmember .closed))))

theorem accepted_guestUses : Accepted guestUses where
  readable := by
    intro use hmem
    simp only [guestUses, List.mem_cons, List.not_mem_nil, or_false] at hmem
    rcases hmem with rfl | rfl | rfl | rfl | rfl <;> exact ⟨by decide, by decide, by decide, by decide⟩
  once := by decide
  template := by decide
  layout := by decide
  tracking := by decide

/-- The first tag of a name counts, and the flag of that name does not. -/
theorem Arguments.allTags_guestLine : ∃ args, Arguments.parse guestLine = .ok args ∧
    args.allTags = tagsInOrder guestUses ∧
    args.allTags.find? (·.name == "name") = some ⟨"name", "Ann", by decide⟩ ∧
    render args.allTags "Dear [#name#]: [#member#]" = "Dear Ann: false" := by
  obtain ⟨haccepted, htags⟩ := Arguments.allTags_of_parse guestLine
  obtain ⟨args, hparse⟩ := haccepted.2 ⟨guestUses, spells_guestLine, accepted_guestUses⟩
  obtain ⟨-, horder, hfirst, hrender⟩ := htags guestUses args spells_guestLine hparse
  have hall : args.allTags = [⟨"name", "Ann", by decide⟩, ⟨"name", "Bob", by decide⟩, ⟨"name", "true", by decide⟩,
      ⟨"member", "false", by decide⟩] := (horder (by decide)).trans (by decide)
  have hplain : ∀ tag ∈ args.allTags, tag.IsPlain := by
    rw [hall]
    intro tag hmem
    simp only [List.mem_cons, List.not_mem_nil, or_false] at hmem
    rcases hmem with rfl | rfl | rfl | rfl <;> exact ⟨by decide, by decide, by decide⟩
  have hletter := hrender
    [.text "Dear ".toList, .mark "name".toList, .text ": ".toList, .mark "member".toList] (by decide) (by simp) hplain
  refine ⟨args, hparse, horder (by decide), (hfirst "name" _ (by decide)).2 (by decide), ?_⟩
  exact hletter.trans (by decide)

/-- A flag in front of a tag of its name. -/
def flagFirstLine : List String := ["-t", "mail.html", "--flag", "n=true", "--tag", "n=x"]

/-- What it spells. -/
def flagFirstUses : List Use := [⟨.template, some "mail.html"⟩, ⟨.flag, some "n=true"⟩, ⟨.tag, some "n=x"⟩]

/-- **A flag in front of a tag of its name does not count**, although it is the first one on the command line. -/
theorem Arguments.allTags_flagFirst : Spells flagFirstLine flagFirstUses ∧
    tagsInOrder flagFirstUses = [⟨"n", "true", by decide⟩, ⟨"n", "x", by decide⟩] ∧
    ∃ args, Arguments.parse flagFirstLine = .ok args ∧
      args.allTags = [⟨"n", "x", by decide⟩, ⟨"n", "true", by decide⟩] ∧
      args.allTags ≠ tagsInOrder flagFirstUses ∧
      render (tagsInOrder flagFirstUses) "[#n#]" = "true" ∧ render args.allTags "[#n#]" = "x" := by
  have hmail : Use.Spelled ⟨.template, some "mail.html"⟩ ["-t", "mail.html"] :=
    @Use.Spelled.letterApart .template 't' rfl rfl _ (by decide)
  have hflag : Use.Spelled ⟨.flag, some "n=true"⟩ ["--flag", "n=true"] := @Use.Spelled.apart .flag rfl _ (by decide)
  have htag : Use.Spelled ⟨.tag, some "n=x"⟩ ["--tag", "n=x"] := @Use.Spelled.apart .tag rfl _ (by decide)
  refine ⟨.cons hmail (.cons hflag (.cons htag .nothing)), by decide, _, rfl, rfl, by decide, ?_, ?_⟩
  · decide +kernel
  · decide +kernel

end HtmlMail.CommandLine
