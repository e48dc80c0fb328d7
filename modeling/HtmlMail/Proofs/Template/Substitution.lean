import HtmlMail.Proofs.Template.Pieces

/-!
# One tag after the other is all tags at once

Tags are put into a template one by one, and each of them is looked for in what the tags before it have left. A value
could thus be replaced again, or make a token together with the text beside it. Neither happens in a template of
proper pieces if the values hold no opening bracket: a value is then a proper piece of text itself, so that the
template stays one of proper pieces, and the tokens that are left are tokens of the template.

* `Tag.IsPlain` : names and values that make no token;
* `fillFirst` : the piece with the value of the first tag of its name;
* `substitute_spelling` : tag by tag, every piece gets the value of the first tag of its name;
* `substitute_pieces` : the same with what follows from it, that only the order of tags with equal names counts and
  that a second run changes nothing.
-/

namespace HtmlMail.Template

open Chars

/-- **A plain tag** has a name without the characters that begin or end a mark, and a value without the one that
begins it. -/
structure Tag.IsPlain (tag : Tag) : Prop where
  name_bracket : '[' ∉ tag.name.toList
  name_sharp : '#' ∉ tag.name.toList
  value_bracket : '[' ∉ tag.value.toList

/-- The piece with the value of the first tag that has its name. Texts, and marks without a tag, stay. -/
def fillFirst (tags : List Tag) : Piece → Piece
  | .text s => .text s
  | .mark name =>
    match tags.find? (·.name.toList == name) with
    | some tag => .text tag.value.toList
    | none => .mark name

variable {tag : Tag} {tags tags' : List Tag} {p : Piece} {pieces : List Piece}

/-! ### One tag -/

/-- How a template spells a tag is a mark. -/
theorem toList_token (tag : Tag) : tag.token.toList = mark tag.name.toList := by
  simp [Tag.token, tokenStart, tokenEnd, mark]

theorem substituteIn_spelling (hproper : ∀ p ∈ pieces, p.IsProper) (htag : tag.IsPlain) :
    tag.substituteIn (String.ofList (spelling pieces)) =
      String.ofList (spelling (pieces.map (Piece.replace tag.name.toList tag.value.toList))) := by
  rw [Tag.substituteIn, Text.replaceAll, toList_token, String.toList_ofList,
    replaceAll_spelling hproper htag.name_sharp]

/-- A value is as proper as the mark that it stands for. -/
theorem Piece.IsProper.replace (hp : p.IsProper) (htag : tag.IsPlain) :
    (p.replace tag.name.toList tag.value.toList).IsProper := by
  rw [Piece.replace]
  split
  · exact isProper_text htag.value_bracket
  · exact hp

/-! ### All tags -/

/-- **The first tag takes what it finds**, and the others find what it has left. -/
theorem fillFirst_cons (tag : Tag) (tags : List Tag) (p : Piece) :
    fillFirst (tag :: tags) p = fillFirst tags (p.replace tag.name.toList tag.value.toList) := by
  cases p with
  | text s => rfl
  | mark name =>
    by_cases hname : tag.name.toList = name
    · subst hname
      simp [fillFirst, Piece.replace]
    · have hkeep : (Piece.mark name).replace tag.name.toList tag.value.toList = .mark name :=
        if_neg fun h => hname (Piece.mark.inj h).symm
      rw [hkeep, fillFirst, fillFirst, List.find?_cons_of_neg (by simpa using hname)]

/-- **Tag by tag**, every piece gets the value of the first tag of its name. -/
theorem substitute_spelling (hproper : ∀ p ∈ pieces, p.IsProper) (htags : ∀ tag ∈ tags, tag.IsPlain) :
    substitute tags (String.ofList (spelling pieces)) =
      String.ofList (spelling (pieces.map (fillFirst tags))) := by
  induction tags generalizing pieces with
  | nil =>
    have hsame : pieces.map (fillFirst []) = pieces := by
      have hkeep (p : Piece) : fillFirst [] p = p := by cases p <;> rfl
      rw [List.map_congr_left fun p _ => hkeep p, List.map_id']
    rw [hsame]
    rfl
  | cons tag tags ih =>
    obtain ⟨htag, hrest⟩ := List.forall_mem_cons.1 htags
    have hstep : ∀ p ∈ pieces.map (Piece.replace tag.name.toList tag.value.toList), p.IsProper := by
      intro p hp
      obtain ⟨p, hmem, rfl⟩ := List.mem_map.1 hp
      exact (hproper p hmem).replace htag
    -- The first tag fills its marks, and the others go on with the pieces that are left.
    calc substitute (tag :: tags) (String.ofList (spelling pieces))
        = substitute tags (tag.substituteIn (String.ofList (spelling pieces))) := rfl
      _ = String.ofList (spelling
            ((pieces.map (Piece.replace tag.name.toList tag.value.toList)).map (fillFirst tags))) := by
          rw [substituteIn_spelling hproper htag, ih hstep hrest]
      _ = String.ofList (spelling (pieces.map (fillFirst (tag :: tags)))) := by
          rw [List.map_map]
          exact congrArg _ (congrArg _ (List.map_congr_left fun p _ => (fillFirst_cons tag tags p).symm))

/-- What all tags leave is proper. -/
theorem Piece.IsProper.fillFirst (hp : p.IsProper) (htags : ∀ tag ∈ tags, tag.IsPlain) :
    (fillFirst tags p).IsProper := by
  cases p with
  | text s => exact hp
  | mark name =>
    rw [Template.fillFirst]
    split
    · next tag hfind => exact isProper_text (htags tag (List.mem_of_find?_eq_some hfind)).value_bracket
    · exact hp

/-- What all tags leave holds nothing more for them to fill. -/
theorem fillFirst_fillFirst (tags : List Tag) (p : Piece) :
    fillFirst tags (fillFirst tags p) = fillFirst tags p := by
  cases p with
  | text s => rfl
  | mark name =>
    cases hfind : tags.find? (·.name.toList == name) with
    | some tag => simp only [fillFirst, hfind]
    | none => simp only [fillFirst, hfind]

/-- **The order of tags with different names does not count**: only the tags of the name in a mark are asked. -/
theorem fillFirst_congr (h : ∀ name, tags.filter (·.name == name) = tags'.filter (·.name == name)) :
    fillFirst tags = fillFirst tags' := by
  funext p
  cases p with
  | text s => rfl
  | mark name =>
    -- A mark asks for the first tag of its name, which is the first of all tags of that name.
    have hasked (ts : List Tag) : ts.find? (·.name.toList == name) =
        (ts.filter (·.name == String.ofList name)).head? := by
      have hname (t : Tag) : (t.name.toList == name) = (t.name == String.ofList name) := by
        rw [Bool.eq_iff_iff, beq_iff_eq, beq_iff_eq]
        exact ⟨fun h => by rw [← h, String.ofList_toList], fun h => by rw [h, String.toList_ofList]⟩
      rw [List.head?_filter]
      simp only [hname]
    rw [fillFirst, fillFirst, hasked, hasked, h]

/-- **One tag after the other is all tags at once.** In a template of proper pieces, let plain tags be put, of which
several may have one name. The result is the template in which every mark with the name of a tag is the value of the
first tag of this name, while the other marks and the texts are as they were. So other tags that agree for each name,
in their order, give the same result, and a second run changes nothing. -/
theorem substitute_pieces (hproper : ∀ p ∈ pieces, p.IsProper) (htags : ∀ tag ∈ tags, tag.IsPlain) :
    let template := String.ofList (spelling pieces)
    substitute tags template = String.ofList (spelling (pieces.map (fillFirst tags))) ∧
      (∀ tags', (∀ name, tags.filter (·.name == name) = tags'.filter (·.name == name)) →
        substitute tags' template = substitute tags template) ∧
      substitute tags (substitute tags template) = substitute tags template := by
  intro template
  have hsubstitute := substitute_spelling hproper htags
  have hleft : ∀ p ∈ pieces.map (fillFirst tags), p.IsProper := by
    intro p hp
    obtain ⟨p, hmem, rfl⟩ := List.mem_map.1 hp
    exact (hproper p hmem).fillFirst htags
  refine ⟨hsubstitute, fun tags' hsame => ?_, ?_⟩
  · -- A tag of the other list is among the tags of its name, which are the same in both lists.
    have htags' : ∀ tag ∈ tags', tag.IsPlain := by
      intro tag hmem
      have hasked : tag ∈ tags'.filter (·.name == tag.name) := List.mem_filter.2 ⟨hmem, beq_self_eq_true _⟩
      rw [← hsame] at hasked
      exact htags tag (List.mem_filter.1 hasked).1
    rw [hsubstitute, substitute_spelling hproper htags', fillFirst_congr hsame]
  · rw [hsubstitute, substitute_spelling hleft htags, List.map_map]
    simp only [Function.comp_def, fillFirst_fillFirst]

/-- Two tags with one name, one with a name that looks like the end of a mark, and values that look like the rest of
a token. -/
def letterTags : List Tag :=
  [⟨"order", "#1]", by decide⟩, ⟨"name", "Ann", by decide⟩, ⟨"order", "2", by decide⟩, ⟨"]", "#]", by decide⟩]

/-- Marks side by side, one of them without a tag. -/
def letter : List Piece :=
  [.text "Dear ".toList, .mark "name".toList, .text ", ] #".toList, .mark "order".toList, .mark "]".toList,
    .mark "nobody".toList]

/-- The first value of a name counts, and the mark without a tag stays. -/
theorem substitute_letter :
    substitute letterTags (String.ofList (spelling letter)) = "Dear Ann, ] ##1]#][#nobody#]" ∧
      substitute letterTags "Dear Ann, ] ##1]#][#nobody#]" = "Dear Ann, ] ##1]#][#nobody#]" := by
  have hplain : ∀ tag ∈ letterTags, tag.IsPlain := by
    intro tag hmem
    simp only [letterTags, List.mem_cons, List.not_mem_nil, or_false] at hmem
    rcases hmem with rfl | rfl | rfl | rfl <;> exact ⟨by decide, by decide, by decide⟩
  have hproper : ∀ p ∈ letter, p.IsProper := by decide
  have hfilled : String.ofList (spelling (letter.map (fillFirst letterTags))) =
      "Dear Ann, ] ##1]#][#nobody#]" := by decide
  obtain ⟨hfirst, -, hagain⟩ := substitute_pieces hproper hplain
  rw [hfilled] at hfirst
  rw [hfirst] at hagain
  exact ⟨hfirst, hagain⟩

end HtmlMail.Template
