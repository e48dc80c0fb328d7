import HtmlMail.Proofs.Css.Importance

/-!
# Marks that join up

Marks of importance are dropped from a text in one go from left to right, and what is left is not looked at again. So
the text in front of a mark and the text behind it can join up to another mark: of `!im!importantportant` there is
left `!important`.

This is the only way in which a mark can be left (`hasMark_dropImportantMarks_iff`): there has to be an exclamation
mark that begins no mark where it stands, but does so when the marks behind it are gone. A text in which every
exclamation mark begins a mark has none left.

* `HasMark`, `BeginsMark` : texts with a mark somewhere, and at their start;
* `JoinsUp` : texts in which dropping the marks makes another one;
* `dropImportantMarks_append_exclamation` : marks do not reach across an exclamation mark that begins none.
-/

namespace HtmlMail.Css

open Chars Dom

/-- Whether a text has a mark of importance somewhere. -/
def HasMark (s : List Char) : Prop := ∃ m, IsMark m ∧ m <:+: s

/-- Whether a text begins with a mark of importance. -/
def BeginsMark (s : List Char) : Prop := ∃ m, IsMark m ∧ m <+: s

/-- **Marks join up** where an exclamation mark begins no mark until the marks behind it are dropped. -/
def JoinsUp (s : List Char) : Prop :=
  ∃ before after, s = before ++ '!' :: after ∧ ¬ BeginsMark ('!' :: after) ∧
    BeginsMark ('!' :: dropImportantMarks after)

section Texts

variable {s t before after : List Char}

/-- Dropping looks for a mark at the start. -/
theorem beginsMark_iff : BeginsMark s ↔ (afterImportantMark? s).isSome := by
  rw [Option.isSome_iff_exists]
  simp only [afterImportantMark?_eq_some_iff]
  constructor
  · rintro ⟨m, hm, after, rfl⟩
    exact ⟨after, m, hm, rfl⟩
  · rintro ⟨after, m, hm, rfl⟩
    exact ⟨m, hm, after, rfl⟩

theorem not_beginsMark_iff : ¬ BeginsMark s ↔ afterImportantMark? s = none := by
  rw [beginsMark_iff, Option.not_isSome_iff_eq_none]

instance : DecidablePred BeginsMark := fun _ => decidable_of_iff _ beginsMark_iff.symm

/-- **A mark begins at its exclamation mark**, the blanks in front of it aside. -/
theorem hasMark_iff : HasMark s ↔ ∃ before after, s = before ++ '!' :: after ∧ BeginsMark ('!' :: after) := by
  constructor
  · rintro ⟨m, ⟨lead, gap, word, rfl, -, hgap, hw⟩, before, after, rfl⟩
    refine ⟨before ++ lead, gap ++ word ++ after, by simp, '!' :: (gap ++ word), ?_, after, rfl⟩
    exact ⟨[], gap, word, rfl, rfl, hgap, hw⟩
  · rintro ⟨before, after, rfl, m, hm, hfront⟩
    exact ⟨m, hm, hfront.isInfix.trans (List.suffix_append before _).isInfix⟩

/-- What has one of its ends at an exclamation mark is found among the ends of a text. -/
theorem exists_split_iff (p : List Char → Prop) :
    (∃ before after, s = before ++ '!' :: after ∧ p after) ↔ ∃ t ∈ s.tails, t.head? = some '!' ∧ p t.tail := by
  simp only [List.mem_tails]
  constructor
  · rintro ⟨before, after, rfl, h⟩
    exact ⟨'!' :: after, List.suffix_append before _, rfl, h⟩
  · rintro ⟨t, ⟨before, rfl⟩, hhead, h⟩
    obtain ⟨after, rfl⟩ := List.head?_eq_some_iff.1 hhead
    exact ⟨before, after, rfl, h⟩

instance : DecidablePred HasMark := fun s =>
  decidable_of_iff (∃ t ∈ s.tails, t.head? = some '!' ∧ BeginsMark ('!' :: t.tail))
    (hasMark_iff.trans (exists_split_iff fun after => BeginsMark ('!' :: after))).symm

instance : DecidablePred JoinsUp := fun s =>
  decidable_of_iff (∃ t ∈ s.tails, t.head? = some '!' ∧ ¬ BeginsMark ('!' :: t.tail) ∧
      BeginsMark ('!' :: dropImportantMarks t.tail))
    (exists_split_iff fun after => ¬ BeginsMark ('!' :: after) ∧ BeginsMark ('!' :: dropImportantMarks after)).symm

/-- A mark has one exclamation mark, so it does not reach across one that begins no mark. -/
theorem afterImportantMark?_append_exclamation (h : ¬ BeginsMark ('!' :: t)) (s : List Char) :
    afterImportantMark? (s ++ '!' :: t) = (afterImportantMark? s).map (· ++ '!' :: t) := by
  refine afterImportantMark?_append_of_stop fun d c after ht hm => ?_
  obtain ⟨rfl, rfl⟩ := List.cons.inj ht
  -- The mark would hold the exclamation mark, and so begin with it, blanks aside.
  obtain ⟨lead, gap, word, hm, hlead, hgap, hw⟩ := hm
  have hlast : '!' ∉ gap ++ word := by
    rw [List.mem_append]
    rintro (hg | hg)
    · exact not_mem_of_allBlank hgap (by decide) hg
    · have := toLower_mem_of_word hw hg
      revert this
      decide
  obtain ⟨-, -, rfl⟩ := (List.append_cons_inj_of_notMem (not_mem_of_allBlank hlead (by decide)) hlast).1 hm.symm
  exact h ⟨'!' :: (gap ++ word), ⟨[], gap, word, rfl, rfl, hgap, hw⟩, after, rfl⟩

/-- **Marks are dropped on each side** of an exclamation mark that begins none. -/
theorem dropImportantMarks_append_exclamation (h : ¬ BeginsMark ('!' :: t)) (s : List Char) :
    dropImportantMarks (s ++ '!' :: t) = dropImportantMarks s ++ '!' :: dropImportantMarks t := by
  -- As the marks are dropped; no mark reaches over the exclamation mark.
  induction s using dropImportantMarks.induct with
  | case1 =>
    rw [List.nil_append, dropImportantMarks_cons_of_none (not_beginsMark_iff.1 h), dropImportantMarks_nil,
      List.nil_append]
  | case2 c rest hnone ih =>
    have hnone' : afterImportantMark? (c :: (rest ++ '!' :: t)) = none := by
      rw [← List.cons_append, afterImportantMark?_append_exclamation h, hnone]
      rfl
    rw [List.cons_append, dropImportantMarks_cons_of_none hnone', dropImportantMarks_cons_of_none hnone, ih]
    rfl
  | case3 c rest after hsome ih =>
    have hsome' : afterImportantMark? (c :: (rest ++ '!' :: t)) = some (after ++ '!' :: t) := by
      rw [← List.cons_append, afterImportantMark?_append_exclamation h, hsome]
      rfl
    rw [List.cons_append, dropImportantMarks_cons_of_some hsome', dropImportantMarks_cons_of_some hsome, ih]

theorem JoinsUp.append (h : JoinsUp t) (s : List Char) : JoinsUp (s ++ t) := by
  obtain ⟨before, after, rfl, h⟩ := h
  exact ⟨s ++ before, after, (List.append_assoc s before _).symm, h⟩

/-- **What is left has a mark** exactly if marks join up. -/
theorem hasMark_dropImportantMarks_iff : HasMark (dropImportantMarks s) ↔ JoinsUp s := by
  constructor
  · intro h
    induction s using dropImportantMarks.induct with
    | case1 =>
      rw [dropImportantMarks_nil] at h
      obtain ⟨before, after, hs, -⟩ := hasMark_iff.1 h
      exact absurd hs.symm (List.append_ne_nil_of_right_ne_nil before (List.cons_ne_nil _ after))
    | case2 c rest hnone ih =>
      rw [dropImportantMarks_cons_of_none hnone] at h
      obtain ⟨before, after, hs, hbegins⟩ := hasMark_iff.1 h
      cases before with
      | nil =>
        -- The mark that is left begins here, where no mark was.
        obtain ⟨rfl, rfl⟩ := List.cons.inj hs
        exact ⟨[], rest, rfl, not_beginsMark_iff.2 hnone, hbegins⟩
      | cons d before =>
        exact (ih (hasMark_iff.2 ⟨before, after, (List.cons.inj hs).2, hbegins⟩)).append [c]
    | case3 c rest after hsome ih =>
      rw [dropImportantMarks_cons_of_some hsome] at h
      obtain ⟨m, -, hm⟩ := afterImportantMark?_eq_some_iff.1 hsome
      exact hm ▸ (ih h).append m
  · rintro ⟨before, after, rfl, hnone, hbegins⟩
    rw [dropImportantMarks_append_exclamation hnone]
    exact hasMark_iff.2 ⟨_, _, rfl, hbegins⟩

end Texts

/-! ### Whole documents -/

section Documents

variable {tree : Tree} {node : NodeId}

/-- **Where marks are left.** When the marks of importance have been dropped from the styles of a document, with or
without attributes for old mail programs, the style of an element has a mark exactly if the one from before joined up. -/
theorem hasMark_stripImportant_iff (hr : tree.Reachable) (ha : tree.Attached node) (he : tree.isElement node) :
    ((∃ style ∈ (stripImportant tree).attribute? node "style", HasMark style.toList) ↔
        ∃ style ∈ tree.attribute? node "style", JoinsUp style.toList) ∧
      ((∃ style ∈ (backfill tree).attribute? node "style", HasMark style.toList) ↔
        ∃ style ∈ tree.attribute? node "style", JoinsUp style.toList) := by
  have hnode := hr.mem_elements_iff.2 ⟨ha, he⟩
  have hmarks (o : Option String) :
      (∃ style ∈ o.map withoutMarks, HasMark style.toList) ↔ ∃ style ∈ o, JoinsUp style.toList := by
    cases o with
    | none => simp
    | some style => simp [withoutMarks, hasMark_dropImportantMarks_iff]
  rw [attribute?_stripImportant hr.elements_nodup hnode, attribute?_backfill hr.elements_nodup hnode]
  exact ⟨hmarks _, hmarks _⟩

end Documents

/-- Two marks behind each other are both dropped, and nothing joins up. -/
theorem hasMark_stripImportant_paragraph :
    (paragraph "color:red!x ! IMPORTANT!important;margin:0").Reachable ∧
      (paragraph "color:red!x ! IMPORTANT!important;margin:0").Attached 1 ∧
      (paragraph "color:red!x ! IMPORTANT!important;margin:0").isElement 1 ∧
      ¬ ∃ style ∈ (backfill (paragraph "color:red!x ! IMPORTANT!important;margin:0")).attribute? 1 "style",
        HasMark style.toList := by
  have hr := paragraph_reachable "color:red!x ! IMPORTANT!important;margin:0"
  have ha := paragraph_attached "color:red!x ! IMPORTANT!important;margin:0"
  refine ⟨hr, ha, rfl, fun h => ?_⟩
  obtain ⟨style, hstyle, hjoins⟩ := (hasMark_stripImportant_iff hr ha rfl).2.1 h
  obtain rfl : "color:red!x ! IMPORTANT!important;margin:0" = style := Option.some.inj hstyle
  revert hjoins
  decide +kernel

/-- **A mark can be left**: what stands around a mark joins up to one. -/
theorem hasMark_stripImportant_interrupted :
    (paragraph "color:red!im!importantportant").Reachable ∧
      (paragraph "color:red!im!importantportant").Attached 1 ∧
      (stripImportant (paragraph "color:red!im!importantportant")).attribute? 1 "style" =
        some "color:red!important" ∧
      (backfill (paragraph "color:red!im!importantportant")).attribute? 1 "style" =
        some "color:red!important" ∧
      HasMark "color:red!important".toList := by
  refine ⟨paragraph_reachable _, paragraph_attached _, ?_, ?_, ?_⟩ <;> decide +kernel

end HtmlMail.Css
