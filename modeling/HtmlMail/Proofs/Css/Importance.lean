import HtmlMail.Proofs.Css.Cascade
import HtmlMail.Proofs.Css.Marks
import Mathlib.Data.List.Infix

/-!
# Styles without importance

Before a document is sent, the marks of importance are dropped from the text of every style. If they stand
at the ends of declarations only (`MarksAtEnds`), that makes every declaration of the text an unimportant
one and changes nothing else about it (`declarationsOf_withoutMarks`).

For the style as a whole that is not the same as making its declarations unimportant. Among several
declarations of one property an important one wins over a later one that is not, and without the marks the
last one wins. So the properties and their order stay, and the value of a property is the one that is
declared last (`LosesImportance`); it is the value from before if and only if that one was declared last.

* `stripImportant` and `backfill` do this to every element of a document
  (`losesImportance_stripImportant`).
-/

namespace HtmlMail.Css

open Chars Dom

/-! ### Marks at the ends of declarations -/

/-- A declaration without importance. -/
def Declaration.unmarked (d : Declaration) : Declaration := { d with important := false }

/-- The text of a style without marks of importance. -/
def withoutMarks (text : String) : String := String.ofList (dropImportantMarks text.toList)

@[simp] theorem withoutMarks_empty : withoutMarks "" = "" := by
  rw [withoutMarks, String.toList_empty, dropImportantMarks_nil, String.ofList_nil]

/-- **Marks at the ends**: behind a mark of importance a declaration goes on with blanks at most. -/
def MarksAtEnds (text : String) : Prop :=
  ∀ piece ∈ splitOnChar ';' text.toList, ∀ s, s <:+ piece →
    ∀ after, afterImportantMark? s = some after → allBlank after

instance (text : String) : Decidable (MarksAtEnds text) :=
  decidable_of_iff (∀ piece ∈ splitOnChar ';' text.toList, ∀ s ∈ piece.tails,
    (afterImportantMark? s).all allBlank = true) <| by
      simp only [MarksAtEnds, List.mem_tails, Option.all_eq_true]

section Pieces

variable {piece before m after v : List Char} {text : String}

/-- **A piece has no mark, or one at its end.** -/
theorem dropImportantMarks_cases (h : ∀ s, s <:+ piece → ∀ after,
      afterImportantMark? s = some after → allBlank after) :
    (dropImportantMarks piece = piece ∧ ∀ s, s <:+ piece → afterImportantMark? s = none) ∨
      ∃ before m after, piece = before ++ m ++ after ∧ IsMark m ∧ allBlank after ∧
        dropImportantMarks piece = before ++ after := by
  induction piece with
  | nil =>
    refine .inl ⟨dropImportantMarks_nil, fun s hs => ?_⟩
    rw [List.suffix_nil.1 hs]
    rfl
  | cons c rest ih =>
    cases hmark : afterImportantMark? (c :: rest) with
    | some after =>
      -- Behind the mark there are blanks only, so no further mark.
      have hblank := h _ List.suffix_rfl after hmark
      obtain ⟨m, hm, hpiece⟩ := afterImportantMark?_eq_some_iff.1 hmark
      refine .inr ⟨[], m, after, hpiece, hm, hblank, ?_⟩
      rw [dropImportantMarks_cons_of_some hmark,
        dropImportantMarks_of_not_mem (not_mem_of_allBlank hblank (by decide)), List.nil_append]
    | none =>
      rcases ih fun s hs => h s (hs.trans (List.suffix_cons c rest)) with
        ⟨hdrop, hnone⟩ | ⟨before, m, after, hrest, hm, hblank, hdrop⟩
      · refine .inl ⟨by rw [dropImportantMarks_cons_of_none hmark, hdrop], fun s hs => ?_⟩
        rcases List.suffix_cons_iff.1 hs with rfl | hs
        · exact hmark
        · exact hnone s hs
      · refine .inr ⟨c :: before, m, after, ?_, hm, hblank, ?_⟩
        · rw [hrest]
          rfl
        · rw [dropImportantMarks_cons_of_none hmark, hdrop]
          rfl

/-- Blanks at the end make no difference to a value. -/
theorem splitImportant_append_of_allBlank (v : List Char) (hafter : allBlank after) :
    splitImportant (v ++ after) = splitImportant v := by
  unfold splitImportant
  rw [trim_append_of_allBlank hafter]

/-- **A value in front of the only mark** is unimportant by itself. -/
theorem splitImportant_of_only_mark (hm : IsMark m) (hafter : allBlank after)
    (h : ∀ s, s <:+ before ++ v ++ m ++ after → ∀ rest, afterImportantMark? s = some rest →
      allBlank rest) : splitImportant (v ++ after) = (trim v, false) := by
  rw [splitImportant_append_of_allBlank v hafter]
  cases hi : (splitImportant v).2 with
  | false => exact splitImportant_of_unmarked hi
  | true =>
    -- A mark in the value would be followed by the other one, which is not blank.
    obtain ⟨v', m', after', rfl, hm', -⟩ := exists_isMark_of_splitImportant hi
    have hsuffix : m' ++ (after' ++ m ++ after) <:+ before ++ (v' ++ m' ++ after') ++ m ++ after :=
      ⟨before ++ v', by simp⟩
    have hblank := h _ hsuffix _ (afterImportantMark?_eq_some_iff.2 ⟨m', hm', rfl⟩)
    refine absurd ?_ (not_mem_of_allBlank hblank (show isBlank '!' = false by decide))
    exact List.mem_append_left _ (List.mem_append_right _ hm.mem_exclamation)

/-- **Dropping the mark of a declaration** makes it unimportant, and does nothing else to it. -/
theorem parse?_dropImportantMarks (h : ∀ s, s <:+ piece → ∀ after,
      afterImportantMark? s = some after → allBlank after) :
    Declaration.parse? (String.ofList (dropImportantMarks piece)) =
      (Declaration.parse? (String.ofList piece)).map Declaration.unmarked := by
  have hnone {s : List Char} (hs : ':' ∉ s) : Declaration.parse? (String.ofList s) = none :=
    Declaration.parse?_of_no_colon (by rwa [String.toList_ofList])
  rcases dropImportantMarks_cases h with ⟨hdrop, hno⟩ | ⟨before, m, after, rfl, hm, hblank, hdrop⟩
  · -- There is no mark, so the piece stays and its declaration is not important.
    rw [hdrop]
    by_cases hcolon : ':' ∈ piece
    · obtain ⟨property, rest, rfl, hp⟩ := List.eq_append_cons_of_mem hcolon
      have hunmarked : (splitImportant rest).2 = false := by
        refine Bool.eq_false_iff.2 fun hi => ?_
        obtain ⟨v, m, after, rfl, hm, -⟩ := exists_isMark_of_splitImportant hi
        have hsuffix : m ++ after <:+ property ++ ':' :: (v ++ m ++ after) :=
          ⟨property ++ ':' :: v, by simp⟩
        exact nomatch (afterImportantMark?_eq_some_iff.2 ⟨m, hm, rfl⟩).symm.trans (hno _ hsuffix)
      rw [Declaration.parse?_of_colon rest hp, hunmarked]
      split <;> rfl
    · rw [hnone hcolon]
      rfl
  · -- There is one mark. Whether the piece has a colon, and where, does not depend on it.
    rw [hdrop]
    by_cases hcolon : ':' ∈ before
    · obtain ⟨property, v, rfl, hp⟩ := List.eq_append_cons_of_mem hcolon
      have hvalue : splitImportant (v ++ after) = (trim v, false) := by
        have hsuffixes : ∀ s, s <:+ (property ++ [':']) ++ v ++ m ++ after → ∀ rest,
            afterImportantMark? s = some rest → allBlank rest := by simpa using h
        exact splitImportant_of_only_mark hm hblank hsuffixes
      have hold : (property ++ ':' :: v) ++ m ++ after = property ++ ':' :: (v ++ m ++ after) := by simp
      have hnew : (property ++ ':' :: v) ++ after = property ++ ':' :: (v ++ after) := by simp
      rw [hold, hnew, Declaration.parse?_of_colon _ hp, Declaration.parse?_of_colon _ hp, hvalue,
        splitImportant_append_mark v hm hblank]
      split <;> rfl
    · have hcolon' : ':' ∉ before ++ after := by
        rw [List.mem_append]
        exact not_or.2 ⟨hcolon, not_mem_of_allBlank hblank (by decide)⟩
      have hcolon'' : ':' ∉ before ++ m ++ after := by
        rw [List.mem_append, List.mem_append]
        exact not_or.2 ⟨not_or.2 ⟨hcolon, hm.no_colon⟩, not_mem_of_allBlank hblank (by decide)⟩
      rw [hnone hcolon', hnone hcolon'']
      rfl

/-- **The declarations of a text without its marks** are its declarations without importance. -/
theorem declarationsOf_withoutMarks (h : MarksAtEnds text) :
    Style.declarationsOf (withoutMarks text) =
      (Style.declarationsOf text).map Declaration.unmarked := by
  rw [Style.declarationsOf, Text.splitOnChar, withoutMarks, String.toList_ofList,
    splitOnChar_dropImportantMarks, List.map_map, List.filterMap_map, Style.declarationsOf,
    Text.splitOnChar, List.filterMap_map, List.map_filterMap]
  exact List.filterMap_congr fun piece hp => parse?_dropImportantMarks (h piece hp)

end Pieces

/-! ### The style of a text without its marks -/

section Styles

variable {s s' : Style} {d : Declaration} {property text : String} {l : List Declaration}

/-- A declaration brings its property in at the end, if the style does not declare it yet. -/
theorem map_property_addLater (s : Style) (d : Declaration) : (s.addLater d).declarations.map (·.property) =
    if d.property ∈ s.declarations.map (·.property) then s.declarations.map (·.property)
    else s.declarations.map (·.property) ++ [d.property] := by
  unfold Style.addLater
  split
  · next h =>
    rw [if_neg (Style.get?_eq_none_iff.1 h), List.map_append]
    rfl
  · next earlier h =>
    have hmem : d.property ∈ s.declarations.map (·.property) := by
      by_contra hno
      rw [Style.get?_eq_none_iff.2 hno] at h
      cases h
    rw [if_pos hmem]
    split
    · exact Style.map_property_replaceFirst d s.declarations
    · rfl

/-- Which properties a style comes to declare, and in what order, has nothing to do with importance. -/
theorem map_property_foldl_unmarked (l : List Declaration) : ∀ {s s' : Style},
    s'.declarations.map (·.property) = s.declarations.map (·.property) →
      ((l.map Declaration.unmarked).foldl Style.addLater s').declarations.map (·.property) =
        (l.foldl Style.addLater s).declarations.map (·.property) := by
  induction l with
  | nil => exact fun h => h
  | cons d rest ih =>
    intro s s' h
    refine ih ?_
    rw [map_property_addLater, map_property_addLater, h]
    rfl

/-- Among declarations that are not important, the strongest wins. -/
theorem winner?_map_unmarked (l : List Declaration) :
    winner? (l.map Declaration.unmarked) = l.head?.map Declaration.unmarked := by
  have hnone : (l.map Declaration.unmarked).find? (·.important) = none := by
    rw [List.find?_eq_none]
    intro d hd
    obtain ⟨e, -, rfl⟩ := List.mem_map.1 hd
    exact Bool.false_ne_true
  rw [winner?, hnone, Option.none_or, List.head?_map]

/-- **The last declaration of a property counts** when the marks are dropped. -/
theorem get?_parse_withoutMarks (h : MarksAtEnds text) (property : String) :
    (Style.parse (withoutMarks text)).get? property =
      ((Style.declarationsOf text).reverse.find? (·.property == property)).map Declaration.unmarked := by
  have hfilter (l : List Declaration) :
      (l.map Declaration.unmarked).filter (·.property == property) =
        (l.filter (·.property == property)).map Declaration.unmarked := by
    rw [List.filter_map]
    rfl
  rw [Style.get?_parse, declarationsOf_withoutMarks h, ← List.map_reverse, hfilter, winner?_map_unmarked,
    List.head?_filter]

/-- A style is known from its properties in their order and from what it says about each. -/
theorem declarations_eq_filterMap (h : (s.declarations.map (·.property)).Nodup) :
    s.declarations = (s.declarations.map (·.property)).filterMap s.get? := by
  obtain ⟨l⟩ := s
  induction l with
  | nil => rfl
  | cons d rest ih =>
    dsimp only at h ih ⊢
    obtain ⟨hd, hrest⟩ := List.nodup_cons.1 h
    have hfirst : Style.get? ⟨d :: rest⟩ d.property = some d := by rw [Style.get?_cons, if_pos rfl]
    rw [List.map_cons, List.filterMap_cons, hfirst]
    refine congrArg (d :: ·) ((ih hrest).trans (List.filterMap_congr fun q hq => ?_))
    -- The properties behind are other ones, so the first declaration does not get in their way.
    have hne : d.property ≠ q := by
      rintro rfl
      exact hd hq
    rw [Style.get?_cons, if_neg hne]

/-- Styles with the same properties in the same order are told apart by what they say about these. -/
theorem declarations_eq_iff (h : (s.declarations.map (·.property)).Nodup)
    (hsame : s'.declarations.map (·.property) = s.declarations.map (·.property)) :
    s'.declarations = s.declarations ↔ ∀ q, s'.get? q = s.get? q := by
  constructor
  · intro he q
    rw [Style.get?, Style.get?, he]
  · intro hget
    rw [declarations_eq_filterMap h, declarations_eq_filterMap (hsame ▸ h), hsame]
    exact List.filterMap_congr fun q _ => hget q

/-- **What becomes of a style** that loses its marks of importance. Its properties stay in their order, none
of them is important, and each has the value of its last declaration. So the declarations are those from
before without importance, if and only if the last value of each property was the one that counted. -/
structure LosesImportance (old new : String) : Prop where
  properties : (Style.parse new).declarations.map (·.property) =
    (Style.parse old).declarations.map (·.property)
  unimportant : ∀ d ∈ (Style.parse new).declarations, d.important = false
  last (property : String) : ((Style.parse new).get? property).map (·.value) =
    ((Style.declarationsOf old).reverse.find? (·.property == property)).map (·.value)
  same_iff : (Style.parse new).declarations =
      (Style.parse old).declarations.map Declaration.unmarked ↔
    ∀ property, ((Style.parse old).get? property).map (·.value) =
      ((Style.declarationsOf old).reverse.find? (·.property == property)).map (·.value)

/-- What a style says about a property after it has lost its marks. -/
theorem get?_map_unmarked (l : List Declaration) (property : String) :
    Style.get? ⟨l.map Declaration.unmarked⟩ property =
      (Style.get? ⟨l⟩ property).map Declaration.unmarked :=
  List.find?_map

/-- Declarations of one property without importance differ in their values only. -/
theorem map_unmarked_eq_iff {o o' : Option Declaration} (ho : ∀ d ∈ o, d.property = property)
    (ho' : ∀ d ∈ o', d.property = property) :
    o.map Declaration.unmarked = o'.map Declaration.unmarked ↔
      o.map (·.value) = o'.map (·.value) := by
  cases o with
  | none => cases o' <;> simp
  | some d =>
    cases o' with
    | none => simp
    | some e =>
      simp [Declaration.unmarked, ho d rfl, ho' e rfl]

theorem losesImportance_withoutMarks (h : MarksAtEnds text) :
    LosesImportance text (withoutMarks text) := by
  have hproperties : (Style.parse (withoutMarks text)).declarations.map (·.property) =
      (Style.parse text).declarations.map (·.property) := by
    rw [Style.parse, declarationsOf_withoutMarks h]
    exact map_property_foldl_unmarked _ rfl
  have hget := get?_parse_withoutMarks h
  constructor
  case properties => exact hproperties
  case unimportant =>
    intro d hd
    rw [declarations_eq_filterMap (Style.isRead_parse _).distinct, List.mem_filterMap] at hd
    obtain ⟨q, -, hq⟩ := hd
    rw [hget, Option.map_eq_some_iff] at hq
    obtain ⟨e, -, rfl⟩ := hq
    rfl
  case last =>
    intro property
    rw [hget, Option.map_map]
    rfl
  case same_iff =>
    have hof {o : List Declaration} {q : String} : ∀ d ∈ o.find? (·.property == q), d.property = q :=
      fun d hd => eq_of_beq (List.find?_some hd :)
    have hunmarked : ((Style.parse text).declarations.map Declaration.unmarked).map (·.property) =
        (Style.parse text).declarations.map (·.property) := List.map_map
    -- The properties are the same, so it is enough to compare what is said about each of them.
    refine (declarations_eq_iff (s := ⟨(Style.parse text).declarations.map Declaration.unmarked⟩)
      (hunmarked ▸ (Style.isRead_parse text).distinct) (hproperties.trans hunmarked.symm)).trans ?_
    refine forall_congr' fun q => ?_
    rw [hget, get?_map_unmarked]
    exact (map_unmarked_eq_iff hof hof).trans eq_comm

end Styles

/-! ### Whole documents -/

section Documents

variable {tree : Tree} {node : NodeId}

theorem get?_withoutImportant (as : Attributes) :
    (withoutImportant as).get? "style" = (as.get? "style").map withoutMarks := by
  unfold withoutImportant
  cases h : as.get? "style" with
  | none => exact h
  | some style => exact (Attributes.get?_insert ..).trans (if_pos (by decide))

/-- **Every element loses its marks**, once each. -/
theorem attribute?_stripImportant (hnd : tree.elements.Nodup) (hnode : node ∈ tree.elements) :
    (stripImportant tree).attribute? node "style" =
      (tree.attribute? node "style").map withoutMarks := by
  have hchange := Tree.attributesChanged_foldl (fun _ => withoutImportant) hnd tree
  rw [stripImportant, Tree.attribute?, hchange.element?_eq, Tree.attribute?]
  cases tree.element? node with
  | none => rfl
  | some e =>
    dsimp only [Option.map_some, Option.bind_some]
    rw [if_pos hnode]
    exact get?_withoutImportant e.attributes

/-- The attributes for old mail programs are other ones than the style. -/
theorem get?_addLegacy (tag : String) (as : Attributes) (d : Declaration) :
    (addLegacy tag as d).get? "style" = as.get? "style" := by
  -- None of the legacy attributes is called a style.
  have hother {name : String} (h : legacyAttribute? tag d.property = some name) :
      Text.eqIgnoringCase name "style" = false := by
    unfold legacyAttribute? at h
    split at h
    · split at h
      · cases h
      · cases h
        decide
    · cases h
      decide
    · cases h
      decide
    · cases h
      decide
    · cases h
  unfold addLegacy
  split
  · rfl
  · next name h =>
    split
    · rw [Attributes.get?_insert, hother h, if_neg Bool.false_ne_true]
    · rfl

theorem get?_addLegacyAll (tag : String) (as : Attributes) :
    (addLegacyAll tag as).get? "style" = as.get? "style" := by
  have key (l : List Declaration) : ∀ as : Attributes,
      (l.foldl (addLegacy tag) as).get? "style" = as.get? "style" := by
    induction l with
    | nil => exact fun _ => rfl
    | cons d rest ih => exact fun as => (ih _).trans (get?_addLegacy tag as d)
  unfold addLegacyAll
  split
  · rfl
  · exact key _ as

/-- Writing attributes for old mail programs leaves the names of the elements alone, so each element gets
those of its own tag. -/
theorem foldl_addLegacyAll_eq (nodes : List NodeId) : ∀ {t : Tree},
    (∀ id, t.tagName? id = tree.tagName? id) →
      nodes.foldl (fun t node => t.modifyAttributes node (addLegacyAll ((t.tagName? node).getD ""))) t =
        nodes.foldl
          (fun t node => t.modifyAttributes node (addLegacyAll ((tree.tagName? node).getD ""))) t := by
  induction nodes with
  | nil =>
    intro t h
    rw [List.foldl_nil, List.foldl_nil]
  | cons n rest ih =>
    intro t h
    rw [List.foldl_cons, List.foldl_cons, h n]
    exact ih fun id => (t.attributesChanged_modifyAttributes n _).tagName?_eq.trans (h id)

/-- **Both rounds** can be told from the tree as it was, whose names they keep. -/
theorem backfill_eq (tree : Tree) : backfill tree =
    stripImportant ((tree.elementsNamed backfilledTags).foldl
      (fun t node => t.modifyAttributes node (addLegacyAll ((tree.tagName? node).getD ""))) tree) :=
  congrArg stripImportant (foldl_addLegacyAll_eq _ fun _ => rfl)

/-- **Old mail programs make no difference** to the styles. -/
theorem attribute?_backfill (hnd : tree.elements.Nodup) (hnode : node ∈ tree.elements) :
    (backfill tree).attribute? node "style" = (tree.attribute? node "style").map withoutMarks := by
  have hchange := Tree.attributesChanged_foldl (fun n => addLegacyAll ((tree.tagName? n).getD ""))
    (hnd.filter fun node => (tree.tagName? node).any backfilledTags.contains) tree
  rw [backfill_eq, attribute?_stripImportant]
  · -- The legacy attributes come first, and leave the style as it is.
    rw [Tree.attribute?, Tree.elementsNamed, hchange.element?_eq, Tree.attribute?]
    cases tree.element? node with
    | none => rfl
    | some e =>
      dsimp only [Option.map_some, Option.bind_some]
      split
      · rw [get?_addLegacyAll]
      · rfl
  · rw [Tree.elementsNamed, hchange.elements_eq]
    exact hnd
  · rw [Tree.elementsNamed, hchange.elements_eq]
    exact hnode

/-- **What importance leaves behind.** If the marks of importance stand at the ends of declarations, the
style of an element loses its importance when they are dropped, with or without attributes for old mail
programs: each property then has the value that was declared last. -/
theorem losesImportance_stripImportant (hr : tree.Reachable) (ha : tree.Attached node)
    (he : tree.isElement node) (hmarks : MarksAtEnds ((tree.attribute? node "style").getD "")) :
    LosesImportance ((tree.attribute? node "style").getD "")
        (((stripImportant tree).attribute? node "style").getD "") ∧
      LosesImportance ((tree.attribute? node "style").getD "")
        (((backfill tree).attribute? node "style").getD "") := by
  have hnode := hr.mem_elements_iff.2 ⟨ha, he⟩
  -- Where there is no style, the empty text has no marks to lose.
  have hget (o : Option String) : (o.map withoutMarks).getD "" = withoutMarks (o.getD "") := by
    cases o with
    | none => rw [Option.map_none, Option.getD_none, withoutMarks_empty]
    | some text => rfl
  rw [attribute?_stripImportant hr.elements_nodup hnode, attribute?_backfill hr.elements_nodup hnode, hget]
  exact ⟨losesImportance_withoutMarks hmarks, losesImportance_withoutMarks hmarks⟩

end Documents

/-- A repeated property ends up with its last value, whatever was important before. -/
theorem losesImportance_paragraph :
    (paragraph "color:red ! IMPORTANT;margin:0;color:blue").Reachable ∧
      (paragraph "color:red ! IMPORTANT;margin:0;color:blue").Attached 1 ∧
      (paragraph "color:red ! IMPORTANT;margin:0;color:blue").isElement 1 ∧
      MarksAtEnds (((paragraph "color:red ! IMPORTANT;margin:0;color:blue").attribute? 1
        "style").getD "") ∧
      (Style.parse (((stripImportant (paragraph "color:red ! IMPORTANT;margin:0;color:blue")).attribute?
        1 "style").getD "")).declarations.map (·.property) = ["color", "margin"] ∧
      ((Style.parse (((backfill (paragraph "color:red ! IMPORTANT;margin:0;color:blue")).attribute? 1
        "style").getD "")).get? "color").map (·.value) = some "blue" := by
  have hr := paragraph_reachable "color:red ! IMPORTANT;margin:0;color:blue"
  have ha := paragraph_attached "color:red ! IMPORTANT;margin:0;color:blue"
  have hmarks : MarksAtEnds (((paragraph "color:red ! IMPORTANT;margin:0;color:blue").attribute? 1
      "style").getD "") := by decide +kernel
  obtain ⟨hstrip, hbackfill⟩ := losesImportance_stripImportant hr ha rfl hmarks
  refine ⟨hr, ha, rfl, hmarks, ?_, ?_⟩
  · rw [hstrip.properties]
    decide +kernel
  · rw [hbackfill.last]
    decide +kernel

/-- **An important value can be lost**: the later one counts when it is no longer important. -/
theorem parse_stripImportant_paragraph :
    (paragraph "color:red!important;color:blue").Reachable ∧
      (paragraph "color:red!important;color:blue").Attached 1 ∧
      MarksAtEnds "color:red!important;color:blue" ∧
      (Style.parse (((paragraph "color:red!important;color:blue").attribute? 1 "style").getD
        "")).declarations = [⟨"color", "red", true⟩] ∧
      (Style.parse (((stripImportant (paragraph "color:red!important;color:blue")).attribute? 1
        "style").getD "")).declarations = [⟨"color", "blue", false⟩] := by
  refine ⟨paragraph_reachable _, paragraph_attached _, ?_, ?_, ?_⟩ <;> decide +kernel

end HtmlMail.Css
