import HtmlMail.Proofs.Css.Inlining
import HtmlMail.Proofs.Css.WrittenStyle
import Mathlib.Data.List.TakeWhile

/-!
# What merging comes to

Rules are merged into a style one after the other, each time through the text of the attribute. What comes
out is said here without the steps, in terms of the list of all declarations, the strongest first
(`candidates`).

* `winner?` : the declaration that wins among candidates: the first important one, or else the first;
* `Style.get?_parse`, `Style.get?_foldl_digest` : reading and merging give every property its winner, as
  long as no shorthand stands in the way;
* `ground` : the first style with something in it is taken over as it is written, and only what comes later
  is merged into it (`getD_mergedStyles`).

The fact that carries all of this is `winner?_append`: a list can be cut anywhere, and only the winners of
the two parts count. So it does not matter that a style has forgotten all but one of its candidates.
-/

namespace HtmlMail.Css

/-! ### Winners -/

/-- **The winner** among declarations that are given strongest first: the first important one, and the
first one if none is important. -/
def winner? (candidates : List Declaration) : Option Declaration :=
  (candidates.find? (·.important)).or candidates.head?

section Winner

variable {xs ys : List Declaration} {w d : Declaration}

theorem winner?_eq_none_iff : winner? xs = none ↔ xs = [] := by
  cases xs with
  | nil => exact ⟨fun _ => rfl, fun _ => rfl⟩
  | cons d rest => simp [winner?]

theorem mem_of_winner? (h : winner? xs = some w) : w ∈ xs := by
  rcases Option.or_eq_some_iff.1 h with h | ⟨-, h⟩
  · exact List.mem_of_find?_eq_some h
  · exact List.mem_of_mem_head? h

/-- A winner that is not important has won because nothing is. -/
theorem important_of_winner? (h : winner? xs = some w) (hd : d ∈ xs) (hi : d.important) :
    w.important := by
  rcases Option.or_eq_some_iff.1 h with h | ⟨h, -⟩
  · exact List.find?_some h
  · exact absurd hi (List.find?_eq_none.1 h d hd)

/-- A winner is as important as its candidates let it be. -/
theorem find?_winner? (xs : List Declaration) :
    (winner? xs).toList.find? (·.important) = xs.find? (·.important) := by
  -- If nothing is important, the winner is not either.
  cases h : xs.find? (·.important) with
  | some w =>
    have hw : w.important := List.find?_some h
    rw [winner?, h, Option.some_or, Option.toList_some, List.find?_cons, hw]
  | none =>
    rw [winner?, h, Option.none_or, List.find?_eq_none]
    intro d hd
    exact List.find?_eq_none.1 h d (List.mem_of_mem_head? (Option.mem_toList.1 hd))

@[simp] theorem winner?_toList (o : Option Declaration) : winner? o.toList = o := by
  cases o with
  | none => rfl
  | some d => cases h : d.important <;> simp [winner?, h]

/-- **Only winners count**: a list of candidates can be cut anywhere. -/
theorem winner?_append (xs ys : List Declaration) :
    winner? (xs ++ ys) = winner? ((winner? xs).toList ++ (winner? ys).toList) := by
  have head (o : Option Declaration) : o.toList.head? = o := by cases o <;> rfl
  rw [winner?, winner?, List.find?_append, List.find?_append, find?_winner?, find?_winner?,
    List.head?_append, List.head?_append, head, head, winner?, winner?]
  cases xs.find? (·.important) <;> cases ys.find? (·.important) <;> rfl

theorem winner?_append_left (xs ys : List Declaration) :
    winner? ((winner? xs).toList ++ ys) = winner? (xs ++ ys) := by
  rw [winner?_append, winner?_toList, ← winner?_append]

theorem winner?_append_right (xs ys : List Declaration) :
    winner? (xs ++ (winner? ys).toList) = winner? (xs ++ ys) := by
  rw [winner?_append, winner?_toList, ← winner?_append]

/-- A property has a winner if anything declares it. -/
theorem winner?_filter_property_ne_none_iff {property : String} :
    winner? (xs.filter (·.property == property)) ≠ none ↔ ∃ d ∈ xs, d.property = property := by
  rw [Ne, winner?_eq_none_iff, List.filter_eq_nil_iff]
  simp only [beq_iff_eq, not_forall, not_not, exists_prop]

/-- The first of two stands back only if the second alone is important. -/
theorem winner?_pair (w d : Declaration) :
    winner? [w, d] = if !w.important && d.important then some d else some w := by
  cases hw : w.important <;> cases hd : d.important <;> simp [winner?, hw, hd]

end Winner

/-! ### Reading -/

namespace Style

variable {s : Style} {d : Declaration} {property : String} {l : List Declaration}

/-- An exchanged declaration is found under its property, and all others are as they were. -/
theorem get?_replaceFirst (h : (s.get? d.property).isSome) (property : String) :
    get? ⟨replaceFirst d s.declarations⟩ property =
      if d.property = property then some d else s.get? property := by
  obtain ⟨l⟩ := s
  unfold get? at h ⊢
  induction l with
  | nil => cases h
  | cons e rest ih =>
    dsimp only at h ih ⊢
    rw [replaceFirst]
    by_cases he : e.property = d.property
    · -- The exchange happens here, and the rest stays.
      rw [if_pos he, List.find?_cons, List.find?_cons, he]
      by_cases hp : d.property = property
      · rw [if_pos hp, beq_iff_eq.2 hp]
      · rw [if_neg hp, beq_eq_false_iff_ne.2 hp]
    · rw [List.find?_cons, beq_eq_false_iff_ne.2 he] at h
      rw [if_neg he, List.find?_cons, List.find?_cons, ih h]
      by_cases hp : e.property = property
      · have hd : d.property ≠ property := fun hd => he (hp.trans hd.symm)
        simp only [if_neg hd]
      · rw [beq_eq_false_iff_ne.2 hp]

/-- A declaration at the end is found if no other one of its property stands in front of it. -/
theorem get?_concat (l : List Declaration) (d : Declaration) (property : String) :
    get? ⟨l ++ [d]⟩ property =
      (get? ⟨l⟩ property).or (if d.property = property then some d else none) := by
  rw [get?, List.find?_append, List.find?_singleton, get?]
  simp only [beq_iff_eq]

theorem get?_cons (l : List Declaration) (d : Declaration) (property : String) :
    get? ⟨d :: l⟩ property = if d.property = property then some d else get? ⟨l⟩ property := by
  rw [get?, List.find?_cons, get?]
  by_cases h : d.property = property
  · rw [if_pos h, beq_iff_eq.2 h]
  · rw [if_neg h, beq_eq_false_iff_ne.2 h]

/-- **A later declaration** of a property is stronger than those before it. -/
theorem get?_addLater (s : Style) (d : Declaration) (property : String) :
    (s.addLater d).get? property =
      if d.property = property then winner? (d :: (s.get? property).toList) else s.get? property := by
  unfold addLater
  cases hp : s.get? d.property with
  | none =>
    dsimp only
    rw [get?_concat]
    split
    · next he =>
      rw [← he, hp]
      exact (winner?_toList (some d)).symm
    · exact Option.or_none
  | some earlier =>
    have hexchange := get?_replaceFirst (s := s) (d := d) (by rw [hp, Option.isSome_some]) property
    by_cases he : d.property = property
    · subst he
      rw [if_pos rfl, hp]
      -- Important or not: the earlier one stays only if it alone is important.
      cases hi : earlier.important <;> cases hd : d.important <;>
        simp [hi, hd, winner?, hexchange, hp]
    · rw [if_neg he] at hexchange ⊢
      dsimp only
      split
      · exact hexchange
      · rfl

theorem filter_property_singleton (d : Declaration) (property : String) :
    [d].filter (·.property == property) = if d.property = property then [d] else [] := by
  by_cases h : d.property = property <;> simp [h]

theorem get?_foldl_addLater (l : List Declaration) (property : String) : ∀ s : Style,
    (l.foldl addLater s).get? property =
      winner? (l.reverse.filter (·.property == property) ++ (s.get? property).toList) := by
  induction l with
  | nil => exact fun s => (winner?_toList _).symm
  | cons d rest ih =>
    intro s
    rw [List.foldl_cons, ih, get?_addLater, List.reverse_cons, List.filter_append, List.append_assoc]
    rw [filter_property_singleton]
    split
    · rw [winner?_append_right, List.singleton_append]
    · rw [List.nil_append]

/-- **Reading gives every property its winner**: the last important declaration of a text, or the last
one. -/
theorem get?_parse (text property : String) : (parse text).get? property =
    winner? ((declarationsOf text).reverse.filter (·.property == property)) := by
  have hempty : Style.empty.get? property = none := rfl
  rw [parse, get?_foldl_addLater, hempty, Option.toList_none, List.append_nil]

/-- Reading loses no property. -/
theorem get?_parse_ne_none_iff {text : String} :
    (parse text).get? property ≠ none ↔ ∃ d ∈ declarationsOf text, d.property = property := by
  rw [get?_parse, winner?_filter_property_ne_none_iff]
  simp only [List.mem_reverse]

theorem parse_eq_nil_iff (text : String) : (parse text).declarations = [] ↔ declarationsOf text = [] := by
  constructor
  · intro h
    refine List.eq_nil_iff_forall_not_mem.2 fun d hd => get?_parse_ne_none_iff.2 ⟨d, hd, rfl⟩ ?_
    rw [get?, h, List.find?_nil]
  · intro h
    rw [parse, h]
    rfl

end Style

/-! ### Merging one declaration after the other -/

/-- The shorthand that a property belongs to, which is the property itself if it has no hyphen. -/
def shorthandOf (property : String) : String :=
  String.ofList (property.toList.takeWhile (· != '-'))

theorem Declaration.baseProperty_eq (d : Declaration) : d.baseProperty = shorthandOf d.property := rfl

/-- A shorthand belongs to no other one. -/
theorem shorthandOf_shorthandOf (property : String) :
    shorthandOf (shorthandOf property) = shorthandOf property := by
  rw [shorthandOf, shorthandOf, String.toList_ofList, List.takeWhile_idem]

/-- Whether a declaration has a say in a property, by its name or by that of its shorthand. -/
def Declaration.Sets (property : String) (d : Declaration) : Bool :=
  d.property == property || d.property == shorthandOf property

theorem Declaration.sets_iff {property : String} {d : Declaration} :
    d.Sets property ↔ d.property = property ∨ d.property = shorthandOf property := by
  rw [Sets, Bool.or_eq_true, beq_iff_eq, beq_iff_eq]

/-- Only its own declarations have a say in a shorthand. -/
theorem Declaration.sets_shorthandOf_iff {property : String} {d : Declaration} :
    d.Sets (shorthandOf property) ↔ d.property = shorthandOf property := by
  rw [sets_iff, shorthandOf_shorthandOf, or_self]

namespace Style

variable {s : Style} {d : Declaration} {property : String} {l : List Declaration}

/-- Merging a declaration changes no other property. -/
theorem get?_digest_of_ne (s : Style) (h : d.property ≠ property) :
    (s.digest d).get? property = s.get? property := by
  unfold digest
  split
  · next present hp =>
    split
    · rw [get?_replaceFirst (by rw [hp, Option.isSome_some]), if_neg h]
    · rfl
  · split
    · split
      · rw [get?_concat, if_neg h, Option.or_none]
      · rfl
    · rw [get?_cons, if_neg h]

/-- A longhand that is not there is written behind its shorthand if it alone is important. -/
theorem get?_digest_of_shorthand {base : Declaration} (hnew : s.get? d.property = none)
    (hbase : s.get? (shorthandOf d.property) = some base) :
    (s.digest d).get? d.property = if !base.important && d.important then some d else none := by
  rw [digest, hnew, d.baseProperty_eq, hbase]
  dsimp only
  split
  · rw [get?_concat, if_pos rfl]
    exact congrArg (·.or (some d)) hnew
  · exact hnew

/-- **A declaration from a weaker source** is the last candidate of its property. The one obstacle is a
shorthand that stands there alone. -/
theorem get?_digest (h : s.get? property = none → s.get? (shorthandOf property) = none)
    (d : Declaration) : (s.digest d).get? property =
      if d.property = property then winner? ((s.get? property).toList ++ [d])
      else s.get? property := by
  by_cases he : d.property = property
  · -- A property that is there gives way to a stronger declaration; a new one comes to the front.
    subst he
    rw [if_pos rfl]
    cases hp : s.get? d.property with
    | some present =>
      rw [digest, hp]
      refine Eq.trans ?_ (winner?_pair present d).symm
      dsimp only
      split
      · rw [get?_replaceFirst (by rw [hp, Option.isSome_some]), if_pos rfl]
      · exact hp
    | none =>
      rw [digest, hp, d.baseProperty_eq, h hp]
      dsimp only
      rw [get?_cons, if_pos rfl]
      exact (winner?_toList (some d)).symm
  · rw [if_neg he, get?_digest_of_ne s he]

/-- **No shorthand stands in the way** of a property while declarations are merged in: it is there
already, or the first declaration that concerns it is one of its own. -/
def Unobstructed (s : Style) (property : String) (l : List Declaration) : Prop :=
  s.get? property = none → s.get? (shorthandOf property) = none ∧
    ∀ d, l.find? (·.Sets property) = some d → d.property = property

/-- The first declaration leaves no obstacle for the rest. -/
theorem Unobstructed.digest (h : s.Unobstructed property (d :: l)) :
    (s.digest d).Unobstructed property l := by
  intro hp
  rw [get?_digest fun hp => (h hp).1] at hp
  split at hp
  · -- The property is there now.
    have := winner?_eq_none_iff.1 hp
    exact absurd (List.append_eq_nil_iff.1 this).2 (List.cons_ne_nil d [])
  · -- The declaration is of another property, and not of the shorthand: that one would come first.
    next hd =>
    obtain ⟨hbase, hfirst⟩ := h hp
    have hsets : d.Sets property = false := by
      refine Bool.eq_false_iff.2 fun hsets => hd (hfirst d ?_)
      rw [List.find?_cons, hsets]
    have hdb : d.property ≠ shorthandOf property := by
      intro he
      rw [Declaration.Sets, beq_iff_eq.2 he, Bool.or_true] at hsets
      cases hsets
    constructor
    · rw [get?_digest fun hb => by rw [shorthandOf_shorthandOf, hb], if_neg hdb, hbase]
    · intro e he
      refine hfirst e ?_
      rw [List.find?_cons, hsets]
      exact he

/-- Nothing stands in the way of a shorthand. -/
theorem unobstructed_shorthandOf (s : Style) (property : String) (l : List Declaration) :
    s.Unobstructed (shorthandOf property) l := by
  intro hp
  rw [shorthandOf_shorthandOf]
  exact ⟨hp, fun d hd => Declaration.sets_shorthandOf_iff.1 (List.find?_some hd)⟩

/-- **Merging gives every property its winner** among what it had and what is merged in. -/
theorem get?_foldl_digest {l : List Declaration} : ∀ {s : Style}, s.Unobstructed property l →
    (l.foldl digest s).get? property =
      winner? ((s.get? property).toList ++ l.filter (·.property == property)) := by
  induction l with
  | nil =>
    intro s _
    rw [List.filter_nil, List.append_nil, winner?_toList]
    rfl
  | cons d rest ih =>
    intro s h
    rw [List.foldl_cons, ih h.digest, get?_digest fun hp => (h hp).1, ← List.singleton_append (l := rest),
      List.filter_append, filter_property_singleton]
    split
    · rw [winner?_append_left, List.append_assoc]
    · rw [List.nil_append]

/-- Nothing stands in the way of a property whose shorthand is not declared. -/
theorem unobstructed_parse {text : String} {later : List Declaration}
    (h : ∀ d ∈ (declarationsOf text).reverse ++ later, d.property ≠ shorthandOf property) :
    (parse text).Unobstructed property later := by
  intro _
  constructor
  · by_contra hbase
    obtain ⟨d, hd, he⟩ := get?_parse_ne_none_iff.1 hbase
    exact h d (List.mem_append_left _ (List.mem_reverse.2 hd)) he
  · intro d hd
    have hne := h d (List.mem_append_right _ (List.mem_of_find?_eq_some hd))
    exact (Declaration.sets_iff.1 (List.find?_some hd)).resolve_right hne

/-- **Reading and then merging** gives every property its winner among all of the declarations. -/
theorem get?_foldl_digest_parse {text : String} {later : List Declaration}
    (h : (parse text).Unobstructed property later) :
    (later.foldl digest (parse text)).get? property =
      winner? (((declarationsOf text).reverse ++ later).filter (·.property == property)) := by
  rw [get?_foldl_digest h, get?_parse, winner?_append_left, List.filter_append]

end Style

/-! ### Merging one rule after the other -/

/-- The declarations of texts, the strongest first: a text is stronger than the ones behind it, and in a
text the later declaration is the stronger one. -/
def candidates (texts : List String) : List Declaration :=
  texts.flatMap fun text => (Style.declarationsOf text).reverse

theorem candidates_cons (text : String) (texts : List String) :
    candidates (text :: texts) = (Style.declarationsOf text).reverse ++ candidates texts :=
  List.flatMap_cons

theorem isWritable_of_mem_candidates {texts : List String} {d : Declaration} (h : d ∈ candidates texts) :
    d.IsWritable := by
  obtain ⟨text, -, hd⟩ := List.mem_flatMap.1 h
  exact Style.isWritable_of_mem_declarationsOf (List.mem_reverse.1 hd)

/-- Merging texts into a style that is read keeps it as it is read. -/
theorem isRead_foldl_digest_candidates (text : String) (texts : List String) :
    ((candidates texts).foldl Style.digest (Style.parse text)).IsRead :=
  Style.IsRead.foldl Style.IsRead.digest (Style.isRead_parse text) fun _ => isWritable_of_mem_candidates

/-- **Where merging begins.** Blank styles, and those that become blank because there is nothing to merge,
give way to the next text as it is written. The first text that stays is the ground, and only those behind
it are merged. -/
def ground : String → List String → String × List String
  | text, [] => (text, [])
  | text, next :: rest =>
    if Text.isBlank text then ground next rest
    else if Style.declarationsOf text = [] ∧ Style.declarationsOf next = [] then ground "" rest
    else (text, next :: rest)

/-- What lies in front of the ground declares nothing. -/
theorem candidates_ground (texts : List String) : ∀ text,
    candidates ((ground text texts).1 :: (ground text texts).2) = candidates (text :: texts) := by
  induction texts with
  | nil => exact fun text => rfl
  | cons next rest ih =>
    intro text
    rw [ground]
    -- Blank texts have nothing to offer, whether they are passed over or not.
    split
    · next hb => rw [ih, candidates_cons text, Style.declarationsOf_of_isBlank hb]; rfl
    · split
      · next he => rw [ih, candidates_cons text, candidates_cons next, he.1, he.2]; rfl
      · rfl

section Texts

variable {s : Style} {texts : List String}

/-- A style that declares something is not blank when it is written. -/
theorem isBlank_text (hs : s.IsRead) (hne : s.declarations ≠ []) : Text.isBlank s.text = false := by
  refine Bool.eq_false_iff.2 fun hb => hne ?_
  rw [← Style.declarationsOf_text hs.writable, Style.declarationsOf_of_isBlank hb]

/-- After merging a style declares something. -/
theorem digest_ne_nil (s : Style) (d : Declaration) : (s.digest d).declarations ≠ [] := by
  have hsome {property : String} {e : Declaration} (h : s.get? property = some e) :
      s.declarations ≠ [] := List.ne_nil_of_mem (List.mem_of_find?_eq_some h)
  unfold Style.digest
  split
  · next present h =>
    split
    · -- The exchange keeps the properties, so the style is as long as it was.
      intro he
      have hmap := congrArg (List.map (·.property)) he
      rw [Style.map_property_replaceFirst, List.map_nil, List.map_eq_nil_iff] at hmap
      exact hsome h hmap
    · exact hsome h
  · split
    · next base h =>
      split
      · exact List.append_ne_nil_of_right_ne_nil _ (List.cons_ne_nil d [])
      · exact hsome h
    · exact List.cons_ne_nil d s.declarations

theorem foldl_digest_ne_nil : ∀ {l : List Declaration} {s : Style},
    s.declarations ≠ [] ∨ l ≠ [] → (l.foldl Style.digest s).declarations ≠ []
  | [], _, h => h.resolve_right fun hne => hne rfl
  | d :: rest, s, _ => foldl_digest_ne_nil (l := rest) (.inl (digest_ne_nil s d))

/-- **A style that declares something** takes in rule after rule, and the text in between is no matter. -/
theorem mergedStyles_text (texts : List String) : ∀ {s : Style}, s.IsRead → s.declarations ≠ [] →
    mergedStyles (some s.text) texts = some ((candidates texts).foldl Style.digest s).text := by
  induction texts with
  | nil => exact fun _ _ => rfl
  | cons next rest ih =>
    intro s hs hne
    -- The text that was written is read back, so it may stand for the style.
    have hstep : mergedStyle (some s.text) next = (s.digestText next).text := by
      rw [mergedStyle, isBlank_text hs hne, hs.parse_text]
      rfl
    have hrest := ih (hs.digestText next) (foldl_digest_ne_nil (.inl hne))
    rw [candidates_cons, List.foldl_append]
    rw [← hstep] at hrest
    exact hrest

/-- **What merging comes to.** If nothing is left to merge into the ground, it stays as it is written; else
the style is that of the ground with all later declarations merged in. -/
theorem getD_mergedStyles (texts : List String) : ∀ current,
    (mergedStyles current texts).getD "" =
      if (ground (current.getD "") texts).2 = [] then (ground (current.getD "") texts).1
      else ((candidates (ground (current.getD "") texts).2).foldl Style.digest
        (Style.parse (ground (current.getD "") texts).1)).text := by
  induction texts with
  | nil => exact fun _ => rfl
  | cons next rest ih =>
    intro current
    have hfold : mergedStyles current (next :: rest) = mergedStyles (some (mergedStyle current next)) rest :=
      rfl
    have hmerged : mergedStyle current next = if Text.isBlank (current.getD "") then next
        else ((Style.parse (current.getD "")).digestText next).text := by
      cases current with
      | none => rfl
      | some text => rfl
    rw [hfold, ground, hmerged]
    split
    · -- A blank style takes over the text.
      exact ih (some next)
    · split
      · -- Nothing is declared so far, so the style is written as a blank one.
        next he =>
        have hempty : ((Style.parse (current.getD "")).digestText next).text = "" := by
          rw [Style.parse, Style.digestText, he.1, he.2]
          rfl
        rw [hempty]
        exact ih (some "")
      · -- From here on the style is that of `mergedStyles_text`.
        next he =>
        have hne : ((Style.parse (current.getD "")).digestText next).declarations ≠ [] := by
          refine foldl_digest_ne_nil ((not_and_or.1 he).imp (fun h => ?_) fun h => by simpa using h)
          rwa [Ne, Style.parse_eq_nil_iff]
        rw [if_neg (List.cons_ne_nil next rest), mergedStyles_text rest
          ((Style.isRead_parse _).digestText next) hne, candidates_cons, List.foldl_append]
        rfl

end Texts

end HtmlMail.Css
