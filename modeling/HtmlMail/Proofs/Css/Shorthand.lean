import HtmlMail.Proofs.Css.Cascade
import HtmlMail.Proofs.Css.WrittenOrder

/-!
# A longhand and its shorthand

A mail program takes `padding-top` from the declarations of `padding-top` and of `padding` together: the
last important one in the text of the style counts, or the last one (`effective?`). So the place of a
declaration matters, and merging changes declarations in place. What counts after inlining is therefore
not always the winner of the cascade.

Once a style declares both, they keep their places, and the one written last overrides the other even if a
stronger source has declared that one. `overriding?` names the property of which that is so, if any: it is
the one written last in the style that merging begins with, or the longhand if the strongest candidate is
one. The result is the winner after the declarations of that property have been put in front of the others
(`promote`), and it is the winner of the cascade if and only if that one is not overtaken
(`effective?_inlineCss`).

* `promote` : candidates with those of one property put in front of the others, and
  `winner?_promote_eq_iff` : when that makes no difference;
* `Led` : what holds while declarations are merged into a style led by the shorthand, and `Led.foldl` : it
  ends up with the winner of all declarations.
-/

namespace HtmlMail.Css

open Dom

/-! ### Candidates that are put in front -/

/-- Candidates with those of one property put in front of the others. -/
def promote (property? : Option String) (l : List Declaration) : List Declaration :=
  match property? with
  | none => l
  | some property => l.filter (·.property == property) ++ l.filter (·.property != property)

/-- **A winner is overtaken** if it belongs to another property than the one put in front, and that one has
a declaration that does not give way to it for lack of importance. -/
def Overtaken (property? : Option String) (l : List Declaration) : Prop :=
  ∃ property ∈ property?, ∃ w ∈ winner? l, w.property ≠ property ∧
    ∃ rival ∈ l, rival.property = property ∧ (w.important → rival.important)

section Winner

variable {l : List Declaration} {w : Declaration} {property : String}

theorem find?_filter_of_find? {p keep : Declaration → Bool} (h : l.find? p = some w) (hk : keep w) :
    (l.filter keep).find? p = some w := by
  induction l with
  | nil => cases h
  | cons d rest ih =>
    rw [List.find?_cons] at h
    rw [List.filter_cons]
    cases hd : p d with
    | true =>
      rw [hd] at h
      obtain rfl : d = w := Option.some.inj h
      rw [if_pos hk, List.find?_cons, hd]
    | false =>
      rw [hd] at h
      split
      · rw [List.find?_cons, hd]
        exact ih h
      · exact ih h

/-- **A winner wins** among any of the candidates that it is one of. -/
theorem winner?_filter (keep : Declaration → Bool) (h : winner? l = some w) (hk : keep w) :
    winner? (l.filter keep) = some w := by
  rcases Option.or_eq_some_iff.1 h with h | ⟨hnone, h⟩
  · rw [winner?, find?_filter_of_find? h hk, Option.some_or]
  · obtain ⟨rest, rfl⟩ : ∃ rest, l = w :: rest := List.head?_eq_some_iff.1 h
    have hfilter : ((w :: rest).filter keep).find? (·.important) = none := by
      rw [List.find?_eq_none] at hnone ⊢
      exact fun d hd => hnone d (List.mem_of_mem_filter hd)
    rw [winner?, hfilter, List.filter_cons_of_pos hk]
    rfl

/-- A winner that is put in front stays the winner. -/
theorem winner?_promote_of_eq (hw : winner? l = some w) (hown : w.property = property) :
    winner? (promote (some property) l) = some w := by
  rw [promote, winner?_append, winner?_filter (·.property == property) hw (beq_iff_eq.2 hown)]
  cases hy : winner? (l.filter (·.property != property)) with
  | none => exact winner?_toList (some w)
  | some v =>
    -- What is important among the others was not enough to win.
    have hv : v.important → w.important :=
      important_of_winner? hw (List.mem_of_mem_filter (mem_of_winner? hy))
    refine (winner?_pair w v).trans (if_neg fun h => ?_)
    obtain ⟨hwi, hvi⟩ := Bool.and_eq_true_iff.1 h
    rw [hv hvi] at hwi
    cases hwi

/-- A winner behind those put in front has to be important to win, and they must not be. -/
theorem winner?_promote_of_ne (hw : winner? l = some w) (hown : w.property ≠ property) :
    winner? (promote (some property) l) = some w ↔
      ¬ ∃ rival ∈ l, rival.property = property ∧ (w.important → rival.important) := by
  rw [promote, winner?_append, winner?_filter (·.property != property) hw (bne_iff_ne.2 hown)]
  cases hx : winner? (l.filter (·.property == property)) with
  | none =>
    rw [winner?_eq_none_iff, List.filter_eq_nil_iff] at hx
    refine ⟨?_, fun _ => winner?_toList (some w)⟩
    rintro - ⟨rival, hrival, hr, -⟩
    exact hx rival hrival (beq_iff_eq.2 hr)
  | some v =>
    obtain ⟨hv, hvp⟩ := List.mem_filter.1 (mem_of_winner? hx)
    have hne : v ≠ w := fun he => hown (he ▸ eq_of_beq hvp)
    -- The strongest of the promoted declarations against the one that wins without them.
    have hpair : winner? ((some v).toList ++ (some w).toList) = some w ↔
        ¬ (w.important → v.important) := by
      refine Eq.congr (winner?_pair v w) rfl |>.trans ?_
      cases v.important <;> cases w.important <;> simp [hne]
    rw [hpair, not_iff_not]
    constructor
    · exact fun hi => ⟨v, hv, eq_of_beq hvp, hi⟩
    · rintro ⟨rival, hrival, hr, hi⟩ hwi
      exact important_of_winner? hx (List.mem_filter.2 ⟨hrival, beq_iff_eq.2 hr⟩) (hi hwi)

/-- **Putting candidates in front makes no difference** as long as the winner is not overtaken. -/
theorem winner?_promote_eq_iff (property? : Option String) (l : List Declaration) :
    winner? (promote property? l) = winner? l ↔ ¬ Overtaken property? l := by
  rw [Overtaken]
  cases property? with
  | none => simp [promote]
  | some property =>
    cases hw : winner? l with
    | none =>
      rw [winner?_eq_none_iff.1 hw]
      simp [promote, winner?]
    | some w =>
      simp only [Option.mem_def, Option.some.injEq, exists_eq_left']
      by_cases hown : w.property = property
      · exact iff_of_true (winner?_promote_of_eq hw hown) fun h => h.1 hown
      · rw [winner?_promote_of_ne hw hown, not_and]
        exact ⟨fun h _ => h, fun h => h hown⟩

end Winner

/-! ### Styles led by the shorthand -/

/-- **While the shorthand leads.** Declarations `seen` have been merged into a style, and `rest` are still
to come. The longhand does not come first, so it is there only if it is important, behind the shorthand;
and what counts is the winner of the declarations seen. -/
structure Led (property : String) (seen rest : List Declaration) (s : Style) : Prop where
  first : s.get? (shorthandOf property) = none →
    ∀ d, rest.find? (·.Sets property) = some d → d.property ≠ property
  longhand {d : Declaration} : s.get? property = some d →
    d.important ∧ s.get? (shorthandOf property) ≠ none
  winner : winner? ((s.get? property).toList ++ (s.get? (shorthandOf property)).toList) =
    winner? (seen.filter (·.Sets property))

section Led

variable {s : Style} {d : Declaration} {property : String} {seen rest : List Declaration}

/-- A declaration of another property makes no difference. -/
theorem Led.step_of_not_sets (h : Led property seen (d :: rest) s) (hd : d.Sets property = false) :
    Led property (seen ++ [d]) rest (s.digest d) := by
  have hno : ¬ (d.property = property ∨ d.property = shorthandOf property) := by
    rw [← Declaration.sets_iff, hd]
    exact Bool.false_ne_true
  obtain ⟨hp, hb⟩ := not_or.1 hno
  constructor
  case first =>
    intro hbase e he
    rw [Style.get?_digest_of_ne s hb] at hbase
    refine h.first hbase e ?_
    rw [List.find?_cons, hd]
    exact he
  case longhand =>
    intro e he
    rw [Style.get?_digest_of_ne s hp] at he
    rw [Style.get?_digest_of_ne s hb]
    exact h.longhand he
  case winner =>
    rw [Style.get?_digest_of_ne s hp, Style.get?_digest_of_ne s hb, h.winner, List.filter_append,
      List.filter_cons_of_neg (by rw [hd]; exact Bool.false_ne_true), List.filter_nil, List.append_nil]

/-- The shorthand takes in a declaration of its own. -/
theorem Led.step_of_shorthand (h : Led property seen (d :: rest) s)
    (hd : d.property = shorthandOf property) (hp : property ≠ shorthandOf property) :
    Led property (seen ++ [d]) rest (s.digest d) := by
  have hget : (s.digest d).get? (shorthandOf property) =
      if d.property = shorthandOf property then winner? ((s.get? (shorthandOf property)).toList ++ [d])
      else s.get? (shorthandOf property) :=
    Style.get?_digest (fun hb => by rw [shorthandOf_shorthandOf, hb]) d
  have hne : d.property ≠ property := fun he => hp (he.symm.trans hd)
  rw [if_pos hd] at hget
  -- From here on the shorthand is declared.
  have hsome : (s.digest d).get? (shorthandOf property) ≠ none := by
    rw [hget, Ne, winner?_eq_none_iff]
    exact List.append_ne_nil_of_right_ne_nil _ (List.cons_ne_nil d [])
  constructor
  case first => exact fun hb => absurd hb hsome
  case longhand =>
    intro e he
    rw [Style.get?_digest_of_ne s hne] at he
    exact ⟨(h.longhand he).1, hsome⟩
  case winner =>
    have hsets : d.Sets property := Declaration.sets_iff.2 (.inr hd)
    rw [Style.get?_digest_of_ne s hne, hget, winner?_append_right, ← List.append_assoc,
      ← winner?_append_left, h.winner, winner?_append_left, List.filter_append,
      List.filter_cons_of_pos hsets, List.filter_nil]

/-- The longhand takes in a declaration of its own if it is there already, or if the declaration is
important and the shorthand is not. -/
theorem Led.step_of_longhand (h : Led property seen (d :: rest) s) (hd : d.property = property)
    (hp : property ≠ shorthandOf property) : Led property (seen ++ [d]) rest (s.digest d) := by
  subst hd
  have hsets : d.Sets d.property := Declaration.sets_iff.2 (.inl rfl)
  have hget := Style.get?_digest_of_ne s hp
  have hsome : s.get? (shorthandOf d.property) ≠ none := by
    refine fun hb => h.first hb d ?_ rfl
    rw [List.find?_cons, hsets]
  obtain ⟨base, hbase⟩ := Option.ne_none_iff_exists'.1 hsome
  have hseen : winner? ((seen ++ [d]).filter (·.Sets d.property)) =
      winner? ((s.get? d.property).toList ++ [base, d]) := by
    have hwinner := h.winner
    rw [hbase] at hwinner
    rw [List.filter_append, List.filter_cons_of_pos hsets, List.filter_nil, ← winner?_append_left, ← hwinner,
      winner?_append_left, List.append_assoc]
    rfl
  have hfirst : (s.digest d).get? (shorthandOf d.property) = none →
      ∀ e, rest.find? (·.Sets d.property) = some e → e.property ≠ d.property :=
    fun hb => absurd (hget.symm.trans hb) hsome
  cases hcur : s.get? d.property with
  | some present =>
    -- The longhand is important already, so a weaker declaration changes nothing.
    have hi : present.important := (h.longhand hcur).1
    have hnext : (s.digest d).get? d.property = some present := by
      rw [Style.get?_digest (fun hnone => absurd (hcur.symm.trans hnone) nofun), if_pos rfl, hcur]
      exact (winner?_pair present d).trans (if_neg (by simp [hi]))
    refine ⟨hfirst, fun he => ?_, ?_⟩
    · rw [hnext] at he
      exact ⟨Option.some.inj he ▸ hi, hget.symm ▸ hsome⟩
    · rw [hnext, hget, hbase, hseen, hcur]
      simp [winner?, hi]
  | none =>
    -- The longhand joins in if it is stronger than the shorthand for its importance.
    have hnext := Style.get?_digest_of_shorthand hcur hbase
    refine ⟨hfirst, fun he => ?_, ?_⟩
    · rw [hnext] at he
      split at he
      · next hi => exact ⟨Option.some.inj he ▸ (Bool.and_eq_true_iff.1 hi).2, hget.symm ▸ hsome⟩
      · cases he
    · rw [hnext, hget, hbase, hseen, hcur, Option.toList_none, List.nil_append, winner?_pair]
      split
      · next hi => simp [winner?, (Bool.and_eq_true_iff.1 hi).2]
      · exact winner?_toList (some base)

/-- **Every declaration leaves what counts the winner.** -/
theorem Led.step (h : Led property seen (d :: rest) s) (hp : property ≠ shorthandOf property) :
    Led property (seen ++ [d]) rest (s.digest d) := by
  cases hd : d.Sets property with
  | false => exact h.step_of_not_sets hd
  | true =>
    rcases Declaration.sets_iff.1 hd with hd | hd
    · exact h.step_of_longhand hd hp
    · exact h.step_of_shorthand hd hp

/-- **A style led by the shorthand** ends up with the winner of all declarations. -/
theorem Led.foldl (hp : property ≠ shorthandOf property) : ∀ {rest seen : List Declaration} {s : Style},
    Led property seen rest s → Led property (seen ++ rest) [] (rest.foldl Style.digest s)
  | [], seen, s, h => by rwa [List.append_nil]
  | d :: rest, seen, s, h => by
    have hrest := Led.foldl hp (h.step hp)
    rwa [List.append_assoc] at hrest

end Led

/-! ### What counts after merging -/

/-- **The property whose declarations override** those of the other one, whatever their strength: both come
to be written, and its place is behind. There is none if the style stays as it is written, or if the
shorthand leads. -/
def overriding? (property text : String) (later : List String) : Option String :=
  let own := Style.declarationsOf text
  if later = [] then none
  else if (∃ d ∈ own, d.property = property) ∧ ∃ d ∈ own, d.property = shorthandOf property then
    if (own.find? (·.Sets property)).map (·.property) = some property then some (shorthandOf property)
    else some property
  else if ((candidates (text :: later)).find? (·.Sets property)).map (·.property) = some property then
    some property
  else none

section Merged

variable {s : Style} {property x y : String} {l : List Declaration} {text : String}

/-- What a single declaration keeps, all of them keep. -/
theorem foldl_digest_of_step {p : Style → Prop} (hstep : ∀ s d, p s → p (s.digest d))
    (l : List Declaration) : ∀ {s : Style}, p s → p (l.foldl Style.digest s) := by
  induction l with
  | nil => exact fun h => h
  | cons d rest ih => exact fun h => ih (hstep _ d h)

/-- Two properties with their winners, written one behind the other. -/
theorem effective?_of_winners (hxy : x ≠ y)
    (hpair : (property = x ∧ shorthandOf property = y) ∨ (property = y ∧ shorthandOf property = x))
    (horder : (writtenOrder property s).Sublist [x, y])
    (hgetx : s.get? x = winner? (l.filter (·.property == x)))
    (hgety : s.get? y = winner? (l.filter (·.property == y))) :
    effective? property s.declarations = winner? (promote (some y) (l.filter (·.Sets property))) := by
  have hsets (d : Declaration) : d.Sets property ↔ d.property = x ∨ d.property = y := by
    rw [Declaration.sets_iff]
    rcases hpair with ⟨rfl, h⟩ | ⟨rfl, h⟩ <;> rw [h]
    exact or_comm
  -- What sets the property falls into the declarations of `y` and those of `x`.
  have hfront : (l.filter (·.Sets property)).filter (·.property == y) = l.filter (·.property == y) := by
    rw [List.filter_filter]
    refine List.filter_congr fun d _ => Bool.eq_iff_iff.2 ?_
    rw [Bool.and_eq_true, hsets, beq_iff_eq]
    exact ⟨fun h => h.1, fun h => ⟨h, .inr h⟩⟩
  have hback : (l.filter (·.Sets property)).filter (·.property != y) = l.filter (·.property == x) := by
    rw [List.filter_filter]
    refine List.filter_congr fun d _ => Bool.eq_iff_iff.2 ?_
    rw [Bool.and_eq_true, hsets, beq_iff_eq, bne_iff_ne]
    exact ⟨fun h => h.2.resolve_right h.1, fun h => ⟨fun hy => hxy (h.symm.trans hy), .inl h⟩⟩
  have hcover : (x = property ∨ x = shorthandOf property) ∧ (y = property ∨ y = shorthandOf property) := by
    rcases hpair with ⟨rfl, rfl⟩ | ⟨rfl, rfl⟩
    · exact ⟨.inl rfl, .inr rfl⟩
    · exact ⟨.inr rfl, .inl rfl⟩
  calc effective? property s.declarations
      = winner? ((s.get? y).toList ++ (s.get? x).toList) :=
        effective?_eq horder hxy hcover.1 hcover.2
    _ = winner? (l.filter (·.property == y) ++ l.filter (·.property == x)) := by
        rw [hgetx, hgety, ← winner?_append]
    _ = winner? (promote (some y) (l.filter (·.Sets property))) := by
        rw [promote, hfront, hback]

/-- **If the ground declares both**, they keep their places. -/
theorem effective?_of_both (hp : property ≠ shorthandOf property) (later : List Declaration)
    (hlong : ∃ d ∈ Style.declarationsOf text, d.property = property)
    (hshort : ∃ d ∈ Style.declarationsOf text, d.property = shorthandOf property) :
    effective? property (later.foldl Style.digest (Style.parse text)).declarations =
      winner? (promote
        (if ((Style.declarationsOf text).find? (·.Sets property)).map (·.property) = some property then
          some (shorthandOf property) else some property)
        (((Style.declarationsOf text).reverse ++ later).filter (·.Sets property))) := by
  have hfree {q : String} (hq : ∃ d ∈ Style.declarationsOf text, d.property = q) :
      (Style.parse text).Unobstructed q later := fun hnone => absurd hnone (Style.get?_parse_ne_none_iff.2 hq)
  have hkeep {x y : String} (hpair : (property = x ∧ shorthandOf property = y) ∨
        (property = y ∧ shorthandOf property = x)) (h : writtenOrder property (Style.parse text) = [x, y]) :
      writtenOrder property (later.foldl Style.digest (Style.parse text)) = [x, y] := by
    refine foldl_digest_of_step (p := fun s => writtenOrder property s = [x, y])
      (fun s d hs => writtenOrder_digest_of_eq hs ?_ ?_ d) later h
    · exact hpair.imp And.left And.left
    · exact (hpair.imp And.right And.right).symm
  split
  · -- The longhand stands first, and the shorthand behind it overrides it.
    next hfirst =>
    have horder := writtenOrder_parse_eq hp (.inl ⟨rfl, rfl⟩) hlong hshort fun h =>
      hp (Option.some.inj (hfirst.symm.trans h))
    have hkept := hkeep (.inl ⟨rfl, rfl⟩) horder
    refine effective?_of_winners hp (.inl ⟨rfl, rfl⟩) (hkept ▸ .refl _) ?_ ?_
    · exact Style.get?_foldl_digest_parse (hfree hlong)
    · exact Style.get?_foldl_digest_parse (hfree hshort)
  · -- The shorthand stands first.
    next hfirst =>
    have horder := writtenOrder_parse_eq hp.symm (.inr ⟨rfl, rfl⟩) hshort hlong hfirst
    have hkept := hkeep (.inr ⟨rfl, rfl⟩) horder
    refine effective?_of_winners hp.symm (.inr ⟨rfl, rfl⟩) (hkept ▸ .refl _) ?_ ?_
    · exact Style.get?_foldl_digest_parse (hfree hshort)
    · exact Style.get?_foldl_digest_parse (hfree hlong)

/-- The first candidate of a ground that declares one of the two. -/
theorem map_find?_sets_of_own {own : List Declaration} (later : List Declaration)
    (hx : x = property ∨ x = shorthandOf property) (hd : ∃ d ∈ own, d.property = x)
    (hother : ∀ d ∈ own, d.Sets property → d.property = x) :
    ((own.reverse ++ later).find? (·.Sets property)).map (·.property) = some x := by
  obtain ⟨d, hd, hdx⟩ := hd
  obtain ⟨c, hc⟩ := Option.isSome_iff_exists.1 (List.find?_isSome.2
    ⟨d, List.mem_reverse.2 hd, Declaration.sets_iff.2 (hdx ▸ hx)⟩)
  have hcx := hother c (List.mem_reverse.1 (List.mem_of_find?_eq_some hc)) (List.find?_some hc)
  rw [List.find?_append, hc, Option.some_or, Option.map_some, hcx]

/-- The first candidate of a ground that declares neither. -/
theorem find?_sets_of_not_own {own : List Declaration} (later : List Declaration)
    (hlong : ¬ ∃ d ∈ own, d.property = property)
    (hshort : ¬ ∃ d ∈ own, d.property = shorthandOf property) :
    (own.reverse ++ later).find? (·.Sets property) = later.find? (·.Sets property) := by
  rw [List.find?_append, Option.or_eq_right_of_none (List.find?_eq_none.2 fun d hd hsets => ?_)]
  rcases Declaration.sets_iff.1 hsets with hd' | hd'
  · exact hlong ⟨d, List.mem_reverse.1 hd, hd'⟩
  · exact hshort ⟨d, List.mem_reverse.1 hd, hd'⟩

/-- **If the first candidate is a longhand**, nothing stands in the way of it. -/
theorem unobstructed_of_first (hp : property ≠ shorthandOf property) {later : List Declaration}
    (hfirst : (((Style.declarationsOf text).reverse ++ later).find? (·.Sets property)).map (·.property) =
      some property) : (Style.parse text).Unobstructed property later := by
  intro hnone
  have hlong : ¬ ∃ d ∈ Style.declarationsOf text, d.property = property :=
    fun hd => Style.get?_parse_ne_none_iff.2 hd hnone
  -- If only the shorthand were declared, it would be what comes first.
  have hshort : ¬ ∃ d ∈ Style.declarationsOf text, d.property = shorthandOf property := by
    intro hd
    rw [map_find?_sets_of_own later (.inr rfl) hd fun c hc hsets =>
      (Declaration.sets_iff.1 hsets).resolve_left fun he => hlong ⟨c, hc, he⟩] at hfirst
    exact hp (Option.some.inj hfirst).symm
  refine ⟨of_not_not fun hb => hshort (Style.get?_parse_ne_none_iff.1 hb), fun d hd => ?_⟩
  rw [find?_sets_of_not_own later hlong hshort, hd] at hfirst
  exact Option.some.inj hfirst

/-- **If the first candidate is no longhand** and the ground does not declare both, the shorthand leads. -/
theorem led_of_first {later : List Declaration}
    (h : ¬ ((∃ d ∈ Style.declarationsOf text, d.property = property) ∧
      ∃ d ∈ Style.declarationsOf text, d.property = shorthandOf property))
    (hfirst : (((Style.declarationsOf text).reverse ++ later).find? (·.Sets property)).map (·.property) ≠
      some property) :
    Led property (Style.declarationsOf text).reverse later (Style.parse text) := by
  -- If the property were declared by itself, it would be what comes first.
  have hlong : ¬ ∃ d ∈ Style.declarationsOf text, d.property = property := fun hd =>
    hfirst (map_find?_sets_of_own later (.inl rfl) hd fun c hc hsets =>
      (Declaration.sets_iff.1 hsets).resolve_right fun he => h ⟨hd, c, hc, he⟩)
  have hnone : (Style.parse text).get? property = none :=
    of_not_not fun hd => hlong (Style.get?_parse_ne_none_iff.1 hd)
  constructor
  case first =>
    intro hb d hd hdp
    have hshort : ¬ ∃ d ∈ Style.declarationsOf text, d.property = shorthandOf property :=
      fun hd => Style.get?_parse_ne_none_iff.2 hd hb
    rw [find?_sets_of_not_own later hlong hshort, hd] at hfirst
    exact hfirst (congrArg some hdp)
  case longhand =>
    intro d hd
    rw [hnone] at hd
    cases hd
  case winner =>
    rw [hnone, Option.toList_none, List.nil_append, winner?_toList, Style.get?_parse]
    refine congrArg winner? (List.filter_congr fun d hd => Bool.eq_iff_iff.2 ?_)
    rw [beq_iff_eq, Declaration.sets_iff]
    exact ⟨.inr, fun hd' => hd'.resolve_left fun he => hlong ⟨d, List.mem_reverse.1 hd, he⟩⟩

/-- **If the ground does not declare both**, the shorthand ends up in front. The longhand overrides it if it
comes first among all candidates; if it does not, the winner counts. -/
theorem effective?_of_not_both (hp : property ≠ shorthandOf property) (later : List Declaration)
    (h : ¬ ((∃ d ∈ Style.declarationsOf text, d.property = property) ∧
      ∃ d ∈ Style.declarationsOf text, d.property = shorthandOf property)) :
    effective? property (later.foldl Style.digest (Style.parse text)).declarations =
      winner? (promote
        (if (((Style.declarationsOf text).reverse ++ later).find? (·.Sets property)).map (·.property) =
          some property then some property else none)
        (((Style.declarationsOf text).reverse ++ later).filter (·.Sets property))) := by
  have horder : (writtenOrder property (later.foldl Style.digest (Style.parse text))).Sublist
      [shorthandOf property, property] :=
    foldl_digest_of_step (p := fun s => (writtenOrder property s).Sublist [shorthandOf property, property])
      (fun s d hs => writtenOrder_digest_sublist hs d) later (writtenOrder_parse_sublist hp h)
  split
  · next hfirst =>
    -- Both get their winners, and the longhand is written behind.
    refine effective?_of_winners hp.symm (.inr ⟨rfl, rfl⟩) horder ?_ ?_
    · exact Style.get?_foldl_digest_parse (Style.unobstructed_shorthandOf _ property later)
    · exact Style.get?_foldl_digest_parse (unobstructed_of_first hp hfirst)
  · next hfirst =>
    rw [effective?_eq horder hp.symm (.inr rfl) (.inl rfl)]
    exact ((led_of_first h hfirst).foldl hp).winner

/-- **What counts after merging** texts into a style: the winner, once the declarations of the overriding
property have been put in front. -/
theorem effective?_mergedStyles (hp : property ≠ shorthandOf property) (current : Option String)
    (texts : List String) :
    effective? property (Style.declarationsOf ((mergedStyles current texts).getD "")) =
      winner? (promote
        (overriding? property (ground (current.getD "") texts).1 (ground (current.getD "") texts).2)
        ((candidates (current.getD "" :: texts)).filter (·.Sets property))) := by
  rw [getD_mergedStyles, ← candidates_ground]
  generalize (ground (current.getD "") texts).1 = text
  generalize (ground (current.getD "") texts).2 = later
  unfold overriding?
  split
  · -- The ground stays as it is written, and its last declarations are the strongest ones.
    next hlater =>
    subst hlater
    rw [promote, candidates_cons, effective?, ← List.filter_reverse]
    exact congrArg (fun l => winner? (List.filter _ l)) (List.append_nil _).symm
  · rw [Style.declarationsOf_text (isRead_foldl_digest_candidates text later).writable, candidates_cons]
    by_cases hboth : (∃ d ∈ Style.declarationsOf text, d.property = property) ∧
        ∃ d ∈ Style.declarationsOf text, d.property = shorthandOf property
    · rw [if_pos hboth]
      exact effective?_of_both hp (candidates later) hboth.1 hboth.2
    · rw [if_neg hboth]
      exact effective?_of_not_both hp (candidates later) hboth

end Merged

/-! ### What counts after inlining -/

/-- The property whose declarations override those of the other one after inlining. -/
def overridingAt? (css : String) (tree : Tree) (node : NodeId) (property : String) : Option String :=
  let start := ground ((tree.attribute? node "style").getD "") (ruleTexts css tree node)
  overriding? property start.1 start.2

section Inlining

variable {tree : Tree} {node : NodeId} {css property : String}

/-- A name with a hyphen is longer than that of its shorthand. -/
theorem ne_shorthandOf (h : '-' ∈ property.toList) : property ≠ shorthandOf property := by
  intro he
  rw [he, shorthandOf, String.toList_ofList] at h
  have hno := List.mem_takeWhile_imp h
  revert hno
  decide

/-- **What a longhand comes to.** After a stylesheet has been inlined whose selectors do not look at the
attribute `style`, the declaration of a longhand or its shorthand that counts is the winner of the cascade
in which the declarations of the overriding property come before the others. It is the winner of the cascade
itself if and only if that one is not overtaken. -/
theorem effective?_inlineCss (hr : tree.Reachable) (ha : tree.Attached node) (he : tree.isElement node)
    (htests : ∀ rule ∈ Rule.ofStylesheet css, ¬ rule.Tests "style") (hp : '-' ∈ property.toList) :
    effective? property
        (Style.declarationsOf (((inlineCss css tree).attribute? node "style").getD "")) =
      winner? (promote (overridingAt? css tree node property)
        ((cascade css tree node).filter (·.Sets property))) ∧
    (effective? property
        (Style.declarationsOf (((inlineCss css tree).attribute? node "style").getD "")) =
      winner? ((cascade css tree node).filter (·.Sets property)) ↔
        ¬ Overtaken (overridingAt? css tree node property)
          ((cascade css tree node).filter (·.Sets property))) := by
  have hcounts := effective?_mergedStyles (ne_shorthandOf hp) (tree.attribute? node "style")
    (ruleTexts css tree node)
  rw [ruleTexts, ← attribute?_inlineCss hr ha he htests] at hcounts
  rw [hcounts]
  exact ⟨rfl, winner?_promote_eq_iff ..⟩

end Inlining

/-- A stylesheet with a shorthand in the stronger rule and a longhand in the weaker one. -/
def paddings : String := "#a{padding:2px!important}p{padding-top:3px!important}"

theorem ofStylesheet_paddings : Rule.ofStylesheet paddings =
    [⟨"#a", "padding:2px!important", 100, 0⟩, ⟨"p", "padding-top:3px!important", 1, 1⟩] := by
  decide +kernel

theorem strongestFirst_paddings :
    strongestFirst (Rule.ofStylesheet paddings) = Rule.ofStylesheet paddings := by
  rw [ofStylesheet_paddings]
  exact List.mergeSort_of_pairwise (by decide)

/-- Behind a shorthand of its own, a paragraph takes over the winner. -/
theorem effective?_inlineCss_paddings :
    (paragraph "padding:1px").Reachable ∧ (paragraph "padding:1px").Attached 1 ∧
      effective? "padding-top" (Style.declarationsOf
        (((inlineCss paddings (paragraph "padding:1px")).attribute? 1 "style").getD "")) =
          some ⟨"padding", "2px", true⟩ := by
  have htests : ∀ rule ∈ Rule.ofStylesheet paddings, ¬ rule.Tests "style" := by
    rw [ofStylesheet_paddings]
    decide +kernel
  refine ⟨paragraph_reachable _, paragraph_attached _, ?_⟩
  rw [(effective?_inlineCss (paragraph_reachable _) (paragraph_attached _) rfl htests (by decide)).1,
    overridingAt?, cascade, ruleTexts, strongestFirst_paddings, ofStylesheet_paddings]
  decide +kernel

/-- **The winner can be overtaken.** The longhand stays behind the shorthand that has won, and is changed
there by the weaker rule. -/
theorem effective?_inlineCss_ne_winner? :
    (paragraph "padding-top:1px").Reachable ∧ (paragraph "padding-top:1px").Attached 1 ∧
      (paragraph "padding-top:1px").isElement 1 ∧
      (∀ rule ∈ Rule.ofStylesheet paddings, ¬ rule.Tests "style") ∧
      effective? "padding-top" (Style.declarationsOf
        (((inlineCss paddings (paragraph "padding-top:1px")).attribute? 1 "style").getD "")) =
          some ⟨"padding-top", "3px", true⟩ ∧
      winner? ((cascade paddings (paragraph "padding-top:1px") 1).filter (·.Sets "padding-top")) =
        some ⟨"padding", "2px", true⟩ := by
  refine ⟨paragraph_reachable _, paragraph_attached _, rfl, ?_, ?_, ?_⟩
  · rw [ofStylesheet_paddings]
    decide +kernel
  · rw [inlineCss, inlineWith, strongestFirst_paddings, ofStylesheet_paddings]
    decide +kernel
  · rw [cascade, ruleTexts, strongestFirst_paddings, ofStylesheet_paddings]
    decide +kernel

end HtmlMail.Css
