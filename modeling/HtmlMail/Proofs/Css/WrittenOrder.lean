import HtmlMail.Proofs.Css.Merging

/-!
# The order of writing

For a mail program the place of a declaration matters if its style declares both a longhand and the
shorthand that it belongs to: of two that are alike in importance, the one behind overrides the other
(`effective?`).

* `writtenOrder` : which of the two a style declares, in the order of writing;
* `writtenOrder_digest_of_eq` : two that are there keep their places when declarations are merged in;
* `writtenOrder_digest_sublist` : as long as the longhand is not in front, it does not come there;
* `writtenOrder_parse_eq`, `writtenOrder_parse_sublist` : how a style that is read begins;
* `effective?_eq` : what counts is found from the order and from what the style says about each of the two.
-/

namespace HtmlMail.Css

/-- **What a style says about a property** to a mail program: among the declarations of the property and of
its shorthand, the last important one, or the last one. -/
def effective? (property : String) (l : List Declaration) : Option Declaration :=
  winner? (l.filter (·.Sets property)).reverse

/-! ### The order of writing -/

section Order

variable {s : Style} {d : Declaration} {property x y text : String}
  {l : List Declaration}

/-- Which of a property and its shorthand a style declares, in the order of writing. -/
def writtenOrder (property : String) (s : Style) : List String :=
  (s.declarations.filter (·.Sets property)).map (·.property)

theorem writtenOrder_eq (s : Style) : writtenOrder property s =
    (s.declarations.map (·.property)).filter fun q => q == property || q == shorthandOf property := by
  rw [writtenOrder, List.filter_map]
  rfl

theorem mem_writtenOrder_iff (s : Style) (hx : x = property ∨ x = shorthandOf property) :
    x ∈ writtenOrder property s ↔ s.get? x ≠ none := by
  have hb : (x == property || x == shorthandOf property) = true := by
    rwa [Bool.or_eq_true, beq_iff_eq, beq_iff_eq]
  rw [writtenOrder_eq, List.mem_filter, Ne, Style.get?_eq_none_iff, not_not]
  exact and_iff_left hb

/-- An exchange leaves the order alone. -/
theorem writtenOrder_replaceFirst (s : Style) (d : Declaration) :
    writtenOrder property ⟨Style.replaceFirst d s.declarations⟩ = writtenOrder property s := by
  rw [writtenOrder_eq, writtenOrder_eq, Style.map_property_replaceFirst]

theorem writtenOrder_concat (l : List Declaration) (d : Declaration) :
    writtenOrder property ⟨l ++ [d]⟩ =
      writtenOrder property ⟨l⟩ ++ if d.Sets property then [d.property] else [] := by
  rw [writtenOrder, List.filter_append, List.map_append, writtenOrder]
  cases h : d.Sets property <;> simp [h]

theorem writtenOrder_cons (l : List Declaration) (d : Declaration) :
    writtenOrder property ⟨d :: l⟩ =
      (if d.Sets property then [d.property] else []) ++ writtenOrder property ⟨l⟩ := by
  rw [writtenOrder, List.filter_cons, writtenOrder]
  cases h : d.Sets property <;> simp

/-- **What merging does to the order.** It stays, or a declaration joins it that was not there: at the end
if its shorthand is there, and else in front. -/
theorem writtenOrder_digest_cases (property : String) (s : Style) (d : Declaration) :
    writtenOrder property (s.digest d) = writtenOrder property s ∨
      (d.Sets property ∧ s.get? d.property = none ∧
        ((s.get? (shorthandOf d.property) = none ∧
            writtenOrder property (s.digest d) = d.property :: writtenOrder property s) ∨
          (s.get? (shorthandOf d.property) ≠ none ∧
            writtenOrder property (s.digest d) = writtenOrder property s ++ [d.property]))) := by
  unfold Style.digest
  split
  · split
    · exact .inl (writtenOrder_replaceFirst s d)
    · exact .inl rfl
  · -- A new property is put in front, or at the end if its shorthand is there.
    next hnew =>
    split
    · next base hbase =>
      split
      · rw [writtenOrder_concat]
        split
        · next hd => exact .inr ⟨hd, hnew, .inr ⟨by rw [← d.baseProperty_eq, hbase]; nofun, rfl⟩⟩
        · exact .inl (List.append_nil _)
      · exact .inl rfl
    · next hbase =>
      rw [writtenOrder_cons]
      split
      · next hd => exact .inr ⟨hd, hnew, .inl ⟨hbase, rfl⟩⟩
      · exact .inl rfl

/-- **Two that are written keep their order.** -/
theorem writtenOrder_digest_of_eq (h : writtenOrder property s = [x, y])
    (hx : property = x ∨ property = y) (hy : shorthandOf property = x ∨ shorthandOf property = y)
    (d : Declaration) : writtenOrder property (s.digest d) = [x, y] := by
  rcases writtenOrder_digest_cases property s d with hsame | ⟨hd, hnew, -⟩
  · rw [hsame, h]
  · have hmem : d.property ∈ writtenOrder property s := by
      rw [h]
      rcases Declaration.sets_iff.1 hd with hd | hd <;> rw [hd] <;> simpa
    exact absurd hnew ((mem_writtenOrder_iff s (Declaration.sets_iff.1 hd)).1 hmem)

theorem sublist_pair_iff {l : List String} :
    l.Sublist [x, y] ↔ l = [] ∨ l = [x] ∨ l = [y] ∨ l = [x, y] := by
  simp only [List.sublist_cons_iff, List.sublist_nil, exists_eq_right]
  constructor
  · rintro ((h | h) | ⟨r, h, rfl | rfl⟩)
    · exact .inl h
    · exact .inr (.inr (.inl h))
    · exact .inr (.inl h)
    · exact .inr (.inr (.inr h))
  · rintro (h | h | h | h)
    · exact .inl (.inl h)
    · exact .inr ⟨[], h, .inl rfl⟩
    · exact .inl (.inr h)
    · exact .inr ⟨[y], h, .inr rfl⟩

/-- **The shorthand stays in front** when declarations are merged in. -/
theorem writtenOrder_digest_sublist (h : (writtenOrder property s).Sublist [shorthandOf property, property])
    (d : Declaration) :
    (writtenOrder property (s.digest d)).Sublist [shorthandOf property, property] := by
  rcases writtenOrder_digest_cases property s d with hsame | ⟨hd, hnew, hcases⟩
  · rw [hsame]
    exact h
  · have hmem := mem_writtenOrder_iff s (Declaration.sets_iff.1 hd)
    have hmemb : shorthandOf property ∈ writtenOrder property s ↔ s.get? (shorthandOf property) ≠ none :=
      mem_writtenOrder_iff s (.inr rfl)
    have hno : d.property ∉ writtenOrder property s := fun hin => hmem.1 hin hnew
    rcases Declaration.sets_iff.1 hd with hd | hd
    · rw [hd] at hno hcases
      rcases hcases with ⟨hbase, hnext⟩ | ⟨hbase, hnext⟩
      · -- Neither of the two is there.
        have hnob : shorthandOf property ∉ writtenOrder property s := fun hin => hmemb.1 hin hbase
        rw [hnext]
        rcases sublist_pair_iff.1 h with he | he | he | he <;> rw [he] at hno hnob ⊢
        · exact List.sublist_cons_self ..
        · exact absurd List.mem_cons_self hnob
        · exact absurd List.mem_cons_self hno
        · exact absurd List.mem_cons_self hnob
      · rw [hnext]
        rcases sublist_pair_iff.1 h with he | he | he | he <;> rw [he] at hno ⊢
        · exact List.sublist_cons_self ..
        · exact List.Sublist.refl _
        · exact absurd List.mem_cons_self hno
        · exact absurd (List.mem_cons_of_mem _ List.mem_cons_self) hno
    · rw [hd] at hno hnew hcases
      rcases hcases with ⟨-, hnext⟩ | ⟨hbase, -⟩
      · rw [hnext]
        rcases sublist_pair_iff.1 h with he | he | he | he <;> rw [he] at hno
        · rw [he]
          exact List.Sublist.cons_cons _ (List.nil_sublist _)
        · exact absurd List.mem_cons_self hno
        · rw [he]
        · exact absurd List.mem_cons_self hno
      · rw [shorthandOf_shorthandOf] at hbase
        exact absurd hnew hbase

/-- What a style declares of the two, in the order of writing. -/
theorem filter_sets_eq (h : (writtenOrder property s).Sublist [x, y]) (hxy : x ≠ y)
    (hx : x = property ∨ x = shorthandOf property) (hy : y = property ∨ y = shorthandOf property) :
    s.declarations.filter (·.Sets property) = (s.get? x).toList ++ (s.get? y).toList := by
  have hget {q : String} (hq : q = property ∨ q = shorthandOf property) :
      s.get? q = (s.declarations.filter (·.Sets property)).find? (·.property == q) := by
    rw [List.find?_filter, Style.get?]
    congr 1
    funext d
    rw [Bool.eq_iff_iff, decide_eq_true_eq, Declaration.sets_iff, iff_and_self]
    exact fun h => eq_of_beq h ▸ hq
  rw [hget hx, hget hy]
  unfold writtenOrder at h
  generalize s.declarations.filter (·.Sets property) = l at h
  -- None of the two, one of them, or both in this order.
  rcases sublist_pair_iff.1 h with h | h | h | h
  · rw [List.map_eq_nil_iff.1 h]
    rfl
  · obtain ⟨d, rfl, rfl⟩ := List.map_eq_singleton_iff.1 h
    simp [hxy]
  · obtain ⟨d, rfl, rfl⟩ := List.map_eq_singleton_iff.1 h
    simp [hxy.symm]
  · obtain ⟨d, rest, rfl, rfl, hrest⟩ := List.map_eq_cons_iff.1 h
    obtain ⟨e, rfl, rfl⟩ := List.map_eq_singleton_iff.1 hrest
    simp [hxy]

/-- **What counts is what is written behind**: it is the first candidate for a mail program. -/
theorem effective?_eq (h : (writtenOrder property s).Sublist [x, y]) (hxy : x ≠ y)
    (hx : x = property ∨ x = shorthandOf property) (hy : y = property ∨ y = shorthandOf property) :
    effective? property s.declarations = winner? ((s.get? y).toList ++ (s.get? x).toList) := by
  have hreverse (o : Option Declaration) : o.toList.reverse = o.toList := by cases o <;> rfl
  rw [effective?, filter_sets_eq h hxy hx hy, List.reverse_append, hreverse, hreverse]

/-! ### The order of a style that is read -/

theorem writtenOrder_nodup (hs : s.IsRead) : (writtenOrder property s).Nodup := by
  rw [writtenOrder_eq]
  exact hs.distinct.filter _

/-- A declaration is the first one written only if there was none before. -/
theorem head?_writtenOrder_addLater (s : Style) (d : Declaration) : (writtenOrder property (s.addLater d)).head? =
    (writtenOrder property s).head?.or (if d.Sets property then some d.property else none) := by
  unfold Style.addLater
  split
  · rw [writtenOrder_concat, List.head?_append]
    split <;> rfl
  · next earlier h =>
    -- Something was written for the property already, so the new declaration cannot come first.
    have hsame (o : Option String) (ho : d.Sets property = false → o = none) :
        (writtenOrder property s).head? = (writtenOrder property s).head?.or o := by
      cases hd : d.Sets property with
      | false => rw [ho hd, Option.or_none]
      | true =>
        have hmem := (mem_writtenOrder_iff s (Declaration.sets_iff.1 hd)).2 (by rw [h]; nofun)
        obtain ⟨q, rest, hq⟩ := List.exists_cons_of_ne_nil (List.ne_nil_of_mem hmem)
        rw [hq]
        rfl
    split
    · rw [writtenOrder_replaceFirst]
      exact hsame _ fun hd => if_neg (by rw [hd]; exact Bool.false_ne_true)
    · exact hsame _ fun hd => if_neg (by rw [hd]; exact Bool.false_ne_true)

/-- A property keeps the place where it first stands. -/
theorem head?_writtenOrder_foldl_addLater (l : List Declaration) : ∀ s : Style,
    (writtenOrder property (l.foldl Style.addLater s)).head? =
      (writtenOrder property s).head?.or ((l.find? (·.Sets property)).map (·.property)) := by
  induction l with
  | nil => exact fun s => Option.or_none.symm
  | cons d rest ih =>
    intro s
    rw [List.foldl_cons, ih, head?_writtenOrder_addLater, List.find?_cons, Option.or_assoc]
    cases d.Sets property <;> rfl

theorem head?_writtenOrder_parse (text : String) : (writtenOrder property (Style.parse text)).head? =
    ((Style.declarationsOf text).find? (·.Sets property)).map (·.property) :=
  head?_writtenOrder_foldl_addLater _ Style.empty

/-- Two things in a list without repetition, one of them in front. -/
theorem sublist_pair_of_nodup {l : List String} (hxy : x ≠ y) (hn : l.Nodup)
    (hl : ∀ q ∈ l, q = x ∨ q = y) (hhead : l.head? = some y → x ∉ l) : l.Sublist [x, y] := by
  match l with
  | [] => exact List.nil_sublist _
  | [q] => rcases hl q List.mem_cons_self with rfl | rfl <;> simp
  | q :: r :: rest =>
    have hq := hl q List.mem_cons_self
    have hr := hl r (List.mem_cons_of_mem _ List.mem_cons_self)
    have hqr : q ≠ r := fun he => (List.nodup_cons.1 hn).1 (he ▸ List.mem_cons_self)
    have hqx : q = x := by
      refine hq.resolve_right fun hy => hhead (congrArg some hy) ?_
      rw [← hr.resolve_right fun hry => hqr (hy.trans hry.symm)]
      exact List.mem_cons_of_mem _ List.mem_cons_self
    have hry : r = y := hr.resolve_left fun hrx => hqr (hqx.trans hrx.symm)
    match rest with
    | [] => rw [hqx, hry]
    | t :: rest =>
      -- A third one would be one of the two again.
      rw [List.nodup_cons, List.nodup_cons] at hn
      rcases hl t (List.mem_cons_of_mem _ (List.mem_cons_of_mem _ List.mem_cons_self)) with ht | ht
      · exact absurd (hqx.trans ht.symm ▸ List.mem_cons_of_mem _ List.mem_cons_self) hn.1
      · exact absurd (hry.trans ht.symm ▸ List.mem_cons_self) hn.2.1

theorem mem_of_mem_writtenOrder (hx : x ∈ writtenOrder property s) :
    x = property ∨ x = shorthandOf property := by
  obtain ⟨d, hd, rfl⟩ := List.mem_map.1 hx
  exact Declaration.sets_iff.1 (List.mem_filter.1 hd).2

/-- What is read from a style that does not declare both. -/
theorem writtenOrder_parse_sublist (hp : property ≠ shorthandOf property)
    (h : ¬ ((∃ d ∈ Style.declarationsOf text, d.property = property) ∧
      ∃ d ∈ Style.declarationsOf text, d.property = shorthandOf property)) :
    (writtenOrder property (Style.parse text)).Sublist [shorthandOf property, property] := by
  refine sublist_pair_of_nodup hp.symm (writtenOrder_nodup (Style.isRead_parse text))
    (fun q hq => (mem_of_mem_writtenOrder hq).symm) fun hhead hb => h ⟨?_, ?_⟩
  · have hmem : property ∈ writtenOrder property (Style.parse text) := List.mem_of_mem_head? hhead
    exact Style.get?_parse_ne_none_iff.1 ((mem_writtenOrder_iff _ (.inl rfl)).1 hmem)
  · exact Style.get?_parse_ne_none_iff.1 ((mem_writtenOrder_iff _ (.inr rfl)).1 hb)

/-- What is read from a style that declares both: the one that stands first is in front. -/
theorem writtenOrder_parse_eq (hxy : x ≠ y)
    (hpair : (property = x ∧ shorthandOf property = y) ∨ (property = y ∧ shorthandOf property = x))
    (hx : ∃ d ∈ Style.declarationsOf text, d.property = x)
    (hy : ∃ d ∈ Style.declarationsOf text, d.property = y)
    (hfirst : ((Style.declarationsOf text).find? (·.Sets property)).map (·.property) ≠ some y) :
    writtenOrder property (Style.parse text) = [x, y] := by
  have hor (q : String) : (q = property ∨ q = shorthandOf property) ↔ (q = x ∨ q = y) := by
    rcases hpair with ⟨rfl, h⟩ | ⟨rfl, h⟩ <;> rw [h]
    exact or_comm
  have hmem {q : String} (hq : q = x ∨ q = y) (hd : ∃ d ∈ Style.declarationsOf text, d.property = q) :
      q ∈ writtenOrder property (Style.parse text) :=
    (mem_writtenOrder_iff _ ((hor q).2 hq)).2 (Style.get?_parse_ne_none_iff.2 hd)
  have hsub : (writtenOrder property (Style.parse text)).Sublist [x, y] := by
    refine sublist_pair_of_nodup hxy (writtenOrder_nodup (Style.isRead_parse text))
      (fun q hq => (hor q).1 (mem_of_mem_writtenOrder hq)) fun hhead => ?_
    rw [head?_writtenOrder_parse] at hhead
    exact absurd hhead hfirst
  have hxm := hmem (.inl rfl) hx
  have hym := hmem (.inr rfl) hy
  -- Both are written, so the order is not a part of the pair.
  rcases sublist_pair_iff.1 hsub with he | he | he | he
  · rw [he] at hxm
    cases hxm
  · rw [he, List.mem_singleton] at hym
    exact absurd hym.symm hxy
  · rw [he, List.mem_singleton] at hxm
    exact absurd hxm hxy
  · exact he

end Order

end HtmlMail.Css
