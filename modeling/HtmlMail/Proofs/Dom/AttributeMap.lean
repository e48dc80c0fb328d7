import HtmlMail.Proofs.Dom.AttributeNames
import Mathlib.Data.List.Induction

/-!
# Attributes as a map

Setting, reading and removing an attribute all look for the first entry of a name and leave it at that. If there is one
entry of a name at most, the first one is the only one, and what these operations do can be said of all entries at
once. This holds of attributes that are made from a list of entries, and setting and removing keep it.

* `getThenInsert_eq`, `findThenErase_eq` : setting and removing, and what they give back;
* `replaceValue_eq_map`, `eraseP_eq_filter`, `filter_isNamed` : the first entry of a name is the only one;
* `IsOrderedMap` : the laws of a map that keeps the order of its names;
* `get?_ofList`, `names_ofList` : what is made from a list of entries;
* `isOrderedMap_afterChanges` : the laws, whatever has been set and removed before.
-/

namespace HtmlMail.Dom

namespace Attributes

variable {as : Attributes} {a : Attribute} {l : List Attribute} {m n value : String}

/-! ### What setting and removing give back -/

/-- The value of the first entry of a name is exchanged where that entry is found. -/
theorem replaceValue_eq_modify {i : ℕ} (h : l.findIdx? (·.isNamed m) = some i) (value : String) :
    replaceValue m value l = l.modify i fun a => ⟨a.name, value⟩ := by
  induction l generalizing i with
  | nil => cases h
  | cons a rest ih =>
    rw [List.findIdx?_cons] at h
    rw [replaceValue]
    split at h
    · next ha =>
      cases h
      rw [if_pos ha, List.modify_zero_cons]
    · next ha =>
      obtain ⟨j, hj, rfl⟩ := Option.map_eq_some_iff.1 h
      rw [if_neg ha, List.modify_succ_cons, ih hj]

/-- **Setting** gives back the value that was there. -/
theorem getThenInsert_eq (as : Attributes) (m value : String) :
    as.getThenInsert m value = (as.get? m, as.insert m value) := by
  have hcontains : (as.entries.findIdx? (·.isNamed m)).isSome = as.contains m := List.findIdx?_isSome
  -- All of them go by where the entry is found.
  rw [getThenInsert, insert, ← hcontains, get?, find?, List.find?_eq_bind_findIdx?_getElem?]
  cases hi : as.entries.findIdx? (·.isNamed m) with
  | none => rfl
  | some i =>
    rw [replaceValue_eq_modify hi]
    rfl

/-- **Removing** gives back the entry that was there. -/
theorem findThenErase_eq (as : Attributes) (m : String) : as.findThenErase m = (as.find? m, as.erase m) := by
  rw [findThenErase, erase, find?, List.find?_eq_bind_findIdx?_getElem?, List.eraseP_eq_eraseIdx]
  cases as.entries.findIdx? (·.isNamed m) <;> rfl

/-! ### The only entry of a name -/

/-- No two entries go by the same name. -/
def Distinct (l : List Attribute) : Prop := l.Pairwise fun a b => ¬ Text.eqIgnoringCase a.name b.name

theorem nodup_lowerNames_iff : as.lowerNames.Nodup ↔ Distinct as.entries := by
  rw [lowerNames, List.Nodup, List.pairwise_map, List.pairwise_map]
  exact List.Pairwise.iff fun {a b} => not_congr (isNamed_iff (a := a)).symm

namespace Distinct

/-- Behind the entry of a name there is no other one. -/
theorem isNamed_eq_false (h : Distinct (a :: l)) (ha : a.isNamed m) : ∀ b ∈ l, b.isNamed m = false := by
  intro b hb
  refine Bool.eq_false_iff.2 fun hbm => (List.pairwise_cons.1 h).1 b hb ?_
  exact isNamed_iff.2 ((isNamed_iff.1 ha).trans (isNamed_iff.1 hbm).symm)

/-- Exchanging the value of the first entry of a name exchanges it wherever the name stands. -/
theorem replaceValue_eq_map (h : Distinct l) (m value : String) :
    replaceValue m value l = l.map fun a => if a.isNamed m then ⟨a.name, value⟩ else a := by
  induction l with
  | nil => rfl
  | cons a rest ih =>
    rw [replaceValue, List.map_cons]
    split
    · next ha =>
      -- The first entry of the name is the only one.
      have hrest : (rest.map fun a => if a.isNamed m then ⟨a.name, value⟩ else a) = rest.map id :=
        List.map_congr_left fun b hb => by rw [h.isNamed_eq_false ha b hb]; rfl
      rw [hrest, List.map_id]
    · rw [ih (List.pairwise_cons.1 h).2]

/-- Taking the first entry of a name out leaves those of other names. -/
theorem eraseP_eq_filter (h : Distinct l) (m : String) :
    l.eraseP (·.isNamed m) = l.filter fun a => !a.isNamed m := by
  induction l with
  | nil => rfl
  | cons a rest ih =>
    rw [List.eraseP_cons, List.filter_cons]
    by_cases ha : a.isNamed m
    · -- The first entry of the name is the only one, so the rest stays.
      have hrest : (rest.filter fun a => !a.isNamed m) = rest :=
        List.filter_eq_self.2 fun b hb => by rw [h.isNamed_eq_false ha b hb]; rfl
      rw [ha, hrest]
      rfl
    · rw [Bool.eq_false_iff.2 ha, ih (List.pairwise_cons.1 h).2]
      rfl

/-- The first entry of a name is all that goes by it. -/
theorem filter_isNamed (h : Distinct l) (m : String) :
    l.filter (·.isNamed m) = (l.find? (·.isNamed m)).toList := by
  induction l with
  | nil => rfl
  | cons a rest ih =>
    rw [List.filter_cons, List.find?_cons]
    by_cases ha : a.isNamed m
    · have hrest : rest.filter (·.isNamed m) = [] :=
        List.filter_eq_nil_iff.2 fun b hb => by rw [h.isNamed_eq_false ha b hb]; exact Bool.false_ne_true
      rw [ha, hrest]
      rfl
    · rw [Bool.eq_false_iff.2 ha]
      exact ih (List.pairwise_cons.1 h).2

/-- An entry is found by its name. -/
theorem get?_of_mem (h : Distinct as.entries) (ha : a ∈ as.entries) : as.get? a.name = some a.value := by
  have hmem : a ∈ as.entries.filter (·.isNamed a.name) := List.mem_filter.2 ⟨ha, isNamed_iff.2 rfl⟩
  rw [h.filter_isNamed, Option.mem_toList] at hmem
  rw [get?, find?, hmem, Option.map_some]

end Distinct

/-! ### The laws of a map -/

/-- **A map that keeps the order of its names.** -/
structure IsOrderedMap (as : Attributes) : Prop where
  /-- No two names are equal up to ASCII case. -/
  distinct : as.entries.Pairwise fun a b => ¬ Text.eqIgnoringCase a.name b.name
  /-- A set name is found in any case, and the others are found as before. -/
  get?_set (m value n : String) :
    (as.getThenInsert m value).2.get? n = if Text.eqIgnoringCase m n then some value else as.get? n
  /-- Setting gives back the value from before. -/
  previous (m value : String) : (as.getThenInsert m value).1 = as.get? m
  /-- A set name keeps its place and its spelling, and a new one goes to the end. -/
  entries_set (m value : String) : (as.getThenInsert m value).2.entries =
    if as.contains m then as.entries.map fun a => if a.isNamed m then ⟨a.name, value⟩ else a
    else as.entries ++ [⟨m, value⟩]
  /-- Removing gives back the entry of the name, which is the only one. -/
  removed (m : String) : (as.findThenErase m).1.toList = as.entries.filter (·.isNamed m)
  /-- A removed name is not there. -/
  contains_remove (m : String) : (as.findThenErase m).2.contains m = false
  /-- The entries of other names are left, in their order and with their values. -/
  entries_remove (m : String) : (as.findThenErase m).2.entries = as.entries.filter fun a => !a.isNamed m

/-- **Different names are all it takes.** -/
theorem Distinct.isOrderedMap (h : Distinct as.entries) : as.IsOrderedMap where
  distinct := h
  get?_set m value n := by rw [getThenInsert_eq, get?_insert]
  previous m value := by rw [getThenInsert_eq]
  entries_set m value := by
    rw [getThenInsert_eq, insert, h.replaceValue_eq_map]
    split <;> rfl
  removed m := by rw [findThenErase_eq, h.filter_isNamed, find?]
  contains_remove m := by
    rw [findThenErase_eq, erase, contains, h.eraseP_eq_filter, List.any_filter, List.any_eq_false]
    intro a _
    rw [Bool.not_and_self]
    exact Bool.false_ne_true
  entries_remove m := by rw [findThenErase_eq, erase, h.eraseP_eq_filter]

/-! ### Changes -/

/-- A change of attributes. -/
inductive Change where
  | set (name value : String)
  | remove (name : String)

/-- The attributes after a change. -/
def Change.apply (as : Attributes) : Change → Attributes
  | set name value => (as.getThenInsert name value).2
  | remove name => (as.findThenErase name).2

/-- **The attributes after changes** that begin with those of a list of entries. -/
def afterChanges (entries : List Attribute) (changes : List Change) : Attributes :=
  changes.foldl Change.apply (ofList entries)

theorem nodup_lowerNames_erase (h : as.lowerNames.Nodup) (m : String) : (as.erase m).lowerNames.Nodup :=
  h.sublist ((List.eraseP_sublist.map _).map _)

/-- One change keeps the names apart. -/
theorem Change.nodup_lowerNames_apply (h : as.lowerNames.Nodup) (change : Change) :
    (change.apply as).lowerNames.Nodup := by
  cases change with
  | set name value =>
    rw [apply, getThenInsert_eq]
    exact nodup_lowerNames_insert h name value
  | remove name =>
    rw [apply, findThenErase_eq]
    exact nodup_lowerNames_erase h name

/-- Any changes keep them apart. -/
theorem nodup_lowerNames_afterChanges (entries : List Attribute) (changes : List Change) :
    (afterChanges entries changes).lowerNames.Nodup := by
  -- From the end, since it is the last change that could bring a name in twice.
  induction changes using List.reverseRecOn with
  | nil => exact nodup_lowerNames_ofList entries
  | append_singleton changes change ih =>
    rw [afterChanges, List.foldl_append]
    exact change.nodup_lowerNames_apply ih

/-! ### Entries of a list -/

theorem ofList_concat (entries : List Attribute) (a : Attribute) :
    ofList (entries ++ [a]) = (ofList entries).insert a.name a.value := by
  rw [ofList, ofList, List.foldl_append, List.foldl_cons, List.foldl_nil]

/-- **The last value of a name counts.** -/
theorem get?_ofList (entries : List Attribute) (n : String) :
    (ofList entries).get? n = (entries.reverse.find? (·.isNamed n)).map (·.value) := by
  -- From the end, which is where the last value is.
  induction entries using List.reverseRecOn with
  | nil => rfl
  | append_singleton entries a ih =>
    have hname : Text.eqIgnoringCase a.name n = a.isNamed n := rfl
    rw [ofList_concat, get?_insert, ih, hname, List.reverse_concat', List.find?_cons]
    cases a.isNamed n <;> rfl

theorem contains_ofList (entries : List Attribute) (n : String) :
    (ofList entries).contains n = entries.any (·.isNamed n) := by
  rw [contains_eq_isSome, get?_ofList, Option.isSome_map, Bool.eq_iff_iff, List.find?_isSome, List.any_eq_true]
  simp only [List.mem_reverse]

/-- The last entry of a list is kept by `eraseDupsBy` if it is unlike all entries before it. -/
theorem eraseDupsBy_concat {α : Type} {r : α → α → Bool} (htrans : ∀ x y z, r x y → r y z → r x z) (x : α)
    (l : List α) : (l ++ [x]).eraseDupsBy r = l.eraseDupsBy r ++ if l.any (r x) then [] else [x] := by
  match l with
  | [] => simp [List.eraseDupsBy_cons]
  | y :: l =>
    rw [List.cons_append, List.eraseDupsBy_cons, List.eraseDupsBy_cons, List.filter_append, List.any_cons]
    by_cases hxy : r x y
    · simp [hxy]
    · -- What is like `x` is not like `y`.
      have hany : (l.filter fun b => r b y = false).any (r x) = l.any (r x) := by
        rw [List.any_filter, Bool.eq_iff_iff, List.any_eq_true, List.any_eq_true]
        refine exists_congr fun b => and_congr_right fun _ => ?_
        rw [Bool.and_eq_true, decide_eq_true_iff, and_iff_right_iff_imp]
        exact fun hxb => Bool.eq_false_iff.2 fun hby => hxy (htrans x b y hxb hby)
      have hfilter : [x].filter (fun b => decide (r b y = false)) = [x] := by simp [hxy]
      rw [hfilter, eraseDupsBy_concat htrans x, hany, Bool.eq_false_iff.2 hxy, Bool.false_or, List.cons_append]
termination_by l.length
decreasing_by
  have := List.length_filter_le (fun b => decide (r b y = false)) l
  simp only [List.length_cons]
  omega

/-- **The names stand as they were first written**, in this order and in this spelling. -/
theorem names_ofList (entries : List Attribute) :
    (ofList entries).entries.map (·.name) = (entries.map (·.name)).eraseDupsBy Text.eqIgnoringCase := by
  have htrans (x y z : String) (hxy : Text.eqIgnoringCase x y) (hyz : Text.eqIgnoringCase y z) :
      Text.eqIgnoringCase x z := by
    rw [Text.eqIgnoringCase, Chars.eqIgnoringCase, beq_iff_eq] at hxy hyz ⊢
    exact hxy.trans hyz
  have hsymm (x y : String) : Text.eqIgnoringCase x y = Text.eqIgnoringCase y x := Bool.beq_comm
  -- From the end, where one more entry is new or a duplicate.
  induction entries using List.reverseRecOn with
  | nil => rfl
  | append_singleton entries a ih =>
    have hany : (entries.map (·.name)).any (Text.eqIgnoringCase a.name) = entries.any (·.isNamed a.name) := by
      rw [List.any_map]
      congr 1
      funext b
      exact hsymm a.name b.name
    rw [ofList_concat, names_insert, contains_ofList, ih, List.map_append, List.map_singleton,
      eraseDupsBy_concat htrans, hany]

/-- **Attributes are a map in the order of insertion.** This holds of the attributes of any list of entries, after any
changes. And the list itself gives each name the place and the spelling of its first entry and the value of its last
one. -/
theorem isOrderedMap_afterChanges (entries : List Attribute) (changes : List Change) :
    (afterChanges entries changes).IsOrderedMap ∧
    (ofList entries).entries.map (·.name) = (entries.map (·.name)).eraseDupsBy Text.eqIgnoringCase ∧
    ∀ a ∈ (ofList entries).entries, (entries.reverse.find? (·.isNamed a.name)).map (·.value) = some a.value := by
  refine ⟨(nodup_lowerNames_iff.1 (nodup_lowerNames_afterChanges entries changes)).isOrderedMap,
    names_ofList entries, fun a ha => ?_⟩
  rw [← get?_ofList]
  exact (nodup_lowerNames_iff.1 (nodup_lowerNames_ofList entries)).get?_of_mem ha

end Attributes

end HtmlMail.Dom
