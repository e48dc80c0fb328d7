import HtmlMail.Proofs.Css.Importance

/-!
# What old mail programs are told

The style of table markup is written into attributes as well, declaration by declaration from the last to the first,
and an attribute that is written gives way to what comes later only if that is important. What comes out of it can be
said without the order of writing.

* `LegacyAttribute.value?` : the value of one attribute. The first important declaration for it counts; without one
  the attribute that is there; and if there is none, the last declaration;
* `get?_addLegacyAll_name` : that is what the loop writes, by induction on the declarations;
* `Attributes.Backfilled` : what becomes of the attributes of an element, and that nothing else does;
* `backfill_spec` : the same for every element of a document, and the frame around them.
-/

namespace HtmlMail.Css

open Chars Dom

/-! ### The attributes that are written -/

/-- An attribute for old mail programs: the properties that it stands for, and the tags on which it does. -/
structure LegacyAttribute where
  name : String
  properties : List String
  tags : List String
  deriving DecidableEq, Repr

/-- The attributes for old mail programs. -/
def legacyAttributes : List LegacyAttribute :=
  [⟨"align", ["text-align"], ["table", "tr", "td", "p"]⟩,
    ⟨"bgcolor", ["background", "background-color"], ["table", "tr", "td", "p"]⟩,
    ⟨"valign", ["vertical-align"], ["td", "p"]⟩]

/-- **The value of an attribute** on an element with these declarations, if it had the value `present` before. -/
def LegacyAttribute.value? (a : LegacyAttribute) (declarations : List Declaration) (present : Option String) :
    Option String :=
  let meant := declarations.filter (a.properties.contains ·.property)
  match meant.find? (·.important) with
  | some d => some d.value
  | none => present.or (meant.getLast?.map (·.value))

section Elements

variable {a b : LegacyAttribute} {as : Attributes} {tag property name : String} {d : Declaration}

/-- An attribute for old mail programs is known from its name, in any case. -/
theorem eq_of_eqIgnoringCase_name (ha : a ∈ legacyAttributes) (hb : b ∈ legacyAttributes)
    (hname : Text.eqIgnoringCase a.name b.name) : a = b := by
  have hall : ∀ a ∈ legacyAttributes, ∀ b ∈ legacyAttributes, Text.eqIgnoringCase a.name b.name → a = b := by decide
  exact hall a ha b hb hname

/-- **What the loop finds is in the table**, for one of the properties and one of the tags. -/
theorem exists_of_legacyAttribute? (h : legacyAttribute? tag property = some name) :
    ∃ a ∈ legacyAttributes, a.name = name ∧ property ∈ a.properties ∧ (tag ∈ backfilledTags → tag ∈ a.tags) := by
  unfold legacyAttribute? at h
  split at h
  · split at h
    · cases h
    · next hcell =>
      cases h
      have htags : ∀ tag ∈ backfilledTags, ¬ (tag = "table" ∨ tag = "tr") → tag ∈ ["td", "p"] := by decide
      exact ⟨⟨"valign", ["vertical-align"], ["td", "p"]⟩, by decide, rfl, by decide, fun ht => htags tag ht hcell⟩
  · cases h
    exact ⟨⟨"align", ["text-align"], backfilledTags⟩, by decide, rfl, by decide, id⟩
  · cases h
    exact ⟨⟨"bgcolor", ["background", "background-color"], backfilledTags⟩, by decide, rfl, by decide, id⟩
  · cases h
    exact ⟨⟨"bgcolor", ["background", "background-color"], backfilledTags⟩, by decide, rfl, by decide, id⟩
  · cases h

/-- **The table is the one that the loop looks into**: on its tags, an attribute is written for its properties. -/
theorem legacyAttribute?_eq_some_iff (ha : a ∈ legacyAttributes) (ht : tag ∈ a.tags) :
    legacyAttribute? tag property = some a.name ↔ property ∈ a.properties := by
  constructor
  · intro h
    obtain ⟨b, hb, hname, hproperty, -⟩ := exists_of_legacyAttribute? h
    rwa [← eq_of_eqIgnoringCase_name hb ha (by rw [hname]; exact beq_self_eq_true _)]
  · intro hproperty
    have hall : ∀ a ∈ legacyAttributes, ∀ tag ∈ a.tags, ∀ property ∈ a.properties,
        legacyAttribute? tag property = some a.name := by decide
    exact hall a ha tag ht property hproperty

/-- **One declaration** changes the attribute that it is meant for: if it is important, or if there is none yet. -/
theorem get?_addLegacy_name (ha : a ∈ legacyAttributes) (ht : tag ∈ a.tags) (as : Attributes) (d : Declaration) :
    (addLegacy tag as d).get? a.name =
      if d.property ∈ a.properties then
        if d.important then some d.value else (as.get? a.name).or (some d.value)
      else as.get? a.name := by
  have hname : legacyAttribute? tag d.property = some a.name ↔ d.property ∈ a.properties :=
    legacyAttribute?_eq_some_iff ha ht
  unfold addLegacy
  cases h : legacyAttribute? tag d.property with
  | none =>
    rw [if_neg fun hp => Option.some_ne_none _ ((hname.2 hp).symm.trans h)]
  | some name =>
    dsimp only
    by_cases hp : d.property ∈ a.properties
    · obtain rfl : name = a.name := Option.some.inj (h.symm.trans (hname.2 hp))
      have hself : Text.eqIgnoringCase a.name a.name := beq_self_eq_true _
      rw [if_pos hp, Attributes.contains_eq_isSome, apply_ite (Attributes.get? · a.name), Attributes.get?_insert,
        if_pos hself]
      cases as.get? a.name with
      | none => simp
      | some present => cases d.important <;> rfl
    · -- The declaration is meant for another attribute.
      have hother : ¬ Text.eqIgnoringCase name a.name := by
        intro he
        obtain ⟨b, hb, rfl, hproperty, -⟩ := exists_of_legacyAttribute? h
        rw [eq_of_eqIgnoringCase_name hb ha he] at hproperty
        exact hp hproperty
      rw [if_neg hp]
      split
      · rw [Attributes.get?_insert, if_neg hother]
      · rfl

/-- In front of the others, a declaration counts if it is important, or if no other one counts. -/
theorem LegacyAttribute.value?_cons (a : LegacyAttribute) (d : Declaration) (rest : List Declaration)
    (present : Option String) :
    a.value? (d :: rest) present =
      if d.property ∈ a.properties then
        if d.important then some d.value else (a.value? rest present).or (some d.value)
      else a.value? rest present := by
  unfold value?
  by_cases hp : d.property ∈ a.properties
  · rw [if_pos hp, List.filter_cons_of_pos (by simpa using hp)]
    dsimp only
    cases hi : d.important with
    | true =>
      rw [List.find?_cons_of_pos hi]
      rfl
    | false =>
      rw [List.find?_cons_of_neg (by rw [hi]; exact Bool.false_ne_true), if_neg Bool.false_ne_true]
      cases (rest.filter (a.properties.contains ·.property)).find? (·.important) with
      | some e => rfl
      | none =>
        -- Without an important declaration, the last one is still the last one behind `d`.
        dsimp only
        rw [List.getLast?_cons, Option.or_assoc]
        cases (rest.filter (a.properties.contains ·.property)).getLast? with
        | none => rfl
        | some e => rfl
  · rw [if_neg hp, List.filter_cons_of_neg (by simpa using hp)]

/-- **The loop writes the value** of an attribute: the declarations come in from the last to the first, and each one
changes what the ones behind it have left. -/
theorem get?_addLegacyAll_name {style : String} (ha : a ∈ legacyAttributes) (ht : tag ∈ a.tags)
    (hstyle : as.get? "style" = some style) :
    (addLegacyAll tag as).get? a.name = a.value? (Style.parse style).declarations (as.get? a.name) := by
  -- The declarations are taken from the last one on, so the first of them decides.
  have hloop (l : List Declaration) :
      (l.reverse.foldl (addLegacy tag) as).get? a.name = a.value? l (as.get? a.name) := by
    induction l with
    | nil =>
      unfold LegacyAttribute.value?
      simp
    | cons d rest ih =>
      rw [List.reverse_cons, List.foldl_append, List.foldl_cons, List.foldl_nil, get?_addLegacy_name ha ht, ih,
        LegacyAttribute.value?_cons]
  rw [addLegacyAll, hstyle]
  exact hloop (Style.parse style).declarations

/-! ### All attributes of an element -/

/-- The names of the attributes that are written on an element: none without a style, and else its style and what old
mail programs understand on its tag. -/
def writtenNames (tag : String) (as : Attributes) : List String :=
  if (as.get? "style").isSome then "style" :: (legacyAttributes.filter (·.tags.contains tag)).map (·.name) else []

/-- **What becomes of the attributes of an element.** -/
structure Backfilled (tag : String) (old new : Attributes) : Prop where
  /-- The attributes for old mail programs have their values. -/
  legacy (style : String) : old.get? "style" = some style → ∀ a ∈ legacyAttributes, tag ∈ a.tags →
    new.get? a.name = a.value? (Style.parse style).declarations (old.get? a.name)
  /-- The style loses its marks of importance. -/
  style : new.get? "style" = (old.get? "style").map withoutMarks
  /-- The others are what they were, in the same order. -/
  others : new.withoutAll (writtenNames tag old) = old.withoutAll (writtenNames tag old)
  /-- Attributes that are there keep their places and the spelling of their names. -/
  names : old.entries.map (·.name) <+: new.entries.map (·.name)

/-- What is written on an element belongs to its tag. -/
theorem mem_of_legacyAttribute? (htag : tag ∈ backfilledTags) (h : legacyAttribute? tag property = some name) :
    name ∈ (legacyAttributes.filter (·.tags.contains tag)).map (·.name) := by
  obtain ⟨a, ha, rfl, -, ht⟩ := exists_of_legacyAttribute? h
  refine List.mem_map_of_mem (List.mem_filter.2 ⟨ha, ?_⟩)
  exact List.contains_iff_mem.2 (ht htag)

/-- One declaration leaves alone what is not written on the tag. -/
theorem addLegacy_keeps {names : List String} (hnames : ∀ n, legacyAttribute? tag d.property = some n → n ∈ names)
    (as : Attributes) :
    (addLegacy tag as d).withoutAll names = as.withoutAll names ∧
      as.entries.map (·.name) <+: (addLegacy tag as d).entries.map (·.name) := by
  unfold addLegacy
  split
  · exact ⟨rfl, List.prefix_rfl⟩
  · next name h =>
    split
    · exact ⟨as.withoutAll_insert d.value (hnames name h), as.map_name_insert name d.value⟩
    · exact ⟨rfl, List.prefix_rfl⟩

/-- What every single declaration leaves alone, the loop leaves alone. -/
theorem addLegacyAll_keeps (htag : tag ∈ backfilledTags) (as : Attributes) :
    (addLegacyAll tag as).withoutAll (writtenNames tag as) = as.withoutAll (writtenNames tag as) ∧
      as.entries.map (·.name) <+: (addLegacyAll tag as).entries.map (·.name) := by
  cases hstyle : as.get? "style" with
  | none =>
    rw [addLegacyAll, hstyle]
    exact ⟨rfl, List.prefix_rfl⟩
  | some style =>
    have hnames (property name : String) (h : legacyAttribute? tag property = some name) :
        name ∈ writtenNames tag as := by
      rw [writtenNames, hstyle]
      exact List.mem_cons_of_mem _ (mem_of_legacyAttribute? htag h)
    -- Each declaration keeps the names and all values but those of its own name, so all of them together do.
    have hloop (l : List Declaration) : ∀ bs : Attributes,
        (l.foldl (addLegacy tag) bs).withoutAll (writtenNames tag as) = bs.withoutAll (writtenNames tag as) ∧
          bs.entries.map (·.name) <+: (l.foldl (addLegacy tag) bs).entries.map (·.name) := by
      induction l with
      | nil => exact fun bs => ⟨rfl, List.prefix_rfl⟩
      | cons d rest ih =>
        intro bs
        have hstep := addLegacy_keeps (hnames d.property) bs
        have hrest := ih (addLegacy tag bs d)
        exact ⟨hrest.1.trans hstep.1, hstep.2.trans hrest.2⟩
    rw [addLegacyAll, hstyle]
    exact hloop _ as

/-- To drop marks of importance changes nothing but the style, if there is one. -/
theorem withoutImportant_keeps {names : List String} (as : Attributes)
    (hnames : (as.get? "style").isSome → "style" ∈ names) :
    (withoutImportant as).withoutAll names = as.withoutAll names ∧
      as.entries.map (·.name) <+: (withoutImportant as).entries.map (·.name) := by
  unfold withoutImportant
  cases h : as.get? "style" with
  | none => exact ⟨rfl, List.prefix_rfl⟩
  | some style =>
    rw [h] at hnames
    exact ⟨as.withoutAll_insert _ (hnames rfl), as.map_name_insert _ _⟩

/-- The other attributes have nothing to do with marks of importance. -/
theorem get?_withoutImportant_of_ne (as : Attributes) (hname : ¬ Text.eqIgnoringCase "style" name) :
    (withoutImportant as).get? name = as.get? name := by
  unfold withoutImportant
  split
  · rfl
  · rw [Attributes.get?_insert, if_neg hname]

/-- **One element**: first the attributes for old mail programs, where its tag has some, then the marks. -/
theorem backfilled_withoutImportant (tag : String) (as : Attributes) :
    Backfilled tag as (withoutImportant (if tag ∈ backfilledTags then addLegacyAll tag as else as)) := by
  have hstyle : (if tag ∈ backfilledTags then addLegacyAll tag as else as).get? "style" = as.get? "style" := by
    split
    · exact get?_addLegacyAll tag as
    · rfl
  have hfirst : (if tag ∈ backfilledTags then addLegacyAll tag as else as).withoutAll (writtenNames tag as) =
        as.withoutAll (writtenNames tag as) ∧
      as.entries.map (·.name) <+: (if tag ∈ backfilledTags then addLegacyAll tag as else as).entries.map (·.name) := by
    split
    · next htag => exact addLegacyAll_keeps htag as
    · exact ⟨rfl, List.prefix_rfl⟩
  -- The only other attribute that is written is a style that is there.
  have hnames : ((if tag ∈ backfilledTags then addLegacyAll tag as else as).get? "style").isSome →
      "style" ∈ writtenNames tag as := by
    intro h
    rw [hstyle] at h
    rw [writtenNames, if_pos h]
    exact List.mem_cons_self
  have hsecond := withoutImportant_keeps _ hnames
  constructor
  case legacy =>
    intro style hs a ha ht
    have htags : ∀ a ∈ legacyAttributes, ∀ tag ∈ a.tags, tag ∈ backfilledTags := by decide
    have hname : ∀ a ∈ legacyAttributes, ¬ Text.eqIgnoringCase "style" a.name := by decide
    rw [get?_withoutImportant_of_ne _ (hname a ha), if_pos (htags a ha tag ht), get?_addLegacyAll_name ha ht hs]
  case style => rw [get?_withoutImportant, hstyle]
  case others => exact hsecond.1.trans hfirst.1
  case names => exact hfirst.2.trans hsecond.2

end Elements

/-! ### Whole documents -/

section Documents

variable {tree : Tree} {node : NodeId}

/-- The elements of the tags that have such attributes. -/
theorem mem_elementsNamed_iff :
    node ∈ tree.elementsNamed backfilledTags ↔
      node ∈ tree.elements ∧ (tree.tagName? node).getD "" ∈ backfilledTags := by
  rw [Tree.elementsNamed, List.mem_filter]
  refine and_congr_right fun _ => ?_
  cases tree.tagName? node with
  | none => decide
  | some tag => exact List.contains_iff_mem

/-- **Two rounds**: the attributes are written, and then the marks are dropped from every element once. -/
theorem attributesChanged_backfill (hnd : tree.elements.Nodup) :
    Tree.AttributesChanged (fun node as =>
      if node ∈ tree.elements then
        withoutImportant (if (tree.tagName? node).getD "" ∈ backfilledTags then
          addLegacyAll ((tree.tagName? node).getD "") as else as)
      else as) tree (backfill tree) := by
  have hnamed : (tree.elementsNamed backfilledTags).Nodup := hnd.filter _
  have hwritten := Tree.attributesChanged_foldl (fun n => addLegacyAll ((tree.tagName? n).getD "")) hnamed tree
  have hstripped := Tree.attributesChanged_foldl (fun _ => withoutImportant) hnd
    ((tree.elementsNamed backfilledTags).foldl
      (fun t node => t.modifyAttributes node (addLegacyAll ((tree.tagName? node).getD ""))) tree)
  -- An element with such attributes is one of those that lose their marks.
  have hsame (node : NodeId) (as : Attributes) :
      (if node ∈ tree.elements then
        withoutImportant (if node ∈ tree.elementsNamed backfilledTags then
          addLegacyAll ((tree.tagName? node).getD "") as else as)
      else if node ∈ tree.elementsNamed backfilledTags then addLegacyAll ((tree.tagName? node).getD "") as else as) =
      if node ∈ tree.elements then
        withoutImportant (if (tree.tagName? node).getD "" ∈ backfilledTags then
          addLegacyAll ((tree.tagName? node).getD "") as else as)
      else as := by
    by_cases hnode : node ∈ tree.elements
    · simp only [mem_elementsNamed_iff, hnode, true_and, if_true]
    · simp only [mem_elementsNamed_iff, hnode, false_and, if_false]
  have hboth := hwritten.trans hstripped
  simp only [hsame] at hboth
  rw [backfill_eq, stripImportant, hwritten.elements_eq]
  exact hboth

/-- **What becomes of a document** for old mail programs: some attributes of the elements that are part of it change,
element by element, and nothing else does. -/
theorem backfill_spec (hr : tree.Reachable) :
    (∃ f, Tree.AttributesChanged f tree (backfill tree)) ∧
      (∀ node, ¬ tree.Attached node → (backfill tree).get? node = tree.get? node) ∧
      ∀ node e, tree.Attached node → tree.element? node = some e →
        ∃ new, (backfill tree).element? node = some { e with attributes := new } ∧
          Backfilled e.name e.attributes new := by
  have hchange := attributesChanged_backfill hr.elements_nodup
  refine ⟨⟨_, hchange⟩, ?_, ?_⟩
  · -- A detached node is not among the elements, so nothing is done to it.
    intro node hdetached
    have hnode : node ∉ tree.elements := fun h => hdetached (hr.mem_elements_iff.1 h).1
    rw [hchange.get?]
    simp only [if_neg hnode, Tree.mapAttributes_self]
    exact Option.map_id'
  · intro node e hattached he
    have hnode : node ∈ tree.elements := hr.mem_elements_iff.2 ⟨hattached, by rw [Tree.isElement, he]; rfl⟩
    have htag : (tree.tagName? node).getD "" = e.name := by
      rw [Tree.tagName?, he]
      rfl
    refine ⟨_, ?_, backfilled_withoutImportant e.name e.attributes⟩
    rw [hchange.element?_eq, he, Option.map_some, if_pos hnode, htag]

/-- A document with one cell of a table, which has an alignment of its own and two backgrounds. -/
def cell : Tree :=
  ⟨#[⟨.document, none, some 1, some 1, none, none⟩,
    ⟨.element ⟨"td", ⟨[⟨"ALIGN", "left"⟩,
      ⟨"style", "text-align:right;background-color:#fff;background:#000 ! IMPORTANT;vertical-align:top"⟩]⟩⟩,
      some 0, none, none, none, none⟩]⟩

theorem cell_reachable : cell.Reachable := by
  have h : Tree.Reachable Tree.empty := .refl
  have h := h.tail (.createElement "td")
  have h := h.tail (@Tree.Step.append _ 0 1 _ rfl)
  have h := h.tail (@Tree.Step.setAttribute _ 1 "ALIGN" "left" _ rfl)
  exact h.tail (@Tree.Step.setAttribute _ 1 "style"
    "text-align:right;background-color:#fff;background:#000 ! IMPORTANT;vertical-align:top" _ rfl)

/-- The alignment stays, the important background counts though it is not the last one, and the vertical alignment
comes in. -/
theorem attribute?_backfill_cell :
    cell.Reachable ∧ (backfill cell).attribute? 1 "align" = some "left" ∧
      (backfill cell).attribute? 1 "bgcolor" = some "#000" ∧ (backfill cell).attribute? 1 "valign" = some "top" ∧
      (backfill cell).attribute? 1 "style" =
        some "text-align:right;background-color:#fff;background:#000;vertical-align:top" := by
  obtain ⟨-, -, hattached⟩ := backfill_spec cell_reachable
  obtain ⟨new, hnew, hfilled⟩ := hattached 1 _ (.single rfl) rfl
  have hget (name : String) : (backfill cell).attribute? 1 name = new.get? name := by
    rw [Tree.attribute?, hnew]
    rfl
  have hparse : (Style.parse "text-align:right;background-color:#fff;background:#000 ! IMPORTANT;vertical-align:top"
      ).declarations =
      [⟨"text-align", "right", false⟩, ⟨"background-color", "#fff", false⟩, ⟨"background", "#000", true⟩,
        ⟨"vertical-align", "top", false⟩] := by decide +kernel
  have hlegacy := hfilled.legacy _ rfl
  rw [hparse] at hlegacy
  refine ⟨cell_reachable, ?_, ?_, ?_, ?_⟩
  · rw [hget, hlegacy ⟨"align", ["text-align"], ["table", "tr", "td", "p"]⟩ (by decide) (by decide)]
    decide
  · rw [hget, hlegacy ⟨"bgcolor", ["background", "background-color"], ["table", "tr", "td", "p"]⟩ (by decide)
      (by decide)]
    decide
  · rw [hget, hlegacy ⟨"valign", ["vertical-align"], ["td", "p"]⟩ (by decide) (by decide)]
    decide
  · rw [hget, hfilled.style]
    decide +kernel

end Documents

end HtmlMail.Css
