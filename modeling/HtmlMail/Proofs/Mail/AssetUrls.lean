import HtmlMail.Mail.Links
import HtmlMail.Proofs.Dom.Calls
import HtmlMail.Proofs.Dom.Frame
import HtmlMail.Proofs.Dom.Traversal
import HtmlMail.Proofs.Html.UniqueReading
import HtmlMail.Proofs.Mail.AbsoluteUrls
import Mathlib.Data.Set.Card

/-!
# The pass over the tree and the pass over the text agree

The URLs of images are made absolute in the tree, and those of sources, targets and backgrounds once more in the text
that is written for it. The second pass does not look at where in the text it is: it also finds them in comments and in
texts. Still it makes no difference to it whether the first pass came before.

The reason is local. Where the first pass has put the URL of the site, the text without it begins like one of the
attributes that the second pass looks for and goes up to the slash. No occurrence of such a beginning lies across
either end of this part, so the second pass does what it does in front of the part, in it and behind it, one by one; and
in it, it does what the first pass has done. What is written around the part does not matter.

* `Agrees` : two texts that can stand for each other, and `agrees_attributeStart` : the one part where they differ;
* `absoluteAssets_eq` : the attributes of an element, entry by entry;
* `MarkupAgrees.ofDocument` : the text of a document whose attributes agree;
* `attributesChanged_absolutizeAssets` : what happens to a document;
* `absolutizeAssets_agrees` : the two passes together, and the first one alone.
-/

namespace HtmlMail.Mail

open Chars Dom Html

/-! ### Texts that agree -/

section Texts

variable {baseUrl name name' : String} {s t s' t' : List Char}

/-- **Texts that agree**: wherever one of them stands, the other one can, and markup made absolute is the same. -/
def Agrees (baseUrl : String) (s t : List Char) : Prop :=
  ∀ before after, absolutizeMarkup baseUrl (String.ofList (before ++ s ++ after)) =
    absolutizeMarkup baseUrl (String.ofList (before ++ t ++ after))

namespace Agrees

theorem refl (s : List Char) : Agrees baseUrl s s := fun _ _ => rfl

theorem append (h : Agrees baseUrl s t) (h' : Agrees baseUrl s' t') : Agrees baseUrl (s ++ s') (t ++ t') := by
  intro before after
  have hfront := h before (s' ++ after)
  have hback := h' (before ++ t) after
  simp only [List.append_assoc] at hfront hback ⊢
  exact hfront.trans hback

theorem flatMap {α : Type} {f g : α → List Char} {l : List α} (h : ∀ x ∈ l, Agrees baseUrl (f x) (g x)) :
    Agrees baseUrl (l.flatMap f) (l.flatMap g) := by
  induction l with
  | nil => exact .refl []
  | cons x l ih =>
    rw [List.flatMap_cons, List.flatMap_cons]
    exact (h x List.mem_cons_self).append (ih fun y hy => h y (List.mem_cons_of_mem x hy))

theorem absolutizeMarkup_eq (h : Agrees baseUrl s t) :
    absolutizeMarkup baseUrl (String.ofList s) = absolutizeMarkup baseUrl (String.ofList t) := by
  have hwhole := h [] []
  simp only [List.nil_append, List.append_nil] at hwhole
  exact hwhole

end Agrees

/-- An attribute with a value that ends in a slash is not touched by what is replaced around it: no beginning of an
attribute goes on with the letter it begins with, or stands up to a slash without ending there. -/
theorem replaceAll_around (hname : name ∈ linkNames) (hname' : name' ∈ linkNames) (valueStart : String)
    (new before after : List Char) :
    replaceAll (attributeStart name "/").toList new
        (before ++ (attributeStart name' (valueStart ++ "/")).toList ++ after) =
      replaceAll (attributeStart name "/").toList new before ++
        replaceAll (attributeStart name "/").toList new (attributeStart name' (valueStart ++ "/")).toList ++
          replaceAll (attributeStart name "/").toList new after := by
  have hnames : ∀ name ∈ linkNames, (attributeStart name "/").toList ≠ [] ∧
      '/' ∉ (attributeStart name "/").toList.dropLast ∧ ∀ name' ∈ linkNames,
        (name' ++ "=").toList.head?.any fun c => decide (c ∉ (attributeStart name "/").toList.tail) := by
    decide
  obtain ⟨hne, hslash, hhead⟩ := hnames name hname
  obtain ⟨c, hc, htail⟩ := (Option.any_eq_true _ _).1 (hhead name' hname')
  obtain ⟨rest, hrest⟩ := List.head?_eq_some_iff.1 hc
  have hpart : (attributeStart name' (valueStart ++ "/")).toList =
      (c :: rest ++ '"' :: valueStart.toList) ++ ['/'] := by
    rw [toList_attributeStart, hrest, @String.toList_append valueStart, List.append_assoc]
    rfl
  -- The pattern reaches neither into the attribute from the front nor out of it at the back.
  have hfront : Apart (attributeStart name "/").toList before
      ((attributeStart name' (valueStart ++ "/")).toList ++ after) := by
    refine apart_of_head fun d hd => ?_
    rw [hpart] at hd
    cases hd
    exact of_decide_eq_true htail
  have hback : Apart (attributeStart name "/").toList (attributeStart name' (valueStart ++ "/")).toList after := by
    refine apart_of_getLast fun d hd => ?_
    rw [hpart, List.getLast?_concat] at hd
    cases hd
    exact hslash
  rw [List.append_assoc, hfront.replaceAll_append hne, hback.replaceAll_append hne, List.append_assoc]

section Base

variable (hne : baseUrl ≠ "") (hslash : ¬ Text.startsWith "/" baseUrl) (hquote : '"' ∉ baseUrl.toList)
include hne hslash hquote

/-- No replacement finds anything where the URL of the site already stands. -/
theorem replaceAll_absoluteStart (hname : name ∈ linkNames) (first : String) (new : List Char) :
    replaceAll (attributeStart first "/").toList new (attributeStart name (baseUrl ++ "/")).toList =
      (attributeStart name (baseUrl ++ "/")).toList := by
  have hbarrier := isUrlBarrier_attributeStart hne hslash hquote hname name hname
  have hpair : ['"', '/'] <:+: (attributeStart first "/").toList := by
    rw [toList_attributeStart]
    exact (List.suffix_append (first ++ "=").toList ['"', '/']).isInfix
  exact replaceAll_eq_self fun h => hbarrier.not_infix (hpair.trans h)

/-- **One attribute after the other.** Until it is the turn of its own name the part stays as it is, and then the texts
become the same. -/
theorem foldl_absolutize_attributeStart (hname : name ∈ linkNames) : ∀ {names : List String}, names ⊆ linkNames →
    name ∈ names → ∀ before after,
      names.foldl (fun html n => Text.replaceAll (attributeStart n "/") (attributeStart n (baseUrl ++ "/")) html)
        (String.ofList (before ++ (attributeStart name "/").toList ++ after)) =
      names.foldl (fun html n => Text.replaceAll (attributeStart n "/") (attributeStart n (baseUrl ++ "/")) html)
        (String.ofList (before ++ (attributeStart name (baseUrl ++ "/")).toList ++ after))
  | [], _, hmem, _, _ => absurd hmem List.not_mem_nil
  | first :: names, hnames, hmem, before, after => by
    have hpatterns : ∀ name ∈ linkNames, (attributeStart name "/").toList ≠ [] ∧ ∀ name' ∈ linkNames, name ≠ name' →
        ¬ (attributeStart name "/").toList <:+: (attributeStart name' "/").toList := by decide
    have hfirst : first ∈ linkNames := hnames List.mem_cons_self
    have hempty : "" ++ "/" = "/" := rfl
    have hwithout := replaceAll_around hfirst hname "" (attributeStart first (baseUrl ++ "/")).toList before after
    have hwith := replaceAll_around hfirst hname baseUrl (attributeStart first (baseUrl ++ "/")).toList before after
    rw [hempty] at hwithout
    rw [replaceAll_absoluteStart hne hslash hquote hname] at hwith
    rw [List.foldl_cons, List.foldl_cons, Text.replaceAll, Text.replaceAll, String.toList_ofList, String.toList_ofList,
      hwithout, hwith]
    obtain ⟨hpattern, hothers⟩ := hpatterns first hfirst
    -- Up to the step for the name both texts change alike, and by that step they become the same.
    by_cases hsame : first = name
    · subst hsame
      rw [replaceAll_self hpattern]
    · rw [replaceAll_eq_self (hothers name hname hsame)]
      exact foldl_absolutize_attributeStart hname (fun n hn => hnames (List.mem_cons_of_mem first hn))
        ((List.mem_cons.1 hmem).resolve_left (Ne.symm hsame)) _ _

/-- **The one part where the texts differ**: the second pass does to it what the first one does. -/
theorem agrees_attributeStart (hname : name ∈ linkNames) :
    Agrees baseUrl (attributeStart name "/").toList (attributeStart name (baseUrl ++ "/")).toList :=
  foldl_absolutize_attributeStart hne hslash hquote hname (List.Subset.refl _) hname

end Base

end Texts

/-! ### The attributes of an element -/

section Attributes

variable {baseUrl name value : String} {as : Attributes} {a : Attribute}

/-- Whether the names of attributes are in lower case and differ from each other. -/
structure HasDistinctNames (as : Attributes) : Prop where
  lower : ∀ a ∈ as.entries, Text.lower a.name = a.name
  nodup : (as.entries.map (·.name)).Nodup

instance (as : Attributes) : Decidable (HasDistinctNames as) :=
  decidable_of_iff ((∀ a ∈ as.entries, Text.lower a.name = a.name) ∧ (as.entries.map (·.name)).Nodup)
    ⟨fun h => ⟨h.1, h.2⟩, fun h => ⟨h.1, h.2⟩⟩

/-- Whether an attribute of an element is its source, or its background where it has no source, and begins with a
slash. -/
def IsRelativeAsset (as : Attributes) (a : Attribute) : Prop :=
  (a.name = "src" ∨ a.name = "background" ∧ as.get? "src" = none) ∧ Text.startsWith "/" a.value

instance (as : Attributes) : DecidablePred (IsRelativeAsset as) := fun a =>
  inferInstanceAs (Decidable ((a.name = "src" ∨ a.name = "background" ∧ as.get? "src" = none) ∧
    Text.startsWith "/" a.value))

/-- The attributes of an element with the URL of the site in front of a source or background that begins with a slash;
every other entry stays as it is, and each one stays in its place. -/
def prefixAsset (baseUrl : String) (as : Attributes) : Attributes :=
  ⟨as.entries.map fun a => if IsRelativeAsset as a then ⟨a.name, baseUrl ++ a.value⟩ else a⟩

theorem relativeAsset?_eq_some_iff : relativeAsset? as = some (name, value) ↔
    (name = "src" ∨ name = "background" ∧ as.get? "src" = none) ∧ as.get? name = some value ∧
      Text.startsWith "/" value := by
  have hnames : "src" ≠ "background" := by decide
  rw [relativeAsset?, Option.filter_eq_some_iff]
  -- A source takes precedence over a background, also where it is not relative.
  cases hsrc : as.get? "src" with
  | some source =>
    constructor
    · rintro ⟨⟨⟩, hslash⟩
      exact ⟨.inl rfl, hsrc, hslash⟩
    · rintro ⟨rfl | ⟨-, ⟨⟩⟩, hget, hslash⟩
      obtain rfl : source = value := Option.some.inj (hsrc.symm.trans hget)
      exact ⟨rfl, hslash⟩
  | none =>
    simp only [Option.map_eq_some_iff, Prod.mk.injEq, and_true]
    constructor
    · rintro ⟨⟨_, hget, rfl, rfl⟩, hslash⟩
      exact ⟨.inr rfl, hget, hslash⟩
    · rintro ⟨rfl | rfl, hget, hslash⟩
      · rw [hsrc] at hget
        cases hget
      · exact ⟨⟨value, hget, rfl, rfl⟩, hslash⟩

theorem lower_of_relativeAsset? (h : relativeAsset? as = some (name, value)) : Text.lower name = name := by
  rcases (relativeAsset?_eq_some_iff.1 h).1 with rfl | ⟨rfl, -⟩ <;> decide

namespace HasDistinctNames

variable (h : HasDistinctNames as)
include h

theorem isNamed_iff (ha : a ∈ as.entries) (hname : Text.lower name = name) : a.isNamed name ↔ a.name = name := by
  have hlower : a.isNamed name ↔ Text.lower a.name = Text.lower name := by
    rw [Attribute.isNamed, Text.eqIgnoringCase, Chars.eqIgnoringCase, beq_iff_eq, Text.lower, Text.lower,
      String.ofList_inj]
  rw [hlower, h.lower a ha, hname]

/-- An entry is found under its name. -/
theorem get?_of_mem (ha : a ∈ as.entries) : as.get? a.name = some a.value := by
  have hsome : (as.entries.find? (·.isNamed a.name)).isSome :=
    List.find?_isSome.2 ⟨a, ha, (h.isNamed_iff ha (h.lower a ha)).2 rfl⟩
  obtain ⟨b, hb⟩ := Option.isSome_iff_exists.1 hsome
  have hmem : b ∈ as.entries := List.mem_of_find?_eq_some hb
  have hnamed : b.isNamed a.name := List.find?_some (p := fun c : Attribute => c.isNamed a.name) hb
  have hsame : b = a := List.inj_on_of_nodup_map h.nodup hmem ha ((h.isNamed_iff hmem (h.lower a ha)).1 hnamed)
  rw [Attributes.get?, Attributes.find?, hb, hsame, Option.map_some]

/-- The entry whose value begins with a slash is the one that is looked for. -/
theorem isRelativeAsset_iff (ha : a ∈ as.entries) :
    IsRelativeAsset as a ↔ relativeAsset? as = some (a.name, a.value) := by
  rw [relativeAsset?_eq_some_iff, h.get?_of_mem ha, IsRelativeAsset]
  simp only [true_and]

/-- The first entry of a name is the only one. -/
theorem replaceValue_eq (hname : Text.lower name = name) (value : String) :
    Attributes.replaceValue name value as.entries =
      as.entries.map fun a => if a.name = name then ⟨a.name, value⟩ else a := by
  obtain ⟨entries⟩ := as
  induction entries with
  | nil => rfl
  | cons a rest ih =>
    have hrest : HasDistinctNames ⟨rest⟩ :=
      ⟨fun b hb => h.lower b (List.mem_cons_of_mem a hb), (List.nodup_cons.1 h.nodup).2⟩
    have hfirst := h.isNamed_iff List.mem_cons_self hname
    rw [Attributes.replaceValue, List.map_cons]
    by_cases ha : a.name = name
    · -- No other attribute has the name.
      have hnone : ∀ b ∈ rest, b.name ≠ name := by
        intro b hb hname
        exact (List.nodup_cons.1 h.nodup).1 (List.mem_map.2 ⟨b, hb, hname.trans ha.symm⟩)
      rw [if_pos (hfirst.2 ha), if_pos ha]
      refine congrArg _ ((List.map_id rest).symm.trans (List.map_congr_left fun b hb => ?_))
      rw [if_neg (hnone b hb), id]
    · rw [if_neg (mt hfirst.1 ha), if_neg ha, ih hrest]

/-- **What happens to the attributes of an element**, entry by entry. -/
theorem absoluteAssets_eq (baseUrl : String) : absoluteAssets baseUrl as = prefixAsset baseUrl as := by
  rw [absoluteAssets, prefixAsset]
  split
  · next hnone =>
    refine congrArg Attributes.mk ((List.map_id as.entries).symm.trans (List.map_congr_left fun a ha => ?_))
    have hother : ¬ IsRelativeAsset as a := by
      rw [h.isRelativeAsset_iff ha, hnone]
      rintro ⟨⟩
    rw [if_neg hother, id]
  · next name value hsome =>
    -- The asset is there, so it is replaced where it stands.
    obtain ⟨-, hget, -⟩ := relativeAsset?_eq_some_iff.1 hsome
    have hthere : as.contains name := by
      rw [Attributes.contains_eq_isSome, hget, Option.isSome_some]
    rw [Attributes.insert, if_pos hthere, h.replaceValue_eq (lower_of_relativeAsset? hsome)]
    refine congrArg Attributes.mk (List.map_congr_left fun a ha => ?_)
    by_cases hsame : a.name = name
    · obtain rfl : a.value = value := Option.some.inj ((h.get?_of_mem ha).symm.trans (hsame ▸ hget))
      rw [if_pos hsame, if_pos ((h.isRelativeAsset_iff ha).2 (hsame ▸ hsome))]
    · have hother : ¬ IsRelativeAsset as a := by
        rw [h.isRelativeAsset_iff ha, hsome, Option.some.injEq]
        exact fun hasset => hsame (congrArg Prod.fst hasset).symm
      rw [if_neg hsame, if_neg hother]

end HasDistinctNames

/-- The value of an attribute after the URL of the site has been put in front of it. -/
theorem get?_absoluteAssets (hsome : relativeAsset? as = some (name, value)) (n : String) :
    (absoluteAssets baseUrl as).get? n =
      if Text.eqIgnoringCase name n then some (baseUrl ++ value) else as.get? n := by
  rw [absoluteAssets, hsome, Attributes.get?_insert]

/-- **The value that changes** is the one that begins with a slash. -/
theorem get?_absoluteAssets_ne_iff (hne : baseUrl ≠ "") (hname : Text.lower name = name) :
    (absoluteAssets baseUrl as).get? name ≠ as.get? name ↔ ∃ value, relativeAsset? as = some (name, value) := by
  cases hasset : relativeAsset? as with
  | none =>
    rw [absoluteAssets, hasset]
    refine iff_of_false (fun hchanged => hchanged rfl) ?_
    rintro ⟨_, ⟨⟩⟩
  | some asset =>
    obtain ⟨other, value⟩ := asset
    rw [get?_absoluteAssets hasset]
    by_cases hsame : other = name
    · subst hsame
      have hself : Text.eqIgnoringCase other other := beq_self_eq_true _
      rw [if_pos hself, (relativeAsset?_eq_some_iff.1 hasset).2.1]
      refine iff_of_true (fun hvalue => hne ?_) ⟨value, rfl⟩
      -- A base that is not empty makes the value longer.
      have hlength := congrArg String.length (Option.some.inj hvalue)
      rwa [String.length_append, Nat.add_eq_right, String.length_eq_zero_iff] at hlength
    · have hcase : ¬ Text.eqIgnoringCase other name := by
        rw [Text.eqIgnoringCase, Chars.eqIgnoringCase, beq_iff_eq, ← String.ofList_inj]
        exact fun heq => hsame ((lower_of_relativeAsset? hasset).symm.trans (heq.trans hname))
      rw [if_neg hcase]
      refine iff_of_false (fun hchanged => hchanged rfl) ?_
      rintro ⟨_, hsome⟩
      exact hsame (congrArg Prod.fst (Option.some.inj hsome))

/-- **Nothing is left** that begins with a slash. -/
theorem relativeAsset?_absoluteAssets (hne : baseUrl ≠ "") (hslash : ¬ Text.startsWith "/" baseUrl) (as : Attributes) :
    relativeAsset? (absoluteAssets baseUrl as) = none := by
  have hstart (value : String) : ¬ Text.startsWith "/" (baseUrl ++ value) := by
    rw [Text.startsWith_iff_prefix, String.toList_append]
    rintro ⟨rest, hrest⟩
    refine head?_ne_slash hslash ?_
    rw [← head?_append_of_ne_empty hne value.toList, ← hrest]
    rfl
  cases hbefore : relativeAsset? as with
  | none => rw [absoluteAssets, hbefore, hbefore]
  | some asset =>
    obtain ⟨name, value⟩ := asset
    -- The same attribute is looked at again, and it begins like the URL of the site.
    rcases (relativeAsset?_eq_some_iff.1 hbefore).1 with rfl | ⟨rfl, hnone⟩
    · have hsrc : (absoluteAssets baseUrl as).get? "src" = some (baseUrl ++ value) := by
        rw [get?_absoluteAssets hbefore, if_pos (by decide)]
      simp only [relativeAsset?, hsrc, Option.filter_some, if_neg (hstart value)]
    · have hsrc : (absoluteAssets baseUrl as).get? "src" = none := by
        rw [get?_absoluteAssets hbefore, if_neg (by decide), hnone]
      have hbackground : (absoluteAssets baseUrl as).get? "background" = some (baseUrl ++ value) := by
        rw [get?_absoluteAssets hbefore, if_pos (by decide)]
      simp only [relativeAsset?, hsrc, hbackground, Option.map_some, Option.filter_some, if_neg (hstart value)]

/-- Characters that are written as they are. -/
theorem escapeAttribute_eq_self {s : List Char} (h : ∀ c ∈ s, c ∉ ['&', '<', '>', '"', '\u00A0']) :
    escapeAttribute s = s := by
  have hwritten : ∀ r ∈ references, r.1 ∈ ['&', '<', '>', '"', '\u00A0'] := by decide
  induction s with
  | nil => rfl
  | cons c s ih =>
    obtain ⟨hc, hs⟩ := List.forall_mem_cons.1 h
    -- A character that is escaped is one of those that have a name.
    have hself : escapeAttributeChar c = [c] := by
      rcases isEscape_escapeAttributeChar c with ⟨name, hname, -⟩ | ⟨-, he⟩
      · exact absurd (hwritten _ hname) hc
      · exact he
    rw [escapeAttribute, List.flatMap_cons, hself]
    exact congrArg (c :: ·) (ih hs)

/-- **The attributes of an element agree** with what they become. -/
theorem agrees_prefixAsset (hne : baseUrl ≠ "") (hslash : ¬ Text.startsWith "/" baseUrl)
    (hplain : ∀ c ∈ baseUrl.toList, c ∉ ['&', '<', '>', '"', '\u00A0']) (as : Attributes) :
    Agrees baseUrl (as.entries.flatMap printAttribute) ((prefixAsset baseUrl as).entries.flatMap printAttribute) := by
  have hquote : '"' ∉ baseUrl.toList := fun h => hplain _ h (by decide)
  rw [prefixAsset, List.flatMap_map]
  refine Agrees.flatMap fun a _ => ?_
  by_cases hasset : IsRelativeAsset as a
  · obtain ⟨hname, hvalue⟩ := hasset
    obtain ⟨rest, hrest⟩ := Text.startsWith_iff_prefix.1 hvalue
    have hlink : a.name ∈ linkNames := by
      rcases hname with hname | ⟨hname, -⟩ <;> rw [hname] <;> decide
    have hold : printAttribute a =
        [' '] ++ (attributeStart a.name "/").toList ++ (escapeAttribute rest ++ ['"']) := by
      rw [printAttribute, ← hrest, toList_attributeStart, escapeAttribute_append, @String.toList_append a.name]
      simp only [List.append_assoc, List.cons_append, List.nil_append]
      rfl
    -- Nothing in the base is escaped, so it stands as it is in front of the old value.
    have hnew : printAttribute ⟨a.name, baseUrl ++ a.value⟩ =
        [' '] ++ (attributeStart a.name (baseUrl ++ "/")).toList ++ (escapeAttribute rest ++ ['"']) := by
      rw [printAttribute, toList_attributeStart, @String.toList_append baseUrl, @String.toList_append baseUrl, ← hrest,
        escapeAttribute_append, escapeAttribute_append, escapeAttribute_eq_self hplain, @String.toList_append a.name]
      simp only [List.append_assoc, List.cons_append, List.nil_append]
      rfl
    rw [if_pos ⟨hname, hvalue⟩, hold, hnew]
    exact ((Agrees.refl _).append (agrees_attributeStart hne hslash hquote hlink)).append (.refl _)
  · rw [if_neg hasset]
    exact .refl _

end Attributes

/-! ### The text of a document -/

section Text

variable {baseUrl name : String} {as as' : List Attribute} {F G F' G' : List Markup} {tree tree' : Tree}
  {f : NodeId → Attributes → Attributes}

/-- **Markup that agrees**, both where it is written with its tags and in an element with raw text, in which only its
texts are. -/
structure MarkupAgrees (baseUrl : String) (F G : List Markup) : Prop where
  raw : F.flatMap Markup.rawText = G.flatMap Markup.rawText
  printed : Agrees baseUrl (Markup.printAll F) (Markup.printAll G)

namespace MarkupAgrees

theorem refl (F : List Markup) : MarkupAgrees baseUrl F F := ⟨rfl, .refl _⟩

theorem append (h : MarkupAgrees baseUrl F G) (h' : MarkupAgrees baseUrl F' G') :
    MarkupAgrees baseUrl (F ++ F') (G ++ G') where
  raw := by rw [List.flatMap_append, List.flatMap_append, h.raw, h'.raw]
  printed := by
    rw [printAll_append, printAll_append]
    exact h.printed.append h'.printed

theorem flatMap {α : Type} {f g : α → List Markup} {l : List α} (h : ∀ x ∈ l, MarkupAgrees baseUrl (f x) (g x)) :
    MarkupAgrees baseUrl (l.flatMap f) (l.flatMap g) := by
  induction l with
  | nil => exact .refl []
  | cons x l ih =>
    rw [List.flatMap_cons, List.flatMap_cons]
    exact (h x List.mem_cons_self).append (ih fun y hy => h y (List.mem_cons_of_mem x hy))

/-- **An element** agrees in its attributes and in what is below it. -/
theorem element (has : Agrees baseUrl (as.flatMap printAttribute) (as'.flatMap printAttribute))
    (h : MarkupAgrees baseUrl F G) : MarkupAgrees baseUrl [.element name as F] [.element name as' G] where
  raw := rfl
  printed := by
    have hstart := (Agrees.refl (['<'] ++ name.toList)).append has
    simp only [Markup.printAll, Markup.print, List.append_nil]
    split
    · exact hstart.append (.refl _)
    · -- The content comes between two pieces that are the same on both sides.
      refine ((((hstart.append (.refl _)).append ?_).append (.refl _)).append (.refl _)).append (.refl _)
      split
      · rw [h.raw]
        exact .refl _
      · exact h.printed

/-- **A node** agrees at every depth, by induction on the way down. -/
theorem ofNode (h : Tree.AttributesChanged f tree tree')
    (hf : ∀ x e, tree.element? x = some e → Agrees baseUrl
      (e.attributes.entries.flatMap printAttribute) ((f x e.attributes).entries.flatMap printAttribute)) :
    ∀ depth x, MarkupAgrees baseUrl (Markup.ofNode tree depth x) (Markup.ofNode tree' depth x) := by
  intro depth
  induction depth with
  | zero => exact fun _ => .refl []
  | succ depth ih =>
    intro x
    have hbelow : MarkupAgrees baseUrl ((tree.children x).flatMap (Markup.ofNode tree depth))
        ((tree'.children x).flatMap (Markup.ofNode tree' depth)) := by
      rw [h.children_eq]
      exact flatMap fun c _ => ih c
    rw [Markup.ofNode, Markup.ofNode, h.get?]
    cases hnode : tree.get? x with
    | none => exact .refl []
    | some node =>
      rcases node with ⟨data, parent, first, last, previous, next⟩
      -- Only elements have attributes, so nothing else can differ.
      cases data with
      | document => exact hbelow
      | doctype => exact .refl _
      | text => exact .refl _
      | comment => exact .refl _
      | element e =>
        refine element (hf x e ?_) hbelow
        rw [Tree.element?, hnode]
        rfl

/-- **A document** agrees if the attributes of its elements do. -/
theorem ofDocument {doc doc' : Document} (h : Tree.AttributesChanged f doc.tree doc'.tree)
    (hhtml : doc'.html? = doc.html?) (hfragment : doc'.isFragment = doc.isFragment)
    (hf : ∀ x e, doc.tree.element? x = some e → Agrees baseUrl
      (e.attributes.entries.flatMap printAttribute) ((f x e.attributes).entries.flatMap printAttribute)) :
    MarkupAgrees baseUrl (Markup.ofDocument doc) (Markup.ofDocument doc') := by
  have houter (x : NodeId) : MarkupAgrees baseUrl (Markup.outer doc.tree x) (Markup.outer doc'.tree x) := by
    rw [Markup.outer, Markup.outer, h.size]
    exact ofNode h hf _ x
  have hinner (x : NodeId) : MarkupAgrees baseUrl (Markup.inner doc.tree x) (Markup.inner doc'.tree x) := by
    rw [Markup.inner, Markup.inner, h.children_eq]
    exact flatMap fun c _ => houter c
  have hunwrapped (x : NodeId) : MarkupAgrees baseUrl (Markup.unwrapped doc.tree x) (Markup.unwrapped doc'.tree x) := by
    rw [Markup.unwrapped, Markup.unwrapped, h.tagName?_eq]
    split
    · exact hinner x
    · exact hinner x
    · exact houter x
  -- Only attributes have changed, so what was a document type still is one.
  have hdoctype (x : NodeId) : Markup.isDoctype doc'.tree x = Markup.isDoctype doc.tree x := by
    rw [Markup.isDoctype, Markup.isDoctype, h.get?]
    cases doc.tree.get? x with
    | none => rfl
    | some node =>
      obtain ⟨data, -⟩ := node
      cases data <;> rfl
  rw [Markup.ofDocument, Markup.ofDocument, hfragment, hhtml]
  split
  · rw [h.children_eq]
    refine flatMap fun child _ => ?_
    rw [h.children_eq, hdoctype]
    split
    · exact flatMap fun x _ => hunwrapped x
    · split
      · exact .refl []
      · exact houter child
  · exact hinner root

end MarkupAgrees

end Text

/-! ### The assets of a document -/

/-- The elements of a document with a source or background that begins with a slash. -/
def assetElements (tree : Tree) : List NodeId :=
  tree.elements.filter fun node => ((tree.element? node).bind fun e => relativeAsset? e.attributes).isSome

section Document

variable {tree tree' : Tree} {baseUrl name : String} {count : Nat} {x : NodeId} {e : Element}

/-- **What happens to a document**: the attributes of some elements change, and nothing else does. -/
theorem attributesChanged_absolutizeAssets (h : tree.Reachable) (baseUrl : String) : Tree.AttributesChanged
    (fun x as => if x ∈ assetElements tree then absoluteAssets baseUrl as else as)
    tree (absolutizeAssets baseUrl tree).2 :=
  Tree.attributesChanged_foldl (fun _ => absoluteAssets baseUrl) (h.elements_nodup.filter _) tree

theorem mem_assetElements_iff (h : tree.Reachable) (he : tree.element? x = some e) :
    x ∈ assetElements tree ↔ tree.Attached x ∧ (relativeAsset? e.attributes).isSome := by
  have helement : tree.isElement x := by rw [Tree.isElement, he, Option.isSome_some]
  rw [assetElements, List.mem_filter, h.mem_elements_iff, he, Option.bind_some, and_iff_left helement]

/-- Every element of the document counts as changed; one without such an attribute is changed to itself. -/
theorem attributes_of_attached (h : tree.Reachable) (hx : tree.Attached x) (he : tree.element? x = some e) :
    (if x ∈ assetElements tree then absoluteAssets baseUrl e.attributes else e.attributes) =
      absoluteAssets baseUrl e.attributes := by
  by_cases hmem : x ∈ assetElements tree
  · rw [if_pos hmem]
  · have hnone : relativeAsset? e.attributes = none :=
      Option.not_isSome_iff_eq_none.1 fun hsome => hmem ((mem_assetElements_iff h he).2 ⟨hx, hsome⟩)
    rw [if_neg hmem, absoluteAssets, hnone]

theorem not_mem_assetElements (h : tree.Reachable) (hx : ¬ tree.Attached x) : x ∉ assetElements tree := fun hmem =>
  hx (h.mem_elements_iff.1 (List.mem_of_mem_filter hmem)).1

theorem element?_absolutizeAssets (h : tree.Reachable) (hx : tree.Attached x) (he : tree.element? x = some e) :
    (absolutizeAssets baseUrl tree).2.element? x = some ⟨e.name, absoluteAssets baseUrl e.attributes⟩ := by
  rw [(attributesChanged_absolutizeAssets h baseUrl).element?_eq, he, Option.map_some, attributes_of_attached h hx he]

/-- **A node of the document** keeps its links, its name and its text, and its attributes entry by entry but for
one. -/
theorem get?_absolutizeAssets (h : tree.Reachable) (hx : tree.Attached x)
    (hnames : ∀ e, tree.element? x = some e → HasDistinctNames e.attributes) :
    (absolutizeAssets baseUrl tree).2.get? x =
      (tree.get? x).map fun n => { n with data := n.data.mapAttributes (prefixAsset baseUrl) } := by
  rw [(attributesChanged_absolutizeAssets h baseUrl).get?]
  cases hnode : tree.get? x with
  | none => rfl
  | some node =>
    rcases node with ⟨data, parent, first, last, previous, next⟩
    cases data with
    | element e =>
      have he : tree.element? x = some e := by
        rw [Tree.element?, hnode]
        rfl
      simp only [Option.map_some, NodeData.mapAttributes]
      rw [attributes_of_attached h hx he, (hnames e he).absoluteAssets_eq]
    | _ => rfl

/-- **A node beside the document** stays as it is. -/
theorem get?_absolutizeAssets_of_not_attached (h : tree.Reachable) (hx : ¬ tree.Attached x) :
    (absolutizeAssets baseUrl tree).2.get? x = tree.get? x := by
  rw [(attributesChanged_absolutizeAssets h baseUrl).get?]
  simp only [if_neg (not_mem_assetElements h hx), Tree.mapAttributes_self]
  exact Option.map_id'

theorem attached_absolutizeAssets_iff (h : tree.Reachable) :
    (absolutizeAssets baseUrl tree).2.Attached x ↔ tree.Attached x := by
  have hparent : (absolutizeAssets baseUrl tree).2.IsParent = tree.IsParent := by
    funext p c
    rw [Tree.IsParent, Tree.IsParent, (attributesChanged_absolutizeAssets h baseUrl).parent?_eq]
  rw [Tree.Attached, Tree.Attached, Tree.Within, Tree.Within, hparent]

/-- **The values that change** are those that begin with a slash. -/
theorem attribute?_absolutizeAssets_ne_iff (h : tree.Reachable) (hne : baseUrl ≠ "") (hname : Text.lower name = name) :
    (absolutizeAssets baseUrl tree).2.attribute? x name ≠ tree.attribute? x name ↔
      tree.Attached x ∧ ∃ e value, tree.element? x = some e ∧ relativeAsset? e.attributes = some (name, value) := by
  -- A node that is not in the tree is not looked at.
  by_cases hx : tree.Attached x
  · rw [and_iff_right hx]
    cases he : tree.element? x with
    | none =>
      rw [Tree.attribute?, Tree.attribute?, (attributesChanged_absolutizeAssets h baseUrl).element?_eq, he]
      refine iff_of_false (fun hchanged => hchanged rfl) ?_
      rintro ⟨_, _, ⟨⟩, _⟩
    | some e =>
      rw [Tree.attribute?, Tree.attribute?, element?_absolutizeAssets h hx he, he, Option.bind_some, Option.bind_some,
        get?_absoluteAssets_ne_iff hne hname]
      simp only [Option.some.injEq, exists_and_left, exists_eq_left']
  · rw [Tree.attribute?, Tree.attribute?, Tree.element?, Tree.element?, get?_absolutizeAssets_of_not_attached h hx]
    exact iff_of_false (fun hchanged => hchanged rfl) fun hasset => hx hasset.1

/-- As many elements are listed as values change. -/
theorem length_assetElements (h : tree.Reachable) (hne : baseUrl ≠ "") : (assetElements tree).length =
    {p : NodeId × String | Text.lower p.2 = p.2 ∧
      (absolutizeAssets baseUrl tree).2.attribute? p.1 p.2 ≠ tree.attribute? p.1 p.2}.ncard := by
  set changed := {p : NodeId × String | Text.lower p.2 = p.2 ∧
    (absolutizeAssets baseUrl tree).2.attribute? p.1 p.2 ≠ tree.attribute? p.1 p.2}
  -- An element has at most one such value, so the elements can be counted instead.
  have hinj : Set.InjOn Prod.fst changed := by
    rintro ⟨x, m⟩ ⟨hm, hx⟩ ⟨_, n⟩ ⟨hn, hy⟩ rfl
    obtain ⟨-, e, value, he, hasset⟩ := (attribute?_absolutizeAssets_ne_iff h hne hm).1 hx
    obtain ⟨-, e', value', he', hasset'⟩ := (attribute?_absolutizeAssets_ne_iff h hne hn).1 hy
    obtain rfl : e = e' := Option.some.inj (he.symm.trans he')
    have hsame := Option.some.inj (hasset.symm.trans hasset')
    exact Prod.ext rfl (congrArg Prod.fst hsame)
  have himage : Prod.fst '' changed = ((assetElements tree).toFinset : Set NodeId) := by
    ext x
    rw [Finset.mem_coe, List.mem_toFinset]
    constructor
    · rintro ⟨⟨_, m⟩, ⟨hm, hx⟩, rfl⟩
      obtain ⟨hattached, e, value, he, hasset⟩ := (attribute?_absolutizeAssets_ne_iff h hne hm).1 hx
      exact (mem_assetElements_iff h he).2 ⟨hattached, Option.isSome_of_eq_some hasset⟩
    · intro hmem
      obtain ⟨hattached, helement⟩ := h.mem_elements_iff.1 (List.mem_of_mem_filter hmem)
      obtain ⟨e, he⟩ := Option.isSome_iff_exists.1 helement
      obtain ⟨⟨m, value⟩, hasset⟩ := Option.isSome_iff_exists.1 ((mem_assetElements_iff h he).1 hmem).2
      have hm : Text.lower m = m := lower_of_relativeAsset? hasset
      exact ⟨(x, m), ⟨hm, (attribute?_absolutizeAssets_ne_iff h hne hm).2 ⟨hattached, e, value, he, hasset⟩⟩, rfl⟩
  have hnodup : (assetElements tree).Nodup := h.elements_nodup.filter _
  rw [← hinj.ncard_image, himage, Set.ncard_coe_finset, List.toFinset_card_of_nodup hnodup]

/-- **The second time** there is nothing to do. -/
theorem absolutizeAssets_absolutizeAssets (h : tree.Reachable) (hne : baseUrl ≠ "")
    (hslash : ¬ Text.startsWith "/" baseUrl) :
    absolutizeAssets baseUrl (absolutizeAssets baseUrl tree).2 = (0, (absolutizeAssets baseUrl tree).2) := by
  -- Every element that had a relative asset has an absolute one in its place.
  have hnone : assetElements (absolutizeAssets baseUrl tree).2 = [] := by
    rw [assetElements, (attributesChanged_absolutizeAssets h baseUrl).elements_eq, List.filter_eq_nil_iff]
    intro x hx
    obtain ⟨hattached, helement⟩ := h.mem_elements_iff.1 hx
    obtain ⟨e, he⟩ := Option.isSome_iff_exists.1 helement
    rw [element?_absolutizeAssets h hattached he, Option.bind_some, relativeAsset?_absoluteAssets hne hslash]
    exact Bool.false_ne_true
  show ((assetElements (absolutizeAssets baseUrl tree).2).length, (assetElements _).foldl _ _) = _
  rw [hnone]
  rfl

/-- **Nothing is left** in a document that begins with a slash. -/
theorem not_startsWith_attribute?_absolutizeAssets {value : String} (h : tree.Reachable) (hne : baseUrl ≠ "")
    (hslash : ¬ Text.startsWith "/" baseUrl) (hx : tree.Attached x)
    (hname : name = "src" ∨ name = "background" ∧ (absolutizeAssets baseUrl tree).2.attribute? x "src" = none)
    (hvalue : (absolutizeAssets baseUrl tree).2.attribute? x name = some value) : ¬ Text.startsWith "/" value := by
  intro hstart
  cases he : tree.element? x with
  | none =>
    rw [Tree.attribute?, (attributesChanged_absolutizeAssets h baseUrl).element?_eq, he] at hvalue
    cases hvalue
  | some e =>
    simp only [Tree.attribute?, element?_absolutizeAssets h hx he, Option.bind_some] at hname hvalue
    -- A relative address there would be an asset to make absolute, of which none is left.
    have hasset : relativeAsset? (absoluteAssets baseUrl e.attributes) = some (name, value) :=
      relativeAsset?_eq_some_iff.2 ⟨hname, hvalue, hstart⟩
    rw [relativeAsset?_absoluteAssets hne hslash] at hasset
    cases hasset

/-- **The text of a document**, made absolute, is the same whether the tree was made absolute before or not. -/
theorem absolutizeMarkup_printDocument {doc : Document} (h : doc.tree.Reachable)
    (hnames : ∀ x e, doc.tree.Attached x → doc.tree.element? x = some e → HasDistinctNames e.attributes)
    (hne : baseUrl ≠ "") (hslash : ¬ Text.startsWith "/" baseUrl)
    (hplain : ∀ c ∈ baseUrl.toList, c ∉ ['&', '<', '>', '"', '\u00A0']) :
    absolutizeMarkup baseUrl (printDocument (doc.withTree (absolutizeAssets baseUrl doc.tree).2)) =
      absolutizeMarkup baseUrl (printDocument doc) := by
  have hchange : Tree.AttributesChanged _ doc.tree (doc.withTree (absolutizeAssets baseUrl doc.tree).2).tree :=
    attributesChanged_absolutizeAssets h baseUrl
  refine (MarkupAgrees.ofDocument hchange rfl rfl fun x e he => ?_).printed.absolutizeMarkup_eq.symm
  by_cases hx : doc.tree.Attached x
  · rw [attributes_of_attached h hx he, (hnames x e hx he).absoluteAssets_eq]
    exact agrees_prefixAsset hne hslash hplain e.attributes
  · rw [if_neg (not_mem_assetElements h hx)]
    exact .refl _

end Document

/-- **The pass over the tree and the pass over the text agree.** Take any document in which the attributes of an
element have names in lower case that differ from each other, and as the URL of the site some text that does not begin
with a slash and is written without references. Let the sources and backgrounds in the tree be made absolute. Then

* the text of the document, made absolute, is the same as without that;
* no source begins with a slash, and no background of an element without a source;
* a node of the document differs at most in the value of that one attribute, which got the URL of the site in front,
  and any other node does not differ at all;
* the number that is returned is that of the values that differ;
* to make them absolute once more changes nothing. -/
theorem absolutizeAssets_agrees {doc : Document} {tree' : Tree} {baseUrl : String} {count : Nat}
    (htree : doc.tree.Reachable)
    (hnames : ∀ x e, doc.tree.Attached x → doc.tree.element? x = some e → HasDistinctNames e.attributes)
    (hne : baseUrl ≠ "") (hslash : ¬ Text.startsWith "/" baseUrl)
    (hplain : ∀ c ∈ baseUrl.toList, c ∉ ['&', '<', '>', '"', '\u00A0'])
    (h : absolutizeAssets baseUrl doc.tree = (count, tree')) :
    absolutizeMarkup baseUrl (printDocument (doc.withTree tree')) = absolutizeMarkup baseUrl (printDocument doc) ∧
      (∀ x name value, tree'.Attached x →
        (name = "src" ∨ name = "background" ∧ tree'.attribute? x "src" = none) →
        tree'.attribute? x name = some value → ¬ Text.startsWith "/" value) ∧
      (∀ x, doc.tree.Attached x → tree'.get? x = (doc.tree.get? x).map fun n =>
        { n with data := n.data.mapAttributes (prefixAsset baseUrl) }) ∧
      (∀ x, ¬ doc.tree.Attached x → tree'.get? x = doc.tree.get? x) ∧
      count = {p : NodeId × String | Text.lower p.2 = p.2 ∧
        tree'.attribute? p.1 p.2 ≠ doc.tree.attribute? p.1 p.2}.ncard ∧
      absolutizeAssets baseUrl tree' = (0, tree') := by
  obtain rfl : (assetElements doc.tree).length = count := congrArg Prod.fst h
  obtain rfl : (absolutizeAssets baseUrl doc.tree).2 = tree' := congrArg Prod.snd h
  refine ⟨absolutizeMarkup_printDocument htree hnames hne hslash hplain, fun x name value hx hname hvalue => ?_,
    fun x hx => get?_absolutizeAssets htree hx fun e => hnames x e hx,
    fun x hx => get?_absolutizeAssets_of_not_attached htree hx, length_assetElements htree hne,
    absolutizeAssets_absolutizeAssets htree hne hslash⟩
  rw [attached_absolutizeAssets_iff htree] at hx
  exact not_startsWith_attribute?_absolutizeAssets htree hne hslash hx hname hvalue

/-- An image with a background, a cell with a background, a comment with an image in it, and an image beside the
document. -/
def picturePage : Document where
  tree := Tree.afterCalls [
    .createElement "img", .setAttribute 1 "src" "/a&b.png", .setAttribute 1 "background" "/c.png", .append 0 1,
    .createElement "td", .setAttribute 2 "background" "/d.png", .append 0 2,
    .createComment "<img src=\"/e.png\">", .append 0 3,
    .createElement "img", .setAttribute 4 "src" "/f.png"]
  html? := none
  body? := none
  isFragment := false

/-- The source of the one element and the background of the other one change; the text is the same after the second
pass, in which the rest is made absolute. -/
theorem absolutizeAssets_picturePage : picturePage.tree.Reachable ∧
    (∀ x e, picturePage.tree.Attached x → picturePage.tree.element? x = some e → HasDistinctNames e.attributes) ∧
    ∃ tree', absolutizeAssets "https://mail.test" picturePage.tree = (2, tree') ∧
      tree'.attribute? 1 "src" = some "https://mail.test/a&b.png" ∧
      tree'.attribute? 1 "background" = some "/c.png" ∧
      tree'.get? 4 = picturePage.tree.get? 4 ∧
      absolutizeMarkup "https://mail.test" (printDocument (picturePage.withTree tree')) =
        absolutizeMarkup "https://mail.test" (printDocument picturePage) ∧
      absolutizeAssets "https://mail.test" tree' = (0, tree') := by
  have htree : picturePage.tree.Reachable := Tree.reachable_afterCalls _
  have hall : ∀ x < picturePage.tree.size,
      (picturePage.tree.element? x).all fun e => decide (HasDistinctNames e.attributes) := by decide
  have hnames : ∀ x e, picturePage.tree.Attached x → picturePage.tree.element? x = some e →
      HasDistinctNames e.attributes := by
    intro x e _ he
    obtain ⟨n, hn, -⟩ := Option.bind_eq_some_iff.1 he
    have hx := hall x (Tree.lt_size_of_get? hn)
    rw [he, Option.all_some] at hx
    exact of_decide_eq_true hx
  have hchars : "https://mail.test".toList.all fun c => decide (c ∉ ['&', '<', '>', '"', '\u00A0']) := by decide
  have hplain : ∀ c ∈ "https://mail.test".toList, c ∉ ['&', '<', '>', '"', '\u00A0'] := fun c hc =>
    of_decide_eq_true (List.all_eq_true.1 hchars c hc)
  rcases hrun : absolutizeAssets "https://mail.test" picturePage.tree with ⟨count, tree'⟩
  obtain ⟨htext, -, hnode, hbeside, -, htwice⟩ :=
    absolutizeAssets_agrees htree hnames (by decide) (by decide) hplain hrun
  have hcount : (absolutizeAssets "https://mail.test" picturePage.tree).1 = 2 := by decide
  obtain rfl : count = 2 := (congrArg Prod.fst hrun).symm.trans hcount
  have himage : picturePage.tree.Attached 1 := (htree.mem_elements_iff.1 (by decide)).1
  have hdetached : ¬ picturePage.tree.Attached 4 := fun h =>
    absurd (htree.mem_elements_iff.2 ⟨h, by decide⟩) (by decide)
  refine ⟨htree, hnames, tree', rfl, ?_, ?_, hbeside 4 hdetached, htext, htwice⟩
  · rw [Tree.attribute?, Tree.element?, hnode 1 himage]
    decide
  · rw [Tree.attribute?, Tree.element?, hnode 1 himage]
    decide

end HtmlMail.Mail
