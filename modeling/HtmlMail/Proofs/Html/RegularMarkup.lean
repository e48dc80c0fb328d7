import HtmlMail.Html.Construction.Rules
import HtmlMail.Proofs.Html.ForestGrowth
import HtmlMail.Proofs.Html.PrintedTokens

/-!
# Regular markup

Markup whose text is read again as what it was. What an element may hold depends on the elements that are open around
it: its start tag must neither close one of them nor imply others, and its content must be read in the way in which it
was written.

* `modeIn`, `placeIn` : the rules in force in open elements, and what kind of place these are;
* `obstacles` : what must not be open where an element begins, because its start tag would close it;
* `admits` : which elements can begin where;
* `Markup.IsRegular`, `Markup.AreRegular` : regular markup;
* `Markup.IsRegular.isApart` : in it no two texts stand side by side.
-/

namespace HtmlMail.Html

open Chars Dom Construction

/-! ### Open elements -/

/-- Whether an element with one of the names is open, looked for from the innermost one on up to a boundary, which may
itself have one of them. The open elements are given by their names. -/
def isOpenIn (isBoundary : ElementName → Bool) (names : List String) : List String → Bool
  | [] => false
  | name :: rest => names.contains name || (!isBoundary ⟨.html, name⟩ && isOpenIn isBoundary names rest)

/-- Whether a table is open, up to a template. -/
def isTableOpen : List String → Bool
  | [] => false
  | name :: rest => name != "template" && (name == "table" || isTableOpen rest)

/-- The rules for what stands in open elements. -/
def modeIn : List String → Mode
  | [] => .inBody
  | name :: rest =>
    match name with
    | "select" => if isTableOpen rest then .inSelectInTable else .inSelect
    | "td" | "th" => if rest.isEmpty then .inBody else .inCell
    | "tr" => .inRow
    | "tbody" | "thead" | "tfoot" => .inTableBody
    | "caption" => .inCaption
    | "colgroup" => .inColumnGroup
    | "table" => .inTable
    | "template" => .inBody
    | "head" => if rest.isEmpty then .inBody else .inHead
    | "body" => .inBody
    | "frameset" => .inFrameset
    | "html" => .afterHead
    | _ => modeIn rest

/-- What can stand in open elements. -/
inductive Place where
  /-- Text and the elements of a body. -/
  | flow
  /-- The elements of a head. -/
  | head
  /-- The parts of a table. -/
  | table
  /-- Rows. -/
  | rows
  /-- Cells. -/
  | row
  /-- Columns. -/
  | columns
  /-- Anything else. -/
  | other
  deriving DecidableEq, Repr

/-- What can stand in elements that are open. -/
def placeIn : List String → Place
  | [] => .other
  | name :: rest =>
    match name with
    | "head" => if rest.isEmpty then .other else .head
    | "table" => .table
    | "tbody" | "thead" | "tfoot" => .rows
    | "tr" => .row
    | "colgroup" => .columns
    | _ => if [Mode.inBody, .inCaption, .inCell].contains (modeIn (name :: rest)) then .flow else .other

/-- Elements that must not be open, looked for up to a boundary. -/
structure Obstacle where
  isBoundary : ElementName → Bool
  names : List String

/-- Whether an obstacle stands in the way. -/
def Obstacle.isMet (o : Obstacle) (path : List String) : Bool := isOpenIn o.isBoundary o.names path

/-- The elements in which formatting begins anew. -/
def markerNames : List String := ["applet", "caption", "marquee", "object", "td", "th"]

/-- Whether an element is a boundary for formatting. -/
def marksFormatting (e : ElementName) : Bool := e.isHtml markerNames

/-- Whether an element is a boundary for the item that another one follows. -/
def boundsItem (e : ElementName) : Bool := e.isSpecial && !e.isHtml ["address", "div", "p"]

/-- What must not be open where an element begins, because its start tag would close it or would be dropped. -/
def obstacles (isOldStyle : Bool) (name : String) : List Obstacle :=
  let paragraph : Obstacle := ⟨ElementName.boundsParagraph, ["p"]⟩
  if (["hr", "listing", "pre", "xmp"] ++ blockNames).contains name then [paragraph]
  else if headingNames.contains name then [paragraph, ⟨fun _ => true, headingNames⟩]
  else if ["dd", "dt", "li"].contains name then [⟨boundsItem, itemNames name⟩, paragraph]
  else if name = "form" then [⟨fun _ => false, ["form"]⟩, paragraph]
  else if name = "table" then if isOldStyle then [] else [paragraph]
  else if name = "a" then [⟨marksFormatting, ["a"]⟩]
  else if name = "nobr" then [⟨ElementName.bounds, ["nobr"]⟩]
  else if name = "button" then [⟨ElementName.bounds, ["button"]⟩]
  else if ["optgroup", "option"].contains name then [⟨fun _ => true, ["option"]⟩]
  else if ["rb", "rp", "rt", "rtc"].contains name then
    [⟨fun _ => true, ElementName.impliedEndNames.filter fun n => ["rb", "rtc"].contains name || n != "rtc"⟩]
  else []

/-- The elements of a body that regular markup does not have: those with rules of their own for what is in them, and
those that the writer does not know to be without content. -/
def leftOutNames : List String :=
  ["basefont", "bgsound", "body", "frameset", "head", "html", "image", "keygen", "math", "plaintext", "select", "svg",
    "template"] ++ misplacedNames

/-- Whether an element can begin where others are open. -/
def admits (isOldStyle : Bool) (path : List String) (name : String) : Bool :=
  match placeIn path with
  | .flow => !leftOutNames.contains name && (obstacles isOldStyle name).all (!·.isMet path)
  | .head => ["base", "link", "meta", "noframes", "noscript", "script", "style", "title"].contains name
  | .table => ["caption", "colgroup", "script", "style", "tbody", "tfoot", "thead"].contains name
  | .rows => ["script", "style", "tr"].contains name
  | .row => ["script", "style", "td", "th"].contains name
  | .columns => name == "col"
  | .other => false

/-! ### Text -/

/-- The elements that hold nothing but text. -/
def textNames : List String :=
  ["iframe", "noembed", "noframes", "noscript", "script", "style", "textarea", "title", "xmp"]

/-- A text that is read in an element of its own as it was written. -/
structure IsTextOf (name : String) (s : List Char) : Prop where
  no_null : '\x00' ∉ s
  /-- A line feed at the start would be dropped. -/
  not_line : name = "textarea" → s.head? ≠ some '\n'
  /-- Where no references are read, the text must not end the element -/
  raw : name ∉ ["textarea", "title"] → IsRawTextIn name s
  /-- and must not be written with references, -/
  plain : name ∉ ["script", "style", "textarea", "title"] → escapeText s = s
  /-- and in a script no comment begins. -/
  no_comment : name = "script" → ¬ "<!--".toList <:+: s

instance (name : String) : DecidablePred (IsTextOf name) := fun s =>
  decidable_of_iff ('\x00' ∉ s ∧ (name = "textarea" → s.head? ≠ some '\n') ∧
      (name ∉ ["textarea", "title"] → IsRawTextIn name s) ∧
      (name ∉ ["script", "style", "textarea", "title"] → escapeText s = s) ∧
      (name = "script" → ¬ "<!--".toList <:+: s))
    ⟨fun ⟨h₁, h₂, h₃, h₄, h₅⟩ => ⟨h₁, h₂, h₃, h₄, h₅⟩, fun h => ⟨h.no_null, h.not_line, h.raw, h.plain, h.no_comment⟩⟩

/-- The names of elements in which a line feed at the start is dropped. -/
def lineNames : List String := ["listing", "pre"]

namespace Markup

/-- Whether a piece of markup is a text for which `p` holds. -/
def IsTextWith (p : List Char → Prop) : Markup → Prop
  | text t => t ≠ "" ∧ p t.toList
  | _ => False

instance (p : List Char → Prop) [DecidablePred p] : DecidablePred (IsTextWith p)
  | text t => inferInstanceAs (Decidable (t ≠ "" ∧ p t.toList))
  | doctype .. => inferInstanceAs (Decidable False)
  | element .. => inferInstanceAs (Decidable False)
  | comment _ => inferInstanceAs (Decidable False)

/-- Whether pieces of markup are nothing or one text for which `p` holds. -/
def HoldText (p : List Char → Prop) (children : List Markup) : Prop :=
  children.length ≤ 1 ∧ ∀ m ∈ children, IsTextWith p m

instance (p : List Char → Prop) [DecidablePred p] : DecidablePred (HoldText p) := fun children =>
  inferInstanceAs (Decidable (children.length ≤ 1 ∧ ∀ m ∈ children, IsTextWith p m))

theorem HoldText.cases {p : List Char → Prop} {children : List Markup} (h : HoldText p children) :
    children = [] ∨ ∃ t, children = [text t] ∧ t ≠ "" ∧ p t.toList := by
  obtain ⟨hlength, htext⟩ := h
  match children, hlength with
  | [], _ => exact .inl rfl
  | [m], _ =>
    have hm := htext m List.mem_cons_self
    match m, hm with
    | text t, hm => exact .inr ⟨t, rfl, hm⟩

mutual

/-- **Regular markup** of one node in elements that are open. -/
def IsRegular (isOldStyle : Bool) (path : List String) : Markup → Prop
  | doctype .. => False
  | text t => t ≠ "" ∧ '\x00' ∉ t.toList ∧ placeIn path ≠ .other ∧ (placeIn path ≠ .flow → t.toList.all isMarkupBlank)
  | comment t => placeIn path ≠ .other ∧ IsCommentText t.toList
  | element name attributes children =>
    IsReadableTag name attributes ∧ admits isOldStyle path name ∧
      if voidElements.contains name then children = []
      else if textNames.contains name then HoldText (IsTextOf name) children
      else (lineNames.contains name → (printAll children).head? ≠ some '\n') ∧
        AreRegular isOldStyle (name :: path) children

/-- **Regular markup** of nodes one after the other: no two of them are texts side by side. -/
def AreRegular (isOldStyle : Bool) (path : List String) : List Markup → Prop
  | [] => True
  | m :: rest => IsRegular isOldStyle path m ∧ (m.isText → ∀ next ∈ rest.head?, ¬ next.isText) ∧
      AreRegular isOldStyle path rest

end

mutual

/-- Whether markup is regular can be computed. -/
instance decidableIsRegular (isOldStyle : Bool) : ∀ path m, Decidable (IsRegular isOldStyle path m)
  | _, doctype .. => inferInstanceAs (Decidable False)
  | path, text t => inferInstanceAs (Decidable (t ≠ "" ∧ '\x00' ∉ t.toList ∧ placeIn path ≠ .other ∧
      (placeIn path ≠ .flow → t.toList.all isMarkupBlank)))
  | path, comment t => inferInstanceAs (Decidable (placeIn path ≠ .other ∧ IsCommentText t.toList))
  | path, element name attributes children =>
    have := decidableAreRegular isOldStyle (name :: path) children
    have : Decidable (children = []) := decidable_of_iff _ List.isEmpty_iff
    inferInstanceAs (Decidable (IsReadableTag name attributes ∧ admits isOldStyle path name ∧
      if voidElements.contains name then children = []
      else if textNames.contains name then HoldText (IsTextOf name) children
      else (lineNames.contains name → (printAll children).head? ≠ some '\n') ∧
        AreRegular isOldStyle (name :: path) children))

instance decidableAreRegular (isOldStyle : Bool) : ∀ path F, Decidable (AreRegular isOldStyle path F)
  | _, [] => inferInstanceAs (Decidable True)
  | path, m :: rest =>
    have := decidableIsRegular isOldStyle path m
    have := decidableAreRegular isOldStyle path rest
    inferInstanceAs (Decidable (IsRegular isOldStyle path m ∧ (m.isText → ∀ next ∈ rest.head?, ¬ next.isText) ∧
      AreRegular isOldStyle path rest))

end

theorem HoldText.areApart {p : List Char → Prop} {children : List Markup} (h : HoldText p children) :
    AreApart children := by
  rcases h.cases with rfl | ⟨t, rfl, -⟩
  · trivial
  · refine ⟨trivial, fun _ next hnext => ?_, trivial⟩
    cases hnext

mutual

/-- In regular markup no two texts stand side by side. -/
theorem IsRegular.isApart {isOldStyle : Bool} : ∀ {path : List String} {m : Markup}, IsRegular isOldStyle path m →
    IsApart m
  | _, doctype .., _ => trivial
  | _, text _, _ => trivial
  | _, comment _, _ => trivial
  | path, element name attributes children, h => by
    rw [IsRegular] at h
    obtain ⟨-, -, hchildren⟩ := h
    rw [IsApart]
    split at hchildren
    · rw [hchildren]
      trivial
    · split at hchildren
      · exact hchildren.areApart
      · exact AreRegular.areApart hchildren.2

theorem AreRegular.areApart {isOldStyle : Bool} : ∀ {path : List String} {F : List Markup},
    AreRegular isOldStyle path F → AreApart F
  | _, [], _ => trivial
  | path, m :: rest, h => by
    rw [AreRegular] at h
    exact ⟨h.1.isApart, h.2.1, h.2.2.areApart⟩

end

end Markup

end HtmlMail.Html
