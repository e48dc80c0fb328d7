import HtmlMail.Css.Style
import HtmlMail.Dom.Tree

/-!
# Attributes for old mail programs

Some mail programs ignore styles on tables. The alignment and the background of `table`, `tr`, `td` and
`p` are therefore written into the attributes `valign`, `align` and `bgcolor` as well. Afterwards no
style is important any more.

- `backfill` : the attributes written, the marks of importance removed
- `stripImportant` : only the marks removed
-/

namespace HtmlMail.Css

open Chars Dom

/-- The tags whose style is written into attributes. -/
def backfilledTags : List String := ["table", "tr", "td", "p"]

/-- The attribute that says the same as a property on an element of the given tag. -/
def legacyAttribute? (tag property : String) : Option String :=
  match property with
  | "vertical-align" => if tag = "table" ∨ tag = "tr" then none else some "valign"
  | "text-align" => some "align"
  | "background" | "background-color" => some "bgcolor"
  | _ => none

/-- The attributes of an element with a declaration written into one of them. An attribute that is there
gives way to an important declaration only. -/
def addLegacy (tag : String) (as : Attributes) (d : Declaration) : Attributes :=
  match legacyAttribute? tag d.property with
  | none => as
  | some name => if !as.contains name || d.important then as.insert name d.value else as

/-- The attributes of an element with its style written into them, the last declaration first. -/
def addLegacyAll (tag : String) (as : Attributes) : Attributes :=
  match as.get? "style" with
  | none => as
  | some style => (Style.parse style).declarations.reverse.foldl (addLegacy tag) as

/-- What follows a mark of importance at the start of a text, blanks in front of it included. -/
def afterImportantMark? (s : List Char) : Option (List Char) :=
  match trimStart s with
  | '!' :: rest => dropPrefixIgnoringCase? "important".toList (trimStart rest)
  | _ => none

/-- A mark of importance is not empty. -/
theorem length_afterImportantMark?_lt {s after : List Char} (h : afterImportantMark? s = some after) :
    after.length < s.length := by
  have hs := length_trimStart_le s
  simp only [afterImportantMark?] at h
  split at h
  · next rest ht =>
    have ha := (isSuffix_of_dropPrefixIgnoringCase? h).length_le
    have hr := length_trimStart_le rest
    simp only [ht, List.length_cons] at hs
    omega
  · simp at h

/-- The text without its marks of importance and the blanks in front of them. -/
def dropImportantMarks : List Char → List Char
  | [] => []
  | c :: rest =>
    match _h : afterImportantMark? (c :: rest) with
    | none => c :: dropImportantMarks rest
    | some after => dropImportantMarks after
termination_by s => s.length
decreasing_by
  · exact Nat.lt_succ_self _
  · exact length_afterImportantMark?_lt _h

/-- The attributes of an element without marks of importance in its style. -/
def withoutImportant (as : Attributes) : Attributes :=
  match as.get? "style" with
  | none => as
  | some style => as.insert "style" (String.ofList (dropImportantMarks style.toList))

/-- The tree without marks of importance in the styles of its elements. -/
def stripImportant (tree : Tree) : Tree :=
  tree.elements.foldl (fun tree node => tree.modifyAttributes node withoutImportant) tree

/-- The tree with the styles of table markup written into attributes, and without marks of importance. -/
def backfill (tree : Tree) : Tree :=
  stripImportant <| (tree.elementsNamed backfilledTags).foldl
    (fun tree node => tree.modifyAttributes node (addLegacyAll ((tree.tagName? node).getD ""))) tree

end HtmlMail.Css
