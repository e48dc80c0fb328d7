import HtmlMail.Css.Stylesheet
import HtmlMail.Css.Style

/-!
# Inlining

The rules of a stylesheet are merged into the `style` attributes of the elements they describe. The
strongest rule comes first: what an element has already comes from an equal or stronger source, and only
an important declaration replaces it.

- `SelectorEngine` : what finds the elements of a selector; `selectText` is the usual one
- `mergedStyle` : a `style` attribute with the declarations of a rule merged in
- `inlineWith` : the stylesheet inlined, and the number of rules that were applied
-/

namespace HtmlMail.Css

open Dom

/-- What finds the nodes that the text of a selector describes. -/
abbrev SelectorEngine := Tree → String → Except SelectorError (List NodeId)

/-- The elements that the text of a selector describes, in document order. -/
def selectText : SelectorEngine := fun tree text =>
  (Selector.parse text).map fun selector => selector.select tree

/-- Whether a rule is at least as strong as another one: it has the greater specificity, or the same and
a later place. -/
def Rule.isAtLeast (a b : Rule) : Bool :=
  b.specificity < a.specificity || (a.specificity == b.specificity && b.order ≤ a.order)

/-- The rules from the strongest to the weakest. -/
def strongestFirst (rules : List Rule) : List Rule := rules.mergeSort Rule.isAtLeast

/-- The text of a `style` attribute with declarations merged in. An absent or blank one takes over the
declarations as they are written. -/
def mergedStyle (current : Option String) (declarations : String) : String :=
  match current with
  | none => declarations
  | some text =>
    if Text.isBlank text then declarations else ((Style.parse text).digestText declarations).text

/-- The tree with declarations merged into the style of each of the nodes. A node that is no element
stops the work; `true` says that there was none. -/
def styleNodes (declarations : String) : List NodeId → Tree → Bool × Tree
  | [], tree => (true, tree)
  | node :: rest, tree =>
    match tree.setAttribute node "style" (mergedStyle (tree.attribute? node "style") declarations) with
    | .error _ => (false, tree)
    | .ok tree => styleNodes declarations rest tree

/-- The tree with a rule applied, and whether the rule counts as applied: it has to describe some node,
and elements only. -/
def applyRule (engine : SelectorEngine) (tree : Tree) (rule : Rule) : Bool × Tree :=
  match engine tree rule.selector with
  | .error _ => (false, tree)
  | .ok nodes =>
    let (finished, tree) := styleNodes rule.declarations nodes tree
    (finished && !nodes.isEmpty, tree)

/-- The tree with rules applied one after the other, and the number of those applied. -/
def applyRules (engine : SelectorEngine) : List Rule → Tree → Nat × Tree
  | [], tree => (0, tree)
  | rule :: rest, tree =>
    let (applied, tree) := applyRule engine tree rule
    let (count, tree) := applyRules engine rest tree
    ((if applied then 1 else 0) + count, tree)

/-- The tree with a stylesheet inlined, and the number of rules applied. -/
def inlineWith (engine : SelectorEngine) (css : String) (tree : Tree) : Nat × Tree :=
  applyRules engine (strongestFirst (Rule.ofStylesheet css)) tree

/-- The tree with a stylesheet inlined. -/
def inlineCss (css : String) (tree : Tree) : Tree := (inlineWith selectText css tree).2

end HtmlMail.Css
