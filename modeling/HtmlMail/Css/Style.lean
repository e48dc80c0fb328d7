import HtmlMail.Css.Declaration

/-!
# The style of an element

A style is the list of declarations behind a `style` attribute. The order is the order of writing: a
declaration that is merged in goes to the front, where it gives way to the ones behind it, unless it is
important.

- `Style.parse` : the style that the text of an attribute denotes, one declaration for each property
- `Style.digest` : merges in a declaration that comes from a weaker source
- `Style.digestText` : merges in the declarations of a rule
- `Style.text` : how a style is written
-/

namespace HtmlMail.Css

/-- Declarations in the order of writing. -/
structure Style where
  declarations : List Declaration
  deriving DecidableEq, Repr

namespace Style

/-- The style without declarations. -/
def empty : Style := ⟨[]⟩

/-- The first declaration of a property. -/
def get? (style : Style) (property : String) : Option Declaration :=
  style.declarations.find? (·.property == property)

/-- The number of declarations. -/
def size (style : Style) : Nat := style.declarations.length

/-- The list with the first declaration of `d`'s property exchanged for `d`. -/
def replaceFirst (d : Declaration) : List Declaration → List Declaration
  | [] => []
  | e :: rest => if e.property = d.property then d :: rest else e :: replaceFirst d rest

/-- Adds a declaration that is written later in the same attribute. A property keeps the place where it
first stands; the later value counts unless only the earlier one is important. -/
def addLater (style : Style) (d : Declaration) : Style :=
  match style.get? d.property with
  | none => ⟨style.declarations ++ [d]⟩
  | some earlier =>
    if !earlier.important || d.important then ⟨replaceFirst d style.declarations⟩ else style

/-- The declarations a text denotes, separated by semicolons; pieces that are none are left out. -/
def declarationsOf (text : String) : List Declaration :=
  (Text.splitOnChar ';' text).filterMap Declaration.parse?

/-- The style that the text of an attribute denotes. -/
def parse (text : String) : Style := (declarationsOf text).foldl addLater empty

/-- Merges in a declaration from a weaker source.

- A property that is declared keeps its value, unless only the new one is important.
- A longhand whose shorthand is declared is written behind it if only the longhand is important, and
  else is dropped.
- Any other declaration is written in front. -/
def digest (style : Style) (d : Declaration) : Style :=
  match style.get? d.property with
  | some present =>
    if !present.important && d.important then ⟨replaceFirst d style.declarations⟩ else style
  | none =>
    match style.get? d.baseProperty with
    | some base =>
      if !base.important && d.important then ⟨style.declarations ++ [d]⟩ else style
    | none => ⟨d :: style.declarations⟩

/-- Merges in the declarations of a rule, from the last to the first. -/
def digestText (style : Style) (declarations : String) : Style :=
  (declarationsOf declarations).reverse.foldl digest style

/-- How a style is written. -/
def text (style : Style) : String :=
  String.intercalate ";" (style.declarations.map Declaration.text)

end Style

end HtmlMail.Css
