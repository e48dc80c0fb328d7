import HtmlMail.Text.Blank
import HtmlMail.Text.Search

/-!
# Layouts

A layout is the markup around the content of a mail, with a marker where the content goes, and a
stylesheet.

- `Layout` : markup, stylesheet and what is to be done with the stylesheet
- `Layout.styling` : how the stylesheet reaches the mail
- `compose` : the content inside the layout
-/

namespace HtmlMail.Template

/-- The marker that stands for the content unless another one is agreed on. -/
def defaultContentMarker : String := "[#content#]"

/-- The markup around a mail and its stylesheet. -/
structure Layout where
  /-- Markup with a marker for the content. -/
  markup : String
  /-- The stylesheet, possibly blank. -/
  css : String
  /-- Whether the stylesheet stays in one piece. -/
  keepsStyleBlock : Bool
  deriving DecidableEq, Repr

/-- How a stylesheet reaches the mail. -/
inductive Styling where
  /-- Rule by rule, in the `style` attributes of the elements. -/
  | inline (css : String)
  /-- In one piece, as a `style` element. -/
  | block (css : String)
  /-- There is none. -/
  | absent
  deriving DecidableEq, Repr

/-- A blank stylesheet counts as none. -/
def Layout.styling (layout : Layout) : Styling :=
  if Text.isBlank layout.css then .absent
  else if layout.keepsStyleBlock then .block layout.css
  else .inline layout.css

/-- The element that holds a stylesheet in one piece. -/
def Styling.styleElement? : Styling → Option String
  | .block css => some ("<style>" ++ css ++ "</style>")
  | _ => none

/-- The content in place of the first marker of the layout's markup. Empty markup stands for no layout;
markup without the marker is the whole result. -/
def compose (marker : String) (layout : Option String) (content : String) : String :=
  match layout with
  | none => content
  | some markup =>
    if markup = "" then content
    else if marker = "" then markup
    else Text.replaceFirst marker content markup

end HtmlMail.Template
