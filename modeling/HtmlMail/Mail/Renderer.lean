import HtmlMail.Mail.Render
import HtmlMail.Template.Envelope
import HtmlMail.Template.Subject

/-!
# Renderers

A renderer knows a site and its collaborators. A collaborator that fails is never an error of the mail:
without a layout the mail has none, without a number it is not tracked, without a token the web version
has an empty one.

- `Renderer.render` : the mail of a template
- `Renderer.tracking` : what the collaborators say about tracking
-/

namespace HtmlMail.Mail

open Template

/-- The collaborators that tracking needs. -/
structure TrackingServices where
  mailIds : MailIdSource
  signer : Signer

/-- A site with its collaborators. -/
structure Renderer where
  config : Config
  layouts : LayoutSource
  links : LinkResolver
  /-- Without it mails are not tracked. -/
  tracking? : Option TrackingServices

/-- A mail that can be sent. -/
structure RenderedMail where
  /-- The body on its own. -/
  body : String
  /-- The whole document. -/
  html : String
  /-- The number the mail will be filed under, if it is tracked. -/
  mailId? : Option String
  deriving DecidableEq, Repr

namespace Renderer

/-- The layout of the mail, if the collaborator has one. -/
def layout? (renderer : Renderer) : Option Layout :=
  match renderer.layouts with
  | .ok layout? => layout?
  | .error _ => none

/-- The tracking of the mail, as far as the collaborators answer. -/
def tracking (renderer : Renderer) : Tracking :=
  match renderer.tracking? with
  | none => .disabled
  | some services =>
    match services.mailIds with
    | .error _ => .disabled
    | .ok id => ⟨true, some id, (services.signer id).toOption⟩

/-- The mail of a template. -/
def render (renderer : Renderer) (tags : List Tag) (template : String) : RenderedMail :=
  let layout? := renderer.layout?
  let tracking := renderer.tracking
  let body := renderBody renderer.config tracking renderer.links layout? tags template
  { body := body
    html := if body = "" then "" else wrap (headMarkup renderer.config layout?) body
    mailId? := tracking.mailId? }

end Renderer

end HtmlMail.Mail
