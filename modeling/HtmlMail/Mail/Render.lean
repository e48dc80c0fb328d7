import HtmlMail.Css.Inline
import HtmlMail.Css.LegacyAttributes
import HtmlMail.Html.Printer
import HtmlMail.Html.Reader
import HtmlMail.Mail.Config
import HtmlMail.Mail.Links
import HtmlMail.Template.Conditional

/-!
# Rendering a body

The body of a mail goes through all the stages: into its layout, tags replaced, links rewritten, styles
inlined, written out, URLs made absolute once more, tracking put in.

- `renderBody` : the body of a mail
- `headMarkup` : the markup for the head of its document
-/

namespace HtmlMail.Mail

open Template

/-- The template inside its layout, with tags replaced and conditional blocks resolved. -/
def fillTemplate (config : Config) (layout : Option Layout) (tags : List Tag) (template : String) :
    String :=
  let composed := compose config.contentMarker (layout.map (·.markup)) template
  let stripped := match config.editorLinkPrefix? with
    | some path => stripEditorPrefix path composed
    | none => composed
  Template.render tags stripped

/-- The document with the stylesheet of its layout inlined, if it is to be. -/
def styleDocument (layout : Option Layout) (doc : Dom.Document) : Dom.Document :=
  match layout.map Layout.styling with
  | some (.inline css) => doc.withTree (Css.backfill (Css.inlineCss css doc.tree))
  | _ => doc

/-- The markup with the tracking of the mail put in, if the mail has a number. -/
def trackMarkup (config : Config) (tracking : Tracking) (html : String) : String :=
  match tracking.mailId? with
  | some id => injectTracking config.trackingUrls id (tracking.token?.getD "") tracking.enabled html
  | none => html

/-- The body of a mail. An empty template has an empty one. -/
def renderBody (config : Config) (tracking : Tracking) (resolver : LinkResolver)
    (layout : Option Layout) (tags : List Tag) (template : String) : String :=
  if template = "" then ""
  else
    let doc := Html.readDocument (fillTemplate config layout tags template)
    -- Links come before styles: selectors see the targets as they are in the mail.
    let linked := doc.withTree
      (rewriteLinksAndAssets resolver config.websiteUrl tracking.activeId? doc.tree)
    let written := Html.printDocument (styleDocument layout linked)
    -- The pixel comes last, so its URL is written as it is.
    trackMarkup config tracking (absolutizeMarkup config.websiteUrl written)

/-- The markup for the head: the stylesheet of the layout if that stays in one piece, or else the one of
the site. -/
def headMarkup (config : Config) (layout : Option Layout) : String :=
  ((layout.bind fun l => l.styling.styleElement?)).getD config.headMarkup

end HtmlMail.Mail
