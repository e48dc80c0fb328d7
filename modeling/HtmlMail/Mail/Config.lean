import HtmlMail.Mail.Tracking
import HtmlMail.Template.Layout

/-!
# Configuration

What is fixed for a site, and what is known about the tracking of one mail.

- `Config` : the settings of a site; `Config.default` stands for those that are not given
- `Tracking` : the tracking of one mail
-/

namespace HtmlMail.Mail

/-- The stylesheet of a mail whose layout has none in one piece. -/
def defaultHeadCss : String := "html,body,p,div\x7bfont-family:Verdana,Arial;font-size:11px;\x7d"

/-- The settings of a site. -/
structure Config where
  /-- The URL of the site, without a slash at its end. -/
  websiteUrl : String
  /-- What stands for the content in a layout. -/
  contentMarker : String
  /-- What stands for the URL of the web version. -/
  webVersionMarker : String
  /-- The path of the tracking pixel below the site. -/
  pixelPath : String
  /-- What the editor puts in front of tokens in targets. -/
  editorLinkPrefix? : Option String
  /-- The stylesheet for the head; a blank one counts as none. -/
  headCss : String
  deriving DecidableEq, Repr

namespace Config

/-- The settings that hold where nothing else is said. -/
def default : Config where
  websiteUrl := "http://localhost"
  contentMarker := Template.defaultContentMarker
  webVersionMarker := "[#webversion#]"
  pixelPath := "/s.gif"
  editorLinkPrefix? := some "/umbraco/"
  headCss := defaultHeadCss

/-- Where the tracking URLs of a site point to. -/
def trackingUrls (config : Config) : TrackingUrls :=
  ⟨config.websiteUrl, config.pixelPath, config.webVersionMarker⟩

/-- The markup for the head of a mail whose layout brings none. -/
def headMarkup (config : Config) : String :=
  if Text.isBlank config.headCss then "" else "<style>" ++ config.headCss ++ "</style>"

end Config

/-- The tracking of one mail. -/
structure Tracking where
  /-- Whether clicks and views are reported. -/
  enabled : Bool
  /-- The number the mail will be filed under. -/
  mailId? : Option String
  /-- The token that allows to see the web version. -/
  token? : Option String
  deriving DecidableEq, Repr

namespace Tracking

/-- No tracking at all. -/
def disabled : Tracking := ⟨false, none, none⟩

/-- The number of the mail, if clicks are reported. -/
def activeId? (tracking : Tracking) : Option String :=
  if tracking.enabled then tracking.mailId? else none

end Tracking

end HtmlMail.Mail
