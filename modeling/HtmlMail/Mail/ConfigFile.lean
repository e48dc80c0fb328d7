import HtmlMail.Mail.Config
import HtmlMail.Text.Quoted
import HtmlMail.Toml.Reader
import HtmlMail.Url.Absolute

/-!
# Configuration files

The settings of a site can be kept in a TOML document, one key for each. What is not given keeps its
default, keys of other names do not count, and the result has to make sense.

- `Config.validate` : what is wrong with settings, if anything
- `Config.ofToml` : the settings of a document
- `ConfigError.message?` : the wording of the errors
-/

namespace HtmlMail.Mail

/-- What is wrong with the URL of a site. -/
inductive UrlFault where
  | notAbsolute
  | notWeb
  /-- Paths that begin with a slash are put behind it. -/
  | trailingSlash
  deriving DecidableEq, Repr

/-- The settings that stand for something in a text. -/
inductive Marker where
  | content
  | webVersion
  deriving DecidableEq, Repr

/-- What is wrong with settings. -/
inductive ConfigError where
  /-- The document is no TOML, or the value of a setting is no text. -/
  | malformed
  | invalidUrl (url : String) (fault : UrlFault)
  | invalidPixelPath (path : String)
  | emptyMarker (marker : Marker)
  deriving DecidableEq, Repr

/-- The wording of the fault. -/
def UrlFault.message : UrlFault → String
  | .notAbsolute => "not an absolute URL"
  | .notWeb => "scheme must be http or https"
  | .trailingSlash => "must not end with '/'"

/-- The key of the setting in a document. -/
def Marker.key : Marker → String
  | .content => "content_marker"
  | .webVersion => "web_version_marker"

/-- The wording of the error. A malformed document has none. -/
def ConfigError.message? : ConfigError → Option String
  | .malformed => none
  | .invalidUrl url fault => some ("Invalid website_url " ++ Text.quote url ++ ": " ++ fault.message)
  | .invalidPixelPath path => some ("pixel_path " ++ Text.quote path ++ " must start with '/'")
  | .emptyMarker marker => some (marker.key ++ " must not be empty")

/-- What is wrong with the URL of a site, if anything. -/
def urlFault? (url : String) : Option UrlFault :=
  match Url.scheme? url with
  | none => some .notAbsolute
  | some scheme =>
    if scheme ≠ "http" ∧ scheme ≠ "https" then some .notWeb
    else if url.toList.getLast? = some '/' then some .trailingSlash
    else none

namespace Config

/-- The first thing that is wrong with settings, if any. -/
def fault? (config : Config) : Option ConfigError :=
  match urlFault? config.websiteUrl with
  | some fault => some (.invalidUrl config.websiteUrl fault)
  | none =>
    if config.pixelPath.toList.head? ≠ some '/' then some (.invalidPixelPath config.pixelPath)
    else if config.contentMarker = "" then some (.emptyMarker .content)
    else if config.webVersionMarker = "" then some (.emptyMarker .webVersion)
    else none

/-- The settings, if nothing is wrong with them. -/
def validate (config : Config) : Except ConfigError Config :=
  match config.fault? with
  | some e => .error e
  | none => .ok config

/-- The text that a key stands for, if there is such a key. -/
def setting? (entries : Toml.Entries) (key : String) : Except ConfigError (Option String) :=
  match entries.get? key with
  | none => .ok none
  | some (.text value) => .ok (some value)
  | some _ => .error .malformed

/-- The settings of the entries of a document, unchecked. -/
def ofEntries (entries : Toml.Entries) : Except ConfigError Config := do
  let websiteUrl? ← setting? entries "website_url"
  let contentMarker? ← setting? entries Marker.content.key
  let webVersionMarker? ← setting? entries Marker.webVersion.key
  let pixelPath? ← setting? entries "pixel_path"
  let editorLinkPrefix? ← setting? entries "editor_link_prefix"
  let headCss? ← setting? entries "default_head_css"
  return {
    websiteUrl := websiteUrl?.getD default.websiteUrl
    contentMarker := contentMarker?.getD default.contentMarker
    webVersionMarker := webVersionMarker?.getD default.webVersionMarker
    pixelPath := pixelPath?.getD default.pixelPath
    editorLinkPrefix? := editorLinkPrefix? <|> default.editorLinkPrefix?
    headCss := headCss?.getD default.headCss }

/-- The settings of a document. -/
def ofToml (document : String) : Except ConfigError Config :=
  match Toml.read? document with
  | none => .error .malformed
  | some entries => (ofEntries entries).bind validate

end Config

end HtmlMail.Mail
