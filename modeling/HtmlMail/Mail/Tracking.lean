import HtmlMail.Text.AsciiCase
import HtmlMail.Url.Form

/-!
# Tracking

A mail that is tracked carries three kinds of URLs, all below the site with a query that names the mail:
one for the web version, one in front of every link that is followed, and one of an invisible image that
is loaded when the mail is read.

- `clickUrl`, `webVersionUrl`, `trackingPixel` : what is written into the mail
- `injectTracking` : the web version and the pixel put into a mail
- `stripPixel` : the pixels taken out again
-/

namespace HtmlMail.Mail

open Chars

/-- What is reported about a mail. -/
inductive TrackingAction where
  | view
  | click
  | webVersion
  deriving DecidableEq, Repr

namespace TrackingAction

/-- How an action is named in a query. -/
def name : TrackingAction → String
  | view => "view"
  | click => "click"
  | webVersion => "webversion"

/-- The action of a name in any case. -/
def ofName? (text : String) : Option TrackingAction :=
  [view, click, webVersion].find? fun action => Text.eqIgnoringCase text action.name

end TrackingAction

/-- Where tracking URLs point to, and where a mail shows the one of its web version. -/
structure TrackingUrls where
  /-- The URL of the site, without a slash at its end. -/
  baseUrl : String
  /-- The path of the invisible image below the site. -/
  pixelPath : String
  /-- What stands in a mail for the URL of its web version. -/
  webVersionMarker : String
  deriving DecidableEq, Repr

/-- The query of a mail and an action. -/
def trackingQuery (id : String) (action : TrackingAction) : String :=
  "?i=" ++ id ++ "&a=" ++ action.name

/-- The URL that reports a click and leads on to the target. -/
def clickUrl (baseUrl id target : String) : String :=
  baseUrl ++ trackingQuery id .click ++ "&v=" ++ Url.Form.encode target

/-- The URL of the web version of a mail, with the token that allows to see it. -/
def webVersionUrl (baseUrl id token : String) : String :=
  baseUrl ++ trackingQuery id .webVersion ++ "&auth=" ++ Url.Form.encode token

/-- The invisible image that reports a view. -/
def trackingPixel (urls : TrackingUrls) (id : String) : String :=
  "<img style=\"opacity:0\" src=\"" ++ urls.baseUrl ++ urls.pixelPath ++ trackingQuery id .view ++
    "&ipignore=true\">"

/-- What stands in front of the last occurrence of `pat` in any ASCII case, and the rest from there on. -/
def splitBeforeLast? (pat s : List Char) : Option (List Char × List Char) :=
  (splitLast? (lower pat) (lower s)).map fun (before, _) =>
    (s.take before.length, s.drop before.length)

/-- The markup with `extra` in front of the last end of a body, or else at its end. -/
def insertBeforeBodyEnd (extra html : String) : String :=
  match splitBeforeLast? "</body>".toList html.toList with
  | some (before, rest) => String.ofList (before ++ extra.toList ++ rest)
  | none => html ++ extra

/-- The markup with the URL of the web version in place of its marker. -/
def insertWebVersion (urls : TrackingUrls) (id token html : String) : String :=
  if urls.webVersionMarker = "" then html
  else Text.replaceAll urls.webVersionMarker (webVersionUrl urls.baseUrl id token) html

/-- The markup with the URL of the web version and, if `enabled`, with the pixel, unless it is there
already. -/
def injectTracking (urls : TrackingUrls) (id token : String) (enabled : Bool) (html : String) : String :=
  let html := insertWebVersion urls id token html
  let pixel := trackingPixel urls id
  if !enabled || Text.contains pixel html then html else insertBeforeBodyEnd pixel html

/-- What follows an image, read from inside the value of its source, if the value holds `path` here: the
value goes on up to a double quote, and the tag up to its closing angle bracket. -/
def afterPixelPath? (path s : List Char) : Option (List Char) :=
  (path.isPrefixOf? s).bind fun afterPath =>
    (splitAtChar? '"' afterPath).bind fun (_, tag) => (splitAtChar? '>' tag).map (·.2)

/-- What follows an image, read from inside the value of its source, if the value holds `path`. -/
def afterPixelSource? (path : List Char) : List Char → Option (List Char)
  | [] => afterPixelPath? path []
  | c :: rest =>
    match afterPixelPath? path (c :: rest) with
    | some after => some after
    | none => if c = '"' then none else afterPixelSource? path rest

/-- What follows an image whose source holds `path`, read from inside its tag. -/
def afterPixelTag? (path : List Char) : List Char → Option (List Char)
  | [] => none
  | c :: rest =>
    match ("src=\"".toList.isPrefixOf? (c :: rest)).bind (afterPixelSource? path) with
    | some after => some after
    | none => if c = '>' then none else afterPixelTag? path rest

/-- What follows an image at the start of a text whose source holds `path`. -/
def afterPixel? (path : List Char) (s : List Char) : Option (List Char) :=
  ("<img".toList.isPrefixOf? s).bind (afterPixelTag? path)

theorem afterPixelPath?_isSuffix {path s after : List Char} (h : afterPixelPath? path s = some after) :
    after <:+ s := by
  obtain ⟨afterPath, hp, h⟩ := Option.bind_eq_some_iff.1 h
  obtain ⟨⟨_, tag⟩, hq, h⟩ := Option.bind_eq_some_iff.1 h
  obtain ⟨⟨_, a⟩, ha, rfl⟩ := Option.map_eq_some_iff.1 h
  exact ((isSuffix_of_splitAtChar? ha).trans (isSuffix_of_splitAtChar? hq)).trans
    (isSuffix_of_isPrefixOf? hp)

theorem afterPixelSource?_isSuffix {path s after : List Char}
    (h : afterPixelSource? path s = some after) : after <:+ s := by
  induction s with
  | nil => exact afterPixelPath?_isSuffix h
  | cons c rest ih =>
    unfold afterPixelSource? at h
    split at h
    · next a ha => exact Option.some.inj h ▸ afterPixelPath?_isSuffix ha
    · split at h
      · simp at h
      · exact (ih h).trans (List.suffix_cons _ _)

theorem afterPixelTag?_isSuffix {path s after : List Char}
    (h : afterPixelTag? path s = some after) : after <:+ s := by
  induction s with
  | nil => simp [afterPixelTag?] at h
  | cons c rest ih =>
    unfold afterPixelTag? at h
    split at h
    · next a ha =>
      obtain ⟨value, hp, hv⟩ := Option.bind_eq_some_iff.1 ha
      exact Option.some.inj h ▸ (afterPixelSource?_isSuffix hv).trans (isSuffix_of_isPrefixOf? hp)
    · split at h
      · simp at h
      · exact (ih h).trans (List.suffix_cons _ _)

/-- The tag of an image is not empty. -/
theorem length_afterPixel?_lt {path s after : List Char} (h : afterPixel? path s = some after) :
    after.length < s.length := by
  obtain ⟨tag, hp, ht⟩ := Option.bind_eq_some_iff.1 h
  have hs := congrArg List.length (eq_append_of_isPrefixOf? hp)
  have ha := (afterPixelTag?_isSuffix ht).length_le
  have himg : "<img".toList.length = 4 := by decide
  simp only [List.length_append, himg] at hs
  omega

/-- The text without the images whose source holds `path`. -/
def dropPixels (path : List Char) : List Char → List Char
  | [] => []
  | c :: rest =>
    match _h : afterPixel? path (c :: rest) with
    | none => c :: dropPixels path rest
    | some after => dropPixels path after
termination_by s => s.length
decreasing_by
  · exact Nat.lt_succ_self _
  · exact length_afterPixel?_lt _h

/-- The markup without the images whose source holds `path`.

The path is sought as it is written, whatever its length. A search by a pattern that refuses patterns beyond a certain
size would leave the markup as it is at a path too long for it. That case is left out. -/
def stripPixel (path html : String) : String := String.ofList (dropPixels path.toList html.toList)

end HtmlMail.Mail
