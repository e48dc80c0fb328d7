import HtmlMail.Dom.Tree
import HtmlMail.Mail.Collaborator
import HtmlMail.Mail.Tracking
import HtmlMail.Template.Tag

/-!
# Links

Nothing in a mail can be relative to the site, because a mail is not read there. Links and images get the
URL of the site in front, references to content are resolved, and links may be led through the click
report.

- `rewriteHref` : the target of one link
- `rewriteHyperlinks`, `absolutizeAssets` : the links and the images of a tree
- `absolutizeMarkup`, `stripEditorPrefix` : the same ends by text, where there is no tree
-/

namespace HtmlMail.Mail

open Chars Dom

/-- How a reference to a piece of content begins. -/
def contentReferenceStart : List Char := "/\x7blocalLink:".toList

/-- The number in the first reference to a piece of content that a target holds. -/
def contentId? (href : List Char) : Option Nat :=
  (splitFirst? contentReferenceStart href).bind fun (_, rest) =>
    (splitAtChar? '\x7d' rest).bind fun (id, _) => unsigned64? (trim id)

/-- The target with a reference to content resolved. A target that holds none, or one without an answer,
stays as it is. -/
def resolveContent (resolver : LinkResolver) (href : String) : String :=
  ((contentId? href.toList).bind resolver.url?).getD href

/-- A target without what an editor puts in front of a whole URL, and with the URL of the site in front
if it begins with a slash. -/
def absoluteTarget (baseUrl : String) (href : List Char) : String :=
  let bare :=
    if "//".toList.isPrefixOf href || "/http".toList.isPrefixOf href then href.drop 1 else href
  if ['/'].isPrefixOf bare then baseUrl ++ String.ofList bare else String.ofList bare

/-- The target of a link. One that still holds the token of a tag begins with it; any other is made
absolute and, with the number of a mail, led through its click report. -/
def rewriteHref (resolver : LinkResolver) (baseUrl : String) (mailId : Option String) (href : String) :
    String :=
  let resolved := (resolveContent resolver href).toList
  if contains Template.tokenStart.toList resolved then String.ofList (resolved.dropWhile (· != '['))
  else
    let target := absoluteTarget baseUrl resolved
    match mailId with
    | some id => clickUrl baseUrl id target
    | none => target

/-- The attributes of a link that opens in a new window and has its target rewritten. -/
def linkAttributes (rewrite : String → String) (as : Attributes) : Attributes :=
  let as := as.insert "target" "_blank"
  match as.get? "href" with
  | none => as
  | some href => if href = "" then as else as.insert "href" (rewrite href)

/-- The tree with its links rewritten, and the number of links. -/
def rewriteHyperlinks (resolver : LinkResolver) (baseUrl : String) (mailId : Option String)
    (tree : Tree) : Nat × Tree :=
  let anchors := tree.elementsNamed ["a"]
  let rewrite := linkAttributes (rewriteHref resolver baseUrl mailId)
  (anchors.length, anchors.foldl (fun tree node => tree.modifyAttributes node rewrite) tree)

/-- The attribute that holds the URL of an image or a background, if it begins with a slash. -/
def relativeAsset? (as : Attributes) : Option (String × String) :=
  let asset? := match as.get? "src" with
    | some value => some ("src", value)
    | none => (as.get? "background").map fun value => ("background", value)
  asset?.filter fun (_, value) => Text.startsWith "/" value

/-- The attributes of an element with the URL of its image or background made absolute. -/
def absoluteAssets (baseUrl : String) (as : Attributes) : Attributes :=
  match relativeAsset? as with
  | none => as
  | some (name, value) => as.insert name (baseUrl ++ value)

/-- The tree with the URLs of its images made absolute, and the number of URLs that were relative. -/
def absolutizeAssets (baseUrl : String) (tree : Tree) : Nat × Tree :=
  let nodes := tree.elements.filter fun node =>
    ((tree.element? node).bind fun e => relativeAsset? e.attributes).isSome
  (nodes.length,
    nodes.foldl (fun tree node => tree.modifyAttributes node (absoluteAssets baseUrl)) tree)

/-- The tree with its links rewritten and the URLs of its images made absolute. -/
def rewriteLinksAndAssets (resolver : LinkResolver) (baseUrl : String) (mailId : Option String)
    (tree : Tree) : Tree :=
  (absolutizeAssets baseUrl (rewriteHyperlinks resolver baseUrl mailId tree).2).2

/-- How an attribute whose value begins with the given text is written, up to there. -/
def attributeStart (name valueStart : String) : String := name ++ "=\"" ++ valueStart

/-- The markup with the URL of the site in front of every value of `src`, `href` and `background` that
begins with a slash, wherever it stands. -/
def absolutizeMarkup (baseUrl html : String) : String :=
  ["src", "href", "background"].foldl (fun html name =>
    Text.replaceAll (attributeStart name "/") (attributeStart name (baseUrl ++ "/")) html) html

/-- The markup without the path that an editor puts in front of a token in a target or a source. -/
def stripEditorPrefix (path html : String) : String :=
  if path = "" then html
  else ["href", "src"].foldl (fun html name =>
    Text.replaceAll (attributeStart name (path ++ Template.tokenStart))
      (attributeStart name Template.tokenStart) html) html

end HtmlMail.Mail
