import HtmlMail.Html.Construction.Table

/-!
# All rules

The rules for selections, templates, frames, the end of a document and other languages, and the choice of
the rules that a token falls under.

- `rulesOf` : the rules of a mode
- `foreignRules` : the rules in formulas and drawings
- `State.feed` : the state behind a token
-/

namespace HtmlMail.Html.Construction

open Dom

/-- Closes the selection that is open and goes on with the same token. -/
def leaveSelect : Build Outcome := do
  popUntilNamed ["select"]
  return .again (← get).resetMode

/-- The rules in a selection. -/
def selectRules (token : Token) : Build Outcome := do
  let popIf (names : List String) : Build Unit := do
    if (← get).currentIs names then pop
  match token with
  | .blanks text | .text text =>
    insertText text
    return .done
  | .comment text =>
    insertComment text
    return .done
  | .tag tag =>
    let s ← get
    if tag.opens ["html"] then mergeHtml tag
    else if tag.opens ["option"] then
      popIf ["option"]
      insertElement tag
      return .done
    else if tag.opens ["optgroup", "hr"] then
      popIf ["option"]
      popIf ["optgroup"]
      if tag.name = "hr" then insertVoid tag else insertElement tag
      return .done
    else if tag.closes ["optgroup"] then
      if s.currentIs ["option"] && s.stack[1]?.any (s.isHtml · ["optgroup"]) then pop
      popIf ["optgroup"]
      return .done
    else if tag.closes ["option"] then
      popIf ["option"]
      return .done
    else if tag.opens ["select"] || tag.closes ["select"] then
      if s.isOpenNamed ElementName.boundsSelect ["select"] then
        popUntilNamed ["select"]
        resetMode
      return .done
    else if tag.opens ["input", "keygen", "textarea"] then
      if s.isOpenNamed ElementName.boundsSelect ["select"] then leaveSelect else ignored
    else if tag.opens ["script", "template"] || tag.closes ["template"] then metadataRules tag
    else ignored
  | .endOfInput => bodyRules token
  | _ => ignored

/-- The rules in a selection that stands in a table. -/
def selectInTableRules (token : Token) : Build Outcome := do
  let parts : List String := ["caption", "table", "tbody", "td", "tfoot", "th", "thead", "tr"]
  match token with
  | .tag tag =>
    if tag.opens parts then leaveSelect
    else if tag.closes parts then
      if (← get).isOpenNamed ElementName.boundsTable [tag.name] then leaveSelect else ignored
    else selectRules token
  | _ => selectRules token

/-- The rules in a template, which depend on the first element in it. -/
def templateRules (token : Token) : Build Outcome := do
  let enter (mode : Mode) : Build Outcome := do
    modify fun s => { s with templateModes := mode :: s.templateModes.tail }
    return .again mode
  match token with
  | .blanks _ | .text _ | .comment _ => bodyRules token
  | .tag tag =>
    if tag.opens metadataNames || tag.closes ["template"] then metadataRules tag
    else if tag.opens ["caption", "colgroup", "tbody", "tfoot", "thead"] then enter .inTable
    else if tag.opens ["col"] then enter .inColumnGroup
    else if tag.opens ["tr"] then enter .inTableBody
    else if tag.opens ["td", "th"] then enter .inRow
    else if tag.isEnd then ignored
    else enter .inBody
  | .endOfInput => templateEndRules
  | _ => ignored

/-- The rules behind the body. -/
def afterBodyRules (token : Token) : Build Outcome := do
  match token with
  | .blanks _ => bodyRules token
  | .comment text =>
    insertCommentIn (← get).htmlNode text
    return .done
  | .tag tag =>
    if tag.opens ["html"] then mergeHtml tag
    else if tag.closes ["html"] then
      setMode .afterAfterBody
      return .done
    else return .again .inBody
  | .endOfInput => ignored
  | _ => return .again .inBody

/-- The rules behind the document. -/
def afterAfterBodyRules (token : Token) : Build Outcome := do
  match token with
  | .blanks _ => bodyRules token
  | .comment text =>
    insertCommentIn Forest.document text
    return .done
  | .tag tag => if tag.opens ["html"] then mergeHtml tag else return .again .inBody
  | .endOfInput => ignored
  | _ => return .again .inBody

/-- The rules in a set of frames. -/
def framesetRules (token : Token) : Build Outcome := do
  match token with
  | .blanks text =>
    insertText text
    return .done
  | .comment text =>
    insertComment text
    return .done
  | .tag tag =>
    if tag.opens ["html"] then mergeHtml tag
    else if tag.opens ["frameset"] then
      insertElement tag
      return .done
    else if tag.closes ["frameset"] then
      if (← get).stack.length ≠ 1 then
        pop
        if !(← get).currentIs ["frameset"] then setMode .afterFrameset
      return .done
    else if tag.opens ["frame"] then
      insertVoid tag
      return .done
    else if tag.opens ["noframes"] then metadataRules tag
    else ignored
  | _ => ignored

/-- The rules behind a set of frames. -/
def afterFramesetRules (token : Token) : Build Outcome := do
  match token with
  | .blanks text =>
    insertText text
    return .done
  | .comment text =>
    insertComment text
    return .done
  | .tag tag =>
    if tag.opens ["html"] then mergeHtml tag
    else if tag.closes ["html"] then
      setMode .afterAfterFrameset
      return .done
    else if tag.opens ["noframes"] then metadataRules tag
    else ignored
  | _ => ignored

/-- The rules behind a document of frames. -/
def afterAfterFramesetRules (token : Token) : Build Outcome := do
  match token with
  | .blanks _ => bodyRules token
  | .comment text =>
    insertCommentIn Forest.document text
    return .done
  | .tag tag =>
    if tag.opens ["html"] then mergeHtml tag
    else if tag.opens ["noframes"] then metadataRules tag
    else ignored
  | _ => ignored

/-- The rules of a mode. -/
def rulesOf (mode : Mode) (token : Token) : Build Outcome :=
  match mode with
  | .initial => initialRules token
  | .beforeHtml => beforeHtmlRules token
  | .beforeHead => beforeHeadRules token
  | .inHead => inHeadRules token
  | .afterHead => afterHeadRules token
  | .inBody => bodyRules token
  | .text => textRules token
  | .inTable => tableRules token
  | .inTableText => tableTextRules token
  | .inCaption => captionRules token
  | .inColumnGroup => columnGroupRules token
  | .inTableBody => tableBodyRules token
  | .inRow => rowRules token
  | .inCell => cellRules token
  | .inSelect => selectRules token
  | .inSelectInTable => selectInTableRules token
  | .inTemplate => templateRules token
  | .afterBody => afterBodyRules token
  | .inFrameset => framesetRules token
  | .afterFrameset => afterFramesetRules token
  | .afterAfterBody => afterAfterBodyRules token
  | .afterAfterFrameset => afterAfterFramesetRules token

/-- The start tags that end a formula or a drawing. -/
def breakoutNames : List String :=
  ["b", "big", "blockquote", "body", "br", "center", "code", "dd", "div", "dl", "dt", "em", "embed",
    "h1", "h2", "h3", "h4", "h5", "h6", "head", "hr", "i", "img", "li", "listing", "menu", "meta",
    "nobr", "ol", "p", "pre", "ruby", "s", "small", "span", "strong", "strike", "sub", "sup", "table",
    "tt", "u", "ul", "var"]

/-- Whether a tag ends a formula or a drawing. -/
def breaksOut (tag : Tag) : Bool :=
  tag.opens breakoutNames || tag.closes ["br", "p"] ||
    (tag.opens ["font"] && tag.attributes.any fun a => ["color", "face", "size"].contains a.name)

/-- Closes the innermost elements of other languages, up to one that can hold hypertext. -/
def leaveForeign : Build Unit := modify fun s =>
  { s with stack := s.stack.dropWhile fun node =>
      let e := s.nameOf node
      e.ns != .html && !e.isMathmlTextPoint && !e.isSvgHtmlPoint }

/-- An end tag in another language: the innermost element of the name is closed, in any case of letters.
Where an element of hypertext comes first, the usual rules hold. -/
def closeForeign (tag : Tag) : Build Outcome := do
  let s ← get
  let matchesName (node : Nat) : Bool := Text.eqIgnoringCase (s.nameOf node).name tag.name
  let rec go (isFirst : Bool) : List Nat → Build Outcome
    -- The outermost element is never closed.
    | [] | [_] => return .done
    | node :: rest =>
      if !isFirst && (s.nameOf node).ns == .html then rulesOf s.mode (.tag tag)
      else if matchesName node then do
        modify fun s => { s with stack := rest }
        return .done
      else go false rest
  go true s.stack

/-- The rules in formulas and drawings. -/
def foreignRules (token : Token) : Build Outcome := do
  match token with
  | .null =>
    insertText "\uFFFD"
    return .done
  | .blanks text =>
    insertText text
    return .done
  | .text text =>
    forbidFrameset
    insertText text
    return .done
  | .comment text =>
    insertComment text
    return .done
  | .tag tag =>
    if breaksOut tag then
      -- The tag is dealt with at once, whatever element is the innermost one now.
      leaveForeign
      rulesOf (← get).mode token
    else if tag.isEnd then closeForeign tag
    else insertForeign (← get).currentName.ns tag
  | _ => ignored

/-- Deals with a token, by as many rules in turn as the fuel allows. -/
def dealWith (token : Token) : Nat → Build Unit
  | 0 => pure ()
  | fuel + 1 => do
    let s ← get
    let outcome ← if s.isForeign token then foreignRules token else rulesOf s.mode token
    match outcome with
    | .done => pure ()
    | .again mode =>
      setMode mode
      dealWith token fuel

/-- The public identifiers of old kinds of documents. -/
def oldPublicIds : List String :=
  ["-//w3o//dtd w3 html strict 3.0//en//", "-/w3c/dtd html 4.0 transitional/en", "html"]

/-- How the public identifiers of further old kinds of documents begin. -/
def oldPublicStarts : List String :=
  ["-//as//dtd html 3.0 aswedit + extensions//",
    "-//advasoft ltd//dtd html 3.0 aswedit + extensions//", "-//ietf//dtd html 2.0 level 1//",
    "-//ietf//dtd html 2.0 level 2//", "-//ietf//dtd html 2.0 strict level 1//",
    "-//ietf//dtd html 2.0 strict level 2//", "-//ietf//dtd html 2.0 strict//",
    "-//ietf//dtd html 2.0//", "-//ietf//dtd html 2.1e//", "-//ietf//dtd html 3.0//",
    "-//ietf//dtd html 3.2 final//", "-//ietf//dtd html 3.2//", "-//ietf//dtd html 3//",
    "-//ietf//dtd html level 0//", "-//ietf//dtd html level 1//", "-//ietf//dtd html level 2//",
    "-//ietf//dtd html level 3//", "-//ietf//dtd html strict level 0//",
    "-//ietf//dtd html strict level 1//", "-//ietf//dtd html strict level 2//",
    "-//ietf//dtd html strict level 3//", "-//ietf//dtd html strict//", "-//ietf//dtd html//",
    "-//metrius//dtd metrius presentational//",
    "-//microsoft//dtd internet explorer 2.0 html strict//",
    "-//microsoft//dtd internet explorer 2.0 html//",
    "-//microsoft//dtd internet explorer 2.0 tables//",
    "-//microsoft//dtd internet explorer 3.0 html strict//",
    "-//microsoft//dtd internet explorer 3.0 html//",
    "-//microsoft//dtd internet explorer 3.0 tables//", "-//netscape comm. corp.//dtd html//",
    "-//netscape comm. corp.//dtd strict html//", "-//o'reilly and associates//dtd html 2.0//",
    "-//o'reilly and associates//dtd html extended 1.0//",
    "-//o'reilly and associates//dtd html extended relaxed 1.0//",
    "-//softquad software//dtd hotmetal pro 6.0::19990601::extensions to html 4.0//",
    "-//softquad//dtd hotmetal pro 4.0::19971010::extensions to html 4.0//",
    "-//spyglass//dtd html 2.0 extended//", "-//sq//dtd html 2.0 hotmetal + extensions//",
    "-//sun microsystems corp.//dtd hotjava html//",
    "-//sun microsystems corp.//dtd hotjava strict html//", "-//w3c//dtd html 3 1995-03-24//",
    "-//w3c//dtd html 3.2 draft//", "-//w3c//dtd html 3.2 final//", "-//w3c//dtd html 3.2//",
    "-//w3c//dtd html 3.2s draft//", "-//w3c//dtd html 4.0 frameset//",
    "-//w3c//dtd html 4.0 transitional//", "-//w3c//dtd html experimental 19960712//",
    "-//w3c//dtd html experimental 970421//", "-//w3c//dtd w3 html//", "-//w3o//dtd w3 html 3.0//",
    "-//webtechs//dtd mozilla html 2.0//", "-//webtechs//dtd mozilla html//"]

/-- How the public identifiers begin that stand for an old kind of document without a system
identifier. -/
def oldAloneStarts : List String :=
  ["-//w3c//dtd html 4.01 frameset//", "-//w3c//dtd html 4.01 transitional//"]

/-- Whether a document type announces an old kind of document. -/
def announcesOldStyle (d : Doctype) : Bool :=
  let starts (names : List String) : Bool :=
    d.publicId?.any fun id => names.any fun name => name.toList.isPrefixOf (Chars.lower id.toList)
  d.isFaulty || d.name? != some "html" ||
    d.publicId?.any (fun id => oldPublicIds.contains (Text.lower id)) ||
    d.systemId?.any (fun id =>
      Text.lower id == "http://www.ibm.com/data/dtd/v11/ibmxhtml1-transitional.dtd") ||
    starts oldPublicStarts || (d.systemId?.isNone && starts oldAloneStarts)

/-- Deals with a document type, which counts at the start of a document only. -/
def dealWithDoctype (d : Doctype) : Build Unit := do
  if (← get).mode = .initial then
    let node ← createNode
      (.doctype (d.name?.getD "") (d.publicId?.getD "") (d.systemId?.getD ""))
    modify fun s =>
      { s with
        forest := s.forest.append Forest.document node
        isOldStyle := announcesOldStyle d
        mode := .beforeHtml }

/-- A token without the line feed at its start; text that is nothing else is no token. -/
def withoutLineFeed? : Token → Option Token
  | .blanks text =>
    match text.toList with
    | '\n' :: [] => none
    | '\n' :: rest => some (.blanks (String.ofList rest))
    | _ => some (.blanks text)
  | token => some token

/-- More changes of mode than a single token can cause without closing an element each time. -/
def maxChanges : Nat := 32

/-- Deals with a token of markup. -/
def dealWithToken (token : Token) : Build Unit := do
  let s ← get
  set { s with skipsLineFeed := false }
  match if s.skipsLineFeed then withoutLineFeed? token else some token with
  | none | some .fault => pure ()
  | some (.doctype d) => dealWithDoctype d
  | some token => dealWith token (s.stack.length + maxChanges)

/-- The state behind a token. -/
def State.feed (s : State) (token : Token) : State := ((dealWithToken token).run s).2

end HtmlMail.Html.Construction
