import HtmlMail.Html.Construction.Metadata

/-!
# Rules in the body

The rules for the content of a document, and for text in elements that hold nothing else.

- `bodyRules` : the content of a document
- `textRules` : text in an element that holds nothing else
- `templateEndRules` : the end of the input in a template
-/

namespace HtmlMail.Html.Construction

open Dom

/-- The elements that begin a block of their own. -/
def blockNames : List String :=
  ["address", "article", "aside", "blockquote", "center", "details", "dialog", "dir", "div", "dl",
    "fieldset", "figcaption", "figure", "footer", "header", "hgroup", "main", "menu", "nav", "ol", "p",
    "search", "section", "summary", "ul"]

/-- The elements of which the end tag closes a block. -/
def closedBlockNames : List String :=
  ["button", "listing", "pre"] ++ blockNames.filter (· != "p")

/-- The headings. -/
def headingNames : List String := ["h1", "h2", "h3", "h4", "h5", "h6"]

/-- The elements that only shape the text in them. -/
def formattingNames : List String :=
  ["b", "big", "code", "em", "font", "i", "s", "small", "strike", "strong", "tt", "u"]

/-- The elements around content of its own kind. -/
def objectNames : List String := ["applet", "marquee", "object"]

/-- The elements without content that stand in text. -/
def voidTextNames : List String := ["area", "br", "embed", "img", "input", "keygen", "wbr"]

/-- The tags that have a meaning in tables and frames only. -/
def misplacedNames : List String :=
  ["caption", "col", "colgroup", "frame", "head", "tbody", "td", "tfoot", "th", "thead", "tr"]

/-- Whether a tag is that of an input field which is not shown. -/
def isHiddenInput (tag : Tag) : Bool :=
  (tag.attribute? "type").any fun value => Text.eqIgnoringCase value "hidden"

/-- The end of the input in a template, which closes the template. -/
def templateEndRules : Build Outcome := do
  if (← get).isInTemplate then
    leaveTemplate
    return .again (← get).resetMode
  else return .done

/-- The names whose open elements a list item or a definition closes. -/
def itemNames (name : String) : List String := if name = "li" then ["li"] else ["dd", "dt"]

/-- Closes the item that a new item follows, if one is open in the same list. -/
def closeItem (names : List String) : Build Unit := do
  let s ← get
  let isOther (node : Nat) : Bool :=
    (s.nameOf node).isSpecial && !s.isHtml node ["address", "div", "p"]
  match s.stack.find? fun node => s.isHtml node names || isOther node with
  | some node => if s.isHtml node names then closeNamed (s.nameOf node).name
  | none => pure ()

/-- Adjustments of attribute names in formulas and drawings. The names of links lose their prefix. -/
def foreignAttribute (ns : Namespace) (a : Attribute) : Attribute :=
  let svgNames : List String :=
    ["attributeName", "attributeType", "baseFrequency", "baseProfile", "calcMode", "clipPathUnits",
      "diffuseConstant", "edgeMode", "filterUnits", "glyphRef", "gradientTransform", "gradientUnits",
      "kernelMatrix", "kernelUnitLength", "keyPoints", "keySplines", "keyTimes", "lengthAdjust",
      "limitingConeAngle", "markerHeight", "markerUnits", "markerWidth", "maskContentUnits", "maskUnits",
      "numOctaves", "pathLength", "patternContentUnits", "patternTransform", "patternUnits",
      "pointsAtX", "pointsAtY", "pointsAtZ", "preserveAlpha", "preserveAspectRatio", "primitiveUnits",
      "refX", "refY", "repeatCount", "repeatDur", "requiredExtensions", "requiredFeatures",
      "specularConstant", "specularExponent", "spreadMethod", "startOffset", "stdDeviation",
      "stitchTiles", "surfaceScale", "systemLanguage", "tableValues", "targetX", "targetY",
      "textLength", "viewBox", "viewTarget", "xChannelSelector", "yChannelSelector", "zoomAndPan"]
  let linkNames : List String := ["actuate", "arcrole", "href", "role", "show", "title", "type"]
  let renamed? : Option String :=
    match ns with
    | .svg => svgNames.find? fun name => Text.lower name == a.name
    | .mathml => if a.name = "definitionurl" then some "definitionURL" else none
    | .html => none
  let unprefixed? : Option String :=
    (linkNames.find? fun name => "xlink:" ++ name == a.name).or
      ((["lang", "space"].find? fun name => "xml:" ++ name == a.name).or
        (if a.name = "xmlns:xlink" then some "xlink" else none))
  ⟨(renamed?.or unprefixed?).getD a.name, a.value⟩

/-- A new element of another language, open from then on unless it closes itself. -/
def insertForeign (ns : Namespace) (tag : Tag) : Build Outcome := do
  let tag := { tag with attributes := tag.attributes.map (foreignAttribute ns) }
  let _ ← insertElementIn ns tag (!tag.closesItself)
  return .done

/-- A start tag of an element without content that stands in text. -/
def insertVoidText (tag : Tag) : Build Outcome := do
  reconstruct
  insertVoid tag
  if !(tag.name == "input" && isHiddenInput tag) then forbidFrameset
  return .done

/-- The start tag of a link. A link that is open ends in front of it. -/
def insertLink (tag : Tag) : Build Outcome := do
  let s ← get
  if let some (node, _) := s.formattingToMarker.find? fun (node, _) => s.isHtml node ["a"] then
    -- The open link is ended as by its end tag, and forgotten even where that has no effect.
    adopt "a"
    modify (·.withoutFormatting node)
    removeFromStack node
  reconstruct
  insertFormatting tag
  return .done

/-- The rules for a start tag of a document's structure that comes too late. -/
def bodyStructureRules (tag : Tag) : Build Outcome := do
  let s ← get
  if tag.name = "html" then mergeHtml tag
  else if tag.name = "body" then
    match s.bodyNode? with
    | some body =>
      if !s.isInTemplate then
        set { s with framesetOk := false, forest := s.forest.addMissingAttributes body tag.attributes }
    | none => pure ()
    return .done
  else
    match s.bodyNode? with
    | some body =>
      if s.framesetOk then
        -- The frames take the place of the body and of all that is open in it.
        set { s with forest := s.forest.detach body, stack := s.stack.drop (s.stack.length - 1) }
        insertElement tag
        setMode .inFrameset
    | none => pure ()
    return .done

/-- The rules for start tags. -/
def bodyStartRules (tag : Tag) : Build Outcome := do
  let s ← get
  let insert (stays : Bool) : Build Outcome := do
    if stays then insertElement tag else insertVoid tag
    return .done
  let is (names : List String) : Bool := names.contains tag.name
  if is ["html", "body", "frameset"] then bodyStructureRules tag
  else if is metadataNames then metadataRules tag
  else if is blockNames then
    closeOpenParagraph
    insert true
  else if is headingNames then
    closeOpenParagraph
    if (← get).currentIs headingNames then pop
    insert true
  else if is ["pre", "listing"] then
    closeOpenParagraph
    modify fun s => { s with skipsLineFeed := true, framesetOk := false }
    insert true
  else if is ["form"] then
    if s.form?.isSome && !s.isInTemplate then ignored
    else
      closeOpenParagraph
      insertElement tag
      if !s.isInTemplate then modify fun s => { s with form? := s.stack.head? }
      return .done
  else if is ["li", "dd", "dt"] then
    forbidFrameset
    closeItem (itemNames tag.name)
    closeOpenParagraph
    insert true
  else if is ["plaintext"] then
    closeOpenParagraph
    modify fun s => { s with textMode? := some .plain }
    insert true
  else if is ["button"] then
    if s.isOpenNamed ElementName.bounds ["button"] then
      popImplied
      popUntilNamed ["button"]
    reconstruct
    forbidFrameset
    insert true
  else if is ["a"] then insertLink tag
  else if is formattingNames then
    reconstruct
    insertFormatting tag
    return .done
  else if is ["nobr"] then
    reconstruct
    if (← get).isOpenNamed ElementName.bounds ["nobr"] then
      adopt "nobr"
      reconstruct
    insertFormatting tag
    return .done
  else if is objectNames then
    reconstruct
    insertElement tag
    insertMarker
    forbidFrameset
    return .done
  else if is ["table"] then
    if !s.isOldStyle then closeOpenParagraph
    forbidFrameset
    setMode .inTable
    insert true
  else if is voidTextNames then insertVoidText tag
  else if is ["param", "source", "track"] then insert false
  else if is ["hr"] then
    closeOpenParagraph
    forbidFrameset
    insert false
  else if is ["image"] then insertVoidText { tag with name := "img" }
  else if is ["textarea"] then
    insertTextElement tag (.references tag.name)
    modify fun s => { s with skipsLineFeed := true, framesetOk := false }
    return .done
  else if is ["xmp"] then
    closeOpenParagraph
    reconstruct
    forbidFrameset
    insertTextElement tag (.raw tag.name)
    return .done
  else if is ["iframe"] then
    forbidFrameset
    insertTextElement tag (.raw tag.name)
    return .done
  else if is ["noembed", "noscript"] then
    insertTextElement tag (.raw tag.name)
    return .done
  else if is ["select"] then
    reconstruct
    forbidFrameset
    let inTable := [Mode.inTable, .inCaption, .inTableBody, .inRow, .inCell].contains s.mode
    setMode (if inTable then .inSelectInTable else .inSelect)
    insert true
  else if is ["optgroup", "option"] then
    if s.currentIs ["option"] then pop
    reconstruct
    insert true
  else if is ["rb", "rtc"] then
    if s.isOpenNamed ElementName.bounds ["ruby"] then popImplied
    insert true
  else if is ["rp", "rt"] then
    if s.isOpenNamed ElementName.bounds ["ruby"] then popImpliedOf ElementName.impliedEndNames "rtc"
    insert true
  else if is ["math"] then insertForeign .mathml tag
  else if is ["svg"] then insertForeign .svg tag
  else if is misplacedNames then ignored
  else
    reconstruct
    insert true

/-- The end tag of a form. -/
def closeForm : Build Outcome := do
  let s ← get
  if s.isInTemplate then
    if s.isOpenNamed ElementName.bounds ["form"] then
      popImplied
      popUntilNamed ["form"]
  else
    -- The form is over even if it is not open here. Elements in it may stay open.
    modify fun s => { s with form? := none }
    match s.form? with
    | some form =>
      if s.isOpenWithin ElementName.bounds (· == form) then
        popImplied
        removeFromStack form
    | none => pure ()
  return .done

/-- The rules for end tags. -/
def bodyEndRules (tag : Tag) : Build Outcome := do
  let s ← get
  let is (names : List String) : Bool := names.contains tag.name
  let isOpen (names : List String) : Bool := s.isOpenNamed ElementName.bounds names
  if is ["template"] then metadataRules tag
  else if is ["body"] then
    if isOpen ["body"] then setMode .afterBody
    return .done
  else if is ["html"] then
    if isOpen ["body"] then return .again .afterBody else ignored
  else if is closedBlockNames then
    if isOpen [tag.name] then
      popImplied
      popUntilNamed [tag.name]
    return .done
  else if is ["form"] then closeForm
  else if is ["p"] then
    if !s.isOpenNamed ElementName.boundsParagraph ["p"] then insertImplied "p"
    closeParagraph
    return .done
  else if is ["li"] then
    if s.isOpenNamed ElementName.boundsListItem ["li"] then closeNamed "li"
    return .done
  else if is ["dd", "dt"] then
    if isOpen [tag.name] then closeNamed tag.name
    return .done
  else if is headingNames then
    if isOpen headingNames then
      popImplied
      popUntilNamed headingNames
    return .done
  else if is ("a" :: "nobr" :: formattingNames) then
    adopt tag.name
    return .done
  else if is objectNames then
    if isOpen [tag.name] then
      popImplied
      popUntilNamed [tag.name]
      clearToMarker
    return .done
  else if is ["br"] then insertVoidText (.start "br")
  else
    closeGeneric tag.name
    return .done

/-- The rules for the content of a document. -/
def bodyRules (token : Token) : Build Outcome := do
  match token with
  | .blanks text =>
    reconstruct
    insertText text
    return .done
  | .text text =>
    reconstruct
    forbidFrameset
    insertText text
    return .done
  | .comment text =>
    insertComment text
    return .done
  | .tag tag => if tag.isEnd then bodyEndRules tag else bodyStartRules tag
  | .endOfInput => if (← get).templateModes.isEmpty then ignored else templateEndRules
  | _ => ignored

/-- The rules for text in an element that holds nothing else. -/
def textRules (token : Token) : Build Outcome := do
  match token with
  | .blanks text | .text text =>
    insertText text
    return .done
  | .endOfInput =>
    pop
    return .again (← get).returnMode
  | .tag tag =>
    pop
    modify fun s => { s with mode := s.returnMode }
    -- A script is run as soon as it ends.
    if tag.closes ["script"] then interrupt
    return .done
  | _ => ignored

end HtmlMail.Html.Construction
