import HtmlMail.Html.Construction.Formatting
import HtmlMail.Html.EncodingDeclaration

/-!
# Rules before the body

What stands in front of the body of a document: the document itself, its head, and elements such as
`style`, `script` and `template`, which are at home in the head but have the same rules elsewhere.

- `Outcome` : whether a token is dealt with, or falls under other rules
- `metadataRules` : the elements that are at home in the head
- `prologueRules` : documents up to the end of their head
-/

namespace HtmlMail.Html.Construction

open Dom

/-- What a rule says about a token. -/
inductive Outcome where
  /-- It is dealt with. -/
  | done
  /-- Other rules are in force from here on, and the token falls under them. -/
  | again (mode : Mode)
  deriving DecidableEq, Repr

/-- The token is dropped. -/
def ignored : Build Outcome := return .done

/-- The elements that are at home in the head. -/
def metadataNames : List String :=
  ["base", "basefont", "bgsound", "link", "meta", "noframes", "script", "style", "template", "title"]

/-- Opens a template, whose content has rules of its own. -/
def openTemplate (tag : Tag) : Build Unit := do
  insertElement tag
  insertMarker
  forbidFrameset
  modify fun s => { s with mode := .inTemplate, templateModes := .inTemplate :: s.templateModes }

/-- Closes the innermost template with all that is open in it. -/
def leaveTemplate : Build Unit := do
  popUntilNamed ["template"]
  clearToMarker
  modify fun s => { s with templateModes := s.templateModes.tail }
  resetMode

/-- The end tag of a template. -/
def closeTemplate : Build Unit := do
  if (← get).isInTemplate then
    popImpliedOf ElementName.thoroughEndNames ""
    leaveTemplate

/-- The rules for elements that are at home in the head. Scripts run, so what stands for the case that
they do not is plain text. -/
def metadataRules (tag : Tag) : Build Outcome := do
  if tag.opens ["base", "basefont", "bgsound", "link", "meta"] then
    insertVoid tag
    -- What is said about the encoding is made known before the text goes on.
    if tag.name = "meta" && tag.declaresEncoding then interrupt
  else if tag.opens ["title"] then insertTextElement tag (.references tag.name)
  else if tag.opens ["noframes", "noscript", "style"] then insertTextElement tag (.raw tag.name)
  else if tag.opens ["script"] then insertTextElement tag .script
  else if tag.opens ["template"] then openTemplate tag
  else if tag.closes ["template"] then closeTemplate
  return .done

/-- A start tag of the document element where one is open: its attributes are added. -/
def mergeHtml (tag : Tag) : Build Outcome := do
  modify fun s =>
    if s.isInTemplate then s
    else { s with forest := s.forest.addMissingAttributes s.htmlNode tag.attributes }
  return .done

/-- Creates the document element. -/
def createHtml (tag : Tag) : Build Unit := do
  let node ← createElement .html "html" tag.attributes
  push node
  modify fun s => { s with forest := s.forest.append Forest.document node }

/-- The end tags that imply the elements in front of them. -/
def implyingEndNames : List String := ["head", "body", "html", "br"]

/-- Whether a token is an end tag that implies nothing. -/
def isIdleEnd (token : Token) (names : List String) : Bool :=
  match token with
  | .tag tag => tag.isEnd && !names.contains tag.name
  | _ => false

/-- The rules in front of the document type. -/
def initialRules (token : Token) : Build Outcome := do
  match token with
  | .blanks _ => ignored
  | .comment text =>
    insertCommentIn Forest.document text
    return .done
  | _ =>
    modify fun s => { s with isOldStyle := true }
    return .again .beforeHtml

/-- The rules in front of the document element. -/
def beforeHtmlRules (token : Token) : Build Outcome := do
  match token with
  | .blanks _ => ignored
  | .comment text =>
    insertCommentIn Forest.document text
    return .done
  | _ =>
    if isIdleEnd token implyingEndNames then ignored
    else match token with
      | .tag tag =>
        if tag.opens ["html"] then
          createHtml tag
          setMode .beforeHead
          return .done
        else
          createHtml (.start "html")
          return .again .beforeHead
      | _ =>
        createHtml (.start "html")
        return .again .beforeHead

/-- Creates the head. -/
def createHead (tag : Tag) : Build Unit := do
  insertElement tag
  modify fun s => { s with head? := s.stack.head? }

/-- The rules in front of the head. -/
def beforeHeadRules (token : Token) : Build Outcome := do
  let imply : Build Outcome := do
    createHead (.start "head")
    return .again .inHead
  match token with
  | .blanks _ => ignored
  | .comment text =>
    insertComment text
    return .done
  | .tag tag =>
    if tag.opens ["html"] then mergeHtml tag
    else if tag.opens ["head"] then
      createHead tag
      setMode .inHead
      return .done
    else if isIdleEnd token implyingEndNames then ignored
    else imply
  | _ => imply

/-- The rules in the head. -/
def inHeadRules (token : Token) : Build Outcome := do
  let leave : Build Outcome := do
    pop
    return .again .afterHead
  match token with
  | .blanks text =>
    insertText text
    return .done
  | .comment text =>
    insertComment text
    return .done
  | .tag tag =>
    if tag.opens ["html"] then mergeHtml tag
    else if tag.opens ("noscript" :: metadataNames) || tag.closes ["template"] then metadataRules tag
    else if tag.closes ["head"] then
      pop
      setMode .afterHead
      return .done
    else if tag.opens ["head"] || isIdleEnd token ["body", "html", "br"] then ignored
    else leave
  | _ => leave

/-- The rules between the head and the body. -/
def afterHeadRules (token : Token) : Build Outcome := do
  let imply : Build Outcome := do
    insertImplied "body"
    return .again .inBody
  match token with
  | .blanks text =>
    insertText text
    return .done
  | .comment text =>
    insertComment text
    return .done
  | .tag tag =>
    if tag.opens ["html"] then mergeHtml tag
    else if tag.opens ["body"] then
      insertElement tag
      forbidFrameset
      setMode .inBody
      return .done
    else if tag.opens ["frameset"] then
      insertElement tag
      setMode .inFrameset
      return .done
    else if tag.opens metadataNames then
      match (← get).head? with
      | some head =>
        -- The head is opened once more for the element that came too late.
        push head
        let outcome ← metadataRules tag
        removeFromStack head
        return outcome
      | none => metadataRules tag
    else if tag.closes ["template"] then metadataRules tag
    else if tag.opens ["head"] || isIdleEnd token ["body", "html", "br"] then ignored
    else imply
  | _ => imply

end HtmlMail.Html.Construction
