import HtmlMail.Html.Construction.Body

/-!
# Rules in tables

The parts of a table contain each other in a fixed order, and parts that are left out are implied. What
cannot stand in a table goes in front of it.

- `tableRules`, `tableTextRules`, `captionRules`, `columnGroupRules`, `tableBodyRules`, `rowRules`,
  `cellRules` : the content of the parts of a table
-/

namespace HtmlMail.Html.Construction

open Dom

/-- Deals with a token by the rules for the body, what cannot stand in a table going in front of it. -/
def fostered (token : Token) : Build Outcome := do
  modify fun s => { s with fosters := true }
  let outcome ← bodyRules token
  modify fun s => { s with fosters := false }
  return outcome

/-- Text in a table, of which the place is decided when all of it is read. -/
def tableText (token : Token) : Build Outcome := do
  let s ← get
  if s.currentIs ElementName.tableNames then
    set { s with returnMode := s.mode }
    return .again .inTableText
  else fostered token

/-- The rules for tags between the parts of a table. -/
def tableTagRules (tag : Tag) : Build Outcome := do
  let s ← get
  let context : List String := ["html", "table", "template"]
  let isOpen : Bool := s.isOpenNamed ElementName.boundsTable ["table"]
  if tag.opens ["caption"] then
    popUntilCurrent context
    insertMarker
    insertElement tag
    setMode .inCaption
    return .done
  else if tag.opens ["colgroup"] then
    popUntilCurrent context
    insertElement tag
    setMode .inColumnGroup
    return .done
  else if tag.opens ["col"] then
    popUntilCurrent context
    insertImplied "colgroup"
    return .again .inColumnGroup
  else if tag.opens ["tbody", "tfoot", "thead"] then
    popUntilCurrent context
    insertElement tag
    setMode .inTableBody
    return .done
  else if tag.opens ["td", "th", "tr"] then
    popUntilCurrent context
    insertImplied "tbody"
    return .again .inTableBody
  else if tag.opens ["table"] then
    if isOpen then
      popUntilNamed ["table"]
      return .again (← get).resetMode
    else ignored
  else if tag.closes ["table"] then
    if isOpen then
      popUntilNamed ["table"]
      resetMode
    return .done
  else if tag.closes
      ["body", "caption", "col", "colgroup", "html", "tbody", "td", "tfoot", "th", "thead", "tr"] then
    ignored
  else if tag.opens ["script", "style", "template"] || tag.closes ["template"] then metadataRules tag
  else if tag.opens ["input"] && isHiddenInput tag then
    insertVoid tag
    return .done
  else if tag.opens ["form"] then
    if !s.isInTemplate && s.form?.isNone then
      let node ← insertElementIn .html tag false
      modify fun s => { s with form? := some node }
    return .done
  else fostered (.tag tag)

/-- The rules between the parts of a table. -/
def tableRules (token : Token) : Build Outcome := do
  match token with
  | .blanks _ | .text _ | .null => tableText token
  | .comment text =>
    insertComment text
    return .done
  | .tag tag => tableTagRules tag
  | .endOfInput => bodyRules token
  | _ => ignored

/-- Puts the text of a table into it, piece by piece. -/
def insertTableText : List Token → Build Unit
  | [] => pure ()
  | .blanks text :: rest => do
    insertText text
    insertTableText rest
  | _ :: rest => insertTableText rest

/-- Puts the text of a table in front of it, piece by piece. -/
def fosterTableText : List Token → Build Unit
  | [] => pure ()
  | token :: rest => do
    let _ ← fostered token
    fosterTableText rest

/-- Whether a token is text that is not blank. -/
def Token.isVisibleText : Token → Bool
  | .text _ => true
  | _ => false

/-- The rules for text in a table. Blank text stays there, and any other text goes in front of it. -/
def tableTextRules (token : Token) : Build Outcome := do
  match token with
  | .null => ignored
  | .blanks _ | .text _ =>
    modify fun s => { s with pendingText := token :: s.pendingText }
    return .done
  | _ =>
    -- Any other token ends the text, and then falls under the rules for the table.
    let pending := (← get).pendingText.reverse
    modify fun s => { s with pendingText := [] }
    if pending.any Token.isVisibleText then fosterTableText pending else insertTableText pending
    return .again (← get).returnMode

/-- The rules in the caption of a table. -/
def captionRules (token : Token) : Build Outcome := do
  match token with
  | .tag tag =>
    if tag.opens ["caption", "col", "colgroup", "tbody", "td", "tfoot", "th", "thead", "tr"] ||
        tag.closes ["caption", "table"] then
      if (← get).isOpenNamed ElementName.boundsTable ["caption"] then
        popImplied
        popUntilNamed ["caption"]
        clearToMarker
        if tag.closes ["caption"] then
          setMode .inTable
          return .done
        else return .again .inTable
      else ignored
    else if tag.closes ["body", "col", "colgroup", "html", "tbody", "td", "tfoot", "th", "thead", "tr"]
    then ignored
    else bodyRules token
  | _ => bodyRules token

/-- The rules in a group of columns. -/
def columnGroupRules (token : Token) : Build Outcome := do
  let leave : Build Outcome := do
    if (← get).currentIs ["colgroup"] then
      pop
      return .again .inTable
    else ignored
  match token with
  | .blanks text =>
    insertText text
    return .done
  | .comment text =>
    insertComment text
    return .done
  | .tag tag =>
    if tag.opens ["html"] then mergeHtml tag
    else if tag.opens ["col"] then
      insertVoid tag
      return .done
    else if tag.closes ["colgroup"] then
      if (← get).currentIs ["colgroup"] then
        pop
        setMode .inTable
      return .done
    else if tag.closes ["col"] then ignored
    else if tag.opens ["template"] || tag.closes ["template"] then metadataRules tag
    else leave
  | .endOfInput => bodyRules token
  | _ => leave

/-- The rules between the rows of a table. -/
def tableBodyRules (token : Token) : Build Outcome := do
  let s ← get
  let context : List String := ["html", "tbody", "template", "tfoot", "thead"]
  match token with
  | .tag tag =>
    if tag.opens ["tr"] then
      popUntilCurrent context
      insertElement tag
      setMode .inRow
      return .done
    else if tag.opens ["td", "th"] then
      popUntilCurrent context
      insertImplied "tr"
      return .again .inRow
    else if tag.closes ["tbody", "tfoot", "thead"] then
      if s.isOpenNamed ElementName.boundsTable [tag.name] then
        popUntilCurrent context
        pop
        setMode .inTable
      return .done
    else if tag.opens ["caption", "col", "colgroup", "tbody", "tfoot", "thead"] ||
        tag.closes ["table"] then
      if s.isOpenNamed ElementName.boundsTable ["table", "tbody", "tfoot"] then
        popUntilCurrent context
        pop
        return .again .inTable
      else ignored
    else if tag.closes ["body", "caption", "col", "colgroup", "html", "td", "th", "tr"] then ignored
    else tableRules token
  | _ => tableRules token

/-- The rules between the cells of a row. -/
def rowRules (token : Token) : Build Outcome := do
  let s ← get
  let context : List String := ["html", "template", "tr"]
  let leave : Build Outcome := do
    if s.isOpenNamed ElementName.boundsTable ["tr"] then
      popUntilCurrent context
      pop
      return .again .inTableBody
    else ignored
  match token with
  | .tag tag =>
    if tag.opens ["td", "th"] then
      popUntilCurrent context
      insertElement tag
      insertMarker
      setMode .inCell
      return .done
    else if tag.closes ["tr"] then
      if s.isOpenNamed ElementName.boundsTable ["tr"] then
        popUntilCurrent context
        pop
        setMode .inTableBody
      return .done
    else if tag.opens ["caption", "col", "colgroup", "tbody", "tfoot", "thead", "tr"] ||
        tag.closes ["table"] then leave
    else if tag.closes ["tbody", "tfoot", "thead"] then
      if s.isOpenNamed ElementName.boundsTable [tag.name] then leave else ignored
    else if tag.closes ["body", "caption", "col", "colgroup", "html", "td", "th"] then ignored
    else tableRules token
  | _ => tableRules token

/-- Closes the cell that is open. -/
def closeCell : Build Unit := do
  popImplied
  popUntilNamed ["td", "th"]
  clearToMarker

/-- The rules in a cell. -/
def cellRules (token : Token) : Build Outcome := do
  let s ← get
  let leaveIf (isOpen : Bool) : Build Outcome := do
    if isOpen then
      closeCell
      return .again .inRow
    else ignored
  match token with
  | .tag tag =>
    if tag.closes ["td", "th"] then
      if s.isOpenNamed ElementName.boundsTable [tag.name] then
        popImplied
        popUntilNamed [tag.name]
        clearToMarker
        setMode .inRow
      return .done
    else if tag.opens ["caption", "col", "colgroup", "tbody", "td", "tfoot", "th", "thead", "tr"] then
      leaveIf (s.isOpenNamed ElementName.boundsTable ["td", "th"])
    else if tag.closes ["body", "caption", "col", "colgroup", "html"] then ignored
    else if tag.closes ["table", "tbody", "tfoot", "thead", "tr"] then
      leaveIf (s.isOpenNamed ElementName.boundsTable [tag.name])
    else bodyRules token
  | _ => bodyRules token

end HtmlMail.Html.Construction
