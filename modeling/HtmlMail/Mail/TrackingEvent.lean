import HtmlMail.Mail.Tracking
import HtmlMail.Text.Quoted

/-!
# Tracking requests

When a tracking URL is called, its query says what happened to which mail.

- `TrackingEvent.ofQuery` : the event of a query, or what is wrong with the query
- `TrackingError.message` : the wording of the errors
-/

namespace HtmlMail.Mail

/-- What happened to a mail. -/
structure TrackingEvent where
  mailId : Nat
  action : TrackingAction
  /-- The target of a click. -/
  value? : Option String
  /-- The token for the web version. -/
  auth? : Option String
  deriving DecidableEq, Repr

/-- What is wrong with a query. -/
inductive TrackingError where
  | missingMailId
  | invalidMailId (text : String)
  | missingAction
  | unknownAction (text : String)
  deriving DecidableEq, Repr

/-- The wording of the error. -/
def TrackingError.message : TrackingError → String
  | .missingMailId => "Missing mail id"
  | .invalidMailId text => "Invalid mail id " ++ Text.quote text
  | .missingAction => "Missing action"
  | .unknownAction text => "Unknown action " ++ Text.quote text

/-- The last value of a key. -/
def lastValue? (key : String) (pairs : List (String × String)) : Option String :=
  (pairs.reverse.find? (·.1 == key)).map (·.2)

/-- The number of a mail: not zero, and below `2 ^ 64`. -/
def mailId? (text : String) : Option Nat := (Chars.unsigned64? text.toList).filter (0 < ·)

/-- The event of pairs of keys and values. The number of the mail is looked at first. -/
def TrackingEvent.ofPairs (pairs : List (String × String)) : Except TrackingError TrackingEvent :=
  match lastValue? "i" pairs with
  | none => .error .missingMailId
  | some id =>
    match mailId? id with
    | none => .error (.invalidMailId id)
    | some mailId =>
      match lastValue? "a" pairs with
      | none => .error .missingAction
      | some name =>
        match TrackingAction.ofName? name with
        | none => .error (.unknownAction name)
        | some action => .ok ⟨mailId, action, lastValue? "v" pairs, lastValue? "auth" pairs⟩

/-- The event of a query, which may begin with its question mark. -/
def TrackingEvent.ofQuery (query : String) : Except TrackingError TrackingEvent :=
  let bare := (['?'].isPrefixOf? query.toList).getD query.toList
  TrackingEvent.ofPairs (Url.Form.pairs (String.ofList bare))

end HtmlMail.Mail
