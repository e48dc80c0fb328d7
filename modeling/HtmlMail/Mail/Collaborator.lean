import HtmlMail.Template.Layout

/-!
# Collaborators

Services of the site that a renderer asks for help. Each of them may fail.

- `LayoutSource` : the layout of the mail
- `LinkResolver` : the public URL of a piece of content
- `MailIdSource` : the number the mail will be filed under
- `Signer` : the token for the web version of a mail
-/

namespace HtmlMail.Mail

/-- Why a collaborator has no answer. -/
inductive CollaboratorError where
  | unavailable (service message : String)
  | other (message : String)
  deriving DecidableEq, Repr

/-- The wording of the error. -/
def CollaboratorError.message : CollaboratorError → String
  | .unavailable service message => service ++ " unavailable: " ++ message
  | .other message => "Collaborator failed: " ++ message

/-- The layout of the mail, if there is one. -/
abbrev LayoutSource := Except CollaboratorError (Option Template.Layout)

/-- The public URL of the content with a number, if there is one. -/
abbrev LinkResolver := Nat → Except CollaboratorError (Option String)

/-- The number the mail will be filed under. -/
abbrev MailIdSource := Except CollaboratorError String

/-- The token that allows to see the web version of a mail with a number. -/
abbrev Signer := String → Except CollaboratorError String

namespace LinkResolver

/-- The resolver that knows no content. -/
def none : LinkResolver := fun _ => .ok .none

/-- The resolver of a list of numbers and URLs; of two entries with one number the later one counts. -/
def ofList (links : List (Nat × String)) : LinkResolver := fun id =>
  .ok ((links.reverse.find? (·.1 == id)).map (·.2))

/-- The URL of a piece of content; no answer counts as none. -/
def url? (resolver : LinkResolver) (id : Nat) : Option String :=
  match resolver id with
  | .ok url? => url?
  | .error _ => .none

end LinkResolver

end HtmlMail.Mail
