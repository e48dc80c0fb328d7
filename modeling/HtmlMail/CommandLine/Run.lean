import HtmlMail.CommandLine.Arguments
import HtmlMail.Mail.ConfigFile
import HtmlMail.Mail.Renderer
import HtmlMail.Template.Subject
import HtmlMail.Version

/-!
# Running the command

The command reads a template and, if asked to, a layout and the settings of a site, renders the mail, and
prints it or writes it to a file. Everything but the access to files is a function of the arguments.

- `run` : what the command does, given how files are read
- `Action.conclude` : what it prints in the end, given whether a file could be written
-/

namespace HtmlMail.CommandLine

open Mail

/-- How a file is read: its text, or why there is none. -/
abbrev FileReader := String → Except String String

/-- Why the command fails. -/
inductive RunError where
  | arguments (error : ArgumentError)
  | unreadable (path reason : String)
  | unwritable (path reason : String)
  | invalidConfig (path : String) (error : ConfigError)
  | invalidBaseUrl (error : ConfigError)
  deriving DecidableEq, Repr

namespace RunError

/-- The wording of the error. -/
def message : RunError → String
  | arguments error => "error: " ++ error.message
  | unreadable path _ => "Error: Failed to read " ++ path
  | unwritable path _ => "Error: Failed to write " ++ path
  | invalidConfig path _ => "Error: Invalid configuration in " ++ path
  | invalidBaseUrl _ => "Error: Invalid --base-url"

/-- What is said in a second paragraph. -/
def detail : RunError → String
  | arguments _ => "For more information, try '--help'."
  | unreadable _ reason => "Caused by:\n    " ++ reason
  | unwritable _ reason => "Caused by:\n    " ++ reason
  | invalidConfig _ error => "Caused by:\n    " ++ error.message?.getD "malformed document"
  | invalidBaseUrl error => "Caused by:\n    " ++ error.message?.getD "malformed document"

/-- The exit code: two for wrong arguments, one for all that goes wrong later. -/
def code : RunError → Nat
  | arguments _ => 2
  | _ => 1

end RunError

/-- What a run of the command comes to. -/
structure Outcome where
  /-- The exit code, zero for success. -/
  code : Nat
  /-- What is printed as the result. -/
  output : String
  /-- What is printed besides. -/
  notes : String
  deriving DecidableEq, Repr

/-- A run that succeeds. -/
def Outcome.success (output notes : String) : Outcome := ⟨0, output, notes⟩

/-- A run that fails after some notes. -/
def Outcome.failure (notes : String) (error : RunError) : Outcome :=
  ⟨error.code, "", notes ++ error.message ++ "\n\n" ++ error.detail ++ "\n"⟩

/-- What the command does. -/
inductive Action where
  | finish (outcome : Outcome)
  /-- A file is written; notes have been printed before. -/
  | write (path content notes : String)
  deriving DecidableEq, Repr

/-- What a run comes to; `written` is the answer to the attempt to write a file. -/
def Action.conclude (action : Action) (written : Except String Unit) : Outcome :=
  match action with
  | finish outcome => outcome
  | write path _ notes =>
    match written with
    | .ok () => .success "" notes
    | .error reason => .failure notes (.unwritable path reason)

/-- The text of a file. -/
def readFile (files : FileReader) (path : String) : Except RunError String :=
  (files path).mapError (.unreadable path)

/-- A URL without the slashes at its end. -/
def trimSlashes (url : String) : String :=
  String.ofList (url.toList.reverse.dropWhile (· = '/')).reverse

/-- The settings of the site. -/
def loadConfig (files : FileReader) (args : Arguments) : Except RunError Config := do
  let config ← match args.config? with
    | none => .ok .default
    | some path => (Config.ofToml (← readFile files path)).mapError (.invalidConfig path)
  match args.baseUrl? with
  | none => return config
  | some url => ({ config with websiteUrl := trimSlashes url }.validate).mapError .invalidBaseUrl

/-- The layout of the mail. -/
def loadLayout (files : FileReader) (args : Arguments) :
    Except RunError (Option Template.Layout) := do
  match args.layout? with
  | none => return none
  | some layout =>
    -- Of two files that cannot be read, the stylesheet is the one that is named.
    let css ← match layout.css? with
      | none => .ok ""
      | some path => readFile files path
    return some ⟨← readFile files layout.markup, css, args.keepsStyleBlock⟩

/-- The token that was given, for mails of any number. -/
def givenToken (token? : Option String) : Signer := fun _ =>
  match token? with
  | some token => .ok token
  | none => .error (.unavailable "signing" "no --web-version-token given")

/-- The renderer that the arguments ask for. No content can be looked up. -/
def rendererOf (args : Arguments) (config : Config) (layout? : Option Template.Layout) : Renderer where
  config := config
  layouts := .ok layout?
  links := .none
  tracking? := args.tracking?.map fun tracking => ⟨.ok tracking.mailId, givenToken tracking.token?⟩

/-- What the command does with valid arguments. -/
def render (files : FileReader) (args : Arguments) : Except RunError Action := do
  let config ← loadConfig files args
  let layout? ← loadLayout files args
  let template ← readFile files args.template
  let mail := (rendererOf args config layout?).render args.allTags template
  let notes := match args.subject? with
    | some subject => "Subject: " ++ Template.renderSubject args.allTags subject ++ "\n"
    | none => ""
  return match args.output? with
    | some path => .write path mail.html notes
    | none => .finish (.success (mail.html ++ "\n") notes)

/-- The name of the command. -/
def commandName : String := "inkmail"

/-- One option in the help text. -/
def helpEntry (opt : Opt) : String :=
  let letter := match opt.letter? with
    | some letter => String.ofList ['-', letter, ',', ' ']
    | none => "    "
  "  " ++ letter ++ opt.usage ++ "\n          " ++ opt.summary ++ "\n"

/-- The help text. -/
def helpText : String :=
  "Render a data-driven HTML email ready for delivery\n\n" ++
    "Usage: " ++ commandName ++ " [OPTIONS] " ++ Opt.template.usage ++ "\n\n" ++
    "Options:\n" ++ String.join (Opt.all.map helpEntry)

/-- What the command does with a list of arguments. -/
def run (files : FileReader) (arguments : List String) : Action :=
  match Arguments.parse arguments with
  | .error .help => .finish (.success helpText "")
  | .error .version => .finish (.success (commandName ++ " " ++ version ++ "\n") "")
  | .error (.error e) => .finish (.failure "" (.arguments e))
  | .ok args =>
    match render files args with
    | .ok action => action
    | .error e => .finish (.failure "" e)

end HtmlMail.CommandLine
