import HtmlMail.CommandLine.Options
import HtmlMail.Template.Tag
import HtmlMail.Text.Blank
import HtmlMail.Text.Quoted
import HtmlMail.Text.Terminal

/-!
# Arguments

What the command is asked to do. The arguments are read from left to right; the value of an option stands
behind an equals sign, directly behind the short name, or in the next argument.

- `Arguments` : what the command is asked to do
- `Arguments.parse` : what a list of arguments asks for
- `ArgumentError.message` : the wording of the errors
-/

namespace HtmlMail.CommandLine

open Template

/-- A layout and perhaps its stylesheet. -/
structure LayoutFiles where
  markup : String
  css? : Option String
  deriving DecidableEq, Repr

/-- The number of a mail and perhaps the token of its web version. -/
structure TrackingArguments where
  mailId : String
  token? : Option String
  deriving DecidableEq, Repr

/-- What the command is asked to do. -/
structure Arguments where
  template : String
  layout? : Option LayoutFiles
  /-- Whether the stylesheet stays in one piece. -/
  keepsStyleBlock : Bool
  /-- The tags with a value in the order given. -/
  tags : List Tag
  /-- The tags with a truth value in the order given. -/
  flags : List Tag
  config? : Option String
  baseUrl? : Option String
  tracking? : Option TrackingArguments
  subject? : Option String
  output? : Option String
  deriving DecidableEq, Repr

/-- All tags: those with a value, then those with a truth value. -/
def Arguments.allTags (args : Arguments) : List Tag := args.tags ++ args.flags

/-- What is wrong with the value of a tag. -/
inductive PairError where
  /-- There is no equals sign. -/
  | noEquals (text : String)
  | noTruthValue (name value : String)
  | tag (error : TagError)
  deriving DecidableEq, Repr

/-- The wording of the error. -/
def PairError.message : PairError → String
  | .noEquals text => "expected NAME=VALUE, got " ++ Text.quote text
  | .noTruthValue name value =>
    "flag " ++ Text.quote name ++ " must be true or false, got " ++ Text.quote value
  | .tag error => error.message

/-- A name and a value with an equals sign between them. -/
def splitPair (text : String) : Except PairError (String × String) :=
  match Chars.splitAtChar? '=' text.toList with
  | none => .error (.noEquals text)
  | some (name, value) => .ok (String.ofList name, String.ofList value)

/-- The tag of a name and a value. -/
def readTag (text : String) : Except PairError Tag :=
  (splitPair text).bind fun (name, value) => (Tag.ofNameValue name value).mapError .tag

/-- The tag of a name and a truth value, in any case and with blanks around it. -/
def readFlag (text : String) : Except PairError Tag :=
  (splitPair text).bind fun (name, value) =>
    let word := Text.lower (Text.trim value)
    if word = "true" then (Tag.ofFlag name true).mapError .tag
    else if word = "false" then (Tag.ofFlag name false).mapError .tag
    else .error (.noTruthValue name word)

/-- What is wrong with arguments. -/
inductive ArgumentError where
  | unexpected (argument : String)
  | unexpectedValue (value : String) (opt : Opt)
  | missingValue (opt : Opt)
  | invalidValue (value : String) (opt : Opt) (error : PairError)
  | repeated (opt : Opt)
  | missing (opts : List Opt)
  deriving DecidableEq, Repr

/-- The wording of the error. Control sequences in an argument are not shown. -/
def ArgumentError.message : ArgumentError → String
  | .unexpected argument => "unexpected argument '" ++ Text.shown argument ++ "' found"
  | .unexpectedValue value opt =>
    "unexpected value '" ++ Text.shown value ++ "' for '" ++ opt.usage ++ "' found; no more were expected"
  | .missingValue opt => "a value is required for '" ++ opt.usage ++ "' but none was supplied"
  | .invalidValue value opt error =>
    "invalid value '" ++ Text.shown value ++ "' for '" ++ opt.usage ++ "': " ++ error.message
  | .repeated opt => "the argument '" ++ opt.usage ++ "' cannot be used multiple times"
  | .missing opts =>
    "the following required arguments were not provided:" ++
      String.join (opts.map fun opt => "\n  " ++ opt.usage)

/-- Why reading ends early. -/
inductive Stop where
  | help
  | version
  | error (e : ArgumentError)
  deriving DecidableEq, Repr

/-- What has been given so far. -/
structure Given where
  /-- The options that can be given once, with their values, in order. -/
  single : List (Opt × String)
  tags : List Tag
  flags : List Tag

namespace Given

/-- The value of an option that can be given once. -/
def value? (given : Given) (opt : Opt) : Option String := given.single.lookup opt

/-- What has been given after one more option that can be given once. -/
def addSingle (given : Given) (opt : Opt) (value : String) : Except ArgumentError Given :=
  if (given.value? opt).isSome then .error (.repeated opt)
  else if opt.isPath && value.isEmpty then .error (.missingValue opt)
  else .ok { given with single := given.single ++ [(opt, value)] }

/-- What has been given after one more option with a value. -/
def addValue (given : Given) (opt : Opt) (value : String) : Except ArgumentError Given :=
  match opt with
  | .tag =>
    match readTag value with
    | .ok tag => .ok { given with tags := given.tags ++ [tag] }
    | .error e => .error (.invalidValue value opt e)
  | .flag =>
    match readFlag value with
    | .ok flag => .ok { given with flags := given.flags ++ [flag] }
    | .error e => .error (.invalidValue value opt e)
  | _ => given.addSingle opt value

/-- What has been given after one more option without a value. -/
def addBare (given : Given) (opt : Opt) : Except Stop Given :=
  match opt with
  | .help => .error .help
  | .version => .error .version
  | _ =>
    if opt.takesValue then .error (.error (.missingValue opt))
    else (given.addSingle opt "").mapError .error

/-- What has been given after one more option. -/
def add (given : Given) (opt : Opt) (value? : Option String) : Except Stop Given :=
  match value? with
  | none => given.addBare opt
  | some value => (given.addValue opt value).mapError .error

/-- The options that have to be given besides those that are, in the order of the reasons. -/
def missing (given : Given) : List Opt :=
  let needed := given.single.filterMap fun (opt, _) =>
    match opt with
    | .css => some Opt.master
    | .webVersionToken => some Opt.trackingId
    | _ => none
  (Opt.template :: needed).filter fun opt => (given.value? opt).isNone

/-- The arguments, if nothing is missing. -/
def complete (given : Given) : Except ArgumentError Arguments :=
  match given.missing, given.value? .template with
  | [], some template =>
    .ok {
      template := template
      layout? := (given.value? .master).map fun markup => ⟨markup, given.value? .css⟩
      keepsStyleBlock := (given.value? .noInline).isSome
      tags := given.tags
      flags := given.flags
      config? := given.value? .config
      baseUrl? := given.value? .baseUrl
      tracking? := (given.value? .trackingId).map fun id => ⟨id, given.value? .webVersionToken⟩
      subject? := given.value? .subject
      output? := given.value? .output }
  | opts, _ => .error (.missing opts)

end Given

/-- What is known between two arguments. -/
structure Progress where
  given : Given
  /-- The last option, while its value can be the next argument, or is the last one. It is looked at when
  the next option begins, or at the end. -/
  pending? : Option (Opt × Option String)
  /-- Whether two bare hyphens have been met: no option follows. -/
  isClosed : Bool

namespace Progress

/-- Nothing is known yet. -/
def start : Progress := ⟨⟨[], [], []⟩, none, false⟩

/-- What has been given, with the last option. -/
def settle (progress : Progress) : Except Stop Given :=
  match progress.pending? with
  | none => .ok progress.given
  | some (opt, value?) => progress.given.add opt value?

/-- What is known after an option, perhaps with a value attached. Without one the next argument is its
value. -/
def meet (progress : Progress) (opt : Opt) (value? : Option String) : Except Stop Progress := do
  let given ← progress.settle
  if opt.takesValue && value?.isNone then
    return ⟨given, some (opt, none), false⟩
  else
    return ⟨← given.add opt value?, none, false⟩

/-- What is known after an argument with one hyphen, without that: short names of options without a value,
and at the end one of an option with a value, perhaps attached. -/
def meetLetters (progress : Progress) : List Char → Except Stop Progress
  | [] => .ok progress
  | letter :: rest =>
    match Opt.ofLetter? letter with
    | none => .error (.error (.unexpected (String.ofList ['-', letter])))
    | some opt =>
      if opt.takesValue then
        match rest with
        | [] => progress.meet opt none
        | '=' :: value => progress.meet opt (some (String.ofList value))
        | value => progress.meet opt (some (String.ofList value))
      else (progress.meet opt none).bind fun progress => progress.meetLetters rest

/-- What is known after an argument with two hyphens, without those. -/
def meetName (progress : Progress) (argument : List Char) : Except Stop Progress :=
  let (name, value?) := match Chars.splitAtChar? '=' argument with
    | some (name, value) => (name, some (String.ofList value))
    | none => (argument, none)
  match Opt.ofName? (String.ofList name), value? with
  | none, _ => .error (.error (.unexpected ("--" ++ String.ofList name)))
  | some opt, some value =>
    if opt.takesValue then progress.meet opt (some value)
    else .error (.error (.unexpectedValue value opt))
  | some opt, none => progress.meet opt none

/-- What is known after an argument that is no option: it is the value of the last option, if that waits
for one. -/
def meetText (progress : Progress) (argument : String) : Except Stop Progress :=
  match progress.pending? with
  | some (opt, none) => .ok { progress with pending? := some (opt, some argument) }
  | _ => .error (.error (.unexpected argument))

/-- What is known after one more argument. -/
def step (progress : Progress) (argument : String) : Except Stop Progress :=
  if progress.isClosed then .error (.error (.unexpected argument))
  else match argument.toList with
    | ['-', '-'] => .ok { progress with isClosed := true }
    | '-' :: '-' :: option => progress.meetName option
    | '-' :: letter :: letters => progress.meetLetters (letter :: letters)
    | _ => progress.meetText argument

end Progress

/-- What a list of arguments asks for. -/
def Arguments.parse (arguments : List String) : Except Stop Arguments := do
  let progress ← arguments.foldlM Progress.step .start
  let given ← progress.settle
  given.complete.mapError .error

end HtmlMail.CommandLine
