/-!
# Options

The options of the command, with their names and the names of their values.

- `Opt` : the options
- `Opt.ofName?`, `Opt.ofLetter?` : the option of a long or short name
- `Opt.usage` : how messages show an option
-/

namespace HtmlMail.CommandLine

/-- The options of the command. -/
inductive Opt where
  | template
  | master
  | css
  | noInline
  | tag
  | flag
  | config
  | baseUrl
  | trackingId
  | webVersionToken
  | subject
  | output
  | help
  | version
  deriving DecidableEq, Repr

namespace Opt

/-- All options in the order of the help text. -/
def all : List Opt :=
  [.template, .master, .css, .noInline, .tag, .flag, .config, .baseUrl, .trackingId,
    .webVersionToken, .subject, .output, .help, .version]

/-- The name behind two hyphens. -/
def name : Opt → String
  | template => "template"
  | master => "master"
  | css => "css"
  | noInline => "no-inline"
  | tag => "tag"
  | flag => "flag"
  | config => "config"
  | baseUrl => "base-url"
  | trackingId => "tracking-id"
  | webVersionToken => "web-version-token"
  | subject => "subject"
  | output => "output"
  | help => "help"
  | version => "version"

/-- The name behind one hyphen. -/
def letter? : Opt → Option Char
  | template => some 't'
  | master => some 'm'
  | css => some 'c'
  | output => some 'o'
  | help => some 'h'
  | version => some 'V'
  | _ => none

/-- What the value is called; an option without a name for it has no value. -/
def valueName? : Opt → Option String
  | template => some "TEMPLATE"
  | master => some "MASTER"
  | css => some "CSS"
  | tag => some "NAME=VALUE"
  | flag => some "NAME=true|false"
  | config => some "CONFIG"
  | baseUrl => some "BASE_URL"
  | trackingId => some "TRACKING_ID"
  | webVersionToken => some "WEB_VERSION_TOKEN"
  | subject => some "SUBJECT"
  | output => some "OUTPUT"
  | noInline | help | version => none

/-- Whether the option has a value. -/
def takesValue (opt : Opt) : Bool := opt.valueName?.isSome

/-- Whether the value is the path of a file, which is never empty. -/
def isPath : Opt → Bool
  | template | master | css | config | output => true
  | _ => false

/-- What the option is good for. -/
def summary : Opt → String
  | template => "Email body template"
  | master => "Master layout holding the content marker"
  | css => "Stylesheet of the master layout"
  | noInline => "Emit the stylesheet as a <style> block instead of inlining it"
  | tag => "Tag replacement, e.g. --tag firstname=Ann (repeatable)"
  | flag => "Flag for conditional blocks, e.g. --flag member=true (repeatable)"
  | config => "TOML render configuration"
  | baseUrl => "Site URL, overrides the configuration"
  | trackingId => "Log id to render tracking for"
  | webVersionToken => "Signed token for the web version link"
  | subject => "Subject line to render and print to stderr"
  | output => "Write the email here instead of stdout"
  | help => "Print help"
  | version => "Print version"

/-- The option with a long name. -/
def ofName? (name : String) : Option Opt := all.find? (·.name = name)

/-- The option with a short name. -/
def ofLetter? (letter : Char) : Option Opt := all.find? (·.letter? = some letter)

/-- How messages show the option. -/
def usage (opt : Opt) : String :=
  "--" ++ opt.name ++ (opt.valueName?.map (" <" ++ · ++ ">")).getD ""

end Opt

end HtmlMail.CommandLine
