import HtmlMail.Text.AsciiCase
import HtmlMail.Url.Host

/-!
# Absolute URLs

An absolute URL begins with a scheme, and the scheme says what may follow: an authority, which names a
host and perhaps a user and a port, or a path. In paths, queries and fragments every text is allowed.

- `Url.scheme?` : the scheme of a text, if the text is an absolute URL
- `Url.isAuthority` : whether a text can stand where an authority is expected
-/

namespace HtmlMail.Url

open Chars

/-- What a scheme says about the rest of a URL. -/
inductive SchemeKind where
  /-- The rest is an authority with a domain name. -/
  | web
  /-- The rest names a file, perhaps with a host. -/
  | file
  /-- An authority follows two slashes, and its host has no meaning here. -/
  | other
  deriving DecidableEq, Repr

/-- The kind of a scheme in small letters. -/
def SchemeKind.of (scheme : String) : SchemeKind :=
  if ["http", "https", "ws", "wss", "ftp"].contains scheme then .web
  else if scheme = "file" then .file
  else .other

/-- Whether a character can stand in a scheme, behind the first letter. -/
def isSchemeChar (c : Char) : Bool := c.isAlphanum || c == '+' || c == '-' || c == '.'

/-- The scheme in small letters and what follows its colon. -/
def splitScheme? (s : List Char) : Option (String × List Char) :=
  (splitAtChar? ':' s).bind fun (scheme, rest) =>
    if scheme.head?.any Char.isAlpha && scheme.all isSchemeChar then
      some (String.ofList (lower scheme), rest)
    else none

/-- Whether a character separates the steps of a path. -/
def isSlash (c : Char) : Bool := c == '/' || c == '\\'

/-- Whether a character ends an authority. A backslash does where domain names are known. -/
def endsAuthority (named : Bool) (c : Char) : Bool :=
  c == '/' || c == '?' || c == '#' || (named && c == '\\')

/-- What stands in front of the port and behind the host, colon included. A colon inside brackets belongs
to the host. -/
def splitHost (bracketed : Bool) : List Char → List Char × List Char
  | [] => ([], [])
  | c :: rest =>
    if c = ':' && !bracketed then ([], c :: rest)
    else
      let (host, port) := splitHost (if c = '[' then true else if c = ']' then false else bracketed) rest
      (c :: host, port)

/-- Whether a text is a port, and perhaps a backslash with anything behind it. -/
def isPort (s : List Char) : Bool :=
  let digits := s.takeWhile (· ≠ '\\')
  digits.isEmpty || (numeral? 10 digits).any (· < 65536)

/-- Whether a text is a host, perhaps with a port. Without a host there is no port, and where domain names
are known the host is not empty. -/
def isHostPort (named : Bool) (s : List Char) : Bool :=
  match splitHost false s with
  | (host, ':' :: port) =>
    !host.isEmpty && (if named then Host.isNamed host else Host.isOpaque host) && isPort port
  | (host, _) => if named then Host.isNamed host else Host.isOpaque host

/-- Whether a text begins with an authority. The user and a password stand in front of the last at sign;
if they are given, or if nothing but the at sign is, a host has to follow. -/
def isAuthority (named : Bool) (s : List Char) : Bool :=
  let authority := s.takeWhile (!endsAuthority named ·)
  match splitLast? ['@'] authority with
  | none => isHostPort named authority
  | some (user, host) =>
    isHostPort named host &&
      !(host.isEmpty && (if user.isEmpty then authority.length < s.length else user ≠ [':']))

/-- Whether a text is a drive letter, as it stands at the start of some file paths. -/
def isDrive (s : List Char) : Bool :=
  match s with
  | [letter, mark] => letter.isAlpha && (mark == ':' || mark == '|')
  | _ => false

/-- Whether a text can follow the scheme of a file. Behind two slashes a host may stand. -/
def isFilePart (s : List Char) : Bool :=
  match s with
  | a :: b :: rest =>
    if isSlash a && isSlash b then
      let host := rest.takeWhile (!endsAuthority true ·)
      host.isEmpty || isDrive host || Host.isNamed host
    else true
  | _ => true

/-- Whether a text can follow the colon of a scheme. -/
def isSchemePart (kind : SchemeKind) (s : List Char) : Bool :=
  match kind with
  | .web => isAuthority true (s.dropWhile isSlash)
  | .file => isFilePart s
  | .other =>
    match ['/', '/'].isPrefixOf? s with
    | some authority => isAuthority false authority
    | none => true

/-- A text without controls and blanks at its ends, and without tabs and line ends anywhere: they do not
count in a URL. -/
def clean (s : List Char) : List Char :=
  let isEdge (c : Char) : Bool := c.toNat ≤ 0x20
  let trimmed := ((s.dropWhile isEdge).reverse.dropWhile isEdge).reverse
  trimmed.filter fun c => c ≠ '\t' && c ≠ '\n' && c ≠ '\r'

/-- The scheme of a text in small letters, if the text is an absolute URL. -/
def scheme? (text : String) : Option String :=
  (splitScheme? (clean text.toList)).bind fun (scheme, rest) =>
    if isSchemePart (.of scheme) rest then some scheme else none

end HtmlMail.Url
