import HtmlMail.Text.Digits
import HtmlMail.Text.Search

/-!
# IPv6 addresses

Eight groups of up to four digits of base sixteen with colons between them. Once, a double colon may
stand for one or more groups of zeros, and the last two groups may be written as four decimal bytes.

- `Ipv6.isAddress` : whether a text is an address
-/

namespace HtmlMail.Url.Ipv6

open Chars

/-- Whether a text is a group: one to four digits. -/
def isGroup (s : List Char) : Bool :=
  !s.isEmpty && s.length ≤ 4 && s.all fun c => (hexValue? c).isSome

/-- Whether a text is a decimal byte without needless zeros in front. -/
def isByte (s : List Char) : Bool :=
  (numeral? 10 s).any (· < 256) && (s.length = 1 || s.head? ≠ some '0')

/-- Whether a text is four decimal bytes with dots between them. -/
def isDotted (s : List Char) : Bool :=
  let bytes := splitOnChar '.' s
  bytes.length = 4 && bytes.all isByte

/-- How many groups a text stands for, if it is a list of groups with colons between them. Only the last
piece may be four decimal bytes, and only if `dotted`; it stands for two groups. -/
def countGroups? (dotted : Bool) (s : List Char) : Option Nat :=
  if s.isEmpty then some 0
  else
    let pieces := splitOnChar ':' s
    if pieces.all isGroup then some pieces.length
    else match pieces.reverse with
      | last :: others =>
        if dotted && isDotted last && others.all isGroup then some (others.length + 2) else none
      | [] => none

/-- Whether a text is an address. -/
def isAddress (s : List Char) : Bool :=
  match splitFirst? [':', ':'] s with
  | none => countGroups? true s == some 8
  | some (before, after) =>
    match countGroups? false before, countGroups? true after with
    | some n, some m => n + m ≤ 7
    | _, _ => false

end HtmlMail.Url.Ipv6
