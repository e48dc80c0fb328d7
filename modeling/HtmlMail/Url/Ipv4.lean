import HtmlMail.Text.Digits
import HtmlMail.Text.Search

/-!
# IPv4 addresses

A host whose last part is a number is meant as an address: up to four numbers with dots between them,
where the last one stands for all bytes that the others leave.

- `Ipv4.isNumeric` : whether a host is meant as an address
- `Ipv4.isAddress` : whether it is one
-/

namespace HtmlMail.Url.Ipv4

open Chars

/-- The number of a part: in base sixteen behind `0x`, in base eight behind any other zero, or else in
base ten. A bare `0x` is zero. -/
def number? : List Char → Option Nat
  | [] => none
  | ['0', 'x'] => some 0
  | ['0', 'X'] => some 0
  | '0' :: 'x' :: digits => numeral? 16 digits
  | '0' :: 'X' :: digits => numeral? 16 digits
  | '0' :: c :: digits => numeral? 8 (c :: digits)
  | digits => numeral? 10 digits

/-- The parts of a host between its dots. A dot at the very end starts no part. -/
def parts (host : List Char) : List (List Char) :=
  let pieces := splitOnChar '.' host
  if pieces.getLast? = some [] then pieces.dropLast else pieces

/-- Whether a host is meant as an address: its last part consists of digits, or is a number. -/
def isNumeric (host : List Char) : Bool :=
  match (parts host).getLast? with
  | none => false
  | some part => (!part.isEmpty && part.all Char.isDigit) || (number? part).isSome

/-- Whether numbers, the last one first, make an address: the last one fills the bytes that are left. -/
def fit : List Nat → Bool
  | [] => false
  | last :: others => others.all (· < 256) && last < Nat.pow 256 (4 - others.length)

/-- Whether a host is an address. -/
def isAddress (host : List Char) : Bool :=
  (parts host).length ≤ 4 && ((parts host).mapM number?).any fun numbers => fit numbers.reverse

end HtmlMail.Url.Ipv4
