import HtmlMail.Text.Digits
import HtmlMail.Text.Utf8

/-!
# Percent coding

A byte can be written as a percent sign and two digits of base sixteen.

- `Percent.encodeByte` : a byte written so
- `Percent.decode` : the bytes of a text in which some are written so
-/

namespace HtmlMail.Url.Percent

open Chars

/-- A digit of base sixteen in capitals. -/
def digit (n : Nat) : Char := if n < 10 then Char.ofNat (48 + n) else Char.ofNat (55 + n)

/-- A byte as a percent sign and two digits. -/
def encodeByte (b : UInt8) : List Char := ['%', digit (b.toNat / 16), digit (b.toNat % 16)]

/-- The bytes of a text. A percent sign without two digits stands for itself. -/
def decode : List Char → List UInt8
  | '%' :: a :: b :: rest =>
    match hexValue? a, hexValue? b with
    | some high, some low => UInt8.ofNat (high * 16 + low) :: decode rest
    | _, _ => String.utf8EncodeChar '%' ++ decode (a :: b :: rest)
  | c :: rest => String.utf8EncodeChar c ++ decode rest
  | [] => []

end HtmlMail.Url.Percent
