import HtmlMail.Text.Utf8
import HtmlMail.Url.Domain.Mapping
import HtmlMail.Url.Domain.Punycode
import HtmlMail.Url.Percent

/-!
# Domain names

A domain name consists of labels with dots between them. It may be written with characters beyond ASCII,
with other characters in place of ASCII ones, with percent coding, and with labels in the ASCII form that
begins with `xn--`.

- `Domain.read?` : the name that is meant, if the text is well formed
- `Domain.isLabel` : what holds of every label
- `Domain.directionsFit` : what holds of the labels if one of them is written from right to left
-/

namespace HtmlMail.Url.Domain

open Chars

/-- How labels in ASCII form begin. -/
def asciiMark : List Char := ['x', 'n', '-', '-']

/-- The longest label that is put into ASCII form. -/
def maxLength : Nat := 1000

/-- The longest ASCII form that is read. -/
def maxCodeLength : Nat := 2000

/-- Whether a text has characters beyond ASCII. -/
def needsCode (s : List Char) : Bool := s.any (0x80 ≤ ·.toNat)

/-- The label that is meant. The ASCII form is only for labels that need it, and those it holds stand for
themselves. -/
def decodeLabel? (s : List Char) : Option (List Char) :=
  match asciiMark.isPrefixOf? s with
  | none => some s
  | some code =>
    if maxCodeLength < code.length then none
    else (Punycode.decode? code).filter fun label => needsCode label && mapText? label == some label

/-- The characters of ASCII that cannot stand in a label: controls, the blank, and those that mean
something else in a URL. -/
def isDenied (c : Char) : Bool :=
  c.toNat ≤ 0x20 || c.toNat == 0x7F || "#/:<>?@[\\]^|%".toList.contains c

/-- Asks that the letters on both sides of a place are not joined. -/
def nonJoiner : Char := '\u200C'

/-- Asks that the letters on both sides of a place are joined. -/
def joiner : Char := '\u200D'

/-- Whether the nearest character that is not passed over has one of the given kinds of joining. -/
def nearestJoins (kinds : List Joining) (s : List Char) : Bool :=
  match s.dropWhile fun c => Joining.of c = .transparent with
  | [] => false
  | c :: _ => kinds.contains (Joining.of c)

/-- Whether a joiner can stand between two texts, the first one given from its end. -/
def joinerFits (c : Char) (before after : List Char) : Bool :=
  if c = joiner then before.head?.any isVirama
  else if c = nonJoiner then
    before.head?.any isVirama ||
      (nearestJoins [.left, .both] before && nearestJoins [.right, .both] after)
  else true

/-- Whether all joiners of a text can stand where they are; `before` is what stands in front of it, from
its end. -/
def joinersFit (before : List Char) : List Char → Bool
  | [] => true
  | c :: rest => joinerFits c before rest && joinersFit (c :: before) rest

/-- Whether a text can be a label: no mark at its start, no denied character, each joiner in place, and not
too long for its ASCII form. -/
def isLabel (s : List Char) : Bool :=
  !s.head?.any isMark && !s.any isDenied && joinersFit [] s && (!needsCode s || s.length ≤ maxLength)

/-- Whether a character is written from right to left. -/
def runsLeft (c : Char) : Bool := [.rightToLeft, .arabicNumber].contains (Direction.of c)

/-- Whether the characters of a label fit together where names may be written in both directions: all in
the direction of the first one, a letter or number at the end, numbers of one kind. -/
def directionFits (label : List Char) : Bool :=
  let directions := label.map Direction.of
  let last? := directions.reverse.find? (· ≠ .attached)
  match directions.head? with
  | none => true
  | some .leftToRight =>
    !label.any runsLeft && last?.any [.leftToRight, .europeanNumber].contains
  | some .rightToLeft =>
    !directions.contains .leftToRight &&
      last?.any [.rightToLeft, .arabicNumber, .europeanNumber].contains &&
      !(directions.contains .arabicNumber && directions.contains .europeanNumber)
  | some _ => false

/-- Whether the directions within each label fit together. They matter only if some character is written
from right to left. -/
def directionsFit (labels : List (List Char)) : Bool :=
  !labels.any (·.any runsLeft) || labels.all directionFits

/-- The labels of a text without percent coding. -/
def labels? (s : List Char) : Option (List (List Char)) :=
  (mapText? s).bind fun mapped =>
    ((splitOnChar '.' mapped).mapM decodeLabel?).filter fun labels =>
      labels.all isLabel && directionsFit labels

/-- The name that a text means. It is never empty. -/
def read? (s : List Char) : Option (List Char) :=
  (((Utf8.decode? (Percent.decode s)).bind labels?).map (List.intercalate ['.'])).filter (!·.isEmpty)

end HtmlMail.Url.Domain
