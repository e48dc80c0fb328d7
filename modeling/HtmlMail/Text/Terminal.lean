/-!
# Texts without control sequences

A terminal does not show all characters of a text: some begin a sequence that is a command to the terminal,
and controls stand for themselves. A text that does not go to a terminal is shown without both; of the
controls only tabs, line ends and page breaks are left.

- `Place` : where in a control sequence a text stands
- `Reading.step` : what a character does, and whether it is shown
- `Chars.shown`, `Text.shown` : the characters that are shown, in their order
-/

namespace HtmlMail.Terminal

/-- Where in a control sequence a text stands. -/
inductive Place where
  /-- Outside. -/
  | text
  /-- Behind the escape character. -/
  | escape
  /-- In a sequence of three characters or more, which a digit, a letter or a later sign ends. -/
  | designation
  /-- In a sequence with parameters, which a letter or a sign behind the digits ends. -/
  | command
  /-- In a text for the title of the window. -/
  | title
  /-- In front of the parameters of a text for a device. -/
  | deviceStart
  | deviceParameters
  | deviceIntermediate
  /-- In a text that the terminal passes on or drops. -/
  | passed
  deriving DecidableEq, Repr

/-- Whether a character is a control of ASCII. -/
def isControl (c : Char) : Bool := c.toNat < 0x20 || c.toNat == 0x7F

/-- Whether a control is shown. -/
def isShownControl (c : Char) : Bool := c == '\t' || c == '\n' || c == '\x0C' || c == '\r'

/-- The byte that ends a text which is passed on. Behind the first byte of a character it counts too. -/
def terminator : UInt8 := 0x9C

namespace Place

/-- The place behind a character that is no control. -/
def afterSign (place : Place) (c : Char) : Place :=
  let n := c.toNat
  match place with
  | text => text
  | escape =>
    if n < 0x30 then designation
    else if c = '[' then command
    else if c = ']' then title
    else if c = 'P' then deviceStart
    else if c = 'X' ∨ c = '^' ∨ c = '_' then passed
    else text
  | designation => if n < 0x30 then designation else text
  | command => if n < 0x40 then command else text
  | title => title
  | deviceStart =>
    if n < 0x30 then deviceIntermediate else if n < 0x40 then deviceParameters else passed
  | deviceParameters =>
    if n < 0x30 then deviceIntermediate else if n < 0x3C then deviceParameters else passed
  | deviceIntermediate => if n < 0x30 then deviceIntermediate else passed
  | passed => passed

/-- The place behind a character that is not shown. -/
def after (place : Place) (c : Char) : Place :=
  if c = '\x1B' then escape
  else if c = '\x18' ∨ c = '\x1A' then text
  else if 0x80 ≤ c.toNat then
    if place = passed ∧ (String.utf8EncodeChar c).tail.contains terminator then text else place
  else if isControl c then if place = title ∧ c = '\x07' then text else place
  else place.afterSign c

/-- Whether controls have their effect here. -/
def obeysControls (place : Place) : Bool := [text, escape, designation, command].contains place

end Place

/-- What is known between two characters. -/
structure Reading where
  place : Place
  /-- Whether a shown control interrupts the sequence. What follows is shown too, up to a control that is
  not. -/
  isInterrupted : Bool
  deriving DecidableEq, Repr

namespace Reading

/-- Outside of all sequences. -/
def start : Reading := ⟨.text, false⟩

/-- Whether a character is shown. -/
def shows (reading : Reading) (c : Char) : Bool :=
  if isControl c then isShownControl c && reading.place.obeysControls
  else reading.place == .text || reading.isInterrupted

/-- What is known behind a character. A sequence is over at a shown character beyond ASCII, and interrupted
by any other shown one. -/
def step (reading : Reading) (c : Char) : Reading :=
  if !reading.shows c then ⟨reading.place.after c, false⟩
  else if 0x80 ≤ c.toNat then start
  else ⟨reading.place, true⟩

end Reading

/-- The characters of a text that are shown. -/
def shownFrom (reading : Reading) : List Char → List Char
  | [] => []
  | c :: rest =>
    let more := shownFrom (reading.step c) rest
    if reading.shows c then c :: more else more

end HtmlMail.Terminal

namespace HtmlMail.Chars

/-- The characters of a text that are shown where there is no terminal. -/
def shown (s : List Char) : List Char := Terminal.shownFrom .start s

end HtmlMail.Chars

namespace HtmlMail.Text

/-- What is shown of a text where there is no terminal. -/
def shown (s : String) : String := String.ofList (Chars.shown s.toList)

end HtmlMail.Text
