/-!
# UTF-8

Texts as bytes and back. Writing is exact. Reading accepts any bytes: where they are not well formed,
each longest piece that could have begun a character, or else a single byte, becomes one replacement
character.

- `Utf8.encode` : the bytes of a text
- `Utf8.decode` : the text of arbitrary bytes
- `Utf8.decode?` : the text of bytes that are well formed
- `Utf8.withoutMark` : a text without the mark of byte order in front
-/

namespace HtmlMail.Utf8

/-- The bytes of a text. -/
def encode (s : List Char) : List UInt8 := s.flatMap String.utf8EncodeChar

/-- The character that stands for bytes that are not well formed. -/
def replacement : Char := '\uFFFD'

/-- What is known inside a character of several bytes. -/
structure Pending where
  /-- How many bytes are still to come. -/
  missing : Nat
  /-- The least next byte that keeps the character well formed. -/
  low : Nat
  /-- The greatest next byte that keeps the character well formed. -/
  high : Nat
  /-- The number read so far. -/
  value : Nat

/-- What a byte means at the start of a character: a character of its own, the lead of a longer one, or
nothing. -/
inductive Lead where
  | single (c : Char)
  | long (p : Pending)
  | invalid

/-- The meaning of a byte at the start of a character. After some leads the next byte is bounded more
narrowly, so that no number is written in more bytes than it needs and none is a surrogate or too
large. -/
def lead (b : Nat) : Lead :=
  if b < 0x80 then .single (Char.ofNat b)
  else if b < 0xC2 then .invalid
  else if b < 0xE0 then .long ⟨1, 0x80, 0xBF, b - 0xC0⟩
  else if b < 0xF0 then
    .long ⟨2, if b = 0xE0 then 0xA0 else 0x80, if b = 0xED then 0x9F else 0xBF, b - 0xE0⟩
  else if b < 0xF5 then
    .long ⟨3, if b = 0xF0 then 0x90 else 0x80, if b = 0xF4 then 0x8F else 0xBF, b - 0xF0⟩
  else .invalid

/-- One character read from bytes, or `none` for a piece that is not well formed. -/
abbrev Piece := Option Char

/-- Reads bytes into characters and pieces that are not well formed; `pending` is the character whose
bytes are being read. -/
def pieces (pending : Option Pending) : List UInt8 → List Piece
  | [] => if pending.isSome then [none] else []
  | byte :: rest =>
    let b := byte.toNat
    let fresh : List Piece := match lead b with
      | .single c => some c :: pieces none rest
      | .long p => pieces (some p) rest
      | .invalid => none :: pieces none rest
    match pending with
    | none => fresh
    | some p =>
      if p.low ≤ b ∧ b ≤ p.high then
        let value := p.value * 64 + (b - 0x80)
        if p.missing ≤ 1 then some (Char.ofNat value) :: pieces none rest
        else pieces (some ⟨p.missing - 1, 0x80, 0xBF, value⟩) rest
      else none :: fresh

/-- The text of arbitrary bytes, with a replacement character for each piece that is not well formed. -/
def decode (bytes : List UInt8) : List Char := (pieces none bytes).map (·.getD replacement)

/-- The text of bytes, if they are well formed throughout. -/
def decode? (bytes : List UInt8) : Option (List Char) := (pieces none bytes).mapM id

/-- The text without a mark of byte order in front. -/
def withoutMark : List Char → List Char
  | '\uFEFF' :: rest => rest
  | s => s

/-- What is left without the mark is the end of the text. -/
theorem withoutMark_isSuffix (s : List Char) : withoutMark s <:+ s := by
  unfold withoutMark
  split
  · exact List.suffix_cons _ _
  · exact List.suffix_rfl

end HtmlMail.Utf8
