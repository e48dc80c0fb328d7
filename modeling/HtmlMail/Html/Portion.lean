import HtmlMail.Html.Lexer

/-!
# Portions

Markup does not arrive as a whole. It is taken up in portions of so many bytes, and a character that does
not fit into the portion it begins in is a portion of its own. In front of each portion a mark of byte
order is dropped.

- `portions` : the portions of a text, which put together are the text (`flatten_portions`)
- `textOf` : the text that is read
- `portionStarts` : where in it the portions begin
-/

namespace HtmlMail.Html

/-- How many bytes are taken up at a time. -/
def portionSize : Nat := 4096

/-- The portions of a text where the first of them still has room for so many bytes. -/
def portions (room : Nat) : List Char → List (List Char)
  | [] => [[]]
  | c :: rest =>
    if c.utf8Size < room then
      match portions (room - c.utf8Size) rest with
      | [] => [[c]]
      | portion :: others => (c :: portion) :: others
    else if c.utf8Size = room then [c] :: portions portionSize rest
    else [] :: [c] :: portions (portionSize + room - c.utf8Size) rest

/-- **Nothing is lost between portions.** -/
theorem flatten_portions (room : Nat) (s : List Char) : (portions room s).flatten = s := by
  fun_induction portions room s <;> simp_all

/-- The text of portions as it is read: without marks in front of them, and with line feeds as its only
line ends. -/
def textOf (portions : List (List Char)) : List Char :=
  normalizeLines (portions.map Utf8.withoutMark).flatten

/-- Where portions begin, as the numbers of characters of the text that are left there. -/
def portionStarts : List (List Char) → List Nat
  | [] => []
  | portion :: others => (textOf (portion :: others)).length :: portionStarts others

end HtmlMail.Html
