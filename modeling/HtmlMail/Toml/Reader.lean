import HtmlMail.Text.Utf8
import HtmlMail.Toml.Moment
import HtmlMail.Toml.Number
import HtmlMail.Toml.Quoted
import HtmlMail.Toml.Table

/-!
# Reading TOML

A document consists of lines. Each of them assigns a value to a key, or is the header of a table, or holds
nothing but a comment. Values in brackets and braces may go on over several lines.

- `value` : what can be assigned
- `Statement` : what a line says
- `read?` : the entries of a document, or `none` where it is not well formed
-/

namespace HtmlMail.Toml

open Scan

/-- A comment. -/
def comment : Scan Unit := do
  let _ ← Scan.char '#'
  let _ ← Scan.takeWhile isPlain

/-- White space, comments and line ends between the parts of a value. -/
def gap : Scan Unit := do
  let _ ← many (newline <|> comment <|> do let _ ← Scan.satisfying isSpace)

/-- Whether a character can stand in a key without quotes. -/
def isKeyChar (c : Char) : Bool := c.isAlphanum || c == '_' || c == '-'

/-- A key without dots. -/
def simpleKey : Scan String :=
  quotedKey <|> do
    let key ← Scan.takeWhile isKeyChar
    if key.isEmpty then failure else return String.ofList key

/-- How deep a key can lead, and how deep brackets and braces can stand inside each other. -/
def maxDepth : Nat := 80

/-- A key, with the steps in front of its last dot. -/
def key : Scan (List String × String) := do
  let first ← simpleKey
  let others ← many (do spaces; let _ ← Scan.char '.'; spaces; simpleKey)
  let steps := first :: others
  if maxDepth < steps.length then failure
  return (steps.dropLast, steps.getLast?.getD first)

/-- Whether a character can stand in a number or a moment. -/
def isScalarChar (c : Char) : Bool :=
  c.isAlphanum || c == '_' || c == '+' || c == '-' || c == '.' || c == ':'

/-- What a text without quotes stands for. -/
def scalarOf? (s : List Char) : Option Node :=
  if s = "true".toList then some (.boolean true)
  else if s = "false".toList then some (.boolean false)
  else match integer? s with
    | some n => some (.integer n)
    | none =>
      if isFloat s then some (.float (String.ofList s))
      else if isMoment s then some (.moment (String.ofList s))
      else none

/-- The time that follows a date after a blank. -/
def timeAfterBlank : Scan (List Char) := do
  let blank ← Scan.char ' '
  let first ← Scan.satisfying Char.isDigit
  return blank :: first :: (← Scan.takeWhile isScalarChar)

/-- A text without quotes. -/
def scalar : Scan Node := do
  let start ← Scan.takeWhile isScalarChar
  let time? ← if isDate start then optional timeAfterBlank else pure none
  ofOption (scalarOf? (start ++ time?.getD []))

/-- A key, an equals sign and a value, with what may stand around the equals sign. -/
def assignment (around : Scan Unit) (value : Scan Node) : Scan ((List String × String) × Node) := do
  let target ← key
  around
  let _ ← Scan.char '='
  around
  return (target, ← value)

/-- Values in brackets. -/
def array (value : Scan Node) : Scan Node := do
  let _ ← Scan.char '['
  gap
  let items ← sepEndBy (do let item ← value; gap; return item) (do let _ ← Scan.char ','; gap)
  let _ ← Scan.char ']'
  return .array items

/-- Assignments in braces. -/
def inlineTable (value : Scan Node) : Scan Node := do
  let _ ← Scan.char '\x7b'
  gap
  let items ← sepEndBy (do let item ← assignment gap value; gap; return item)
    (do let _ ← Scan.char ','; gap)
  let _ ← Scan.char '\x7d'
  let entries ← ofOption (items.foldlM
    (fun (entries : Entries) ((path, key), node) => entries.insert? key node path) [])
  return .table .inline entries

/-- A value with at most so many brackets and braces inside each other. -/
def value : Nat → Scan Node
  | 0 => (do return .text (← quoted)) <|> scalar
  | depth + 1 =>
    array (value depth) <|> inlineTable (value depth) <|> (do return .text (← quoted)) <|> scalar

/-- What a line says. -/
inductive Statement where
  | blank
  | assign (path : List String) (key : String) (node : Node)
  /-- The header of a table. -/
  | table (path : List String) (key : String)
  /-- The header of one more element of an array. -/
  | element (path : List String) (key : String)

/-- A header in single or double brackets. -/
def header : Scan Statement := do
  let _ ← Scan.char '['
  let inner? ← optional (Scan.char '[')
  spaces
  let (path, key) ← key
  spaces
  let _ ← Scan.char ']'
  if inner?.isSome then
    let _ ← Scan.char ']'
    return .element path key
  else return .table path key

/-- What a line says. -/
def statement : Scan Statement := do
  spaces
  let said ← header <|>
    (do let ((path, key), node) ← assignment spaces (value maxDepth); return .assign path key node) <|>
    pure .blank
  spaces
  let _ ← optional comment
  return said

/-- All statements of a document, one a line. -/
def statements : Scan (List Statement) := do
  let first ← statement
  return first :: (← many (do newline; statement))

/-- What is known in the middle of a document. -/
structure Progress where
  /-- The path to the table whose entries are being assigned. -/
  path : List String
  entries : Entries

/-- What is known after one more statement. -/
def Progress.step? (progress : Progress) : Statement → Option Progress
  | .blank => some progress
  | .assign path key node =>
    (progress.entries.editAt? (·.insert? key node path) progress.path).map fun entries =>
      ⟨progress.path, entries⟩
  | .table path key =>
    (progress.entries.editAt? (·.open? key) path).map fun entries => ⟨path ++ [key], entries⟩
  | .element path key =>
    (progress.entries.editAt? (·.openElement? key) path).map fun entries => ⟨path ++ [key], entries⟩

/-- The entries of a document. -/
def read? (text : String) : Option Entries :=
  (statements.whole? (Utf8.withoutMark text.toList)).bind fun statements =>
    (statements.foldlM Progress.step? ⟨[], []⟩).map (·.entries)

end HtmlMail.Toml
