/-!
# Tables

A TOML document is a table: a list of keys with what they stand for. Tables grow statement by statement,
and how a table came to be says what may still be added to it.

- `Node` : what a key can stand for
- `Entries.insert?` : a table with one more entry, under a key with dots
- `Entries.open?`, `Entries.openElement?` : a table after the header of another one
-/

namespace HtmlMail.Toml

/-- How a table came to be. -/
inductive Origin where
  /-- It stands in the path of a header. -/
  | path
  /-- It stands in front of a dot in a key. -/
  | dotted
  /-- It has a header of its own. -/
  | header
  /-- It was written in braces, and nothing can be added. -/
  | inline
  deriving DecidableEq, Repr

/-- What a key stands for. Floating-point numbers, dates and times are kept as they are written. -/
inductive Node where
  | text (value : String)
  | integer (value : Int)
  | float (written : String)
  | boolean (value : Bool)
  | moment (written : String)
  | array (items : List Node)
  | table (origin : Origin) (entries : List (String × Node))
  /-- An array whose elements have headers of their own; the last one can still grow. -/
  | tables (elements : List (List (String × Node)))

/-- A list of keys with what they stand for, without repetition. -/
abbrev Entries := List (String × Node)

namespace Entries

/-- What a key stands for. -/
def get? (entries : Entries) (key : String) : Option Node := entries.lookup key

/-- The entries with another node at a key. -/
def set (entries : Entries) (key : String) (node : Node) : Entries :=
  if (entries.get? key).isSome then
    entries.map fun (k, old) => (k, if k = key then node else old)
  else entries ++ [(key, node)]

/-- One more entry under a new key. -/
def add? (entries : Entries) (key : String) (node : Node) : Option Entries :=
  if (entries.get? key).isSome then none else some (entries.set key node)

/-- Edits the table that a path leads to. The path may lead through tables of any kind but those in
braces, and to the last element of an array; tables that are missing are made. -/
def editAt? (edit : Entries → Option Entries) : List String → Entries → Option Entries
  | [], entries => edit entries
  | key :: path, entries =>
    match entries.get? key with
    | none => (editAt? edit path []).map fun sub => entries.set key (.table .path sub)
    -- Tables in braces are complete.
    | some (.table .inline _) => none
    | some (.table origin sub) =>
      (editAt? edit path sub).map fun sub => entries.set key (.table origin sub)
    | some (.tables elements) =>
      match elements.reverse with
      | [] => none
      | last :: others =>
        (editAt? edit path last).map fun last =>
          entries.set key (.tables (last :: others).reverse)
    | some _ => none

/-- One more entry in a table, under a key with dots. Tables in front of a dot are made by such keys or
stand in the path of a header; the last of them is made by such keys only. -/
def insert? (key : String) (node : Node) : List String → Entries → Option Entries
  | [], entries => entries.add? key node
  | step :: path, entries =>
    match entries.get? step with
    | none => (insert? key node path []).map fun sub => entries.set step (.table .dotted sub)
    | some (.table .dotted sub) =>
      (insert? key node path sub).map fun sub => entries.set step (.table .dotted sub)
    | some (.table .path sub) =>
      if path.isEmpty then none
      else (insert? key node path sub).map fun sub => entries.set step (.table .path sub)
    | some _ => none

/-- The entries after the header of a table with this key. It must not have been written before, but
headers of tables inside it may have been. -/
def open? (key : String) (entries : Entries) : Option Entries :=
  match entries.get? key with
  | none => some (entries.set key (.table .header []))
  | some (.table .path sub) => some (entries.set key (.table .header sub))
  | some _ => none

/-- The entries after the header of one more element of the array with this key. -/
def openElement? (key : String) (entries : Entries) : Option Entries :=
  match entries.get? key with
  | none => some (entries.set key (.tables [[]]))
  | some (.tables elements) => some (entries.set key (.tables (elements ++ [[]])))
  | some _ => none

end Entries

end HtmlMail.Toml
