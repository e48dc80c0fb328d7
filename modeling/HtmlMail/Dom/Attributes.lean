import HtmlMail.Text.AsciiCase

/-!
# Attributes

The attributes of an element, in the order in which they were written. Names are compared up to ASCII
case, and an attribute keeps the spelling and the place of its first occurrence.

- `Attributes.get?`, `Attributes.contains` : looking a name up
- `Attributes.insert` : the value of a name replaced, or a new entry at the end
- `Attributes.erase` : an entry taken out
- `Attributes.getThenInsert`, `Attributes.findThenErase` : the same with what was there before
- `Attributes.ofList` : entries inserted one after the other
-/

namespace HtmlMail.Dom

/-- A name with its value. -/
structure Attribute where
  name : String
  value : String
  deriving DecidableEq, Repr

/-- Whether an attribute goes by a name, up to ASCII case. -/
def Attribute.isNamed (a : Attribute) (name : String) : Bool := Text.eqIgnoringCase a.name name

/-- The attributes of an element in the order of writing. -/
structure Attributes where
  entries : List Attribute
  deriving DecidableEq, Repr

namespace Attributes

/-- No attributes. -/
def empty : Attributes := ⟨[]⟩

instance : EmptyCollection Attributes := ⟨empty⟩

/-- The number of attributes. -/
def size (as : Attributes) : Nat := as.entries.length

/-- The entry of a name. -/
def find? (as : Attributes) (name : String) : Option Attribute :=
  as.entries.find? (·.isNamed name)

/-- The value of a name. -/
def get? (as : Attributes) (name : String) : Option String := (as.find? name).map (·.value)

/-- Whether there is an attribute of the name. -/
def contains (as : Attributes) (name : String) : Bool := as.entries.any (·.isNamed name)

/-- The entries with the value of the first one of the name exchanged. -/
def replaceValue (name value : String) : List Attribute → List Attribute
  | [] => []
  | a :: rest =>
    if a.isNamed name then ⟨a.name, value⟩ :: rest else a :: replaceValue name value rest

/-- The attributes with the value of a name: an entry of that name keeps its place and spelling, and a
new one goes to the end. -/
def insert (as : Attributes) (name value : String) : Attributes :=
  if as.contains name then ⟨replaceValue name value as.entries⟩
  else ⟨as.entries ++ [⟨name, value⟩]⟩

/-- The attributes without the entry of a name. -/
def erase (as : Attributes) (name : String) : Attributes :=
  ⟨as.entries.eraseP (·.isNamed name)⟩

/-- The value a name had before, and the attributes with its new value. -/
def getThenInsert (as : Attributes) (name value : String) : Option String × Attributes :=
  match as.entries.findIdx? (·.isNamed name) with
  | some i => (as.entries[i]?.map (·.value), ⟨as.entries.modify i fun a => ⟨a.name, value⟩⟩)
  | none => (none, ⟨as.entries ++ [⟨name, value⟩]⟩)

/-- The entry a name had, and the attributes without it. -/
def findThenErase (as : Attributes) (name : String) : Option Attribute × Attributes :=
  match as.entries.findIdx? (·.isNamed name) with
  | some i => (as.entries[i]?, ⟨as.entries.eraseIdx i⟩)
  | none => (none, as)

/-- The attributes of a list of entries, inserted one after the other. -/
def ofList (entries : List Attribute) : Attributes :=
  entries.foldl (fun as a => as.insert a.name a.value) empty

end Attributes

end HtmlMail.Dom
