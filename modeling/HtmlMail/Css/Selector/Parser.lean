import HtmlMail.Css.Selector.Basic
import HtmlMail.Outcome
import HtmlMail.Text.Quoted

/-!
# Reading selectors

The text of a selector is read from the left, one compound after the other. A name is made of ASCII
letters, digits, hyphens, underscores and all characters beyond ASCII.

- `Selector.parse` : the selector a text denotes, or why it denotes none
- `SelectorError.message` : the wording of the reasons
-/

namespace HtmlMail.Css

open Chars

/-- Why a text is no selector. -/
inductive SelectorError where
  /-- Something is missing at the end. -/
  | empty (selector : String)
  | unexpectedCharacter (selector : String) (character : Char)
  | unsupportedPseudoClass (name : String)
  | unsupportedAttribute (selector : String)
  deriving DecidableEq, Repr

/-- The wording of the reason. -/
def SelectorError.message : SelectorError → String
  | .empty selector => "Empty selector in " ++ Text.quote selector
  | .unexpectedCharacter selector c =>
    "Unexpected " ++ Text.quoteChar c ++ " in selector " ++ Text.quote selector
  | .unsupportedPseudoClass name => "Unsupported pseudo-class :" ++ name
  | .unsupportedAttribute selector => "Unsupported attribute selector in " ++ Text.quote selector

/-- A reason apart from the text it is about. -/
inductive SelectorFault where
  | atEnd
  | at (character : Char)
  | pseudoClass (name : String)
  | attribute
  deriving DecidableEq, Repr

/-- The reason together with the text. -/
def SelectorFault.inText (selector : String) : SelectorFault → SelectorError
  | .atEnd => .empty selector
  | .at c => .unexpectedCharacter selector c
  | .pseudoClass name => .unsupportedPseudoClass name
  | .attribute => .unsupportedAttribute selector

/-- What was read from a text, with what follows it. -/
abbrev Reading (α : Type) := α × List Char

/-- The fault of a text that should go on in another way. -/
def faultAt : List Char → SelectorFault
  | [] => .atEnd
  | c :: _ => .at c

/-- Whether a character can be part of a name. -/
def isNameChar (c : Char) : Bool := c.isAlphanum || c == '-' || c == '_' || c.toNat ≥ 0x80

/-- Reads a name. -/
def readName (s : List Char) : Except SelectorFault (Reading String) :=
  let name := s.takeWhile isNameChar
  if name.isEmpty then .error (faultAt s) else .ok (String.ofList name, s.dropWhile isNameChar)

theorem readName_isSuffix {s rest : List Char} {name : String} (h : readName s = .ok (name, rest)) :
    rest <:+ s := by
  simp only [readName] at h
  split at h
  · cases h
  · cases h
    exact List.dropWhile_suffix _

/-- Reads the value of an attribute selector: up to the closing quote, or else up to a blank or the
closing bracket. -/
def readAttributeValue : List Char → Except SelectorFault (Reading String)
  | [] => .ok ("", [])
  | c :: rest =>
    if c = '"' ∨ c = '\'' then
      match splitAtChar? c rest with
      | none => .error .attribute
      | some (value, after) => .ok (String.ofList value, after)
    else
      let inValue (d : Char) : Bool := d != ']' && !isBlank d
      .ok (String.ofList ((c :: rest).takeWhile inValue), (c :: rest).dropWhile inValue)

theorem readAttributeValue_isSuffix {s rest : List Char} {value : String}
    (h : readAttributeValue s = .ok (value, rest)) : rest <:+ s := by
  unfold readAttributeValue at h
  split at h
  · cases h
    exact List.suffix_rfl
  · split at h
    · split at h
      · cases h
      · next hs =>
        cases h
        exact (isSuffix_of_splitAtChar? hs).trans (List.suffix_cons _ _)
    · cases h
      exact List.dropWhile_suffix _

/-- Reads the operator of an attribute selector. -/
def readOperator : List Char → Except SelectorFault (Reading AttributeOperator)
  | c :: '=' :: rest =>
    match AttributeOperator.ofSign? c with
    | some operator => .ok (operator, rest)
    | none => .error .attribute
  | _ => .error .attribute

theorem readOperator_isSuffix {s rest : List Char} {operator : AttributeOperator}
    (h : readOperator s = .ok (operator, rest)) : rest <:+ s := by
  unfold readOperator at h
  split at h
  · split at h
    · cases h
      exact (List.suffix_cons _ _).trans (List.suffix_cons _ _)
    · cases h
  · cases h

/-- Reads an attribute selector after its opening bracket. -/
def readAttribute (s : List Char) : Except SelectorFault (Reading AttributeSelector) := do
  let (name, s) ← readName (trimStart s)
  let (operator, s) ← readOperator (trimStart s)
  let (expected, s) ← readAttributeValue (trimStart s)
  match trimStart s with
  | ']' :: rest => .ok (⟨Text.lower name, operator, expected⟩, rest)
  | _ => .error .attribute

theorem readAttribute_isSuffix {s rest : List Char} {a : AttributeSelector}
    (h : readAttribute s = .ok (a, rest)) : rest <:+ s := by
  have trimStart_isSuffix (t : List Char) : trimStart t <:+ t := List.dropWhile_suffix _
  obtain ⟨⟨_, s₁⟩, h₁, h⟩ := exists_of_bind_eq_ok h
  obtain ⟨⟨_, s₂⟩, h₂, h⟩ := exists_of_bind_eq_ok h
  obtain ⟨⟨_, s₃⟩, h₃, h⟩ := exists_of_bind_eq_ok h
  dsimp only at h
  split at h
  · next hb =>
    cases h
    exact ((List.suffix_cons _ _).trans (hb ▸ trimStart_isSuffix s₃)).trans <|
      (readAttributeValue_isSuffix h₃).trans <| (trimStart_isSuffix s₂).trans <|
      (readOperator_isSuffix h₂).trans <| (trimStart_isSuffix s₁).trans <|
      (readName_isSuffix h₁).trans (trimStart_isSuffix s)
  · cases h

/-- Reads a pseudo-class after its colon. -/
def readPseudoClass (s : List Char) : Except SelectorFault (Reading PseudoClass) := do
  let (name, s) ← readName s
  match PseudoClass.ofName? name with
  | some p => .ok (p, s)
  | none => .error (.pseudoClass name)

theorem readPseudoClass_isSuffix {s rest : List Char} {p : PseudoClass}
    (h : readPseudoClass s = .ok (p, rest)) : rest <:+ s := by
  obtain ⟨⟨_, s₁⟩, h₁, h⟩ := exists_of_bind_eq_ok h
  dsimp only at h
  split at h
  · cases h
    exact readName_isSuffix h₁
  · cases h

/-- Reads a condition, if the text begins with one. -/
def readSimple? : List Char → Except SelectorFault (Option (Reading SimpleSelector))
  | '#' :: rest => (readName rest).map fun (name, s) => some (.id name, s)
  | '.' :: rest => (readName rest).map fun (name, s) => some (.className name, s)
  | '[' :: rest => (readAttribute rest).map fun (a, s) => some (.attribute a, s)
  | ':' :: rest => (readPseudoClass rest).map fun (p, s) => some (.pseudoClass p, s)
  | _ => .ok none

/-- The mark of a condition is taken off the text. -/
theorem length_readSimple?_lt {s rest : List Char} {part : SimpleSelector}
    (h : readSimple? s = .ok (some (part, rest))) : rest.length < s.length := by
  unfold readSimple? at h
  split at h
  · obtain ⟨⟨_, _⟩, hr, he⟩ := exists_of_map_eq_ok h
    cases he
    exact Nat.lt_succ_of_le (readName_isSuffix hr).length_le
  · obtain ⟨⟨_, _⟩, hr, he⟩ := exists_of_map_eq_ok h
    cases he
    exact Nat.lt_succ_of_le (readName_isSuffix hr).length_le
  · obtain ⟨⟨_, _⟩, hr, he⟩ := exists_of_map_eq_ok h
    cases he
    exact Nat.lt_succ_of_le (readAttribute_isSuffix hr).length_le
  · obtain ⟨⟨_, _⟩, hr, he⟩ := exists_of_map_eq_ok h
    cases he
    exact Nat.lt_succ_of_le (readPseudoClass_isSuffix hr).length_le
  · cases h

/-- Reads conditions as long as there are any. -/
def readSimples (s : List Char) : Except SelectorFault (Reading (List SimpleSelector)) :=
  match _h : readSimple? s with
  | .error e => .error e
  | .ok none => .ok ([], s)
  | .ok (some (part, rest)) => (readSimples rest).map fun (parts, rest) => (part :: parts, rest)
termination_by s.length
decreasing_by exact length_readSimple?_lt _h

/-- Reads the tag name of a compound, if there is one. The star stands for any tag name. -/
def readTag : List Char → Option String × List Char
  | '*' :: rest => (none, rest)
  | s =>
    let name := s.takeWhile isNameChar
    if name.isEmpty then (none, s)
    else (some (Text.lower (String.ofList name)), s.dropWhile isNameChar)

/-- Reads a compound, which cannot be empty. -/
def readCompound (s : List Char) : Except SelectorFault (Reading CompoundSelector) := do
  let (tag?, afterTag) := readTag s
  let (parts, rest) ← readSimples afterTag
  if rest.length < s.length then .ok (.ofParts tag? parts, rest) else .error (faultAt s)

theorem length_readCompound_lt {s rest : List Char} {c : CompoundSelector}
    (h : readCompound s = .ok (c, rest)) : rest.length < s.length := by
  obtain ⟨⟨_, left⟩, -, h⟩ := exists_of_bind_eq_ok h
  dsimp only at h
  split at h
  · next hl =>
    cases h
    exact hl
  · cases h

/-- Reads a combinator and the blanks around it; blanks alone are a combinator too. -/
def readCombinator (s : List Char) : Except SelectorFault (Reading Combinator) :=
  let rest := trimStart s
  match rest with
  | '>' :: after => .ok (.child, trimStart after)
  | '+' :: after => .ok (.nextSibling, trimStart after)
  | '~' :: after => .ok (.laterSibling, trimStart after)
  | _ => if rest.length < s.length then .ok (.descendant, rest) else .error (faultAt rest)

theorem length_readCombinator_le {s rest : List Char} {combinator : Combinator}
    (h : readCombinator s = .ok (combinator, rest)) : rest.length ≤ s.length := by
  have hs := length_trimStart_le s
  simp only [readCombinator] at h
  split at h
  case h_4 =>
    split at h
    · cases h
      exact hs
    · cases h
  all_goals
    next after he =>
      cases h
      rw [he, List.length_cons] at hs
      exact Nat.le_trans (length_trimStart_le after) (Nat.le_of_succ_le hs)

/-- Reads the rest of a selector that begins with `left`. -/
def readFrom (left : Selector) (s : List Char) : Except SelectorFault Selector :=
  if allBlank s then .ok left
  else
    match _hc : readCombinator s with
    | .error e => .error e
    | .ok (combinator, afterCombinator) =>
      match _hr : readCompound afterCombinator with
      | .error e => .error e
      | .ok (right, rest) => readFrom (.combined left combinator right) rest
termination_by s.length
decreasing_by exact Nat.lt_of_lt_of_le (length_readCompound_lt _hr) (length_readCombinator_le _hc)

/-- Reads a whole selector without blanks at its ends. -/
def readSelector (s : List Char) : Except SelectorFault Selector := do
  let (first, rest) ← readCompound s
  readFrom (.compound first) rest

/-- The selector a text denotes. -/
def Selector.parse (text : String) : Except SelectorError Selector :=
  (readSelector (trim text.toList)).mapError (·.inText text)

end HtmlMail.Css
