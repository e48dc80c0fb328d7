import HtmlMail.Css.Selector.Parser

/-!
# Stylesheets

A stylesheet is a list of rules in the order of the text. Comments are taken out first; then the text is
searched for selector lists with declarations in braces behind them, and each selector of a list makes a
rule. What cannot be read is left out.

- `stripComments` : a stylesheet on one line, without comments
- `blocks` : selector lists with the declarations that follow them in braces
- `Rule.ofStylesheet` : the rules of a stylesheet
-/

namespace HtmlMail.Css

open Chars

/-- How a comment begins. -/
def commentStart : List Char := ['/', '*']

/-- How a comment ends. -/
def commentEnd : List Char := ['*', '/']

/-- The text without the comments between `/*` and `*/`. The search starts anew after each one, so what
was on its two sides can make up another one; a comment that is not closed runs to the end. -/
def removeComments (s : List Char) : List Char :=
  match _hstart : splitFirst? commentStart s with
  | none => s
  | some (before, comment) =>
    match _hend : splitFirst? commentEnd comment with
    | none => before
    | some (_, after) => removeComments (before ++ after)
termination_by s.length
decreasing_by
  have h₁ := congrArg List.length (splitFirst?_eq_some _hstart)
  have h₂ := congrArg List.length (splitFirst?_eq_some _hend)
  simp only [List.length_append, commentStart, commentEnd, List.length_cons] at *
  omega

/-- Whether a line is a comment from its first visible character on. -/
def isCommentLine (line : List Char) : Bool := ['/', '/'].isPrefixOf (trim line)

/-- The lines of a stylesheet joined to one, without comments. -/
def stripComments (css : String) : String :=
  let lines := (splitOnChar '\n' css.toList).filter (!isCommentLine ·)
  -- The line ends go with the lines: `a` and `b` on two lines become `ab`.
  String.ofList (removeComments (lines.flatten.filter (· != '\r')))

/-- Whether a character is a brace. -/
def isBrace (c : Char) : Bool := c = '\x7b' || c = '\x7d'

/-- The declarations in braces that a text begins with, and what follows them. They may not be empty or
hold a brace. -/
def braced? : List Char → Option (List Char × List Char)
  | '\x7b' :: inner =>
    let declarations := inner.takeWhile (!isBrace ·)
    match inner.dropWhile (!isBrace ·) with
    | '\x7d' :: after => if declarations.isEmpty then none else some (declarations, after)
    | _ => none
  | _ => none

/-- What stands between braces is taken off the text. -/
theorem isSuffix_of_braced? {s declarations after : List Char} (h : braced? s = some (declarations, after)) :
    after <:+ s := by
  unfold braced? at h
  split at h
  · next inner =>
    dsimp only at h
    split at h
    · next rest hrest =>
      split at h
      · cases h
      · cases h
        have hinner : '\x7d' :: after <:+ inner := hrest ▸ List.dropWhile_suffix (!isBrace ·)
        exact (List.suffix_cons _ _).trans (hinner.trans (List.suffix_cons _ _))
    · cases h
  · cases h

/-- The selector list and the declarations in braces behind it that a text begins with, and what follows
them. The list may not be empty or hold a brace. -/
def blockAtStart? (css : List Char) : Option ((List Char × List Char) × List Char) :=
  let list := css.takeWhile (!isBrace ·)
  if list.isEmpty then none
  else (braced? (css.dropWhile (!isBrace ·))).map fun (declarations, after) => ((list, declarations), after)

/-- A block is not empty. -/
theorem length_blockAtStart?_lt {css after : List Char} {block : List Char × List Char}
    (h : blockAtStart? css = some (block, after)) : after.length < css.length := by
  unfold blockAtStart? at h
  dsimp only at h
  split at h
  · cases h
  · next hlist =>
    obtain ⟨⟨declarations, rest⟩, hbraced, he⟩ := Option.map_eq_some_iff.1 h
    cases he
    have hrest := (isSuffix_of_braced? hbraced).length_le
    have hcss := congrArg List.length (List.takeWhile_append_dropWhile (p := (!isBrace ·)) (l := css))
    rw [List.isEmpty_iff, ← List.length_eq_zero_iff] at hlist
    rw [List.length_append] at hcss
    dsimp only at hrest ⊢
    omega

/-- The pairs of a selector list and the declarations that follow it in braces. Each one is looked for
behind the one before, and begins as far to the left as it can. -/
def blocks : List Char → List (List Char × List Char)
  | [] => []
  | c :: rest =>
    match _h : blockAtStart? (c :: rest) with
    | none => blocks rest
    | some (block, after) => block :: blocks after
termination_by css => css.length
decreasing_by
  · exact Nat.lt_succ_self _
  · exact length_blockAtStart?_lt _h

/-- A selector with the declarations for the elements it describes. -/
structure Rule where
  /-- The text of the selector. -/
  selector : String
  /-- The text of the declarations, with single quotes only. -/
  declarations : String
  /-- The specificity of the selector. -/
  specificity : UInt32
  /-- The number of rules in front of this one. -/
  order : Nat
  deriving DecidableEq, Repr

/-- The rules of a selector list with its declarations, the first one with the number `order`. Selectors
that cannot be read are left out. -/
def Rule.ofBlock (order : Nat) (list declarations : List Char) : List Rule :=
  let texts := (splitOnChar ',' list).map fun s => String.ofList (trim s)
  let read := (texts.filter (· ≠ "")).filterMap fun text =>
    (Selector.parse text).toOption.map fun selector => (text, selector.specificity)
  -- The declarations are going to stand in an attribute, between double quotes.
  let body := (trim declarations).map fun c => if c = '"' then '\'' else c
  read.mapIdx fun i (text, specificity) => ⟨text, String.ofList body, specificity, order + i⟩

/-- The rules of a stylesheet in the order of its text. -/
def Rule.ofStylesheet (css : String) : List Rule :=
  (blocks (stripComments css).toList).foldl
    (fun rules (list, declarations) => rules ++ Rule.ofBlock rules.length list declarations) []

end HtmlMail.Css
