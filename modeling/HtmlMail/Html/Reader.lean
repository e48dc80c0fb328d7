import HtmlMail.Html.Construction.Rules
import HtmlMail.Html.Markup
import HtmlMail.Html.Portion

/-!
# Reading markup

Any text is markup. It is cut into tokens, and each of them changes what has been built so far; how the
text goes on is read in a mode that the last tag decides.

- `readMarkupTree` : the markup of a text
- `readDocument` : the document of a text
- `isFragmentText` : whether a text has none of the elements that make up a document
-/

namespace HtmlMail.Html

open Chars Dom Construction

/-- What is left of a text where it is taken up again. A mark of byte order is dropped there, unless a
portion begins, which has lost its mark already. -/
def takeUp (starts : List Nat) (s : List Char) : List Char :=
  if starts.contains s.length then s else Utf8.withoutMark s

theorem takeUp_isSuffix (starts : List Nat) (s : List Char) : takeUp starts s <:+ s := by
  unfold takeUp
  split
  · exact List.suffix_rfl
  · exact Utf8.withoutMark_isSuffix s

/-- The state behind the text that is left. `starts` says where portions of it begin. -/
def construct (starts : List Nat) (mode : TextMode) (s : List Char) (state : State) : State :=
  match s with
  | [] => state.feed .endOfInput
  | c :: rest =>
    let lexed := lex mode state.isInForeign (c :: rest)
    -- The rules may ask for another way of reading; what the construct itself implies comes second.
    let after := lexed.tokens.foldl State.feed { state with textMode? := none, interrupts := false }
    let left := if after.interrupts then takeUp starts lexed.rest else lexed.rest
    construct starts (after.textMode?.getD lexed.mode) left after
termination_by s.length
decreasing_by
  refine Nat.lt_of_le_of_lt ?_ (length_lex_rest_lt mode state.isInForeign c rest)
  split
  · exact (takeUp_isSuffix _ _).length_le
  · exact Nat.le_refl _

/-- The markup of a node and all that is below it, down to the depth `fuel`. -/
def Markup.ofForest (forest : Forest) : Nat → Nat → List Markup
  | 0, _ => []
  | fuel + 1, node =>
    let below := (forest.children node).flatMap (ofForest forest fuel)
    match forest.content? node with
    | none => []
    | some .container => below
    | some (.doctype name publicId systemId) => [.doctype name publicId systemId]
    | some (.element _ name attributes _) => [.element name attributes below]
    | some (.text t) => [.text t]
    | some (.comment t) => [.comment t]

/-- The markup of a text. -/
def readMarkupTree (html : String) : List Markup :=
  let portions := portions portionSize html.toList
  let state := construct (portionStarts portions) .markup (textOf portions) .initial
  Markup.ofForest state.forest state.forest.cells.size Forest.document

/-- Whether a tag or a document type begins here that makes up a document. -/
def isDocumentTagStart (s : List Char) : Bool :=
  ["<!doctype", "<html", "<head", "<body"].any fun start =>
    (dropPrefixIgnoringCase? start.toList s).any fun rest =>
      rest.head?.any fun c => isBlank c || c == '>' || c == '/'

/-- Whether a text has none of the elements that make up a document. -/
def isFragmentText : List Char → Bool
  | [] => true
  | c :: rest => !isDocumentTagStart (c :: rest) && isFragmentText rest

/-- The document of a text, or why its markup is no tree. -/
def readDocument? (html : String) : Except TreeError Document := do
  let tree ← Markup.addAllTo root (readMarkupTree html) .empty
  return { (Document.withTree .empty tree).locate with isFragment := isFragmentText html.toList }

/-- The document of a text. -/
def readDocument (html : String) : Document :=
  match readDocument? html with
  | .ok doc => doc
  | .error _ => { Document.empty with isFragment := true }

end HtmlMail.Html
