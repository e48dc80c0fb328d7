import HtmlMail.Html.CharacterReference
import HtmlMail.Html.Token
import HtmlMail.Text.Search

/-!
# From text to tokens

The text of markup is cut into tokens from the left, one construct at a time: a stretch of text, a tag,
a comment, a document type. How text is read depends on the element it stands in, so the mode is given
anew for every construct.

- `normalizeLines` : the text with line feeds as its only line ends
- `lex` : the tokens of the first construct, what follows it and how that is to be read

No construct is an error: whatever is not well formed is read in some way or dropped.
-/

namespace HtmlMail.Html

open Chars Dom

/-- The text with line feeds as its only line ends. -/
def normalizeLines : List Char → List Char
  | [] => []
  | '\r' :: '\n' :: rest => '\n' :: normalizeLines rest
  | c :: rest => (if c = '\r' then '\n' else c) :: normalizeLines rest

/-- A character as it stands in names, values and raw text, where a null character cannot stand. -/
def withoutNull (c : Char) : Char := if c = '\x00' then Utf8.replacement else c

/-- A text in lower case without null characters. -/
def asName (s : List Char) : String := String.ofList (lower (s.map withoutNull))

/-! ### Text -/

/-- A character of a text, or a fault in front of one. -/
inductive Piece where
  | character (c : Char)
  | fault
  deriving DecidableEq, Repr

/-- What a character reference contributes to a text. -/
def CharacterReference.pieces (r : CharacterReference) : List Piece :=
  (if r.isFaulty then [.fault] else []) ++ r.characters.map .character

/-- The character reference that begins with a character, if one does and if references count. -/
def referenceAt? (references : Option Bool) (c : Char) (rest : List Char) : Option CharacterReference :=
  if c = '&' then references.bind fun inAttribute => CharacterReference.read? inAttribute rest else none

theorem referenceAt?_isSuffix {references : Option Bool} {c : Char} {rest : List Char}
    {r : CharacterReference} (h : referenceAt? references c rest = some r) : r.rest <:+ rest := by
  simp only [referenceAt?] at h
  split at h
  · obtain ⟨_, -, h⟩ := Option.bind_eq_some_iff.1 h
    exact CharacterReference.read?_isSuffix h
  · simp at h

/-- Reads a text up to where `stops` says so. Character references are resolved if `references` says
whether they stand in an attribute. -/
def readPieces (references : Option Bool) (stops : List Char → Bool) (s : List Char) :
    List Piece × List Char :=
  if stops s then ([], s)
  else
    match s with
    | [] => ([], [])
    | c :: rest =>
      match _h : referenceAt? references c rest with
      | some r =>
        let (pieces, after) := readPieces references stops r.rest
        (r.pieces ++ pieces, after)
      | none =>
        let (pieces, after) := readPieces references stops rest
        (.character c :: pieces, after)
termination_by s.length
decreasing_by
  · exact Nat.lt_succ_of_le (referenceAt?_isSuffix _h).length_le
  · exact Nat.lt_succ_self _

/-- What is left behind a text is the end of the whole. -/
theorem readPieces_isSuffix (references : Option Bool) (stops : List Char → Bool) (s : List Char) :
    (readPieces references stops s).2 <:+ s := by
  fun_induction readPieces references stops s with
  | case1 => exact List.suffix_rfl
  | case2 => exact List.suffix_rfl
  | case3 c rest r h pieces after he _ ih =>
    rw [he] at ih
    exact (ih.trans (referenceAt?_isSuffix h)).trans (List.suffix_cons _ _)
  | case4 c rest _ pieces after he _ ih =>
    rw [he] at ih
    exact ih.trans (List.suffix_cons _ _)

/-- The characters of a text, without nulls. -/
def charactersOf (pieces : List Piece) : List Char :=
  pieces.filterMap fun
    | .character c => some (withoutNull c)
    | .fault => none

/-- Whether two neighbours in a text belong to one run. -/
def isOneRun : Piece → Piece → Bool
  | .character c, .character d =>
    c != '\x00' && d != '\x00' && isMarkupBlank c == isMarkupBlank d
  | _, _ => false

/-- The token of a run. -/
def tokenOfRun : List Piece → List Token
  | [] => []
  | .fault :: _ => [.fault]
  | .character c :: rest =>
    let run := String.ofList (c :: charactersOf rest)
    [if c = '\x00' then .null else if isMarkupBlank c then .blanks run else .text run]

/-- The tokens of a text. -/
def tokensOf (pieces : List Piece) : List Token := (pieces.splitBy isOneRun).flatMap tokenOfRun

/-- The tokens of a text that cannot hold null characters. -/
def tokensOfRaw (pieces : List Piece) : List Token :=
  tokensOf (pieces.map fun
    | .character c => .character (withoutNull c)
    | .fault => .fault)

/-! ### Tags -/

/-- Whether a character ends the name of a tag. -/
def endsTagName (c : Char) : Bool := isMarkupBlank c || c == '/' || c == '>'

/-- Reads a value from its first character on: in quotes, or up to a blank or the end of the tag. -/
def readValue? : List Char → Option (List Char × List Char)
  | [] => none
  | c :: rest =>
    if c = '"' ∨ c = '\'' then
      let (pieces, after) := readPieces (some true) (·.head? == some c) rest
      if after.isEmpty then none else some (charactersOf pieces, after.drop 1)
    else
      let (pieces, after) :=
        readPieces (some true) (fun s => s.head?.any fun d => isMarkupBlank d || d == '>') (c :: rest)
      some (charactersOf pieces, after)

/-- Reads an attribute from the first character of its name on. That character belongs to the name
whatever it is. -/
def readAttribute? : List Char → Option (Attribute × List Char)
  | [] => none
  | c :: rest =>
    let inName (d : Char) : Bool := !endsTagName d && d != '='
    let name := asName (c :: rest.takeWhile inName)
    match (rest.dropWhile inName).dropWhile isMarkupBlank with
    | '=' :: afterSign =>
      (readValue? (afterSign.dropWhile isMarkupBlank)).map fun (value, after) =>
        (⟨name, String.ofList value⟩, after)
    | after => some (⟨name, ""⟩, after)

theorem readValue?_isSuffix {s value after : List Char} (h : readValue? s = some (value, after)) :
    after <:+ s := by
  unfold readValue? at h
  split at h
  · simp at h
  · next c rest =>
    split at h
    · have hs := readPieces_isSuffix (some true) (·.head? == some c) rest
      dsimp only at h
      split at h
      · simp at h
      · simp only [Option.some.injEq, Prod.mk.injEq] at h
        exact h.2 ▸ ((List.drop_suffix _ _).trans hs).trans (List.suffix_cons _ _)
    · simp only [Option.some.injEq, Prod.mk.injEq] at h
      exact h.2 ▸ readPieces_isSuffix _ _ _

/-- What follows an attribute is the end of the text, and its first character is not left. -/
theorem readAttribute?_isSuffix {c : Char} {rest after : List Char} {a : Attribute}
    (h : readAttribute? (c :: rest) = some (a, after)) : after <:+ rest := by
  simp only [readAttribute?] at h
  split at h
  · next afterSign hd =>
    obtain ⟨⟨value, left⟩, hv, he⟩ := Option.map_eq_some_iff.1 h
    simp only [Prod.mk.injEq] at he
    have hs : '=' :: afterSign <:+ rest :=
      hd ▸ (List.dropWhile_suffix _).trans (List.dropWhile_suffix _)
    exact he.2 ▸ ((readValue?_isSuffix hv).trans (List.dropWhile_suffix _)).trans
      ((List.suffix_cons _ _).trans hs)
  · simp only [Option.some.injEq, Prod.mk.injEq] at h
    exact h.2 ▸ (List.dropWhile_suffix _).trans (List.dropWhile_suffix _)

/-- Reads the rest of a tag behind its name: its attributes, whether a slash stands at its end, and what
follows it. A tag without an end is none. -/
def readTagRest? (s : List Char) : Option (List Attribute × Bool × List Char) :=
  match s with
  | [] => none
  | '>' :: rest => some ([], false, rest)
  | '/' :: '>' :: rest => some ([], true, rest)
  | c :: rest =>
    if isMarkupBlank c || c == '/' then readTagRest? rest
    else
      match _h : readAttribute? (c :: rest) with
      | none => none
      | some (a, after) =>
        (readTagRest? after).map fun (as, closesItself, end_) => (a :: as, closesItself, end_)
termination_by s.length
decreasing_by
  · exact Nat.lt_succ_self _
  · exact Nat.lt_succ_of_le (readAttribute?_isSuffix _h).length_le

/-- What follows a tag is the end of the text. -/
theorem readTagRest?_isSuffix {s after : List Char} {as : List Attribute} {closesItself : Bool}
    (h : readTagRest? s = some (as, closesItself, after)) : after <:+ s := by
  fun_induction readTagRest? s generalizing as closesItself after with
  | case1 => simp at h
  | case2 rest =>
    simp only [Option.some.injEq, Prod.mk.injEq] at h
    exact h.2.2 ▸ List.suffix_cons _ _
  | case3 rest =>
    simp only [Option.some.injEq, Prod.mk.injEq] at h
    exact h.2.2 ▸ (List.suffix_cons _ _).trans (List.suffix_cons _ _)
  | case4 c rest _ _ _ ih => exact (ih h).trans (List.suffix_cons _ _)
  | case5 => simp at h
  | case6 c rest _ _ _ a left ha ih =>
    obtain ⟨⟨bs, b, end_⟩, hr, he⟩ := Option.map_eq_some_iff.1 h
    simp only [Prod.mk.injEq] at he
    exact he.2.2 ▸ (ih hr).trans ((readAttribute?_isSuffix ha).trans (List.suffix_cons _ _))

/-- The attributes of a list of which none has the name of an earlier one. -/
def firstOfEachName (as : List Attribute) : List Attribute :=
  as.foldl (fun kept a => if kept.any (·.name == a.name) then kept else kept ++ [a]) []

/-- Reads a tag from its name on. At the end of the text it is dropped. -/
def readTag (isEnd : Bool) (s : List Char) : List Token × List Char :=
  let name := asName (s.takeWhile (!endsTagName ·))
  match readTagRest? (s.dropWhile (!endsTagName ·)) with
  | none => ([], [])
  | some (as, closesItself, rest) => ([.tag ⟨isEnd, name, firstOfEachName as, closesItself⟩], rest)

theorem readTag_isSuffix (isEnd : Bool) (s : List Char) : (readTag isEnd s).2 <:+ s := by
  simp only [readTag]
  split
  · exact List.nil_suffix
  · next h => exact (readTagRest?_isSuffix h).trans (List.dropWhile_suffix _)

/-! ### Comments and document types -/

/-- The comment of a text. -/
def commentOf (s : List Char) : Token := .comment (String.ofList (s.map withoutNull))

/-- Reads something that is no markup but looks like it, as a comment up to an angle bracket. -/
def readBogusComment (s : List Char) : List Token × List Char :=
  ([commentOf (s.takeWhile (· != '>'))], (s.dropWhile (· != '>')).drop 1)

/-- What follows the first character that does not have a property is the end of the text. -/
theorem drop_dropWhile_isSuffix (p : Char → Bool) (n : Nat) (s : List Char) :
    (s.dropWhile p).drop n <:+ s :=
  (List.drop_suffix _ _).trans (List.dropWhile_suffix _)

theorem readBogusComment_isSuffix (s : List Char) : (readBogusComment s).2 <:+ s :=
  drop_dropWhile_isSuffix _ _ _

/-- What stands before and after the end of a comment. -/
def splitCommentEnd? : List Char → Option (List Char × List Char)
  | [] => none
  | '-' :: '-' :: '>' :: rest => some ([], rest)
  | '-' :: '-' :: '!' :: '>' :: rest => some ([], rest)
  | c :: rest => (splitCommentEnd? rest).map fun (before, after) => (c :: before, after)

theorem splitCommentEnd?_isSuffix {s before after : List Char}
    (h : splitCommentEnd? s = some (before, after)) : after <:+ s := by
  fun_induction splitCommentEnd? s generalizing before after with
  | case1 => simp at h
  | case2 rest =>
    simp only [Option.some.injEq, Prod.mk.injEq] at h
    exact h.2 ▸ ⟨['-', '-', '>'], rfl⟩
  | case3 rest =>
    simp only [Option.some.injEq, Prod.mk.injEq] at h
    exact h.2 ▸ ⟨['-', '-', '!', '>'], rfl⟩
  | case4 c rest _ _ ih =>
    obtain ⟨⟨b, a⟩, hr, he⟩ := Option.map_eq_some_iff.1 h
    simp only [Prod.mk.injEq] at he
    exact he.2 ▸ (ih hr).trans (List.suffix_cons _ _)

/-- The text without the longest beginning of a comment's end that stands at its end. -/
def dropUnfinishedEnd (s : List Char) : List Char :=
  (["--!", "--", "-"].findSome? fun tail => tail.toList.isSuffixOf? s).getD s

/-- Reads a comment behind its opening. -/
def readComment : List Char → List Token × List Char
  | '>' :: rest => ([.comment ""], rest)
  | '-' :: '>' :: rest => ([.comment ""], rest)
  | s =>
    match splitCommentEnd? s with
    | some (text, rest) => ([commentOf text], rest)
    | none => ([commentOf (dropUnfinishedEnd s)], [])

theorem readComment_isSuffix (s : List Char) : (readComment s).2 <:+ s := by
  unfold readComment
  split
  · exact List.suffix_cons _ _
  · exact ⟨['-', '>'], rfl⟩
  · split
    · next h => exact splitCommentEnd?_isSuffix h
    · exact List.nil_suffix

/-- Reads the rest of a document type in which nothing counts any more. -/
def readDoctypeRest (d : Doctype) (s : List Char) : List Token × List Char :=
  ([.doctype d], (s.dropWhile (· != '>')).drop 1)

theorem readDoctypeRest_isSuffix (d : Doctype) (s : List Char) : (readDoctypeRest d s).2 <:+ s :=
  drop_dropWhile_isSuffix _ _ _

/-- Reads an identifier in quotes: the identifier, whether its closing quote is missing, and what
follows. A closing angle bracket ends it too. -/
def readIdentifier (mark : Char) (s : List Char) : Option String × Bool × List Char :=
  let inside (c : Char) : Bool := c != mark && c != '>'
  let id := some (String.ofList ((s.takeWhile inside).map withoutNull))
  match s.dropWhile inside with
  | [] => (id, true, [])
  | c :: rest => if c = mark then (id, false, rest) else (id, true, c :: rest)

theorem readIdentifier_isSuffix (mark : Char) (s : List Char) :
    (readIdentifier mark s).2.2 <:+ s := by
  have hs : s.dropWhile (fun c => c != mark && c != '>') <:+ s := List.dropWhile_suffix _
  simp only [readIdentifier]
  split
  · exact List.nil_suffix
  · next c rest hd =>
    rw [hd] at hs
    split
    · exact (List.suffix_cons _ _).trans hs
    · exact hs

/-- Reads a document type from where its system identifier may stand. If `required`, it is a fault that
none stands there. -/
def readSystemId (required : Bool) (d : Doctype) (s : List Char) : List Token × List Char :=
  let faulty := { d with isFaulty := true }
  match s.dropWhile isMarkupBlank with
  | [] => ([.doctype faulty], [])
  | c :: rest =>
    if c = '"' ∨ c = '\'' then
      let (systemId?, isOpen, after) := readIdentifier c rest
      let d := { d with systemId? := systemId? }
      let after := after.dropWhile isMarkupBlank
      readDoctypeRest { d with isFaulty := isOpen || after.isEmpty } after
    else readDoctypeRest (if c = '>' ∧ !required then d else faulty) (c :: rest)

theorem readSystemId_isSuffix (required : Bool) (d : Doctype) (s : List Char) :
    (readSystemId required d s).2 <:+ s := by
  have hs : s.dropWhile isMarkupBlank <:+ s := List.dropWhile_suffix _
  simp only [readSystemId]
  split
  · exact List.nil_suffix
  · next c rest hd =>
    rw [hd] at hs
    split
    · exact (readDoctypeRest_isSuffix _ _).trans <| (List.dropWhile_suffix _).trans <|
        (readIdentifier_isSuffix _ _).trans <| (List.suffix_cons _ _).trans hs
    · exact (readDoctypeRest_isSuffix _ _).trans hs

/-- Reads a document type from where its public identifier must stand. -/
def readPublicId (d : Doctype) (s : List Char) : List Token × List Char :=
  let faulty := { d with isFaulty := true }
  match s.dropWhile isMarkupBlank with
  | [] => ([.doctype faulty], [])
  | c :: rest =>
    if c = '"' ∨ c = '\'' then
      let (publicId?, isOpen, after) := readIdentifier c rest
      let d := { d with publicId? := publicId? }
      if isOpen then readDoctypeRest { d with isFaulty := true } after else readSystemId false d after
    else readDoctypeRest faulty (c :: rest)

theorem readPublicId_isSuffix (d : Doctype) (s : List Char) : (readPublicId d s).2 <:+ s := by
  have hs : s.dropWhile isMarkupBlank <:+ s := List.dropWhile_suffix _
  simp only [readPublicId]
  split
  · exact List.nil_suffix
  · next c rest hd =>
    rw [hd] at hs
    have hi := (readIdentifier_isSuffix c rest).trans ((List.suffix_cons _ _).trans hs)
    split
    · split
      · exact (readDoctypeRest_isSuffix _ _).trans hi
      · exact (readSystemId_isSuffix _ _ _).trans hi
    · exact (readDoctypeRest_isSuffix _ _).trans hs

/-- Reads a document type behind its keyword. -/
def readDoctype (s : List Char) : List Token × List Char :=
  let start := s.dropWhile isMarkupBlank
  let inName (c : Char) : Bool := !isMarkupBlank c && c != '>'
  let name := start.takeWhile inName
  let d : Doctype := ⟨if name.isEmpty then none else some (asName name), none, none, name.isEmpty⟩
  match (start.dropWhile inName).dropWhile isMarkupBlank with
  | [] => ([.doctype { d with isFaulty := true }], [])
  | '>' :: rest => ([.doctype d], rest)
  | rest =>
    match dropPrefixIgnoringCase? "public".toList rest with
    | some after => readPublicId d after
    | none =>
      match dropPrefixIgnoringCase? "system".toList rest with
      | some after => readSystemId true d after
      | none => readDoctypeRest { d with isFaulty := true } rest

theorem readDoctype_isSuffix (s : List Char) : (readDoctype s).2 <:+ s := by
  simp only [readDoctype]
  have hs : ((s.dropWhile isMarkupBlank).dropWhile
      (fun c => !isMarkupBlank c && c != '>')).dropWhile isMarkupBlank <:+ s :=
    (List.dropWhile_suffix _).trans ((List.dropWhile_suffix _).trans (List.dropWhile_suffix _))
  split
  · exact List.nil_suffix
  · next rest hd => exact (List.suffix_cons _ _).trans (hd ▸ hs)
  · split
    · next h =>
      exact (readPublicId_isSuffix _ _).trans ((isSuffix_of_dropPrefixIgnoringCase? h).trans hs)
    · split
      · next h =>
        exact (readSystemId_isSuffix _ _ _).trans ((isSuffix_of_dropPrefixIgnoringCase? h).trans hs)
      · exact (readDoctypeRest_isSuffix _ _).trans hs

/-- Reads what follows an angle bracket and an exclamation mark. A section of character data is known in
foreign elements only. -/
def readDeclaration (inForeign : Bool) (s : List Char) : List Token × List Char :=
  match "--".toList.isPrefixOf? s with
  | some rest => readComment rest
  | none =>
    match dropPrefixIgnoringCase? "doctype".toList s with
    | some rest => readDoctype rest
    | none =>
      match if inForeign then "[CDATA[".toList.isPrefixOf? s else none with
      | some rest =>
        let (text, after) := (splitFirst? "]]>".toList rest).getD (rest, [])
        (tokensOf (text.map .character), after)
      | none => readBogusComment s

theorem readDeclaration_isSuffix (inForeign : Bool) (s : List Char) :
    (readDeclaration inForeign s).2 <:+ s := by
  simp only [readDeclaration]
  split
  · next h => exact (readComment_isSuffix _).trans (isSuffix_of_isPrefixOf? h)
  · split
    · next h => exact (readDoctype_isSuffix _).trans (isSuffix_of_dropPrefixIgnoringCase? h)
    · split
      · next rest h =>
        have hr : rest <:+ s := by
          split at h
          · exact isSuffix_of_isPrefixOf? h
          · simp at h
        cases hc : splitFirst? "]]>".toList rest with
        | none => exact List.nil_suffix
        | some parts => exact (isSuffix_of_splitFirst? hc).trans hr
      · exact readBogusComment_isSuffix _

/-! ### Constructs -/

/-- Whether markup begins here, rather than a text with an angle bracket. -/
def isMarkupStart : List Char → Bool
  | '<' :: '/' :: rest => !rest.isEmpty
  | '<' :: c :: _ => c.isAlpha || c == '!' || c == '?'
  | _ => false

/-- Reads the first construct of a text that is read as markup. -/
def readMarkup (inForeign : Bool) (s : List Char) : List Token × List Char :=
  if isMarkupStart s then
    match s with
    | '<' :: '!' :: rest => readDeclaration inForeign rest
    | '<' :: '/' :: '>' :: rest => ([.fault], rest)
    | '<' :: '/' :: rest => if rest.head?.any Char.isAlpha then readTag true rest else readBogusComment rest
    | '<' :: '?' :: rest => readBogusComment ('?' :: rest)
    | _ => readTag false (s.drop 1)
  else
    let (pieces, rest) := readPieces (some false) isMarkupStart s
    (tokensOf pieces, rest)

/-- What is left behind the first construct is the end of the text, and its first character is not
left. -/
theorem readMarkup_isSuffix (inForeign : Bool) (c : Char) (rest : List Char) :
    (readMarkup inForeign (c :: rest)).2 <:+ rest := by
  unfold readMarkup
  split
  · next hm =>
    split
    · next r h =>
      simp only [List.cons.injEq] at h
      exact h.2 ▸ (readDeclaration_isSuffix _ _).trans (List.suffix_cons _ _)
    · next r h =>
      simp only [List.cons.injEq] at h
      exact h.2 ▸ ⟨['/', '>'], rfl⟩
    · next r _ h =>
      simp only [List.cons.injEq] at h
      have hr : r <:+ rest := h.2 ▸ List.suffix_cons _ _
      split
      · exact (readTag_isSuffix _ _).trans hr
      · exact (readBogusComment_isSuffix _).trans hr
    · next r h =>
      simp only [List.cons.injEq] at h
      exact h.2 ▸ readBogusComment_isSuffix _
    · exact readTag_isSuffix _ _
  · next hm =>
    unfold readPieces
    rw [if_neg hm]
    dsimp only
    split
    · next r h => exact (readPieces_isSuffix _ _ _).trans (referenceAt?_isSuffix h)
    · exact readPieces_isSuffix _ _ _

/-- Whether an end tag of the name begins here. -/
def isEndTagStart (name : String) (s : List Char) : Bool :=
  (dropPrefixIgnoringCase? ("</" ++ name).toList s).any fun rest => rest.head?.any endsTagName

/-- Where in a script a text stands: outside a comment, inside one, or inside a script in one, with the
number of hyphens right in front, up to two. -/
inductive ScriptPlace where
  | outside
  | comment (hyphens : Nat)
  | nested (hyphens : Nat)
  deriving DecidableEq, Repr

namespace ScriptPlace

/-- Whether a start tag of a script begins here. -/
def isScriptStart (s : List Char) : Bool :=
  (dropPrefixIgnoringCase? "<script".toList s).any fun rest => rest.head?.any endsTagName

/-- The number of hyphens behind a character. -/
def countHyphens (hyphens : Nat) (c : Char) : Nat := if c = '-' then min 2 (hyphens + 1) else 0

/-- The place behind the first character of a text. -/
def next (place : ScriptPlace) (c : Char) (s : List Char) : ScriptPlace :=
  match place with
  | outside => if "<!--".toList.isPrefixOf s then comment 0 else outside
  | comment hyphens =>
    if c = '>' ∧ hyphens = 2 then outside
    else if isScriptStart s then nested 0
    else comment (countHyphens hyphens c)
  | nested hyphens =>
    if c = '>' ∧ hyphens = 2 then outside
    else if isEndTagStart "script" s then comment 0
    else nested (countHyphens hyphens c)

/-- Whether the end tag of the script is known here. -/
def seesEnd : ScriptPlace → Bool
  | nested _ => false
  | _ => true

end ScriptPlace

/-- Reads the text of a script up to its end tag. -/
def readScript (place : ScriptPlace) : List Char → List Char × List Char
  | [] => ([], [])
  | c :: rest =>
    if place.seesEnd && isEndTagStart "script" (c :: rest) then ([], c :: rest)
    else
      let (text, after) := readScript (place.next c (c :: rest)) rest
      (c :: text, after)

theorem readScript_isSuffix (place : ScriptPlace) (s : List Char) : (readScript place s).2 <:+ s := by
  induction s generalizing place with
  | nil => exact List.suffix_rfl
  | cons c rest ih =>
    unfold readScript
    split
    · exact List.suffix_rfl
    · exact (ih _).trans (List.suffix_cons _ _)

/-- The tokens of a construct, what follows it, and how that is to be read. -/
structure Lexed where
  tokens : List Token
  rest : List Char
  mode : TextMode

/-- A stretch of text and the end tag behind it, if there is one. -/
def Lexed.ofStretch (tokens : List Token) (rest : List Char) : Lexed :=
  let (tags, rest) := if rest.isEmpty then ([], []) else readTag true (rest.drop 2)
  ⟨tokens ++ tags, rest, .markup⟩

/-- The first construct of a text. `inForeign` says whether it stands in an element of another language
than that of hypertext. -/
def lex (mode : TextMode) (inForeign : Bool) (s : List Char) : Lexed :=
  match mode with
  | .markup =>
    let (tokens, rest) := readMarkup inForeign s
    ⟨tokens, rest, .markup⟩
  | .references closing =>
    let (pieces, rest) := readPieces (some false) (isEndTagStart closing) s
    .ofStretch (tokensOfRaw pieces) rest
  | .raw closing =>
    let (pieces, rest) := readPieces none (isEndTagStart closing) s
    .ofStretch (tokensOfRaw pieces) rest
  | .script =>
    let (text, rest) := readScript .outside s
    .ofStretch (tokensOfRaw (text.map .character)) rest
  | .plain => ⟨tokensOfRaw (s.map .character), [], .plain⟩

theorem Lexed.length_ofStretch_lt {tokens : List Token} {c : Char} {rest after : List Char}
    (h : after <:+ c :: rest) : (Lexed.ofStretch tokens after).rest.length < (c :: rest).length := by
  cases after with
  | nil => simp [Lexed.ofStretch]
  | cons d after =>
    have ht := (readTag_isSuffix true ((d :: after).drop 2)).length_le
    have hl := h.length_le
    simp only [Lexed.ofStretch, List.isEmpty_cons, Bool.false_eq_true, if_false, List.length_cons,
      List.length_drop] at *
    omega

/-- **Every construct takes something off the text.** -/
theorem length_lex_rest_lt (mode : TextMode) (inForeign : Bool) (c : Char) (rest : List Char) :
    (lex mode inForeign (c :: rest)).rest.length < (c :: rest).length := by
  cases mode with
  | markup => exact Nat.lt_succ_of_le (readMarkup_isSuffix inForeign c rest).length_le
  | references closing => exact Lexed.length_ofStretch_lt (readPieces_isSuffix _ _ _)
  | raw closing => exact Lexed.length_ofStretch_lt (readPieces_isSuffix _ _ _)
  | script =>
    have h := readScript_isSuffix .outside (c :: rest)
    simp only [lex]
    exact Lexed.length_ofStretch_lt h
  | plain => exact Nat.succ_pos _

end HtmlMail.Html
