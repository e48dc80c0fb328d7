import HtmlMail.Proofs.Html.Feeding

/-!
# Reading regular markup

What is written for regular markup is read construct by construct: each node that was written is built again, and
behind it the same elements are open as in front of it.

* `construct_eq` : how reading goes on behind a construct;
* `Markup.firstToken` : the first token of what is written for a node;
* `Follows` : a state behind a node, in which blank text between the parts of a table may still wait;
* `Ready.read_comment`, `Ready.read_text`, `Ready.read_startTag`, `Ready.read_endTag` : single constructs;
* `Ready.read_ownEndTag` : what closes the innermost element;
* `InText.read` : what stands in elements that hold nothing but text;
* `Markup.IsRegular.read`, `Markup.AreRegular.read` : regular markup.
-/

namespace HtmlMail.Html

open Chars Dom

variable {text rest run : List Char} {t name : String} {token next : Token} {m : Markup} {F : List Markup}

/-! ### Runs -/

theorem flatten_runs (text : List Char) : (runs text).flatten = text := List.flatten_splitBy isSameKind text

theorem runs_ne_nil (h : text ≠ []) : runs text ≠ [] := fun he => h (by rw [← flatten_runs text, he, List.flatten_nil])

theorem isText_textToken (run : List Char) : (textToken run).isText := by
  rw [textToken]
  split <;> rfl

theorem withoutLineFeed?_textToken (h : run.head? ≠ some '\n') :
    Construction.withoutLineFeed? (textToken run) = some (textToken run) := by
  rw [textToken]
  split
  · rw [Construction.withoutLineFeed?, String.toList_ofList]
    split
    · exact absurd rfl h
    · exact absurd rfl h
    · rfl
  · rfl

/-- The first run of a text begins as the text does. -/
theorem head?_of_mem_head?_runs (h : run ∈ (runs text).head?) : run.head? = text.head? := by
  have hflatten := flatten_runs text
  cases hruns : runs text with
  | nil => rw [hruns] at h; cases h
  | cons first others =>
    rw [hruns] at h hflatten
    cases h
    have hne : run ≠ [] := List.ne_nil_of_mem_splitBy (by rw [← runs, hruns]; exact List.mem_cons_self)
    rw [← hflatten, List.flatten_cons, List.head?_append_of_ne_nil _ hne]

/-- Blank text is one run. -/
theorem runs_of_blank (hne : text ≠ []) (h : text.all isMarkupBlank) : runs text = [text] := by
  rw [List.all_eq_true] at h
  refine List.splitBy_of_isChain hne (List.pairwise_of_forall_mem_list fun c hc d hd => ?_).isChain
  rw [isSameKind, h c hc, h d hd]
  rfl

theorem textToken_of_blank (hne : text ≠ []) (h : text.all isMarkupBlank) :
    textToken text = .blanks (String.ofList text) := by
  obtain ⟨c, more, rfl⟩ := List.exists_cons_of_ne_nil hne
  rw [List.all_cons, Bool.and_eq_true] at h
  rw [textToken, List.head?_cons, Option.any_some, if_pos h.1]

theorem escapeText_append_ne_nil (hne : text ≠ []) (rest : List Char) : escapeText text ++ rest ≠ [] := by
  obtain ⟨c, more, rfl⟩ := List.exists_cons_of_ne_nil hne
  obtain ⟨d, more', hd, -⟩ := exists_escapeTextChar_eq_cons c
  rw [escapeText, List.flatMap_cons, hd]
  exact List.cons_ne_nil _ _

/-- **Blank text** is cut off up to the next markup, as one token. -/
theorem lex_blankText (hne : t.toList ≠ []) (hblank : t.toList.all isMarkupBlank) (hrest : EndsText rest) :
    lex .markup false (escapeText t.toList ++ rest) = ⟨[.blanks t], rest, .markup⟩ := by
  have hnull : '\x00' ∉ t.toList := fun h => absurd (List.all_eq_true.1 hblank _ h) (by decide)
  rw [lex_text hne hrest, tokensOf_map hnull, runs_of_blank hne hblank, List.map_singleton,
    textToken_of_blank hne hblank, String.ofList_toList]

/-! ### First tokens -/

namespace Markup

/-- The first token of what is written for a node. -/
def firstToken : Markup → Token
  | .element name attributes _ => .tag ⟨false, name, attributes, voidElements.contains name⟩
  | .text t => textToken ((runs t.toList).headD [])
  | .comment t => .comment t
  | .doctype .. => .endOfInput

/-- The first token of what is written for nodes, in front of another one. -/
def firstTokenOr (next : Token) : List Markup → Token
  | [] => next
  | m :: _ => m.firstToken

theorem isMarkup_firstToken (h : ¬ m.isText) : m.firstToken.isMarkup := by
  cases m <;> first | rfl | exact absurd rfl h

theorem escapeText_line (more : List Char) : escapeText ('\n' :: more) = '\n' :: escapeText more := rfl

/-- No line feed is dropped of what does not begin with one. -/
theorem withoutLineFeed?_firstTokenOr (h : (printAll F).head? ≠ some '\n') (hnext : next.isMarkup) :
    Construction.withoutLineFeed? (firstTokenOr next F) = some (firstTokenOr next F) := by
  cases F with
  | nil => exact Construction.withoutLineFeed?_of_isMarkup hnext
  | cons m F =>
    rw [firstTokenOr]
    cases m with
    | doctype => rfl
    | element => rfl
    | comment => rfl
    | text t =>
      rw [firstToken]
      -- A line feed at the start of the text would be written as it is.
      refine withoutLineFeed?_textToken fun hline => h ?_
      cases hruns : runs t.toList with
      | nil => rw [hruns] at hline; cases hline
      | cons run others =>
        rw [hruns, List.headD_cons, head?_of_mem_head?_runs (by rw [hruns]; rfl)] at hline
        obtain ⟨c, more, hmore⟩ := List.exists_cons_of_ne_nil (List.ne_nil_of_mem (List.mem_of_mem_head? hline))
        rw [hmore] at hline
        obtain rfl : c = '\n' := Option.some.inj hline
        rw [printAll, print, hmore, escapeText_line]
        rfl

theorem isMarkupStart_endTag (name : String) (rest : List Char) : isMarkupStart (endTag name rest) := by
  rw [endTag, isMarkupStart, Bool.not_eq_true', List.isEmpty_eq_false_iff]
  exact List.append_ne_nil_of_right_ne_nil _ (List.cons_ne_nil _ _)

theorem isMarkupStart_print_element {attributes : List Attribute} (htag : IsReadableTag name attributes)
    (children : List Markup) (rest : List Char) : isMarkupStart ((element name attributes children).print ++ rest) := by
  obtain ⟨c, more, hname, hc⟩ := htag.name.exists_cons
  rw [print_element_append, hname, List.cons_append]
  have hslash : c ≠ '/' := by
    rintro rfl
    revert hc
    decide
  rw [isMarkupStart]
  · rw [hc, Bool.true_or, Bool.true_or]
  · exact hslash

/-- What is written for a node that is no text begins as markup. -/
theorem isMarkupStart_print {isOldStyle : Bool} {path : List String} (hm : IsRegular isOldStyle path m)
    (htext : ¬ m.isText) (rest : List Char) : isMarkupStart (print m ++ rest) := by
  cases m with
  | doctype => exact hm.elim
  | text => exact absurd rfl htext
  | comment => rfl
  | element name attributes children =>
    rw [IsRegular] at hm
    exact isMarkupStart_print_element hm.1 children rest

end Markup

namespace Construction

variable {c : List (Nat × String)} {e : Nat × String} {node : Nat} {forest : Forest} {tag : Tag} {isOldStyle : Bool}
  {s s' w : State} {starts : List Nat} {Q : State → Prop} {attributes : List Attribute} {children : List Markup}

/-! ### Constructs -/

theorem withoutMark_eq (h : '\uFEFF' ∉ text) : Utf8.withoutMark text = text := by
  unfold Utf8.withoutMark
  split
  · exact absurd List.mem_cons_self h
  · rfl

/-- How reading goes on behind a construct in a text without marks of byte order. -/
theorem construct_eq (starts : List Nat) {mode mode' : TextMode} {tokens : List Token} (hne : text ≠ [])
    (hmark : '\uFEFF' ∉ rest) (hlex : lex mode s.isInForeign text = ⟨tokens, rest, mode'⟩) (hafter :
      tokens.foldl State.feed { s with textMode? := none, interrupts := false } = s') :
    construct starts mode text s = construct starts (s'.textMode?.getD mode') rest s' := by
  -- There is no mark to pass over behind what was read.
  have htake : takeUp starts rest = rest := by
    rw [takeUp]
    split
    · rfl
    · exact withoutMark_eq hmark
  obtain ⟨c, more, rfl⟩ := List.exists_cons_of_ne_nil hne
  rw [construct, hlex]
  dsimp only
  rw [hafter, htake, ite_self]

/-- A construct that is a single token. -/
theorem Ready.read (hs : Ready isOldStyle c forest token s) (starts : List Nat) (hne : text ≠ [])
    (hmark : '\uFEFF' ∉ rest) (hlex : lex .markup false text = ⟨[token], rest, .markup⟩)
    (htoken : token.isText ∨ token.isMarkup) (h : ∀ w, Stands isOldStyle c forest w → Settles token w Q) :
    ∃ s', construct starts .markup text s = construct starts (s'.textMode?.getD .markup) rest s' ∧ Q s' := by
  refine ⟨State.feed { s with textMode? := none, interrupts := false } token, ?_, hs.feed htoken h false⟩
  exact construct_eq starts hne hmark (by rw [hs.foreign]; exact hlex) rfl

theorem Stands.settles (hs : Stands isOldStyle c forest w) (h : Yields (rulesOf w.mode token) w Q) :
    Settles token w Q := h.settles (isForeign_eq_false hs.opened.isInForeign_eq token)

/-- A state behind a node: markup is led to where the elements are open, and unless the node is a text, anything is. -/
structure Follows (isOldStyle : Bool) (c : List (Nat × String)) (forest : Forest) (m : Markup) (s : State) : Prop where
  ready : ∀ token : Token, token.isMarkup → Ready isOldStyle c forest token s
  stands : ¬ m.isText → Stands isOldStyle c forest s

theorem Stands.follows (hs : Stands isOldStyle c forest s) (m : Markup) : Follows isOldStyle c forest m s :=
  ⟨fun token _ => hs.ready token, fun _ => hs⟩

theorem lex_print_comment {t : String} (ht : IsCommentText t.toList) (rest : List Char) :
    lex .markup false ((Markup.comment t).print ++ rest) = ⟨[.comment t], rest, .markup⟩ := by
  rw [Markup.print, List.append_assoc, List.append_assoc]
  exact lex_comment ht false rest

theorem print_comment_ne_nil (t : String) (rest : List Char) : (Markup.comment t).print ++ rest ≠ [] := by
  rw [Markup.print]
  exact List.cons_ne_nil _ _

/-- **A comment.** -/
theorem Ready.read_comment (hs : Ready isOldStyle (e :: c) forest (.comment t) s)
    (hplace : placeIn ((e :: c).map Prod.snd) ≠ .other) (ht : IsCommentText t.toList) (hmark : '\uFEFF' ∉ rest) :
    ∃ s', construct starts .markup (Markup.print (.comment t) ++ rest) s = construct starts .markup rest s' ∧
      Stands isOldStyle (e :: c) (forest.addNode e.1 (.comment t)) s' := by
  obtain ⟨s', hread, hs'⟩ := hs.read starts (print_comment_ne_nil t rest) hmark (lex_print_comment ht rest) (.inr rfl)
    fun w hw => hw.settles (hw.yields_comment hplace t)
  rw [hs'.opened.textMode] at hread
  exact ⟨s', hread, hs'⟩

/-- **An end tag.** -/
theorem Ready.read_endTag (hs : Ready isOldStyle (e :: c) forest (.tag ⟨true, name, [], false⟩) s)
    (starts : List Nat) (hname : IsTagName name) (hmark : '\uFEFF' ∉ rest) {c' : List (Nat × String)} {forest' : Forest}
    (h : ∀ w, Stands isOldStyle (e :: c) forest w →
      Yields (rulesOf w.mode (.tag ⟨true, name, [], false⟩)) w (Stands isOldStyle c' forest')) :
    ∃ s', construct starts .markup (endTag name rest) s = construct starts .markup rest s' ∧
      Stands isOldStyle c' forest' s' := by
  obtain ⟨s', hread, hs'⟩ := hs.read starts (List.cons_ne_nil _ _) hmark (lex_endTag hname false rest) (.inr rfl)
    fun w hw => hw.settles (h w hw)
  rw [hs'.opened.textMode] at hread
  exact ⟨s', hread, hs'⟩

/-! ### Texts -/

/-- What text in parts comes to. -/
def appendRuns (node : Nat) (runs : List (List Char)) (forest : Forest) : Forest :=
  runs.foldl (fun forest run => forest.appendText node (String.ofList run)) forest

theorem appendRuns_cons (hlt : node < forest.cells.size) (run : List Char) (runs : List (List Char)) :
    appendRuns node (run :: runs) forest = forest.appendText node (String.ofList (run :: runs).flatten) := by
  induction runs generalizing run with
  | nil => rw [List.flatten_cons, List.flatten_nil, List.append_nil]; rfl
  | cons next runs ih =>
    have hstep : appendRuns node (run :: next :: runs) forest = appendRuns node ((run ++ next) :: runs) forest := by
      show appendRuns node runs ((forest.appendText node (String.ofList run)).appendText node (String.ofList next)) = _
      rw [Forest.appendText_appendText hlt, ← String.ofList_append]
      rfl
    rw [hstep, ih, List.flatten_cons, List.flatten_cons, List.flatten_cons, List.append_assoc]

theorem appendRuns_runs (hlt : node < forest.cells.size) (hne : t.toList ≠ []) :
    appendRuns node (runs t.toList) forest = forest.appendText node t := by
  obtain ⟨run, others, hruns⟩ := List.exists_cons_of_ne_nil (runs_ne_nil hne)
  rw [hruns, appendRuns_cons hlt, ← hruns, flatten_runs, String.ofList_toList]

/-- Further runs of a text in a body. -/
theorem Stands.feed_runs (hs : Stands isOldStyle (e :: c) forest s) (hplace : placeIn ((e :: c).map Prod.snd) = .flow)
    (runs : List (List Char)) :
    Stands isOldStyle (e :: c) (appendRuns e.1 runs forest) ((runs.map textToken).foldl State.feed s) := by
  induction runs generalizing forest s with
  | nil => exact hs
  | cons run runs ih =>
    exact ih ((hs.settles (hs.yields_text hplace run)).feed (.inl (isText_textToken run)) hs.skips)

/-- The innermost element is a node of the forest. -/
theorem Ready.lt_size (hs : Ready isOldStyle (e :: c) forest token s) : e.1 < forest.cells.size := by
  obtain ⟨w, -, -, -, hw⟩ := hs.leads false
  rw [← hw.forest]
  exact hw.opened.hosts.lt_size

/-- **A text in a body.** -/
theorem Ready.read_flowText (hs : Ready isOldStyle (e :: c) forest (Markup.text t).firstToken s)
    (hplace : placeIn ((e :: c).map Prod.snd) = .flow) (hne : t.toList ≠ []) (hnull : '\x00' ∉ t.toList)
    (hrest : EndsText rest) (hmark : '\uFEFF' ∉ rest) :
    ∃ s', construct starts .markup (escapeText t.toList ++ rest) s = construct starts .markup rest s' ∧
      Stands isOldStyle (e :: c) (forest.appendText e.1 t) s' := by
  obtain ⟨run, others, hruns⟩ := List.exists_cons_of_ne_nil (runs_ne_nil hne)
  rw [Markup.firstToken, hruns, List.headD_cons] at hs
  have hfirst := hs.feed (.inl (isText_textToken run)) (fun w hw => hw.settles (hw.yields_text hplace run)) false
  -- The first run is led to the body, and the other ones are in it already.
  have hall := hfirst.feed_runs hplace others
  have hforest : appendRuns e.1 others (forest.appendText e.1 (String.ofList run)) = forest.appendText e.1 t := by
    rw [← appendRuns_runs hs.lt_size hne, hruns]
    rfl
  rw [hforest] at hall
  have htext := escapeText_append_ne_nil hne rest
  have hlex : lex .markup s.isInForeign (escapeText t.toList ++ rest) =
      ⟨textToken run :: others.map textToken, rest, .markup⟩ := by
    rw [hs.foreign, lex_text hne hrest, tokensOf_map hnull, hruns, List.map_cons]
  have hread := construct_eq starts htext hmark hlex rfl
  rw [List.foldl_cons, hall.opened.textMode] at hread
  exact ⟨_, hread, hall⟩

/-- **Blank text** between other things than those of a body. -/
theorem Ready.read_blankText (hs : Ready isOldStyle (e :: c) forest (Markup.text t).firstToken s)
    (hother : placeIn ((e :: c).map Prod.snd) ≠ .other) (hflow : placeIn ((e :: c).map Prod.snd) ≠ .flow)
    (hne : t.toList ≠ []) (hblank : t.toList.all isMarkupBlank)
    (hrest : EndsText rest) (hmark : '\uFEFF' ∉ rest) :
    ∃ s', construct starts .markup (escapeText t.toList ++ rest) s = construct starts .markup rest s' ∧
      Follows isOldStyle (e :: c) (forest.appendText e.1 t) (.text t) s' := by
  have htoken : (Markup.text t).firstToken = .blanks t := by
    rw [Markup.firstToken, runs_of_blank hne hblank, List.headD_cons, textToken_of_blank hne hblank, String.ofList_toList]
  rw [htoken] at hs
  have hlex := lex_blankText hne hblank hrest
  have htext := escapeText_append_ne_nil hne rest
  have hplaces : (placeIn ((e :: c).map Prod.snd) = .head ∨ placeIn ((e :: c).map Prod.snd) = .columns) ∨
      placeIn ((e :: c).map Prod.snd) ∈ [Place.table, .rows, .row] := by
    revert hother hflow
    cases placeIn ((e :: c).map Prod.snd) <;> decide
  rcases hplaces with hplace | hplace
  · obtain ⟨s', hread, hs'⟩ := hs.read starts htext hmark hlex (.inl rfl)
      fun w hw => hw.settles (hw.yields_blanks hplace t)
    rw [hs'.opened.textMode] at hread
    exact ⟨s', hread, hs'.follows _⟩
  · -- Between the parts of a table the text waits until markup comes.
    obtain ⟨s', hread, w, hw, hs'⟩ := hs.read
      (Q := fun s' => ∃ w, Stands isOldStyle (e :: c) forest w ∧ s' = w.withPending t) starts htext hmark hlex
      (.inl rfl) fun w hw => by
        obtain ⟨s', hrun, hs'⟩ := hw.settles_blanks hplace t
        exact ⟨s', hrun, w, hw, hs'⟩
    have hmode : s'.textMode? = none := hs' ▸ hw.opened.textMode
    rw [hmode] at hread
    refine ⟨s', hread, fun token htoken => ?_, fun h => absurd rfl h⟩
    rw [hs']
    exact hw.ready_withPending t htoken

/-! ### Start tags -/

/-- What stands behind the start tag of an element. -/
def behindTag (name : String) (children : List Markup) (rest : List Char) : List Char :=
  if voidElements.contains name then rest else Markup.printContent name children ++ endTag name rest

theorem readTagRest?_printTail (name : String) (children : List Markup) (rest : List Char) :
    readTagRest? (Markup.printTail name children rest) =
      some ([], voidElements.contains name, behindTag name children rest) := by
  rw [Markup.printTail, behindTag]
  split
  · next hvoid => rw [hvoid, readTagRest?_closed]
  · next hvoid =>
    rw [Bool.eq_false_iff.2 hvoid, readTagRest?_gt]
    rfl

/-- **A start tag.** -/
theorem Ready.read_startTag (hs : Ready isOldStyle (e :: c) forest (Markup.element name attributes children).firstToken s)
    (starts : List Nat) (htag : IsReadableTag name attributes) (hadmits : admits isOldStyle ((e :: c).map Prod.snd) name)
    (hmark : '\uFEFF' ∉ behindTag name children rest) :
    ∃ s' w, construct starts .markup (Markup.print (.element name attributes children) ++ rest) s =
        construct starts (s'.textMode?.getD .markup) (behindTag name children rest) s' ∧
      Stands isOldStyle (e :: c) forest w ∧
      Opens isOldStyle e c ⟨false, name, attributes, voidElements.contains name⟩ w s' := by
  rw [Markup.print_element_append]
  have hlex := lex_startTag htag false (readTagRest?_printTail name children rest)
  -- The tag may be dealt with in another state than `s`, after changes of mode.
  obtain ⟨s', hread, w, hw, hs'⟩ := hs.read (Q := fun s' => ∃ w, Stands isOldStyle (e :: c) forest w ∧
      Opens isOldStyle e c ⟨false, name, attributes, voidElements.contains name⟩ w s') starts (List.cons_ne_nil _ _) hmark
    hlex (.inr rfl) fun w hw =>
      hw.settles ((hw.opened.yields_startTag rfl hadmits).mono fun s' hs' => ⟨w, hw, hs'⟩)
  exact ⟨s', w, hread, hw, hs'⟩

/-! ### Elements that hold nothing but text -/

/-- A token in an element for text. -/
theorem InText.feed (hs : InText isOldStyle c node forest s) (hmode : s.textMode? = none)
    (htoken : token.isText ∨ token.isMarkup) (hline : s.skipsLineFeed → withoutLineFeed? token = some token)
    (h : ∀ w, InText isOldStyle c node forest w → IsQuiet w → Yields (rulesOf w.mode token) w Q) :
    Q (s.feed token) := by
  have hs' : InText isOldStyle c node forest { s with skipsLineFeed := false } := hs.congr
  have hforeign := isForeign_eq_false hs'.hosts.isInForeign_eq token
  obtain ⟨s', hrun, hQ⟩ := (h _ hs' ⟨rfl, hmode⟩).settles hforeign
  rw [feed_eq htoken hline]
  show Q ((dealWith token (s.stack.length + 30 + 2)).run { s with skipsLineFeed := false }).2
  rw [hrun]
  exact hQ

/-- The runs of a text and the end tag of its element. -/
theorem InText.feed_runs (hs : InText isOldStyle c node forest s) (hmode : s.textMode? = none) {runs : List (List Char)}
    (hline : s.skipsLineFeed → ∀ run ∈ runs.head?, run.head? ≠ some '\n') (tag : Tag) :
    Stands isOldStyle c (appendRuns node runs forest) ((runs.map textToken ++ [Token.tag tag]).foldl State.feed s) := by
  induction runs generalizing forest s with
  | nil => exact hs.feed hmode (.inr rfl) (fun _ => rfl) fun w hw hquiet => hw.yields_endTag hquiet
  | cons run runs ih =>
    have hfirst : s.skipsLineFeed → withoutLineFeed? (textToken run) = some (textToken run) := fun h =>
      withoutLineFeed?_textToken (hline h run rfl)
    obtain ⟨hin, hquiet⟩ := hs.feed (Q := fun s' =>
        InText isOldStyle c node (forest.appendText node (String.ofList run)) s' ∧ IsQuiet s') hmode
      (.inl (isText_textToken run)) hfirst fun w hw hquiet =>
        (hw.yields_text run).mono fun s' hs' => ⟨hs'.1, hs'.2 hquiet⟩
    -- Only the first run stands behind the tag, where a line feed would be dropped.
    refine ih hin hquiet.textMode fun h => ?_
    rw [hquiet.skips] at h
    cases h

/-- How a text is written in an element that holds nothing else. -/
def writtenIn (name : String) (text : List Char) : List Char :=
  if rawTextElements.contains name then text else escapeText text

/-- The content of an element that holds nothing but text is the text. -/
theorem exists_writtenIn (node : Nat) (h : Markup.HoldText (IsTextOf name) children) (hname : IsTextOf name []) :
    ∃ text, Markup.printContent name children = writtenIn name text ∧ IsTextOf name text ∧
      ∀ forest : Forest, node < forest.cells.size → appendRuns node (runs text) forest = forest.addAll node children := by
  rcases h.cases with rfl | ⟨t, rfl, hne, ht⟩
  · refine ⟨[], ?_, hname, fun forest _ => ?_⟩
    · rw [Markup.printContent, writtenIn]
      rfl
    · rw [Forest.addAll]
      rfl
  · refine ⟨t.toList, ?_, ht, fun forest hlt => ?_⟩
    · rw [Markup.printContent, writtenIn]
      simp only [List.flatMap_singleton, Markup.rawText, Markup.printAll, Markup.print, List.append_nil]
    · rw [Forest.addAll, Forest.addAll, Forest.add]
      exact appendRuns_runs hlt (fun he => hne (String.toList_eq_nil_iff.1 he))

/-- Where nothing is written there is nothing that could be read otherwise. -/
theorem isTextOf_nil : ∀ name ∈ textNames, IsTextOf name [] := by decide +kernel

theorem isTagName_textNames : ∀ name ∈ textNames, IsTagName name := by decide

/-- Where references are not read, the text is written as it is. -/
theorem writtenIn_eq_self (htext : IsTextOf name text) (hnot : name ∉ ["textarea", "title"]) :
    writtenIn name text = text := by
  rw [writtenIn]
  split
  · rfl
  · next hraw =>
    refine htext.plain fun h => ?_
    simp only [rawTextElements, List.contains_cons, List.contains_nil, Bool.or_false, Bool.or_eq_true, beq_iff_eq,
      not_or] at hraw
    simp only [List.mem_cons, List.not_mem_nil, or_false, not_or] at h hnot
    rcases h with h | h | h | h
    exacts [hraw.1 h, hraw.2 h, hnot.1 h, hnot.2 h]

/-- **The text of an element** is cut off together with the end tag. -/
theorem lex_writtenIn (hname : name ∈ textNames) (htext : IsTextOf name text) (rest : List Char) :
    lex (textModeOf name) false (writtenIn name text ++ endTag name rest) =
      ⟨(runs text).map textToken ++ [.tag ⟨true, name, [], false⟩], rest, .markup⟩ := by
  have htag := isTagName_textNames name hname
  obtain ⟨hmarks, hscript⟩ : '<' ∉ name.toList ∧ (name = "script" → name ∉ ["textarea", "title"]) :=
    (by decide : ∀ n ∈ textNames, '<' ∉ n.toList ∧ (n = "script" → n ∉ ["textarea", "title"])) name hname
  rw [textModeOf]
  split
  · next hrefs =>
    -- Text with references is not raw, so it was escaped.
    have hraw := (by decide : ∀ n ∈ ["textarea", "title"], rawTextElements.contains n = false) _
      (List.contains_iff_mem.1 hrefs)
    rw [writtenIn, hraw, if_neg Bool.false_ne_true]
    exact lex_references htag htext.no_null false rest
  · next hrefs =>
    have hnot : name ∉ ["textarea", "title"] := fun h => hrefs (List.contains_iff_mem.2 h)
    split
    · next hscript =>
      subst hscript
      exact lex_script htag (htext.raw hnot) (htext.no_comment rfl) false rest
    · next hscript =>
      rw [writtenIn_eq_self htext hnot]
      exact lex_raw htag hmarks (htext.raw hnot) false rest

/-- **What stands in an element for text**, with its end tag. -/
theorem InText.read (hs : InText isOldStyle c node forest s) (starts : List Nat) (hname : name ∈ textNames)
    (hchildren : Markup.HoldText (IsTextOf name) children) (hline : s.skipsLineFeed → name = "textarea")
    (hmark : '\uFEFF' ∉ rest) :
    ∃ s', construct starts (textModeOf name) (Markup.printContent name children ++ endTag name rest) s =
        construct starts .markup rest s' ∧
      Stands isOldStyle c (forest.addAll node children) s' := by
  obtain ⟨text, hwritten, htext, hforest⟩ := exists_writtenIn node hchildren (isTextOf_nil name hname)
  have hrested : InText isOldStyle c node forest { s with textMode? := none, interrupts := false } := hs.congr
  -- A line feed could be dropped in a text area only, and there the text begins with none.
  have hfirst : s.skipsLineFeed → ∀ run ∈ (runs text).head?, run.head? ≠ some '\n' := fun h run hrun => by
    rw [head?_of_mem_head?_runs hrun]
    exact htext.not_line (hline h)
  have hfeed := hrested.feed_runs rfl hfirst ⟨true, name, [], false⟩
  rw [hforest forest (hs.forest ▸ hs.hosts.lt_size)] at hfeed
  have hlex : lex (textModeOf name) s.isInForeign (writtenIn name text ++ endTag name rest) =
      ⟨(runs text).map textToken ++ [.tag ⟨true, name, [], false⟩], rest, .markup⟩ := by
    rw [hs.hosts.isInForeign_eq, lex_writtenIn hname htext]
  have hread := construct_eq starts (List.append_ne_nil_of_right_ne_nil _ (List.cons_ne_nil _ _)) hmark hlex rfl
  rw [hfeed.opened.textMode] at hread
  rw [hwritten]
  exact ⟨_, hread, hfeed⟩

/-! ### Regular markup -/

/-- The end tag of an element. -/
def endToken (name : String) : Token := .tag ⟨true, name, [], false⟩

theorem behindTag_isSuffix (name : String) (attributes : List Attribute) (children : List Markup) (rest : List Char) :
    behindTag name children rest <:+ (Markup.element name attributes children).print ++ rest := by
  have htail : behindTag name children rest <:+ Markup.printTail name children rest := by
    rw [behindTag, Markup.printTail]
    split
    · exact ⟨[' ', '/', '>'], rfl⟩
    · exact List.suffix_cons _ _
  rw [Markup.print_element_append]
  refine (htail.trans ?_).trans (List.suffix_cons _ _)
  exact (List.suffix_append _ _).trans (List.suffix_append _ _)

/-- The elements of raw text hold nothing but text. -/
theorem not_raw_of_not_text (htext : textNames.contains name = false) : ¬ rawTextElements.contains name := fun hraw => by
  have hall : ∀ n ∈ rawTextElements, textNames.contains n := by decide
  exact Bool.eq_false_iff.1 htext (hall name (List.contains_iff_mem.1 hraw))

/-- **The end tag of an open element** leads back to where the element stands. -/
theorem Ready.read_ownEndTag (hs : Ready isOldStyle ((node, name) :: e :: c) forest (endToken name) s)
    (starts : List Nat) (hname : IsTagName name) (hadmits : admits isOldStyle ((e :: c).map Prod.snd) name)
    (hvoid : voidElements.contains name = false) (htext : textNames.contains name = false) (hmark : '\uFEFF' ∉ rest) :
    ∃ s', construct starts .markup (endTag name rest) s = construct starts .markup rest s' ∧
      Stands isOldStyle (e :: c) forest s' := by
  have hvoid' : name ∉ voidElements := fun h => Bool.eq_false_iff.1 hvoid (List.contains_iff_mem.2 h)
  have htext' : name ∉ textNames := fun h => Bool.eq_false_iff.1 htext (List.contains_iff_mem.2 h)
  refine hs.read_endTag starts hname hmark fun w hw => ?_
  refine (hw.opened.yields_endTag hadmits rfl rfl hvoid' htext').mono fun s' hs' => ?_
  exact ⟨hs'.opened, hs'.forest.trans hw.forest, hs'.skips.trans hw.skips⟩

/-- What follows a node in regular markup is led to where the elements are open. -/
theorem Follows.ready_firstTokenOr (hs : Follows isOldStyle c forest m s) (hapart : m.isText → ∀ n ∈ F.head?, ¬ n.isText)
    (hnext : m.isText → F = [] → next.isMarkup) : Ready isOldStyle c forest (Markup.firstTokenOr next F) s := by
  by_cases htext : m.isText
  · refine hs.ready _ ?_
    cases F with
    | nil => exact hnext htext rfl
    | cons n F => exact Markup.isMarkup_firstToken (hapart htext n rfl)
  · exact (hs.stands htext).ready _

/-- **A text** of regular markup. -/
theorem Ready.read_text (hs : Ready isOldStyle (e :: c) forest (Markup.text t).firstToken s) (starts : List Nat)
    (ht : Markup.IsRegular isOldStyle ((e :: c).map Prod.snd) (.text t)) (hrest : EndsText rest)
    (hmark : '\uFEFF' ∉ rest) :
    ∃ s', construct starts .markup ((Markup.text t).print ++ rest) s = construct starts .markup rest s' ∧
      Follows isOldStyle (e :: c) (forest.add e.1 (.text t)) (.text t) s' := by
  rw [Markup.IsRegular] at ht
  obtain ⟨hne, hnull, hother, hblank⟩ := ht
  have hchars : t.toList ≠ [] := fun h => hne (String.toList_eq_nil_iff.1 h)
  rw [Markup.print, Forest.add]
  -- Elsewhere than in the flow, a text consists of blanks.
  by_cases hflow : placeIn ((e :: c).map Prod.snd) = .flow
  · obtain ⟨s', hread, hs'⟩ := hs.read_flowText hflow hchars hnull hrest hmark
    exact ⟨s', hread, hs'.follows _⟩
  · exact hs.read_blankText hother hflow hchars (hblank hflow) hrest hmark

end Construction

namespace Markup

open Construction

variable {isOldStyle : Bool} (starts : List Nat)

/-- Behind a text there is markup. -/
theorem AreRegular.endsText {path : List String} (hF : AreRegular isOldStyle path F) (hhead : ∀ n ∈ F.head?, ¬ n.isText)
    (hrest : F = [] → EndsText rest) : EndsText (printAll F ++ rest) := by
  cases F with
  | nil => exact hrest rfl
  | cons n F =>
    rw [AreRegular] at hF
    rw [printAll, List.append_assoc]
    exact .inl (isMarkupStart_print hF.1 (hhead n rfl) _)

/-- Whether a text at the end of nodes ends where the rest begins, with a token of markup. -/
def EndsBefore (F : List Markup) (next : Token) (rest : List Char) : Prop :=
  ∀ m ∈ F.getLast?, m.isText → next.isMarkup ∧ EndsText rest

mutual

/-- **A node of regular markup** is read as it was. -/
theorem IsRegular.read : ∀ {m : Markup} {e : Nat × String} {c : List (Nat × String)} {forest : Forest} {s : State}
    {rest : List Char}, IsRegular isOldStyle ((e :: c).map Prod.snd) m → Ready isOldStyle (e :: c) forest m.firstToken s →
    (m.isText → EndsText rest) → '\uFEFF' ∉ m.print ++ rest →
    ∃ s', construct starts .markup (m.print ++ rest) s = construct starts .markup rest s' ∧
      Follows isOldStyle (e :: c) (forest.add e.1 m) m s'
  | .doctype .., _, _, _, _, _, hm, _, _, _ => hm.elim
  | .comment t, e, c, forest, s, rest, hm, hs, _, hmark => by
    rw [IsRegular] at hm
    have hrest : '\uFEFF' ∉ rest := fun h => hmark (List.mem_append_right _ h)
    obtain ⟨s', hread, hs'⟩ := hs.read_comment hm.1 hm.2 hrest
    exact ⟨s', hread, by rw [Forest.add]; exact hs'.follows _⟩
  | .text t, e, c, forest, s, rest, hm, hs, hends, hmark => by
    exact hs.read_text starts hm (hends rfl) fun h => hmark (List.mem_append_right _ h)
  | .element name attributes children, e, c, forest, s, rest, hm, hs, _, hmark => by
    rw [IsRegular] at hm
    obtain ⟨htag, hadmits, hchildren⟩ := hm
    have hbehind : '\uFEFF' ∉ behindTag name children rest := fun h =>
      hmark ((behindTag_isSuffix name attributes children rest).mem h)
    have hrest : '\uFEFF' ∉ rest := fun h => hmark (List.mem_append_right _ h)
    -- In `w` the tag was led to where it belongs, and `s₁` stands behind it.
    obtain ⟨s₁, w, hread, hw, hopens⟩ := hs.read_startTag starts htag hadmits hbehind
    have hforest := hopens.forest
    rw [hw.forest] at hforest
    rw [hread, Forest.add]
    rcases hopens.opens with ⟨hvoid, hat, hskips⟩ | ⟨hvoid, htext, hin⟩ | ⟨hvoid, htext, hat, hskips⟩
    · -- Nothing is in the element, and it is closed.
      rw [if_pos hvoid] at hchildren
      rw [hat.textMode, behindTag, if_pos hvoid, hchildren, Forest.addAll]
      exact ⟨s₁, rfl, Stands.follows ⟨hat, hforest, hskips.trans hw.skips⟩ _⟩
    · -- Only text is in the element, which is read up to the end tag at once.
      rw [hvoid, htext, if_neg Bool.false_ne_true, if_pos rfl] at hchildren
      have hline : s₁.skipsLineFeed → name = "textarea" := fun h =>
        (hin.skips h).resolve_left (by rw [hw.skips]; exact Bool.false_ne_true)
      rw [hin.textMode, Option.getD_some, behindTag, hvoid, if_neg Bool.false_ne_true]
      obtain ⟨s₂, hread₂, hs₂⟩ := (hin.inText hw hopens.forest).read starts (List.contains_iff_mem.1 htext) hchildren
        hline hrest
      exact ⟨s₂, hread₂, hs₂.follows _⟩
    · -- The element is open for its children until its end tag comes.
      rw [hvoid, htext, if_neg Bool.false_ne_true, if_neg Bool.false_ne_true] at hchildren
      obtain ⟨hlines, hF⟩ := hchildren
      rw [behindTag, hvoid, if_neg Bool.false_ne_true, printContent, if_neg (not_raw_of_not_text htext)] at hbehind ⊢
      rw [hw.forest] at hat
      have hready : Ready isOldStyle _ _ (firstTokenOr (endToken name) children) s₁ := hat.ready fun h =>
        withoutLineFeed?_firstTokenOr (hlines ((hskips h).resolve_left (by rw [hw.skips]; exact Bool.false_ne_true))) rfl
      rw [hforest] at hready
      have hF' : AreRegular isOldStyle (((forest.cells.size, name) :: e :: c).map Prod.snd) children := hF
      obtain ⟨s₂, hread₂, hs₂⟩ := AreRegular.read hF' hready
        (fun _ _ _ => ⟨rfl, .inl (isMarkupStart_endTag name rest)⟩) hbehind
      obtain ⟨s₃, hread₃, hs₃⟩ := hs₂.read_ownEndTag starts htag.name hadmits hvoid htext hrest
      rw [hat.textMode, Option.getD_none, hread₂]
      exact ⟨s₃, hread₃, hs₃.follows _⟩

/-- **Regular markup** is read as it was. -/
theorem AreRegular.read : ∀ {F : List Markup} {e : Nat × String} {c : List (Nat × String)} {forest : Forest} {s : State}
    {rest : List Char} {next : Token}, AreRegular isOldStyle ((e :: c).map Prod.snd) F →
    Ready isOldStyle (e :: c) forest (firstTokenOr next F) s → EndsBefore F next rest → '\uFEFF' ∉ printAll F ++ rest →
    ∃ s', construct starts .markup (printAll F ++ rest) s = construct starts .markup rest s' ∧
      Ready isOldStyle (e :: c) (forest.addAll e.1 F) next s'
  | [], e, c, forest, s, rest, next, _, hs, _, _ => by
    rw [Forest.addAll]
    exact ⟨s, rfl, hs⟩
  | m :: F, e, c, forest, s, rest, next, hF, hs, hends, hmark => by
    rw [AreRegular] at hF
    obtain ⟨hm, hapart, hF⟩ := hF
    rw [firstTokenOr] at hs
    rw [printAll, List.append_assoc] at hmark ⊢
    have hlast (hnil : F = []) (htext : m.isText) : next.isMarkup ∧ EndsText rest := hends m (by rw [hnil]; rfl) htext
    have hends' : EndsBefore F next rest := fun n hn => hends n (List.mem_getLast?_cons hn)
    -- A text ends where the next node begins, for no two texts stand side by side.
    obtain ⟨s₁, hread₁, hs₁⟩ := IsRegular.read hm hs
      (fun htext => hF.endsText (hapart htext) fun hnil => (hlast hnil htext).2) hmark
    have hready := hs₁.ready_firstTokenOr hapart fun htext hnil => (hlast hnil htext).1
    obtain ⟨s₂, hread₂, hs₂⟩ := AreRegular.read hF hready hends' fun h => hmark (List.mem_append_right _ h)
    exact ⟨s₂, hread₁.trans hread₂, by rw [Forest.addAll]; exact hs₂⟩

end

end Markup

end HtmlMail.Html
