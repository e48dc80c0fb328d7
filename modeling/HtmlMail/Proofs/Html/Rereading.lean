import HtmlMail.Proofs.Html.RegularDocuments

/-!
# Reading what was written

The text of a document with regular markup is read as the same document again, so that reading and writing it once more
changes nothing. Without this condition it fails: an element whose text the reader takes as it stands may be written with
references, which are then no references any more.

* `textOf_portions` : a text without marks and carriage returns is read as it is, whatever the portions;
* `Markup.AreRegular.keptAll_eq` : all of regular markup is kept;
* `IsRegularDocument` : documents with regular markup;
* `ofDocument_readDocument_printDocument` : such a document is read again from its text;
* `printDocument_readDocument_printDocument` : reading and writing what was written changes nothing;
* `printDocument_readDocument_noscript` : text that is written with references and read without.
-/

namespace HtmlMail.Html

open Chars Dom Tree

variable {s : List Char} {F G : List Markup} {name : String} {as : List Attribute}

/-! ### The text that is read -/

theorem normalizeLines_eq (h : '\r' ∉ s) : normalizeLines s = s := by
  induction s with
  | nil => rfl
  | cons c s ih =>
    obtain ⟨hc, hs⟩ := List.ne_and_not_mem_of_not_mem_cons h
    rw [normalizeLines, ih hs, if_neg (Ne.symm hc)]
    exact fun _ he => absurd he.symm hc

/-- **A text without marks of byte order and carriage returns** is read as it is. -/
theorem textOf_portions (hmark : '\uFEFF' ∉ s) (hreturn : '\r' ∉ s) (room : Nat) : textOf (portions room s) = s := by
  have hsame : (portions room s).map Utf8.withoutMark = portions room s := by
    refine (List.map_congr_left fun portion hportion => ?_).trans (List.map_id _)
    refine Construction.withoutMark_eq fun h => hmark ?_
    rw [← flatten_portions room s]
    exact List.mem_flatten_of_mem hportion h
  rw [textOf, hsame, flatten_portions, normalizeLines_eq hreturn]

/-- The markup of a text of which it is known what is built for it. -/
theorem readMarkupTree_ofList (hmark : '\uFEFF' ∉ s) (hreturn : '\r' ∉ s) (hapart : Markup.AreApart F)
    (hread : ∀ starts, (construct starts .markup s .initial).forest =
      Construction.Forest.empty.addAll Construction.Forest.document F) : readMarkupTree (String.ofList s) = F := by
  rw [readMarkupTree, String.toList_ofList, textOf_portions hmark hreturn, hread,
    Construction.Forest.ofForest_addAll hapart (Nat.le_refl _)]

/-! ### What is kept -/

theorem IsNameText.lower_eq (h : IsNameText name.toList) : Text.lower name = name := by
  rw [Text.lower, h.1, String.ofList_toList]

/-- Attributes with new names in lower case are added at the end. -/
theorem entries_foldl_insert {kept : Attributes} (hnames : ∀ a ∈ kept.entries ++ as, Text.lower a.name = a.name)
    (h : ((kept.entries ++ as).map (·.name)).Nodup) :
    (as.foldl (fun kept a => kept.insert a.name a.value) kept).entries = kept.entries ++ as := by
  induction as generalizing kept with
  | nil => exact (List.append_nil _).symm
  | cons a as ih =>
    have hnew : kept.contains a.name = false := by
      rw [Attributes.contains, List.any_eq_false]
      intro b hb hsame
      -- In lower case, names that are alike are the same.
      have hlower : Chars.lower b.name.toList = Chars.lower a.name.toList := eq_of_beq hsame
      have hb' : Text.lower b.name = b.name := hnames b (List.mem_append_left _ hb)
      have ha' : Text.lower a.name = a.name := hnames a (List.mem_append_right _ List.mem_cons_self)
      rw [Text.lower, hlower] at hb'
      rw [List.map_append, List.nodup_append] at h
      exact h.2.2 b.name (List.mem_map_of_mem hb) a.name (List.mem_map_of_mem List.mem_cons_self) (hb'.symm.trans ha')
    have hinsert : kept.insert a.name a.value = ⟨kept.entries ++ [a]⟩ := by
      rw [Attributes.insert, hnew, if_neg Bool.false_ne_true]
    rw [List.append_cons] at hnames h
    rw [List.foldl_cons, hinsert, ih hnames h, ← List.append_cons]

/-- Attributes with different names in lower case are kept as they are. -/
theorem entries_ofList (hnames : ∀ a ∈ as, Text.lower a.name = a.name) (hnodup : (as.map (·.name)).Nodup) :
    (Attributes.ofList as).entries = as := @entries_foldl_insert as .empty hnames hnodup

theorem IsReadableTag.kept_eq (h : IsReadableTag name as) :
    Text.lower name = name ∧ (Attributes.ofList as).entries = as :=
  ⟨h.name.text.lower_eq, entries_ofList (fun a ha => (h.attributes a ha).1.text.lower_eq) h.nodup⟩

namespace Markup

theorem keptAll_append (F G : List Markup) : keptAll (F ++ G) = keptAll F ++ keptAll G := by
  induction F with
  | nil => rw [keptAll]; rfl
  | cons m F ih => rw [List.cons_append, keptAll, keptAll, ih, List.cons_append]

theorem keptAll_eq_of_forall (h : ∀ m ∈ F, m.kept = m) : keptAll F = F := by
  induction F with
  | nil => rw [keptAll]
  | cons m F ih =>
    rw [keptAll, h m List.mem_cons_self, ih fun n hn => h n (List.mem_cons_of_mem _ hn)]

theorem IsComment.kept_eq {m : Markup} (h : m.IsComment) : m.kept = m := by
  obtain ⟨t, rfl, -⟩ := h.cases
  rw [kept]

theorem kept_element (h : IsReadableTag name as) (hF : keptAll F = F) : (element name as F).kept = element name as F := by
  rw [kept, h.kept_eq.1, h.kept_eq.2, hF]

theorem AreBetween.keptAll_eq (h : AreBetween F) : keptAll F = F := by
  induction F with
  | nil => rw [keptAll]
  | cons m F ih =>
    rw [AreBetween] at h
    have hm : m.kept = m := by
      cases m with
      | element => exact h.1.elim
      | _ => rw [kept]
    rw [keptAll, hm, ih h.2.2]

theorem HoldText.keptAll_eq {p : List Char → Prop} (h : HoldText p F) : keptAll F = F := by
  rcases h.cases with rfl | ⟨t, rfl, -⟩
  · rw [keptAll]
  · rw [keptAll, kept, keptAll]

mutual

theorem IsRegular.kept_eq {isOldStyle : Bool} : ∀ {path : List String} {m : Markup}, IsRegular isOldStyle path m →
    m.kept = m
  | _, doctype .., h => h.elim
  | _, text _, _ => by rw [kept]
  | _, comment _, _ => by rw [kept]
  | path, element name attributes children, h => by
    rw [IsRegular] at h
    obtain ⟨htag, -, hchildren⟩ := h
    refine kept_element htag ?_
    split at hchildren
    · rw [hchildren, keptAll]
    · split at hchildren
      · exact hchildren.keptAll_eq
      · exact AreRegular.keptAll_eq hchildren.2

/-- **All of regular markup is kept.** -/
theorem AreRegular.keptAll_eq {isOldStyle : Bool} : ∀ {path : List String} {F : List Markup},
    AreRegular isOldStyle path F → keptAll F = F
  | _, [], _ => by rw [keptAll]
  | path, m :: F, h => by
    rw [AreRegular] at h
    rw [keptAll, h.1.kept_eq, AreRegular.keptAll_eq h.2.2]

end

end Markup

/-! ### Whole documents -/

theorem isFragmentText_append (hs : isDocumentTagStart s) (front : List Char) : isFragmentText (front ++ s) = false := by
  induction front with
  | nil =>
    cases s with
    | nil => revert hs; decide
    | cons c s => rw [List.nil_append, isFragmentText, hs, Bool.not_true, Bool.false_and]
  | cons c front ih => rw [List.cons_append, isFragmentText, ih, Bool.and_false]

/-- The start tag of the document element is known for one. -/
theorem isDocumentTagStart_html (as : List Attribute) (children : List Markup) (rest : List Char) :
    isDocumentTagStart ((Markup.element "html" as children).print ++ rest) := by
  have hvoid : voidElements.contains "html" = false := by decide
  rw [Markup.print_element_append, Markup.printTail, hvoid, if_neg Bool.false_ne_true]
  generalize Markup.printContent "html" children ++ ("</".toList ++ ("html".toList ++ '>' :: rest)) = s
  cases as with
  | nil => rfl
  | cons a others => rfl

namespace Whole

variable {d : Whole}

theorem IsRegular.keptAll_eq (hd : d.IsRegular) : Markup.keptAll d.markup = d.markup := by
  have hprologue : Markup.keptAll d.prologue = d.prologue := by
    rw [Whole.prologue, Markup.keptAll_append, Markup.keptAll_append,
      Markup.keptAll_eq_of_forall fun m hm => (hd.front m hm).kept_eq,
      Markup.keptAll_eq_of_forall fun m hm => (hd.behindDoctype m hm).kept_eq]
    rw [Whole.doctype]
    split
    · rw [Markup.keptAll]
    · rw [Markup.keptAll, Markup.kept, Markup.keptAll]
  have hcontent : Markup.keptAll d.content = d.content := by
    rw [Whole.content, Markup.keptAll, Markup.kept_element hd.headTag hd.head.keptAll_eq, Markup.keptAll_append,
      hd.between.keptAll_eq, Markup.keptAll, Markup.kept_element hd.bodyTag hd.body.keptAll_eq,
      Markup.keptAll_eq_of_forall fun m hm => (hd.behindBody m hm).kept_eq]
  rw [Whole.markup, Markup.keptAll_append, hprologue, Markup.keptAll, Markup.kept_element hd.htmlTag hcontent,
    Markup.keptAll_eq_of_forall fun m hm => (hd.behindHtml m hm).kept_eq]

/-- **The document of the text of a whole document** is the same. -/
theorem IsRegular.ofDocument_eq (hd : d.IsRegular) (hmark : '\uFEFF' ∉ Markup.printAll d.markup)
    (hreturn : '\r' ∉ Markup.printAll d.markup) :
    Markup.ofDocument (readDocument (String.ofList (Markup.printAll d.markup))) = d.markup := by
  have hwhole : isFragmentText (Markup.printAll d.markup) = false := by
    rw [Whole.markup, printAll_append, Markup.printAll]
    exact isFragmentText_append (isDocumentTagStart_html _ _ _) _
  have hfragment : (readDocument (String.ofList (Markup.printAll d.markup))).isFragment = false := by
    obtain ⟨tree, -, hread⟩ := exists_readDocument_eq (String.ofList (Markup.printAll d.markup))
    rw [hread, String.toList_ofList]
    exact hwhole
  rw [ofDocument_readDocument hfragment,
    readMarkupTree_ofList hmark hreturn hd.areApart fun starts => hd.read starts hmark, hd.keptAll_eq]

end Whole

/-! ### Fragments -/

namespace Markup

variable {tree : Tree} {xs : List NodeId}

/-- Markup in two parts stands at nodes in two parts. -/
theorem AreAt.of_append : ∀ {F : List Markup} {xs : List NodeId}, AreAt tree (F ++ G) xs →
    ∃ ys zs, xs = ys ++ zs ∧ AreAt tree F ys ∧ AreAt tree G zs
  | [], xs, h => ⟨[], xs, rfl, trivial, h⟩
  | _ :: _, [], h => h.elim
  | m :: F, x :: xs, h => by
    obtain ⟨ys, zs, rfl, hys, hzs⟩ := AreAt.of_append h.2
    exact ⟨x :: ys, zs, rfl, ⟨h.1, hys⟩, hzs⟩

theorem AreAt.of_singleton {m : Markup} (h : AreAt tree [m] xs) : ∃ x, xs = [x] ∧ IsAt tree m x := by
  match xs, h with
  | [x], h => exact ⟨x, rfl, h.1⟩

/-- At the nodes of comments there are comments. -/
theorem AreAt.data_of_isComment : ∀ {F : List Markup} {xs : List NodeId}, AreAt tree F xs → (∀ m ∈ F, m.IsComment) →
    ∀ x ∈ xs, ∃ t, (tree.get? x).map Node.data = some (.comment t)
  | [], [], _, _, x, hx => by cases hx
  | [], _ :: _, h, _, _, _ => h.elim
  | _ :: _, [], h, _, _, _ => h.elim
  | m :: F, y :: xs, h, hF, x, hx => by
    rcases List.mem_cons.1 hx with rfl | hx
    · obtain ⟨t, rfl, -⟩ := (hF m List.mem_cons_self).cases
      exact ⟨t, h.1⟩
    · exact AreAt.data_of_isComment h.2 (fun n hn => hF n (List.mem_cons_of_mem _ hn)) x hx

theorem IsAt.element?_eq {children : List Markup} {x : NodeId} (h : IsAt tree (element name as children) x) :
    tree.element? x = some ⟨name, ⟨as⟩⟩ := element?_of_data h.1

/-- The content of an implied element. -/
theorem IsAt.unwrapped_eq {children : List Markup} {x : NodeId} (h : IsAt tree (element name as children) x)
    (hname : name = "head" ∨ name = "body") : unwrapped tree x = children := by
  have hinner : inner tree x = children := h.2.flatMap_outer
  rw [unwrapped, tagName?, h.element?_eq]
  rcases hname with rfl | rfl <;> exact hinner

end Markup

namespace Fragment

variable {d : Fragment}

theorem IsRegular.keptAll_eq (hd : d.IsRegular) : Markup.keptAll d.built = d.built := by
  have hempty (name : String) (hname : IsTagName name) : IsReadableTag name [] := ⟨hname, nofun, List.nodup_nil⟩
  have hcontent : Markup.keptAll [.element "head" [] d.head, .element "body" [] d.body] =
      [.element "head" [] d.head, .element "body" [] d.body] := by
    rw [Markup.keptAll, Markup.keptAll, Markup.keptAll,
      Markup.kept_element (hempty "head" (by decide)) hd.head.keptAll_eq,
      Markup.kept_element (hempty "body" (by decide)) hd.body.keptAll_eq]
  rw [built, Markup.keptAll_append, Markup.keptAll_eq_of_forall fun m hm => (hd.front m hm).kept_eq, Markup.keptAll,
    Markup.keptAll, Markup.kept_element (hempty "html" (by decide)) hcontent]

/-- **The elements around the content of a fragment** are left out again. -/
theorem ofDocument_built {tree : Tree} (hfront : ∀ m ∈ d.front, m.IsComment)
    (hat : Markup.AreAt tree d.built (tree.children root)) :
    Markup.ofDocument { (Document.withTree .empty tree).locate with isFragment := true } = d.markup := by
  obtain ⟨xs, ys, hchildren, hxs, hys⟩ := hat.of_append
  obtain ⟨html, rfl, hhtml⟩ := hys.of_singleton
  have hcomment (x : NodeId) (hx : x ∈ xs) : tree.element? x = none ∧ Markup.isDoctype tree x = false := by
    obtain ⟨t, hdata⟩ := hxs.data_of_isComment hfront x hx
    obtain ⟨node, hnode, hdata'⟩ := Option.map_eq_some_iff.1 hdata
    rw [Tree.element?, hnode, Option.bind_some, Node.element?, hdata', Markup.isDoctype, hdata]
    exact ⟨rfl, rfl⟩
  -- The document element is the only element in the document.
  have helements : tree.elementChildren root = [html] := by
    have hnone : xs.filter tree.isElement = [] := List.filter_eq_nil_iff.2 fun x hx => by
      rw [isElement, (hcomment x hx).1]
      exact Bool.false_ne_true
    have hhtml' : tree.isElement html := by
      rw [isElement, hhtml.element?_eq]
      rfl
    rw [elementChildren, hchildren, List.filter_append, hnone, List.filter_singleton, hhtml']
    rfl
  have hfound : Document.childNamed? tree root "html" = some html := by
    rw [Document.childNamed?, helements, List.find?_singleton, tagName?, hhtml.element?_eq]
    rfl
  obtain ⟨zs, ws, hkids, hzs, hws⟩ := Markup.AreAt.of_append
    (F := [.element "head" [] d.head]) (G := [.element "body" [] d.body]) hhtml.2
  obtain ⟨head, rfl, hhead⟩ := hzs.of_singleton
  obtain ⟨body, rfl, hbody⟩ := hws.of_singleton
  rw [Markup.ofDocument, if_pos rfl]
  show (tree.children root).flatMap (fun child =>
    if some child = Document.childNamed? tree root "html" then (tree.children child).flatMap (Markup.unwrapped tree)
    else if Markup.isDoctype tree child then [] else Markup.outer tree child) = d.markup
  rw [hfound, hchildren, List.flatMap_append, List.flatMap_singleton, if_pos rfl, hkids, List.flatMap_append,
    List.flatMap_singleton, List.flatMap_singleton, hhead.unwrapped_eq (.inl rfl), hbody.unwrapped_eq (.inr rfl), markup]
  refine congrArg (· ++ (d.head ++ d.body)) (Eq.trans (List.flatMap_congr fun x hx => ?_) hxs.flatMap_outer)
  have hne : ¬ some x = some html := by
    intro he
    have hnone := (hcomment x hx).1
    rw [Option.some.inj he, hhtml.element?_eq] at hnone
    cases hnone
  rw [if_neg hne, (hcomment x hx).2, if_neg Bool.false_ne_true]

/-- **The document of the text of a fragment** stands for the same markup. -/
theorem IsRegular.ofDocument_eq (hd : d.IsRegular) (hmark : '\uFEFF' ∉ Markup.printAll d.markup)
    (hreturn : '\r' ∉ Markup.printAll d.markup) (hfragment : isFragmentText (Markup.printAll d.markup)) :
    Markup.ofDocument (readDocument (String.ofList (Markup.printAll d.markup))) = d.markup := by
  obtain ⟨tree, hat, hread⟩ := exists_readDocument_eq (String.ofList (Markup.printAll d.markup))
  rw [readMarkupTree_ofList hmark hreturn hd.areApart fun starts => hd.read starts hmark, hd.keptAll_eq] at hat
  rw [hread, String.toList_ofList, hfragment, ofDocument_built hd.front hat]

end Fragment

/-! ### Texts that stay as they are -/

/-- A document with regular markup: a whole one or a fragment, whose text is not changed before it is cut into tokens. -/
structure IsRegularDocument (F : List Markup) : Prop where
  no_mark : '\uFEFF' ∉ Markup.printAll F
  no_return : '\r' ∉ Markup.printAll F
  parts : (∃ d : Whole, d.IsRegular ∧ d.markup = F) ∨
    ∃ d : Fragment, d.IsRegular ∧ d.markup = F ∧ isFragmentText (Markup.printAll F)

/-- **A document with regular markup** is read again from its text. -/
theorem ofDocument_readDocument_printDocument {doc : Document} (h : IsRegularDocument (Markup.ofDocument doc)) :
    Markup.ofDocument (readDocument (printDocument doc)) = Markup.ofDocument doc := by
  rw [printDocument]
  obtain ⟨hmark, hreturn, ⟨d, hd, he⟩ | ⟨d, hd, he, hfragment⟩⟩ := h
  · rw [← he] at hmark hreturn ⊢
    exact hd.ofDocument_eq hmark hreturn
  · rw [← he] at hmark hreturn hfragment ⊢
    exact hd.ofDocument_eq hmark hreturn hfragment

/-- **Reading and writing what was written** changes nothing where the markup is regular. -/
theorem printDocument_readDocument_printDocument {html : String}
    (h : IsRegularDocument (Markup.ofDocument (readDocument html))) :
    printDocument (readDocument (printDocument (readDocument html))) = printDocument (readDocument html) := by
  have hsame := ofDocument_readDocument_printDocument h
  rw [printDocument, hsame]
  rfl

/-- A letter with a title, a style sheet and a table. -/
def letter : Whole where
  front := []
  doctype? := some ("html", "", "")
  behindDoctype := []
  htmlAttributes := [⟨"lang", "en"⟩]
  headAttributes := []
  head := [.element "title" [] [.text "News"], .element "style" [] [.text "p > b { color: red }"]]
  between := []
  bodyAttributes := []
  body := [.element "table" [] [.element "tbody" [] [.element "tr" [] [.element "td" [⟨"align", "left"⟩]
    [.element "p" [] [.text "1 < ", .element "b" [] [.text "2"], .comment " b ", .element "br" [] []]]]]]]
  behindBody := []
  behindHtml := []

/-- The letter without the tags that can be left out. -/
def letterText : String :=
  "<!doctype html><html lang=en><title>News</title><style>p > b { color: red }</style>" ++
    "<table><tr><td align=left><p>1 < <b>2</b><!-- b --><br></table>"

/-- The letter is read with all its tags, and with them it is read again. -/
theorem printDocument_readDocument_letter :
    IsRegularDocument (Markup.ofDocument (readDocument letterText)) ∧
      printDocument (readDocument (printDocument (readDocument letterText))) =
        printDocument (readDocument letterText) := by
  have hregular : letter.IsRegular := by
    constructor <;> decide +kernel
  have hread : (readDocument letterText).isFragment = false ∧
      Markup.AreAt (readDocument letterText).tree letter.markup ((readDocument letterText).tree.children root) := by
    decide +kernel
  have hmarkup : Markup.ofDocument (readDocument letterText) = letter.markup := by
    rw [Markup.ofDocument, if_neg (by rw [hread.1]; exact Bool.false_ne_true)]
    exact hread.2.flatMap_outer
  have h : IsRegularDocument (Markup.ofDocument (readDocument letterText)) := by
    rw [hmarkup]
    exact ⟨by decide +kernel, by decide +kernel, .inl ⟨letter, hregular, rfl⟩⟩
  exact ⟨h, printDocument_readDocument_printDocument h⟩

/-- Without regular markup a document need not stay as it is: the text in `noscript` is read as it stands, but written
with references, and each time they are written anew. -/
theorem printDocument_readDocument_noscript :
    printDocument (readDocument "<noscript><b>x</b></noscript>") = "<noscript>&lt;b&gt;x&lt;/b&gt;</noscript>" ∧
      printDocument (readDocument (printDocument (readDocument "<noscript><b>x</b></noscript>"))) =
        "<noscript>&amp;lt;b&amp;gt;x&amp;lt;/b&amp;gt;</noscript>" := by
  decide +kernel

end HtmlMail.Html
