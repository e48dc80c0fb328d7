import HtmlMail.Proofs.Text.Search
import HtmlMail.Template.Subject
import Mathlib.Data.List.Destutter

/-!
# Subjects are single lines

A subject ends up in a header, where a line break would begin another one. Three rewritings make a subject line of a
text: line breaks become blanks or go, entities become blanks, and runs of blanks become one. Each of them works on
what the one before has left, and it may put together what was apart there: where two characters of a line end go, an
entity can come about. None of them brings back what an earlier one has removed, because all that comes in are blanks, and
a blank is part of neither a line break nor an entity.

* `flattenLines_eq` : line breaks are replaced in two steps;
* `separates_blank` : a text without blanks does not come about where a blank comes in;
* `infix_of_infix_squeezeBlanks` : nor where blanks go out of a run;
* `IsSingleLine` : what a subject line is, `isSingleLine_sanitizeSubject` : and that any text becomes one;
* `IsSingleLine.sanitizeSubject_eq` : nothing is done to what is one already;
* `exists_splitOnChar_squeezeBlanks`, `blankWords_squeezeBlanks` : the words between blanks are kept;
* `renderSubject_singleLine` : all of this together.
-/

namespace HtmlMail.Template

open Chars

variable {c : Char} {pat s : List Char}

/-! ### Line breaks -/

/-- The characters that end a line. -/
def IsLineBreak (c : Char) : Prop := c = '\r' ∨ c = '\n' ∨ c = '\x0c'

instance : DecidablePred IsLineBreak := fun c => inferInstanceAs (Decidable (c = '\r' ∨ c = '\n' ∨ c = '\x0c'))

/-- A blank for a line break, and any other character itself. -/
def blankForBreak (c : Char) : Char := if IsLineBreak c then ' ' else c

theorem not_isLineBreak_blankForBreak (c : Char) : ¬ IsLineBreak (blankForBreak c) := by
  unfold blankForBreak
  split
  · decide
  · assumption

/-- **A text on one line**: its line ends of two characters go first, and then each line break that is left becomes a
blank. -/
theorem flattenLines_eq (s : List Char) : flattenLines s = (replaceAll ['\r', '\n'] [] s).map blankForBreak := by
  fun_induction flattenLines s with
  | case1 =>
    rw [replaceAll_eq_self (by decide)]
    rfl
  | case2 rest ih =>
    show flattenLines rest = (replaceAll ['\r', '\n'] [] (['\r', '\n'] ++ rest)).map blankForBreak
    rw [replaceAll_append_self (by decide), List.nil_append, ih]
  | case3 c rest hpair ih =>
    -- No line end of two characters begins here.
    have hskip : ∀ d t, d :: t <:+ [c] → ¬ ['\r', '\n'] <+: d :: t ++ rest := by
      intro d t hsuffix hprefix
      have hwhole : d :: t = [c] := hsuffix.eq_of_length_le (Nat.succ_le_succ (Nat.zero_le _))
      rw [hwhole] at hprefix
      obtain ⟨hc, hrest⟩ := List.cons_prefix_cons.1 hprefix
      obtain ⟨later, hlater⟩ := hrest
      exact hpair later hc.symm hlater.symm
    show _ = (replaceAll ['\r', '\n'] [] ([c] ++ rest)).map blankForBreak
    rw [replaceAll_append (by decide) hskip, List.map_append, ih]
    rfl

theorem not_isLineBreak_of_mem_flattenLines (h : c ∈ flattenLines s) : ¬ IsLineBreak c := by
  rw [flattenLines_eq] at h
  obtain ⟨d, -, rfl⟩ := List.mem_map.1 h
  exact not_isLineBreak_blankForBreak d

theorem flattenLines_eq_self (h : ∀ c ∈ s, ¬ IsLineBreak c) : flattenLines s = s := by
  have hpair : ¬ ['\r', '\n'] <:+: s := fun hpair => h '\r' (hpair.subset List.mem_cons_self) (.inl rfl)
  rw [flattenLines_eq, replaceAll_eq_self hpair]
  refine (List.map_congr_left fun c hc => ?_).trans (List.map_id s)
  exact if_neg (h c hc)

/-! ### Blanks -/

/-- **A blank separates** every text that holds none. -/
theorem separates_blank (hne : pat ≠ []) (h : ' ' ∉ pat) : Separates pat [' '] := by
  refine IsForeign.separates ⟨?_, ?_, ?_⟩ hne
  · intro c hc hblank
    exact h (List.mem_singleton.1 hblank ▸ List.mem_of_mem_head? hc)
  · intro c hc hblank
    exact h (List.mem_singleton.1 hblank ▸ List.mem_of_getLast? hc)
  · intro hin
    exact h (hin.subset List.mem_cons_self)

/-- To squeeze blanks is to keep of neighbours that are both blank only one. -/
theorem squeezeBlanks_eq_destutter (s : List Char) :
    squeezeBlanks s = s.destutter fun c d => ¬ (c = ' ' ∧ d = ' ') := by
  fun_induction squeezeBlanks s with
  | case1 => rfl
  | case2 c => rfl
  | case3 c d rest hboth ih =>
    obtain ⟨rfl, rfl⟩ := hboth
    rw [ih, List.destutter_cons_cons, if_neg (by decide)]
    rfl
  | case4 c d rest hnot ih =>
    rw [ih, List.destutter_cons_cons, if_pos hnot]
    rfl

/-- **No two blanks** follow one another. -/
theorem not_run_squeezeBlanks (s : List Char) : ¬ [' ', ' '] <:+: squeezeBlanks s := by
  intro hrun
  rw [squeezeBlanks_eq_destutter] at hrun
  have hchain := List.IsChain.infix (List.isChain_destutter _ s) hrun
  exact (List.isChain_cons_cons.1 hchain).1 ⟨rfl, rfl⟩

theorem squeezeBlanks_eq_self (h : ¬ [' ', ' '] <:+: s) : squeezeBlanks s = s := by
  fun_induction squeezeBlanks s with
  | case1 => rfl
  | case2 c => rfl
  | case3 c d rest hboth ih =>
    obtain ⟨rfl, rfl⟩ := hboth
    exact absurd ⟨[], rest, rfl⟩ h
  | case4 c d rest hnot ih => rw [ih fun hrun => h (hrun.trans (List.suffix_cons c _).isInfix)]

theorem mem_of_mem_squeezeBlanks (h : c ∈ squeezeBlanks s) : c ∈ s := by
  rw [squeezeBlanks_eq_destutter] at h
  exact (List.destutter_sublist _ s).subset h

theorem prefix_of_prefix_squeezeBlanks (hpat : ' ' ∉ pat) (h : pat <+: squeezeBlanks s) : pat <+: s := by
  fun_induction squeezeBlanks s generalizing pat with
  | case1 => exact h
  | case2 c => exact h
  | case3 c d rest hboth ih =>
    obtain ⟨rfl, rfl⟩ := hboth
    cases pat with
    | nil => exact List.nil_prefix
    | cons p pat =>
      -- It would begin with the blank.
      obtain ⟨rfl, -⟩ := List.cons_prefix_cons.1 (ih hpat h)
      exact absurd List.mem_cons_self hpat
  | case4 c d rest hnot ih =>
    cases pat with
    | nil => exact List.nil_prefix
    | cons p pat =>
      obtain ⟨rfl, hrest⟩ := List.cons_prefix_cons.1 h
      exact List.cons_prefix_cons.2 ⟨rfl, ih (fun hblank => hpat (List.mem_cons_of_mem _ hblank)) hrest⟩

/-- **Nothing comes about** where blanks go out of a run, since one of them stays. -/
theorem infix_of_infix_squeezeBlanks (hpat : ' ' ∉ pat) (h : pat <:+: squeezeBlanks s) : pat <:+: s := by
  fun_induction squeezeBlanks s with
  | case1 => exact h
  | case2 c => exact h
  | case3 c d rest hboth ih => exact (ih h).trans (List.suffix_cons c _).isInfix
  | case4 c d rest hnot ih =>
    rcases List.infix_cons_iff.1 h with hhere | hlater
    · have hsqueezed : squeezeBlanks (c :: d :: rest) = c :: squeezeBlanks (d :: rest) := if_neg hnot
      rw [← hsqueezed] at hhere
      exact (prefix_of_prefix_squeezeBlanks hpat hhere).isInfix
    · exact (ih hlater).trans (List.suffix_cons c _).isInfix

/-! ### Subject lines -/

/-- The entity that stands for a blank. -/
def blankEntity : List Char := "&nbsp;".toList

/-- **A subject line**: a text without line breaks, entities for blanks, and runs of blanks. -/
structure IsSingleLine (s : List Char) : Prop where
  unbroken : ∀ c ∈ s, ¬ IsLineBreak c
  no_entity : ¬ blankEntity <:+: s
  no_run : ¬ [' ', ' '] <:+: s

/-- The characters of a subject line. -/
theorem toList_sanitizeSubject (s : String) : (sanitizeSubject s).toList =
    squeezeBlanks (replaceAll blankEntity [' '] (flattenLines s.toList)) := String.toList_ofList

/-- **Any text becomes a subject line.** -/
theorem isSingleLine_sanitizeSubject (s : String) : IsSingleLine (sanitizeSubject s).toList := by
  rw [toList_sanitizeSubject]
  refine ⟨fun c hc hbreak => ?_, fun hentity => ?_, not_run_squeezeBlanks _⟩
  · -- A line break would have come in with the blanks for entities.
    have hblank : ' ' ∉ [c] := by
      rw [List.mem_singleton]
      rintro rfl
      exact absurd hbreak (by decide)
    have hflat : ¬ [c] <:+: flattenLines s.toList := fun hin =>
      not_isLineBreak_of_mem_flattenLines ((List.singleton_infix_iff _ _).1 hin) hbreak
    have hne : [c] ≠ [] := List.cons_ne_nil _ _
    refine (separates_blank hne hblank).not_infix_replaceAll hne blankEntity hflat ?_
    exact (List.singleton_infix_iff _ _).2 (mem_of_mem_squeezeBlanks hc)
  · have hne : blankEntity ≠ [] := by decide
    have hblank : ' ' ∉ blankEntity := by decide
    exact (separates_blank hne hblank).not_infix_replaceAll_self hne _ (infix_of_infix_squeezeBlanks hblank hentity)

/-- **A subject line** is left as it is. -/
theorem IsSingleLine.sanitizeSubject_eq {s : String} (h : IsSingleLine s.toList) : sanitizeSubject s = s := by
  apply String.toList_inj.1
  rw [toList_sanitizeSubject, flattenLines_eq_self h.unbroken, replaceAll_eq_self h.no_entity,
    squeezeBlanks_eq_self h.no_run]

/-! ### Words -/

/-- The words of a text that stand between blanks. -/
def blankWords (s : List Char) : List (List Char) := (splitOnChar ' ' s).filter (!·.isEmpty)

/-- Between blanks a text has the same pieces before and after runs of blanks become one, but for empty pieces. The first
piece is the same even if it is empty, so that a character in front of it makes no difference. -/
theorem exists_splitOnChar_squeezeBlanks (s : List Char) : ∃ first later later',
    splitOnChar ' ' (squeezeBlanks s) = first :: later ∧ splitOnChar ' ' s = first :: later' ∧
      later.filter (!·.isEmpty) = later'.filter (!·.isEmpty) := by
  fun_induction squeezeBlanks s with
  | case1 => exact ⟨[], [], [], rfl, rfl, rfl⟩
  | case2 c =>
    obtain ⟨first, later, hpieces⟩ := List.exists_cons_of_ne_nil (splitOnChar_ne_nil ' ' [c])
    exact ⟨first, later, later, hpieces, hpieces, rfl⟩
  | case3 c d rest hboth ih =>
    obtain ⟨rfl, rfl⟩ := hboth
    obtain ⟨first, later, later', hsqueezed, hrest, hsame⟩ := ih
    -- The rest begins with a blank itself, so its first piece is empty, and the blank in front adds one more of that kind.
    obtain rfl : first = [] := by
      rw [splitOnChar, if_pos rfl] at hrest
      exact (List.cons.inj hrest).1.symm
    refine ⟨[], later, [] :: later', hsqueezed, ?_, hsame⟩
    rw [splitOnChar, if_pos rfl, hrest]
  | case4 c d rest hnot ih =>
    obtain ⟨first, later, later', hsqueezed, hrest, hsame⟩ := ih
    by_cases hc : c = ' '
    · refine ⟨[], first :: later, first :: later', ?_, ?_, ?_⟩
      · rw [splitOnChar, if_pos hc, hsqueezed]
      · rw [splitOnChar, if_pos hc, hrest]
      · rw [List.filter_cons, List.filter_cons, hsame]
    · refine ⟨c :: first, later, later', ?_, ?_, hsame⟩
      · rw [splitOnChar, if_neg hc, hsqueezed]
      · rw [splitOnChar, if_neg hc, hrest]

/-- **The words are kept** where runs of blanks become one. -/
theorem blankWords_squeezeBlanks (s : List Char) : blankWords (squeezeBlanks s) = blankWords s := by
  obtain ⟨first, later, later', hsqueezed, hrest, hsame⟩ := exists_splitOnChar_squeezeBlanks s
  rw [blankWords, blankWords, hsqueezed, hrest, List.filter_cons, List.filter_cons, hsame]

/-- The words one behind the other are the text without blanks. -/
theorem flatten_blankWords (s : List Char) : (blankWords s).flatten = s.filter (· != ' ') := by
  rw [blankWords, List.flatten_filter_not_isEmpty]
  induction s with
  | nil => rfl
  | cons c s ih =>
    obtain ⟨first, later, hpieces⟩ := List.exists_cons_of_ne_nil (splitOnChar_ne_nil ' ' s)
    -- A blank begins an empty piece, and any other character goes to the first one.
    by_cases hc : c = ' '
    · rw [splitOnChar, if_pos hc, List.flatten_cons, List.nil_append, ih, hc]
      rfl
    · rw [hpieces] at ih
      have hkept : (c != ' ') = true := bne_iff_ne.2 hc
      rw [splitOnChar, if_neg hc, hpieces, List.filter_cons, if_pos hkept, ← ih]
      rfl

/-- A text with each line end of two characters deleted, each other line break replaced by a blank, and each entity for a
blank replaced by one. -/
def withoutBreaks (s : List Char) : List Char :=
  replaceAll blankEntity [' '] ((replaceAll ['\r', '\n'] [] s).map blankForBreak)

/-- **Subjects are single lines.**

* The subject of any template, with any tags, holds no carriage return, no line feed and no form feed, it does not hold
  `&nbsp;`, and no two blanks follow one another in it.
* To make a subject line of a subject line changes nothing.
* Nothing else is lost: the words of a text between blanks are those that it has once line ends of two characters are
  deleted and every other line break and then every entity are replaced by a blank. So without blanks the subject line is
  this text without blanks. -/
theorem renderSubject_singleLine :
    (∀ (tags : List Tag) (template : String),
      '\r' ∉ (renderSubject tags template).toList ∧ '\n' ∉ (renderSubject tags template).toList ∧
      '\x0c' ∉ (renderSubject tags template).toList ∧ Text.contains "&nbsp;" (renderSubject tags template) = false ∧
      Text.contains "  " (renderSubject tags template) = false) ∧
    (∀ s, sanitizeSubject (sanitizeSubject s) = sanitizeSubject s) ∧
    ∀ s, blankWords (sanitizeSubject s).toList = blankWords (withoutBreaks s.toList) ∧
      (sanitizeSubject s).toList.filter (· != ' ') = (withoutBreaks s.toList).filter (· != ' ') := by
  have hwords (s : String) : blankWords (sanitizeSubject s).toList = blankWords (withoutBreaks s.toList) := by
    rw [toList_sanitizeSubject, blankWords_squeezeBlanks, flattenLines_eq]
    rfl
  refine ⟨fun tags template => ?_, fun s => (isSingleLine_sanitizeSubject s).sanitizeSubject_eq,
    fun s => ⟨hwords s, ?_⟩⟩
  · have hline := isSingleLine_sanitizeSubject (render tags template)
    have hcontains {pat : String} (h : ¬ pat.toList <:+: (renderSubject tags template).toList) :
        Text.contains pat (renderSubject tags template) = false :=
      Bool.eq_false_iff.2 (Text.not_contains_iff.2 h)
    exact ⟨fun h => hline.unbroken _ h (.inl rfl), fun h => hline.unbroken _ h (.inr (.inl rfl)),
      fun h => hline.unbroken _ h (.inr (.inr rfl)), hcontains hline.no_entity, hcontains hline.no_run⟩
  · -- Without its blanks a text is its words.
    rw [← flatten_blankWords, ← flatten_blankWords, hwords]

/-- Where a line end goes an entity comes about, and it is replaced as well. -/
example : sanitizeSubject "a&nb\r\nsp;\n b" = "a b" := by decide +kernel

end HtmlMail.Template
