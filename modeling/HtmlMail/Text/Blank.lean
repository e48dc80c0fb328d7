/-!
# Blanks

The white space of Unicode: the characters that separate words and that trimming removes. Everything
here works on lists of characters; the functions on strings stand at the end.

- `Chars.isBlank` : the class of characters
- `Chars.trim` : a text without the blanks at its two ends
- `Chars.words` : the maximal runs of characters that are not blank
-/

namespace HtmlMail.Chars

/-- The characters with the property `White_Space`. -/
def isBlank (c : Char) : Bool :=
  let n := c.toNat
  (9 ≤ n && n ≤ 13) || n == 0x20 || n == 0x85 || n == 0xA0 || n == 0x1680 ||
    (0x2000 ≤ n && n ≤ 0x200A) || n == 0x2028 || n == 0x2029 || n == 0x202F || n == 0x205F ||
    n == 0x3000

/-- A text without its leading blanks. -/
def trimStart (s : List Char) : List Char := s.dropWhile isBlank

/-- A text without its trailing blanks. -/
def trimEnd (s : List Char) : List Char := (s.reverse.dropWhile isBlank).reverse

/-- A text without the blanks at either end. -/
def trim (s : List Char) : List Char := trimEnd (trimStart s)

/-- Whether a text has no character but blanks. -/
def allBlank (s : List Char) : Bool := s.all isBlank

/-- The words of a text, read from its end: the list holds the word that is still growing to the
left (empty in front of a blank), then the finished ones. -/
def wordsAux : List Char → List Char × List (List Char)
  | [] => ([], [])
  | c :: rest =>
    let (word, done) := wordsAux rest
    if isBlank c then ([], if word.isEmpty then done else word :: done) else (c :: word, done)

/-- The words of a text in order: its maximal runs of characters other than blanks. -/
def words (s : List Char) : List (List Char) :=
  let (word, done) := wordsAux s
  if word.isEmpty then done else word :: done

@[simp] theorem trimStart_nil : trimStart [] = [] := rfl

/-- Trimming at the start never lengthens a text. -/
theorem length_trimStart_le (s : List Char) : (trimStart s).length ≤ s.length :=
  (List.dropWhile_suffix isBlank).length_le

/-- What is left after trimming at the start does not start with a blank. -/
theorem isBlank_of_head?_trimStart {c : Char} {s : List Char} (h : (trimStart s).head? = some c) :
    isBlank c = false := by
  have := List.head?_dropWhile_not isBlank s
  rw [trimStart] at h
  rwa [h] at this

/-- A text that does not start with a blank stays as it is. -/
theorem trimStart_eq_self {s : List Char} (h : ∀ c, s.head? = some c → isBlank c = false) :
    trimStart s = s := by
  cases s with
  | nil => rfl
  | cons c s => rw [trimStart, List.dropWhile_cons_of_neg (by rw [h c rfl]; exact Bool.false_ne_true)]

theorem trimEnd_isPrefix (s : List Char) : trimEnd s <+: s := by
  rw [trimEnd, ← List.reverse_suffix, List.reverse_reverse]
  exact List.dropWhile_suffix _

/-- A text that does not end in a blank stays as it is. -/
theorem trimEnd_eq_self {s : List Char} (h : ∀ c, s.getLast? = some c → isBlank c = false) :
    trimEnd s = s := by
  rw [trimEnd, ← trimStart, trimStart_eq_self, List.reverse_reverse]
  simpa only [List.head?_reverse] using h

/-- A text without blanks at its ends. -/
structure IsTrimmed (s : List Char) : Prop where
  head {c : Char} : s.head? = some c → isBlank c = false
  last {c : Char} : s.getLast? = some c → isBlank c = false

theorem IsTrimmed.trim_eq {s : List Char} (h : IsTrimmed s) : trim s = s := by
  rw [trim, trimStart_eq_self fun _ => h.head, trimEnd_eq_self fun _ => h.last]

/-- Trimming leaves no blanks at the ends. -/
theorem isTrimmed_trim (s : List Char) : IsTrimmed (trim s) where
  head {c} h := by
    obtain ⟨t, ht⟩ := trimEnd_isPrefix (trimStart s)
    refine isBlank_of_head?_trimStart (s := s) ?_
    rw [← ht, List.head?_append]
    exact (congrArg (·.or t.head?) h).trans Option.some_or
  last {c} h := by
    rw [trim, trimEnd, List.getLast?_reverse] at h
    exact isBlank_of_head?_trimStart h

theorem mem_of_mem_trim {c : Char} {s : List Char} (h : c ∈ trim s) : c ∈ s :=
  (List.dropWhile_suffix isBlank).subset ((trimEnd_isPrefix _).subset h)

/-- Blanks hold nothing else. -/
theorem not_mem_of_allBlank {c : Char} {b : List Char} (hb : allBlank b) (hc : isBlank c = false) :
    c ∉ b := by
  intro h
  have := List.all_eq_true.1 hb c h
  rw [hc] at this
  cases this

/-- Blanks at the start are nothing to a text trimmed there. -/
theorem trimStart_append_of_allBlank {b : List Char} (hb : allBlank b) (s : List Char) :
    trimStart (b ++ s) = trimStart s :=
  List.dropWhile_append_of_pos (List.all_eq_true.1 hb)

/-- Trimming at the start ends at a character that is not blank. -/
theorem trimStart_append_cons {c : Char} (hc : isBlank c = false) (s t : List Char) :
    trimStart (s ++ c :: t) = trimStart s ++ c :: t := by
  induction s with
  | nil => exact List.dropWhile_cons_of_neg (by rw [hc]; exact Bool.false_ne_true)
  | cons d s ih =>
    rw [trimStart, List.cons_append, List.dropWhile_cons, trimStart, List.dropWhile_cons]
    split
    · exact ih
    · rfl

/-- Blanks at the end are nothing to a text trimmed there. -/
theorem trimEnd_append_of_allBlank {b : List Char} (hb : allBlank b) (s : List Char) :
    trimEnd (s ++ b) = trimEnd s := by
  rw [trimEnd, List.reverse_append, ← trimStart, trimStart_append_of_allBlank, trimStart, ← trimEnd]
  rwa [allBlank, List.all_reverse]

theorem exists_eq_append_trimStart (s : List Char) : ∃ b, allBlank b ∧ s = b ++ trimStart s :=
  ⟨s.takeWhile isBlank, List.all_takeWhile, List.takeWhile_append_dropWhile.symm⟩

theorem exists_eq_trimEnd_append (s : List Char) : ∃ b, allBlank b ∧ s = trimEnd s ++ b := by
  obtain ⟨b, hb, hs⟩ := exists_eq_append_trimStart s.reverse
  refine ⟨b.reverse, by rwa [allBlank, List.all_reverse], ?_⟩
  rw [trimEnd, ← trimStart, ← List.reverse_append, ← hs, List.reverse_reverse]

/-- Blanks at the end are nothing to a trimmed text. -/
theorem trim_append_of_allBlank {b : List Char} (hb : allBlank b) (s : List Char) :
    trim (s ++ b) = trim s := by
  cases h : trimStart s with
  | nil =>
    obtain ⟨a, ha, hs⟩ := exists_eq_append_trimStart s
    rw [h, List.append_nil] at hs
    rw [trim, trim, hs, trimStart_append_of_allBlank ha, ← List.append_nil b,
      trimStart_append_of_allBlank hb, ← List.append_nil a, trimStart_append_of_allBlank ha]
  | cons c t =>
    obtain ⟨a, ha, hs⟩ := exists_eq_append_trimStart s
    have hc : isBlank c = false := isBlank_of_head?_trimStart (s := s) (by rw [h]; rfl)
    rw [trim, trim, h, hs, h, List.append_assoc, trimStart_append_of_allBlank ha, List.cons_append,
      ← List.nil_append (c :: (t ++ b)), trimStart_append_cons hc, trimStart_nil, List.nil_append,
      ← List.cons_append, trimEnd_append_of_allBlank hb]

end HtmlMail.Chars

namespace HtmlMail.Text

/-- A text without the blanks at either end. -/
def trim (s : String) : String := String.ofList (Chars.trim s.toList)

/-- A text without the blanks at its end. -/
def trimEnd (s : String) : String := String.ofList (Chars.trimEnd s.toList)

/-- Whether a text has no character but blanks. -/
def isBlank (s : String) : Bool := Chars.allBlank s.toList

/-- The words of a text: its maximal runs of characters other than blanks. -/
def words (s : String) : List String := (Chars.words s.toList).map String.ofList

end HtmlMail.Text
