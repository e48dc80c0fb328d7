import HtmlMail.Html.Lexer
import HtmlMail.Proofs.Html.CharacterNames

/-!
# Reading escaped text

What the writer has escaped is read back, in front of any text: a reference as the character it stands for, and every
other character as it is.

* `read?_append` : a reference of the writer;
* `readPieces_flatMap_escape` : a whole text, up to where reading stops.
-/

namespace HtmlMail.Html

open Chars

section Reading

variable {escape : Char → List Char} {s rest key : List Char} {c : Char} {stops : List Char → Bool}

/-- Each reference of the writer begins with a letter and ends in a semicolon. -/
theorem form_of_mem_references : ∀ r ∈ references, r.2.head?.any Char.isAlpha ∧ r.2.getLast? = some ';' := by
  decide +kernel

theorem read?_of_ne {d : Char} (hd : d ≠ '#') (inAttribute : Bool) (rest : List Char) :
    CharacterReference.read? inAttribute (d :: rest) = CharacterReference.readName? inAttribute (d :: rest) := by
  unfold CharacterReference.read?
  split
  · next he => exact absurd (List.cons.inj he).1 hd
  · next he => exact absurd (List.cons.inj he).1 hd
  · next he => exact absurd (List.cons.inj he).1 hd
  · rfl

/-- **A reference of the writer is read** in front of any text, in a value or elsewhere. -/
theorem read?_append (h : (c, key) ∈ references) (inAttribute : Bool) (rest : List Char) :
    CharacterReference.read? inAttribute (key ++ rest) = some ⟨[c], false, rest⟩ := by
  obtain ⟨hhead, hlast⟩ := form_of_mem_references _ h
  have hname : CharacterReference.readName? inAttribute (key ++ rest) = some ⟨[c], false, rest⟩ := by
    rw [CharacterReference.readName?, longestName?_append h, Option.bind_some]
    dsimp only
    rw [if_pos hlast, List.drop_left]
  cases key with
  | nil => cases hhead
  | cons d more =>
    -- A number would begin with its sign.
    have hnumber : d ≠ '#' := by
      intro he
      rw [he] at hhead
      have hletter : Char.isAlpha '#' = true := hhead
      revert hletter
      decide
    rw [← hname]
    exact read?_of_ne hnumber inAttribute (more ++ rest)

/-- Where a reference begins it is read, and reading goes on behind it. -/
theorem readPieces_of_some {inAttribute? : Option Bool} {r : CharacterReference} (hgo : stops (c :: s) = false)
    (hread : referenceAt? inAttribute? c s = some r) : readPieces inAttribute? stops (c :: s) =
      (r.pieces ++ (readPieces inAttribute? stops r.rest).1, (readPieces inAttribute? stops r.rest).2) := by
  rw [readPieces, if_neg (by rw [hgo]; exact Bool.false_ne_true)]
  dsimp only
  split
  · next found hfound =>
    obtain rfl : r = found := Option.some.inj (hread.symm.trans hfound)
    rfl
  · next hnone =>
    rw [hread] at hnone
    cases hnone

/-- Any other character stands for itself. -/
theorem readPieces_of_none {inAttribute? : Option Bool} (hgo : stops (c :: s) = false)
    (hread : referenceAt? inAttribute? c s = none) : readPieces inAttribute? stops (c :: s) =
      (.character c :: (readPieces inAttribute? stops s).1, (readPieces inAttribute? stops s).2) := by
  rw [readPieces, if_neg (by rw [hgo]; exact Bool.false_ne_true)]
  dsimp only
  split
  · next found hfound =>
    rw [hread] at hfound
    cases hfound
  · rfl

/-- **A character as it was written** is read, by its reference or as it is. -/
theorem readPieces_escape_append (hescape : IsEscape escape) (inAttribute : Bool) (c : Char) (rest : List Char)
    (hgo : stops (escape c ++ rest) = false) : readPieces (some inAttribute) stops (escape c ++ rest) =
      (.character c :: (readPieces (some inAttribute) stops rest).1, (readPieces (some inAttribute) stops rest).2) := by
  rcases hescape c with ⟨key, hkey, he⟩ | ⟨hamp, he⟩
  · -- The character is written by its name.
    have hread : referenceAt? (some inAttribute) '&' (key ++ rest) = some ⟨[c], false, rest⟩ := by
      rw [referenceAt?, if_pos rfl, Option.bind_some, read?_append hkey]
    rw [he] at hgo ⊢
    exact readPieces_of_some hgo hread
  · -- The character stands for itself.
    have hread : referenceAt? (some inAttribute) c rest = none := by rw [referenceAt?, if_neg hamp]
    rw [he] at hgo ⊢
    exact readPieces_of_none hgo hread

/-- **An escaped text is read as the text that was written**, if reading does not stop in it but does behind it. -/
theorem readPieces_flatMap_escape (hescape : IsEscape escape) (inAttribute : Bool) (hstop : stops rest ∨ rest = []) :
    ∀ {s : List Char}, (∀ c t, c :: t <:+ s → stops (escape c ++ (t.flatMap escape ++ rest)) = false) →
      readPieces (some inAttribute) stops (s.flatMap escape ++ rest) = (s.map .character, rest)
  | [], _ => by
    rw [List.flatMap_nil, List.nil_append, readPieces.eq_def]
    rcases hstop with hstop | rfl
    · rw [if_pos hstop, List.map_nil]
    · split <;> rfl
  | c :: s, hgo => by
    have hrest := readPieces_flatMap_escape hescape inAttribute hstop fun d t ht =>
      hgo d t (ht.trans (List.suffix_cons _ _))
    rw [List.flatMap_cons, List.append_assoc, readPieces_escape_append hescape inAttribute c _ (hgo c s List.suffix_rfl),
      hrest, List.map_cons]

end Reading

end HtmlMail.Html
