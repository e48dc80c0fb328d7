import HtmlMail.Html.CharacterReference
import HtmlMail.Proofs.Html.UniqueReading

/-!
# The names of the characters that are escaped

The writer puts references in place of a few characters. To read one, the reader looks for the longest name in a table,
whatever comes behind it. No name in the table goes on behind one of these references, so each of them is found and
nothing more.

* `Spelled` : texts with the characters they are spelled with;
* `final_of_mem_references` : the table has the references of the writer, and nothing that begins with one;
* `longestName?_append` : such a reference is the longest name in front of any text.
-/

namespace HtmlMail.Html

open Chars

/-! ### The names in the table -/

/-- The texts of a list and the characters they are spelled with. -/
inductive Spelled : List String → List (List Char) → Prop where
  | nil : Spelled [] []
  | cons {s : List Char} {texts : List String} {spellings : List (List Char)} :
    Spelled texts spellings → Spelled (String.ofList s :: texts) (s :: spellings)

theorem Spelled.map_toList {texts : List String} {spellings : List (List Char)} (h : Spelled texts spellings) :
    texts.map String.toList = spellings := by
  induction h with
  | nil => rfl
  | cons _ ih => rw [List.map_cons, String.toList_ofList, ih]

/-- The names that some lines of the table hold. -/
def namesOf (lines : List (List Char)) : List (List Char × List Char) :=
  lines.flatMap fun line => (splitOnChar ',' line).filterMap readNameEntry?

/-- Whether the table has a reference, and no name that begins with it but itself. -/
def isFinal (names : List (List Char × List Char)) (r : Char × List Char) : Bool :=
  names.contains (r.2, [r.1]) && names.all fun e => !r.2.isPrefixOf e.1 || e == (r.2, [r.1])

/-- The table is searched once for all references of the writer. -/
theorem exists_spelled_table : ∃ lines, Spelled characterNameTable lines ∧ references.all (isFinal (namesOf lines)) := by
  unfold characterNameTable
  apply Exists.intro
  apply And.intro
  · repeat' apply Spelled.cons
    apply Spelled.nil
  · decide +kernel

theorem characterNames_eq {lines : List (List Char)} (h : Spelled characterNameTable lines) :
    characterNames = namesOf lines := by
  rw [characterNames, namesOf, ← h.map_toList, List.flatMap_map]

/-- **The references of the writer are final**: the table has them, and no other name begins with one of them. -/
theorem final_of_mem_references {r : Char × List Char} (h : r ∈ references) :
    (r.2, [r.1]) ∈ characterNames ∧ ∀ e ∈ characterNames, r.2 <+: e.1 → e = (r.2, [r.1]) := by
  obtain ⟨lines, hlines, hfinal⟩ := exists_spelled_table
  rw [characterNames_eq hlines]
  have hr := List.all_eq_true.1 hfinal r h
  rw [isFinal, Bool.and_eq_true] at hr
  obtain ⟨hmem, hall⟩ := hr
  refine ⟨List.contains_iff_mem.1 hmem, fun e he hprefix => ?_⟩
  have hcheck := List.all_eq_true.1 hall e he
  rw [List.isPrefixOf_iff_prefix.2 hprefix] at hcheck
  exact eq_of_beq hcheck

/-! ### The longest name -/

section LongestName

variable {s key rest : List Char} {c : Char}

/-- The search for the longest name, over a part of the table. -/
def longestOf (s : List Char) (best : Option (List Char × List Char)) (names : List (List Char × List Char)) :
    Option (List Char × List Char) :=
  names.foldl (fun best e =>
    if e.1.isPrefixOf s && best.all fun found => found.1.length < e.1.length then some e else best) best

/-- Once the longest name has been found, it stays. -/
theorem longestOf_of_found {e : List Char × List Char} : ∀ {names : List (List Char × List Char)},
    (∀ e' ∈ names, e'.1 <+: s → e'.1.length ≤ e.1.length) → longestOf s (some e) names = some e
  | [], _ => rfl
  | e' :: names, h => by
    rw [longestOf, List.foldl_cons, if_neg]
    · exact longestOf_of_found fun d hd => h d (List.mem_cons_of_mem _ hd)
    · rw [Bool.and_eq_true, List.isPrefixOf_iff_prefix, Option.all_some, decide_eq_true_eq]
      rintro ⟨hfront, hlt⟩
      exact Nat.not_lt_of_le (h e' List.mem_cons_self hfront) hlt

/-- **The longest name is found** wherever it stands in the table, if no other name that fits is as long. -/
theorem longestOf_eq {e : List Char × List Char} (he : e.1 <+: s) : ∀ {names : List (List Char × List Char)}
    {best : Option (List Char × List Char)}, e ∈ names →
    (∀ e' ∈ names, e'.1 <+: s → e' = e ∨ e'.1.length < e.1.length) →
    (∀ found ∈ best, found = e ∨ found.1.length < e.1.length) → longestOf s best names = some e
  | e' :: names, best, hmem, hnames, hbest => by
    have hlater : ∀ d ∈ names, d.1 <+: s → d = e ∨ d.1.length < e.1.length := fun d hd =>
      hnames d (List.mem_cons_of_mem _ hd)
    rw [longestOf, List.foldl_cons, ← longestOf]
    by_cases hsame : e' = e
    · subst hsame
      -- It is taken here, or it was found before.
      have htaken : (if e'.1.isPrefixOf s && best.all fun found => found.1.length < e'.1.length then some e' else best) =
          some e' := by
        split
        · rfl
        · next hno =>
          rw [Bool.and_eq_true, List.isPrefixOf_iff_prefix, not_and, Bool.not_eq_true] at hno
          cases best with
          | none => cases hno he
          | some found =>
            rcases hbest found rfl with rfl | hlt
            · rfl
            · rw [Option.all_some, decide_eq_false_iff_not] at hno
              exact absurd hlt (hno he)
      rw [htaken]
      refine longestOf_of_found fun d hd hprefix => ?_
      rcases hlater d hd hprefix with rfl | hlt
      · exact Nat.le_refl _
      · exact Nat.le_of_lt hlt
    · refine longestOf_eq he ((List.mem_cons.1 hmem).resolve_left (Ne.symm hsame)) hlater fun found hfound => ?_
      split at hfound
      · next hyes =>
        cases hfound
        rw [Bool.and_eq_true, List.isPrefixOf_iff_prefix] at hyes
        exact hnames e' List.mem_cons_self hyes.1
      · exact hbest found hfound

/-- **A reference of the writer** is the longest name in front of any text. -/
theorem longestName?_append (h : (c, key) ∈ references) (rest : List Char) :
    CharacterReference.longestName? (key ++ rest) = some (key, [c]) := by
  obtain ⟨hmem, hfinal⟩ := final_of_mem_references h
  refine longestOf_eq (s := key ++ rest) (e := (key, [c])) (List.prefix_append _ _) hmem (fun e he hprefix => ?_)
    fun found hfound => nomatch hfound
  rcases List.prefix_or_prefix_of_prefix hprefix (List.prefix_append key rest) with hp | hp
  · rcases Nat.lt_or_ge e.1.length key.length with hlt | hge
    · exact .inr hlt
    · exact .inl (hfinal e he (hp.eq_of_length_le hge ▸ List.prefix_rfl))
  · exact .inl (hfinal e he hp)

end LongestName

end HtmlMail.Html
