import HtmlMail.Proofs.Mail.TrackingEvent

/-!
# What a tracking request is answered

A query can come from anywhere: a key may stand in it several times or not at all, and values may be any text. What it is
answered depends on the last value of each key alone, and there is one answer for every query: the mail is looked at
before the action, and of either it is first asked whether it is there and then whether it is known.

* `lastValue?_eq_iff` : the last value of a key, if it has any;
* `mailId?_eq_some_iff` : the texts that number a mail, and `TrackingAction.ofName?_eq_some_iff` : those that name an action;
* `Answers` : the answer to the pairs of a query, with one rule for each error and one for the event;
* `TrackingEvent.ofPairs_eq_iff` : it is the answer that is given;
* `TrackingEvent.ofPairs_congr` : other keys play no part, nor does the order of pairs with different keys;
* `TrackingEvent.ofQuery_eq_iff_answers` : so it is with written queries.
-/

namespace HtmlMail.Mail

variable {key text : String} {pairs others : List (String × String)} {value? : Option String}

/-! ### Last values -/

/-- **The last value** of a key in a list of pairs, if the key stands in it. -/
inductive IsLastValue (key : String) (pairs : List (String × String)) : Option String → Prop
  | absent (habsent : ∀ pair ∈ pairs, pair.1 ≠ key) : IsLastValue key pairs none
  | present (before : List (String × String)) (value : String) (after : List (String × String))
      (hpairs : pairs = before ++ (key, value) :: after) (hlast : ∀ pair ∈ after, pair.1 ≠ key) :
      IsLastValue key pairs (some value)

theorem isLastValue_lastValue? (key : String) (pairs : List (String × String)) :
    IsLastValue key pairs (lastValue? key pairs) := by
  unfold lastValue?
  cases hfound : pairs.reverse.find? (·.1 == key) with
  | none =>
    refine .absent fun pair hpair hkey => ?_
    exact List.find?_eq_none.1 hfound pair (List.mem_reverse.2 hpair) (beq_iff_eq.2 hkey)
  | some pair =>
    -- What stands in front of the pair in the reversed list stands behind it in the list.
    obtain ⟨hkey, after, before, hsplit, hlast⟩ := List.find?_eq_some_iff_append.1 hfound
    have hpairs := congrArg List.reverse hsplit
    rw [List.reverse_reverse, List.reverse_append, List.reverse_cons, List.append_assoc, List.singleton_append] at hpairs
    obtain ⟨found, value⟩ := pair
    obtain rfl : found = key := beq_iff_eq.1 hkey
    refine .present before.reverse value after.reverse hpairs fun other hother hsame => ?_
    have hnot := hlast other (List.mem_reverse.1 hother)
    rw [beq_iff_eq.2 hsame] at hnot
    exact absurd hnot (by decide)

/-- There is one last value at most. -/
theorem IsLastValue.lastValue?_eq (h : IsLastValue key pairs value?) : lastValue? key pairs = value? := by
  unfold lastValue?
  cases h with
  | absent habsent =>
    have hnone : pairs.reverse.find? (·.1 == key) = none :=
      List.find?_eq_none.2 fun pair hpair hkey => habsent pair (List.mem_reverse.1 hpair) (beq_iff_eq.1 hkey)
    rw [hnone, Option.map_none]
  | present before value after hpairs hlast =>
    -- Read from the end, the pairs behind the last one of the key are passed over.
    have hafter : after.reverse.find? (·.1 == key) = none :=
      List.find?_eq_none.2 fun pair hpair hkey => hlast pair (List.mem_reverse.1 hpair) (beq_iff_eq.1 hkey)
    have hhere : ((key, value) :: before.reverse).find? (·.1 == key) = some (key, value) :=
      List.find?_cons_of_pos (beq_self_eq_true key)
    rw [hpairs, List.reverse_append, List.reverse_cons, List.append_assoc, List.find?_append, hafter, Option.none_or,
      List.singleton_append, hhere, Option.map_some]

/-- **The last value** is the one that is looked up. -/
theorem lastValue?_eq_iff : lastValue? key pairs = value? ↔ IsLastValue key pairs value? :=
  ⟨fun h => h ▸ isLastValue_lastValue? key pairs, IsLastValue.lastValue?_eq⟩

/-- Only the pairs with the key itself are looked at. -/
theorem lastValue?_congr (h : others.filter (·.1 == key) = pairs.filter (·.1 == key)) :
    lastValue? key others = lastValue? key pairs := by
  have hfilter (list : List (String × String)) :
      list.reverse.find? (·.1 == key) = (list.filter (·.1 == key)).reverse.head? := by
    rw [← List.head?_filter, List.filter_reverse]
  rw [lastValue?, lastValue?, hfilter, hfilter, h]

/-! ### Numbers of mails and names of actions -/

/-- A text **numbers a mail** if it spells a number that is not zero and has 64 bits at most. -/
def IsMailNumber (text : String) (n : Nat) : Prop := Chars.Denotes text.toList n ∧ 0 < n ∧ n < 2 ^ 64

theorem mailId?_eq_some_iff {n : Nat} : mailId? text = some n ↔ IsMailNumber text n := by
  rw [mailId?, Option.filter_eq_some_iff, Chars.unsigned64?_eq_some_iff, decide_eq_true_iff, and_assoc, IsMailNumber]
  exact and_congr_right fun _ => and_comm

theorem mailId?_eq_none_iff : mailId? text = none ↔ ∀ n, ¬ IsMailNumber text n := by
  rw [Option.eq_none_iff_forall_ne_some]
  exact forall_congr' fun n => not_congr mailId?_eq_some_iff

namespace TrackingAction

/-- **A text names an action** if it is the name of the action but for the case of its letters. -/
theorem ofName?_eq_some_iff {action : TrackingAction} : ofName? text = some action ↔ Text.lower text = action.name := by
  have hnames (named : TrackingAction) : Chars.lower named.name.toList = named.name.toList := by cases named <;> decide
  have hsame (named : TrackingAction) : Text.eqIgnoringCase text named.name = true ↔ Text.lower text = named.name := by
    rw [Text.eqIgnoringCase, Chars.eqIgnoringCase, beq_iff_eq, hnames, Text.lower, ← String.toList_inj, String.toList_ofList]
  constructor
  · intro hfound
    unfold ofName? at hfound
    have hfits := List.find?_some hfound
    exact (hsame action).1 hfits
  · intro hlower
    have hiff (named : TrackingAction) : Text.eqIgnoringCase text named.name = decide (action.name = named.name) := by
      rw [Bool.eq_iff_iff, hsame, hlower, decide_eq_true_iff]
    -- No two actions have the same name, so the first one that fits is this one.
    simp only [ofName?, hiff]
    cases action <;> decide

theorem ofName?_eq_none_iff : ofName? text = none ↔ ∀ action : TrackingAction, Text.lower text ≠ action.name := by
  rw [Option.eq_none_iff_forall_ne_some]
  exact forall_congr' fun action => not_congr ofName?_eq_some_iff

end TrackingAction

/-! ### Answers -/

/-- **The answer** to the pairs of a query. Every rule has what the rules before it lack. -/
inductive Answers (pairs : List (String × String)) : Except TrackingError TrackingEvent → Prop
  | missingMailId (hid : IsLastValue "i" pairs none) : Answers pairs (.error .missingMailId)
  | invalidMailId (id : String) (hid : IsLastValue "i" pairs (some id)) (hnumber : ∀ n, ¬ IsMailNumber id n) :
      Answers pairs (.error (.invalidMailId id))
  | missingAction (id : String) (n : Nat) (hid : IsLastValue "i" pairs (some id)) (hnumber : IsMailNumber id n)
      (haction : IsLastValue "a" pairs none) : Answers pairs (.error .missingAction)
  | unknownAction (id : String) (n : Nat) (name : String) (hid : IsLastValue "i" pairs (some id))
      (hnumber : IsMailNumber id n) (haction : IsLastValue "a" pairs (some name))
      (hname : ∀ action : TrackingAction, Text.lower name ≠ action.name) : Answers pairs (.error (.unknownAction name))
  | event (id : String) (n : Nat) (name : String) (action : TrackingAction) (value? auth? : Option String)
      (hid : IsLastValue "i" pairs (some id)) (hnumber : IsMailNumber id n) (haction : IsLastValue "a" pairs (some name))
      (hname : Text.lower name = action.name) (hvalue : IsLastValue "v" pairs value?)
      (hauth : IsLastValue "auth" pairs auth?) : Answers pairs (.ok ⟨n, action, value?, auth?⟩)

namespace TrackingEvent

variable {answer : Except TrackingError TrackingEvent}

/-- **Every query is answered.** -/
theorem answers_ofPairs (pairs : List (String × String)) : Answers pairs (ofPairs pairs) := by
  -- The checks are made in their order, and each that fails has an answer of its own.
  unfold ofPairs
  split
  · next hid => exact .missingMailId (lastValue?_eq_iff.1 hid)
  next id hid =>
  rw [lastValue?_eq_iff] at hid
  split
  · next hnumber => exact .invalidMailId id hid (mailId?_eq_none_iff.1 hnumber)
  next n hnumber =>
  rw [mailId?_eq_some_iff] at hnumber
  split
  · next haction => exact .missingAction id n hid hnumber (lastValue?_eq_iff.1 haction)
  next name haction =>
  rw [lastValue?_eq_iff] at haction
  split
  · next hname => exact .unknownAction id n name hid hnumber haction (TrackingAction.ofName?_eq_none_iff.1 hname)
  next action hname =>
  exact .event id n name action _ _ hid hnumber haction (TrackingAction.ofName?_eq_some_iff.1 hname)
    (isLastValue_lastValue? "v" pairs) (isLastValue_lastValue? "auth" pairs)

/-- **No query has two answers.** -/
theorem ofPairs_eq_of_answers (h : Answers pairs answer) : ofPairs pairs = answer := by
  cases h with
  | missingMailId hid => simp only [ofPairs, hid.lastValue?_eq]
  | invalidMailId id hid hnumber => simp only [ofPairs, hid.lastValue?_eq, mailId?_eq_none_iff.2 hnumber]
  | missingAction id n hid hnumber haction =>
    simp only [ofPairs, hid.lastValue?_eq, mailId?_eq_some_iff.2 hnumber, haction.lastValue?_eq]
  | unknownAction id n name hid hnumber haction hname =>
    simp only [ofPairs, hid.lastValue?_eq, mailId?_eq_some_iff.2 hnumber, haction.lastValue?_eq,
      TrackingAction.ofName?_eq_none_iff.2 hname]
  | event id n name action value? auth? hid hnumber haction hname hvalue hauth =>
    simp only [ofPairs, hid.lastValue?_eq, mailId?_eq_some_iff.2 hnumber, haction.lastValue?_eq,
      TrackingAction.ofName?_eq_some_iff.2 hname, hvalue.lastValue?_eq, hauth.lastValue?_eq]

/-- **The answer** to the pairs of a query is the one that is given. -/
theorem ofPairs_eq_iff : ofPairs pairs = answer ↔ Answers pairs answer :=
  ⟨fun h => h ▸ answers_ofPairs pairs, ofPairs_eq_of_answers⟩

/-- The keys that are looked at. -/
def keys : List String := ["i", "a", "v", "auth"]

/-- **Nothing else plays a part** but which pairs there are for each of the keys, in their order. -/
theorem ofPairs_congr (h : ∀ key ∈ keys, others.filter (·.1 == key) = pairs.filter (·.1 == key)) :
    ofPairs others = ofPairs pairs := by
  have hsame (key : String) (hkey : key ∈ keys) : lastValue? key others = lastValue? key pairs :=
    lastValue?_congr (h key hkey)
  simp only [ofPairs, hsame "i" (by decide), hsame "a" (by decide), hsame "v" (by decide), hsame "auth" (by decide)]

/-- **What a tracking request is answered.** Let pairs of keys and values, whatever texts they are, be written as a query,
with or without a question mark in front.

* The answer is that the mail is missing if there is no key `i`; that the number of the mail is invalid if the last value
  of `i` is not made of decimal digits, with or without a plus sign, for a number from 1 to `2 ^ 64 - 1`; that the action is
  missing if there is no key `a`; that the action is unknown if the last value of `a` is not the name of an action in
  any case; and otherwise the event with this number, this action and the last values of `v` and `auth`, if there are any.
* The answer is the same for all pairs that have, for each of these four keys, the same pairs with this key in the same
  order. So pairs with other keys have no influence, and neither has the order of pairs with different keys. -/
theorem ofQuery_eq_iff_answers (pairs : List (String × String)) {mark : String} (hmark : mark ∈ ["", "?"]) :
    (∀ answer, ofQuery (mark ++ Url.Form.query pairs) = answer ↔ Answers pairs answer) ∧
    ∀ others, (∀ key ∈ keys, others.filter (·.1 == key) = pairs.filter (·.1 == key)) →
      ofQuery (mark ++ Url.Form.query others) = ofQuery (mark ++ Url.Form.query pairs) := by
  have hread (list : List (String × String)) : ofQuery (mark ++ Url.Form.query list) = ofPairs list := by
    rcases List.mem_pair.1 hmark with rfl | rfl
    · rw [String.empty_append, ofQuery_formQuery]
    · exact ofQuery_questionMark_formQuery list
  refine ⟨fun answer => ?_, fun others hothers => ?_⟩
  · rw [hread, ofPairs_eq_iff]
  · rw [hread, hread, ofPairs_congr hothers]

/-- A query in which the number and the action of a mail stand twice, the last ones being valid, and one with the same
pairs in another order and one more. -/
theorem ofQuery_eq_iff_answers_repeated :
    ofQuery ("?" ++ Url.Form.query [("i", "0"), ("v", "a&b=%c?"), ("i", "+018446744073709551615"), ("a", "open"),
        ("a", "CLICK")]) = .ok ⟨18446744073709551615, .click, some "a&b=%c?", none⟩ ∧
      ofQuery ("?" ++ Url.Form.query [("a", "open"), ("i", "0"), ("ipignore", "true"), ("a", "CLICK"),
          ("i", "+018446744073709551615"), ("v", "a&b=%c?")]) =
        ofQuery ("?" ++ Url.Form.query [("i", "0"), ("v", "a&b=%c?"), ("i", "+018446744073709551615"), ("a", "open"),
          ("a", "CLICK")]) := by
  have hmark : "?" ∈ ["", "?"] := by decide
  have hanswers := ofQuery_eq_iff_answers [("i", "0"), ("v", "a&b=%c?"), ("i", "+018446744073709551615"),
    ("a", "open"), ("a", "CLICK")] hmark
  refine ⟨(hanswers.1 _).2 ?_, hanswers.2 _ (by decide)⟩
  have hvalue : Chars.decimal "018446744073709551615".toList = 18446744073709551615 := rfl
  have hdigits : ∀ c ∈ "018446744073709551615".toList, c.isDigit := List.all_eq_true.1 (by decide)
  have hnumber : IsMailNumber "+018446744073709551615" 18446744073709551615 :=
    ⟨⟨_, .inr (by decide), by decide, hdigits, hvalue⟩, by decide, by decide⟩
  exact .event "+018446744073709551615" _ "CLICK" _ _ _
    (.present [("i", "0"), ("v", "a&b=%c?")] _ [("a", "open"), ("a", "CLICK")] rfl (by decide)) hnumber
    (.present [("i", "0"), ("v", "a&b=%c?"), ("i", "+018446744073709551615"), ("a", "open")] _ [] rfl (by decide))
    (by decide) (.present [("i", "0")] _ _ rfl (by decide)) (.absent (by decide))

end TrackingEvent

end HtmlMail.Mail
