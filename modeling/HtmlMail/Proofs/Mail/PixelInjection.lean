import HtmlMail.Mail.Tracking
import HtmlMail.Proofs.Text.Search

/-!
# Tracking is put into a mail once

The URL of the web version comes into a mail in place of its marker, and the pixel in front of the last end of the
body. A second run would do either again if it found a marker, or no pixel. As long as the URL and the pixel are
foreign to the marker, no marker is left by the first step and none comes into being at a border of what the two
steps bring in. So a second run finds nothing to do, and apart from what is brought in the mail is as it was.

* `insertBeforeBodyEnd_cases` : where the pixel goes;
* `not_contains_insertWebVersion` : no marker is left;
* `injectTracking_of_done`, `injectTracking_of_missing` : the two ways a run can go;
* `injectTracking_conserves` : what a run returns, and that a second run changes nothing.
-/

namespace HtmlMail.Mail

open Chars

/-! ### The last end of a body -/

section BodyEnd

variable {pat s before rest : List Char} {extra html : String}

/-- The cut at the last occurrence of a text in any ASCII case: it begins there, and in no later place. -/
theorem splitBeforeLast?_spec (h : splitBeforeLast? pat s = some (before, rest)) :
    s = before ++ rest ∧ lower pat <+: lower rest ∧
      ∀ a b, s = a ++ b → lower pat <+: lower b → a.length ≤ before.length := by
  obtain ⟨⟨front, after⟩, hlast, he⟩ := Option.map_eq_some_iff.1 h
  simp only [Prod.mk.injEq] at he
  obtain ⟨rfl, rfl⟩ := he
  obtain ⟨hcut, hlatest⟩ := splitLast?_spec hlast
  -- Lower case changes no length, so the cut of the text stands where that of its lower case stands.
  have hfront : front.length ≤ s.length := by
    have hlength := congrArg List.length hcut
    rw [lower, List.length_map] at hlength
    simp only [List.length_append] at hlength
    omega
  have hrest : lower (s.drop front.length) = lower pat ++ after := by
    rw [lower, List.map_drop, ← lower, hcut, List.append_assoc, List.drop_left]
  refine ⟨(List.take_append_drop _ s).symm, ⟨after, hrest.symm⟩, ?_⟩
  rintro a b rfl ⟨behind, hb⟩
  have hplace : lower (a ++ b) = lower a ++ lower pat ++ behind := by
    rw [lower_append, ← hb, List.append_assoc]
  have hle := hlatest _ _ hplace
  rw [lower, List.length_map] at hle
  rw [List.length_take]
  omega

theorem not_prefix_of_splitBeforeLast?_eq_none (h : splitBeforeLast? pat s = none) {a b : List Char}
    (hab : s = a ++ b) : ¬ lower pat <+: lower b := by
  rintro ⟨behind, hb⟩
  refine splitLast?_eq_none_iff.1 (Option.map_eq_none_iff.1 h) ⟨lower a, behind, ?_⟩
  rw [hab, lower_append, ← hb, List.append_assoc]

/-- Whether a text begins with the end of a body, in any ASCII case. -/
def beginsBodyEnd (s : String) : Bool := Text.startsWith "</body>" (Text.lower s)

theorem beginsBodyEnd_iff {s : String} :
    beginsBodyEnd s ↔ lower "</body>".toList <+: lower s.toList := by
  have hlower : lower "</body>".toList = "</body>".toList := by decide
  have hchars : (Text.lower s).toList = lower s.toList := String.toList_ofList
  rw [beginsBodyEnd, Text.startsWith, List.isPrefixOf_iff_prefix, hchars, hlower]

/-- **The last end of a body** begins between two texts if it begins there and in no later place. -/
def IsLastBodyEnd (before rest : String) : Prop :=
  beginsBodyEnd rest ∧ ∀ a b, a ++ b = before ++ rest → beginsBodyEnd b → a.length ≤ before.length

/-- **Where the pixel goes**: in front of the last end of a body, or else to the end of the mail. -/
theorem insertBeforeBodyEnd_cases (extra html : String) : ∃ before rest,
    insertBeforeBodyEnd extra html = before ++ extra ++ rest ∧ before ++ rest = html ∧
      (IsLastBodyEnd before rest ∨ rest = "" ∧ ∀ a b, a ++ b = html → ¬ beginsBodyEnd b) := by
  rw [insertBeforeBodyEnd]
  split
  · next before rest h =>
    obtain ⟨hcut, hbegins, hlatest⟩ := splitBeforeLast?_spec h
    have hhtml : String.ofList before ++ String.ofList rest = html := by
      apply String.toList_inj.1
      rw [String.toList_append, String.toList_ofList, String.toList_ofList, hcut]
    refine ⟨String.ofList before, String.ofList rest, ?_, hhtml, .inl ⟨?_, ?_⟩⟩
    · apply String.toList_inj.1
      simp
    · rw [beginsBodyEnd_iff, @String.toList_ofList rest]
      exact hbegins
    · -- The text was cut at the last place where the end of a body begins.
      intro a b hab hb
      rw [hhtml] at hab
      have hchars : html.toList = a.toList ++ b.toList := by rw [← hab, String.toList_append]
      have hle := hlatest _ _ hchars (beginsBodyEnd_iff.1 hb)
      rwa [String.length_toList, ← String.length_ofList] at hle
  · next h =>
    refine ⟨html, "", by simp, by simp, .inr ⟨rfl, ?_⟩⟩
    intro a b hab hb
    have hchars : html.toList = a.toList ++ b.toList := by rw [← hab, String.toList_append]
    exact not_prefix_of_splitBeforeLast?_eq_none h hchars (beginsBodyEnd_iff.1 hb)

end BodyEnd

/-! ### One run and a second one -/

section Injection

variable {urls : TrackingUrls} {id token html : String} {enabled : Bool}

theorem insertWebVersion_eq (hmarker : urls.webVersionMarker ≠ "") : insertWebVersion urls id token html =
    Text.replaceAll urls.webVersionMarker (webVersionUrl urls.baseUrl id token) html :=
  if_neg hmarker

/-- **No marker is left** when its URL is foreign to it. -/
theorem not_contains_insertWebVersion (hmarker : urls.webVersionMarker ≠ "")
    (hurl : IsForeign urls.webVersionMarker.toList (webVersionUrl urls.baseUrl id token).toList) :
    ¬ Text.contains urls.webVersionMarker (insertWebVersion urls id token html) := by
  have hne : urls.webVersionMarker.toList ≠ [] := fun h => hmarker (String.toList_eq_nil_iff.1 h)
  rw [insertWebVersion_eq hmarker, Text.not_contains_iff, Text.replaceAll, String.toList_ofList]
  exact (hurl.separates hne).not_infix_replaceAll_self hne _

theorem insertWebVersion_eq_self (hno : ¬ Text.contains urls.webVersionMarker html) :
    insertWebVersion urls id token html = html := by
  rw [insertWebVersion]
  split
  · rfl
  · exact Text.replaceAll_eq_self hno

/-- A run that has no pixel to put in returns the mail with its URL. -/
theorem injectTracking_of_done
    (h : enabled = false ∨ Text.contains (trackingPixel urls id) (insertWebVersion urls id token html)) :
    injectTracking urls id token enabled html = insertWebVersion urls id token html := by
  have hdone : (!enabled || Text.contains (trackingPixel urls id) (insertWebVersion urls id token html)) = true := by
    rcases h with rfl | h
    · rfl
    · rw [h, Bool.or_true]
  rw [injectTracking]
  exact if_pos hdone

/-- Any other run puts the pixel in. -/
theorem injectTracking_of_missing (henabled : enabled = true)
    (h : ¬ Text.contains (trackingPixel urls id) (insertWebVersion urls id token html)) :
    injectTracking urls id token enabled html =
      insertBeforeBodyEnd (trackingPixel urls id) (insertWebVersion urls id token html) := by
  rw [injectTracking, henabled, Bool.not_true, Bool.false_or]
  exact if_neg h

/-- There is nothing to do in a mail without a marker if no pixel is wanted, or if it is there. -/
theorem injectTracking_eq_self (hno : ¬ Text.contains urls.webVersionMarker html)
    (h : enabled = false ∨ Text.contains (trackingPixel urls id) html) :
    injectTracking urls id token enabled html = html := by
  have hsame : insertWebVersion urls id token html = html := insertWebVersion_eq_self hno
  have hdone := injectTracking_of_done (hsame.symm ▸ h : enabled = false ∨
    Text.contains (trackingPixel urls id) (insertWebVersion urls id token html))
  rw [hdone, hsame]

/-- **Tracking is put into a mail once, and nothing else is touched.** Let the marker not be empty, and let the URL
of the web version and the pixel be foreign to it. With the URL in place of every marker, the mail holds no marker
any more. This is what a run returns if no pixel is wanted or if it is there already. Otherwise the run returns it
with the pixel in front of the last end of a body, or behind it if there is none. A second run changes nothing. -/
theorem injectTracking_conserves (hmarker : urls.webVersionMarker ≠ "")
    (hurl : IsForeign urls.webVersionMarker.toList (webVersionUrl urls.baseUrl id token).toList)
    (hpixel : IsForeign urls.webVersionMarker.toList (trackingPixel urls id).toList)
    (html : String) (enabled : Bool) :
    let linked := Text.replaceAll urls.webVersionMarker (webVersionUrl urls.baseUrl id token) html
    let injected := injectTracking urls id token enabled html
    ¬ Text.contains urls.webVersionMarker linked ∧
      (enabled = false ∨ Text.contains (trackingPixel urls id) linked → injected = linked) ∧
      (enabled = true → ¬ Text.contains (trackingPixel urls id) linked → ∃ before rest,
        injected = before ++ trackingPixel urls id ++ rest ∧ before ++ rest = linked ∧
          (IsLastBodyEnd before rest ∨ rest = "" ∧ ∀ a b, a ++ b = linked → ¬ beginsBodyEnd b)) ∧
      injectTracking urls id token enabled injected = injected := by
  intro linked injected
  have hlinked : insertWebVersion urls id token html = linked := insertWebVersion_eq hmarker
  have hno : ¬ Text.contains urls.webVersionMarker linked :=
    hlinked ▸ not_contains_insertWebVersion hmarker hurl
  have hdone (h : enabled = false ∨ Text.contains (trackingPixel urls id) linked) : injected = linked := by
    rw [← hlinked] at h ⊢
    exact injectTracking_of_done h
  have hmissing (henabled : enabled = true) (h : ¬ Text.contains (trackingPixel urls id) linked) :
      injected = insertBeforeBodyEnd (trackingPixel urls id) linked := by
    rw [← hlinked] at h ⊢
    exact injectTracking_of_missing henabled h
  obtain ⟨before, rest, hcut, hparts, hplace⟩ := insertBeforeBodyEnd_cases (trackingPixel urls id) linked
  refine ⟨hno, hdone, fun henabled h => ⟨before, rest, (hmissing henabled h).trans hcut, hparts, hplace⟩, ?_⟩
  by_cases h : enabled = false ∨ Text.contains (trackingPixel urls id) linked
  · -- The run has returned the mail with its URL, in which a second run finds nothing either.
    rw [hdone h]
    exact injectTracking_eq_self hno h
  · obtain ⟨henabled, habsent⟩ := not_or.1 h
    rw [Bool.not_eq_false] at henabled
    rw [(hmissing henabled habsent).trans hcut]
    refine injectTracking_eq_self ?_ (.inr ?_)
    · -- A marker would lie on one side of the pixel, and so in the mail before the pixel came in.
      have hne : urls.webVersionMarker.toList ≠ [] := fun h => hmarker (String.toList_eq_nil_iff.1 h)
      rw [Text.not_contains_iff, ← hparts, String.toList_append] at hno
      rw [Text.not_contains_iff, String.toList_append, String.toList_append]
      exact (hpixel.separates hne).not_infix_append hno
    · rw [Text.contains_iff_isInfix, String.toList_append, String.toList_append]
      exact ⟨_, _, rfl⟩

/-- The usual endpoints. -/
def siteUrls : TrackingUrls := ⟨"https://mail.test", "/s.gif", "[#webversion#]"⟩

/-- A mail with two markers, letters outside ASCII and two ends of a body in different cases. -/
def siteMail : String := "<a href=\"[#webversion#]\">Größe</a>[#[#webversion#]</body>İ</BODY></html>"

/-- Both markers go, though one of them follows what looks like its beginning, and the pixel is put in once. -/
theorem injectTracking_siteMail :
    ¬ Text.contains "[#webversion#]"
      (Text.replaceAll "[#webversion#]" (webVersionUrl "https://mail.test" "7" "a+b") siteMail) ∧
    injectTracking siteUrls "7" "a+b" true (injectTracking siteUrls "7" "a+b" true siteMail) =
      injectTracking siteUrls "7" "a+b" true siteMail := by
  -- The marker begins and ends with a bracket, and neither the URL nor the pixel has one.
  have hforeign {u : List Char} (hopening : '[' ∉ u) (hclosing : ']' ∉ u)
      (hpart : ¬ u <:+: siteUrls.webVersionMarker.toList) : IsForeign siteUrls.webVersionMarker.toList u := by
    refine ⟨?_, ?_, hpart⟩
    · intro c hc
      cases hc
      exact hopening
    · intro c hc
      cases hc
      exact hclosing
  have hurl : IsForeign siteUrls.webVersionMarker.toList
      (webVersionUrl siteUrls.baseUrl "7" "a+b").toList :=
    hforeign (by decide +kernel) (by decide +kernel) (by decide +kernel)
  have hpixel : IsForeign siteUrls.webVersionMarker.toList (trackingPixel siteUrls "7").toList :=
    hforeign (by decide +kernel) (by decide +kernel) (by decide +kernel)
  have hrun := injectTracking_conserves (by decide) hurl hpixel siteMail true
  exact ⟨hrun.1, hrun.2.2.2⟩

end Injection

end HtmlMail.Mail
