import HtmlMail.Mail.Links
import HtmlMail.Proofs.Text.Search

/-!
# Targets below the root of the site

A target that begins with a slash is relative to the site, unless an editor has put the slash in front of a whole URL.
One slash is taken off in front of `http` and in front of another slash, and then what still begins with a slash gets
the URL of the site. So of two slashes in front of a whole URL one stays, and what begins with `http` counts as a URL,
also where it is the name of a page of the site.

* `absoluteTarget_slash` : what becomes of a target that begins with a slash;
* `rewriteHref_of_unresolved` : without an answer of the resolver and without a mail that is all;
* `rewriteHref_slash` : which of the targets are absolute then, and which URLs come out whole.
-/

namespace HtmlMail.Mail

open Chars

/-- Whether a text begins like the URL of a page on the web. -/
def IsWebUrl (url : String) : Prop := Text.startsWith "http://" url ∨ Text.startsWith "https://" url

instance : DecidablePred IsWebUrl := fun url =>
  inferInstanceAs (Decidable (Text.startsWith "http://" url ∨ Text.startsWith "https://" url))

/-- Whether a resolver leaves a target as it is: the target refers to no content by number, or there is no answer. -/
def LeavesUnresolved (resolver : LinkResolver) (href : String) : Prop :=
  (contentId? href.toList).bind resolver.url? = none

section Target

variable {resolver : LinkResolver} {base path target : String}

theorem IsWebUrl.startsWith_http (h : IsWebUrl path) : Text.startsWith "http" path := by
  have hsecure : "http".toList <+: "http://".toList ∧ "http".toList <+: "https://".toList := by decide
  rw [IsWebUrl, Text.startsWith_iff_prefix, Text.startsWith_iff_prefix] at h
  rw [Text.startsWith_iff_prefix]
  exact h.elim hsecure.1.trans hsecure.2.trans

theorem not_startsWith_slash (h : Text.startsWith "http" path) : ¬ Text.startsWith "/" path := by
  rw [Text.startsWith_iff_prefix] at h ⊢
  obtain ⟨rest, hrest⟩ := h
  rw [← hrest]
  exact fun hslash => absurd (List.cons_prefix_cons.1 hslash).1 (by decide)

theorem startsWith_append (base rest : String) : Text.startsWith base (base ++ rest) := by
  rw [Text.startsWith_iff_prefix, String.toList_append]
  exact List.prefix_append _ _

/-- What begins with a whole URL begins like one. -/
theorem IsWebUrl.of_startsWith (hbase : IsWebUrl base) (h : Text.startsWith base path) : IsWebUrl path := by
  rw [IsWebUrl, Text.startsWith_iff_prefix, Text.startsWith_iff_prefix] at hbase ⊢
  rw [Text.startsWith_iff_prefix] at h
  exact hbase.imp (·.trans h) (·.trans h)

/-- **A target that begins with a slash.** -/
theorem absoluteTarget_slash (base path : String) : absoluteTarget base ("/" ++ path).toList =
    if Text.startsWith "http" path then path
    else if Text.startsWith "/" path then base ++ path
    else base ++ ("/" ++ path) := by
  have hslashes : "//".toList = '/' :: "/".toList := rfl
  have heditor : "/http".toList = '/' :: "http".toList := rfl
  have hchars : ("/" ++ path).toList = '/' :: path.toList := by rw [String.toList_append]; rfl
  have hpath : (if Text.startsWith "/" path || Text.startsWith "http" path then path.toList else '/' :: path.toList) =
      if "//".toList.isPrefixOf ('/' :: path.toList) || "/http".toList.isPrefixOf ('/' :: path.toList)
      then ('/' :: path.toList).drop 1 else '/' :: path.toList := by
    rw [hslashes, heditor, List.isPrefixOf_cons_cons_self, List.isPrefixOf_cons_cons_self]
    rfl
  rw [absoluteTarget, hchars, ← hpath]
  by_cases hhttp : Text.startsWith "http" path
  · -- The slash is taken off, and none is left.
    have hbare : ¬ ['/'].isPrefixOf path.toList := not_startsWith_slash hhttp
    simp only [hhttp, Bool.or_true, if_true, if_neg hbare, String.ofList_toList]
  · by_cases hslash : Text.startsWith "/" path
    · have hbare : ['/'].isPrefixOf path.toList := hslash
      simp only [hhttp, hslash, Bool.true_or, if_true, if_pos hbare, String.ofList_toList, Bool.false_eq_true, if_false]
    · have hwhole : ['/'].isPrefixOf ('/' :: path.toList) := List.isPrefixOf_iff_prefix.2 ⟨path.toList, rfl⟩
      simp only [hhttp, hslash, Bool.or_self, Bool.false_eq_true, if_false, if_pos hwhole]
      rw [← hchars, String.ofList_toList]

/-- **Without an answer of the resolver and without a mail**, a target is made absolute and nothing else. -/
theorem rewriteHref_of_unresolved {href : String} (hkept : LeavesUnresolved resolver href)
    (htoken : ¬ Text.contains Template.tokenStart href) :
    rewriteHref resolver base none href = absoluteTarget base href.toList := by
  have hresolved : resolveContent resolver href = href := by
    rw [resolveContent, hkept, Option.getD_none]
  rw [rewriteHref, hresolved]
  dsimp only
  exact if_neg htoken

/-- **Targets below the root of the site.** Let the URL of the site be a whole URL, and let a target begin with a slash
and hold no token, and let the resolver leave it as it is. Then, without a mail, the target becomes

* what stands behind the slash, if that begins with `http`;
* otherwise the URL of the site with a path that begins with one slash: the second one if there are two.

It never begins with a slash. It begins with the URL of the site or with the scheme of a whole URL unless what stands behind
the slash begins with `http` and is no whole URL. A whole URL behind one slash comes out as it is, and behind two slashes
it comes out as a path of the site. -/
theorem rewriteHref_slash (hbase : IsWebUrl base) (hkept : LeavesUnresolved resolver ("/" ++ path))
    (htoken : ¬ Text.contains "[#" ("/" ++ path)) (h : rewriteHref resolver base none ("/" ++ path) = target) :
    (target = if Text.startsWith "http" path then path
      else if Text.startsWith "/" path then base ++ path else base ++ ("/" ++ path)) ∧
    ¬ Text.startsWith "/" target ∧
    ((Text.startsWith base target ∨ IsWebUrl target) ↔ (Text.startsWith "http" path → IsWebUrl path)) ∧
    (∀ url, IsWebUrl url → path = url → target = url) ∧
    ∀ url, IsWebUrl url → path = "/" ++ url → target = base ++ ("/" ++ url) ∧ target ≠ url := by
  rw [rewriteHref_of_unresolved hkept htoken, absoluteTarget_slash] at h
  have hsite (rest : String) : IsWebUrl (base ++ rest) := hbase.of_startsWith (startsWith_append base rest)
  refine ⟨h.symm, ?_, ?_, ?_, ?_⟩
  · subst h
    split
    · next hhttp => exact not_startsWith_slash hhttp
    · split
      · exact not_startsWith_slash (hsite _).startsWith_http
      · exact not_startsWith_slash (hsite _).startsWith_http
  · -- A target that begins with the URL of the site is a whole URL itself.
    rw [or_iff_right_of_imp hbase.of_startsWith]
    subst h
    split
    · next hhttp => exact ⟨fun hurl _ => hurl, fun hurl => hurl hhttp⟩
    · next hhttp =>
      refine iff_of_true ?_ fun h => absurd h hhttp
      split
      · exact hsite _
      · exact hsite _
  · rintro url hurl rfl
    rw [← h, if_pos hurl.startsWith_http]
  · rintro url hurl rfl
    have hslash : Text.startsWith "/" ("/" ++ url) := startsWith_append "/" url
    have hhttp : ¬ Text.startsWith "http" ("/" ++ url) := fun hhttp => not_startsWith_slash hhttp hslash
    rw [if_neg hhttp, if_pos hslash] at h
    refine ⟨h.symm, fun hsame => ?_⟩
    -- The URL of the site makes it longer.
    have hlength := congrArg (·.toList.length) (h.trans hsame)
    simp only [String.toList_append, List.length_append] at hlength
    have hone : "/".toList.length = 1 := rfl
    omega

end Target

/-- A reference to content that nobody knows, which stands on the site, and the name of a page that begins like a
URL. -/
theorem rewriteHref_slash_pages :
    IsWebUrl "https://mail.test" ∧ LeavesUnresolved LinkResolver.none "/\x7blocalLink:9\x7d" ∧
      rewriteHref LinkResolver.none "https://mail.test" none "/\x7blocalLink:9\x7d" =
        "https://mail.test/\x7blocalLink:9\x7d" ∧
      rewriteHref LinkResolver.none "https://mail.test" none "/https://other.test" = "https://other.test" := by
  have hbase : IsWebUrl "https://mail.test" := by decide
  have hkept : LeavesUnresolved LinkResolver.none "/\x7blocalLink:9\x7d" := by
    unfold LeavesUnresolved
    decide
  have hurl : LeavesUnresolved LinkResolver.none "/https://other.test" := by
    unfold LeavesUnresolved
    decide
  have hcontent := @rewriteHref_slash _ _ "\x7blocalLink:9\x7d" _ hbase hkept (by decide) rfl
  have heditor := @rewriteHref_slash _ _ "https://other.test" _ hbase hurl (by decide) rfl
  exact ⟨hbase, hkept, hcontent.1, heditor.2.2.2.1 _ (by decide) rfl⟩

/-- **Two slashes in front of a whole URL**: only one of them comes off, and the URL becomes a path of the site. And the name
of a page that begins with `http` is taken for a URL: its slash comes off, and it stays relative. -/
theorem rewriteHref_slash_ne : IsWebUrl "https://mail.test" ∧ IsWebUrl "http://other.test" ∧
    LeavesUnresolved LinkResolver.none "//http://other.test" ∧ ¬ Text.contains "[#" "//http://other.test" ∧
    rewriteHref LinkResolver.none "https://mail.test" none "//http://other.test" ≠ "http://other.test" ∧
    LeavesUnresolved LinkResolver.none "/http-guide" ∧ ¬ Text.contains "[#" "/http-guide" ∧
    ¬ Text.startsWith "https://mail.test" (rewriteHref LinkResolver.none "https://mail.test" none "/http-guide") ∧
    ¬ IsWebUrl (rewriteHref LinkResolver.none "https://mail.test" none "/http-guide") := by
  have hdouble : rewriteHref LinkResolver.none "https://mail.test" none "//http://other.test" =
      "https://mail.test/http://other.test" := by decide
  have hguide : rewriteHref LinkResolver.none "https://mail.test" none "/http-guide" = "http-guide" := by
    decide
  rw [hdouble, hguide]
  unfold LeavesUnresolved
  decide

end HtmlMail.Mail
