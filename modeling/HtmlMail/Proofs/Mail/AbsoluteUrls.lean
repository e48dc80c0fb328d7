import HtmlMail.Mail.Render
import HtmlMail.Proofs.Mail.PixelRemoval
import HtmlMail.Proofs.Url.Form

/-!
# No URL is left below the root of the site

Three replacements, one after the other, put the URL of the site in front of every source, target and background that
begins with a slash. Then the URL of the web version and the pixel come in. A value that begins with a slash could come
up again where two parts meet: what ends in `src=` might get a double quote and a slash behind it.

None does, because each text that comes in is a barrier to all three beginnings. It has no double quote with a slash
behind it, it does not begin with a slash, and its last character is none of those that stand in front of the slash.

* `IsAbsolute` : no source, target or background begins with a slash;
* `isUrlBarrier_attributeStart`, `isUrlBarrier_webVersionUrl`, `isUrlBarrier_trackingPixel` : what comes in;
* `isAbsolute_absolutizeMarkup`, `IsAbsolute.trackMarkup` : the two stages;
* `isAbsolute_renderBody` : the body of every mail.
-/

namespace HtmlMail.Mail

open Chars

/-- The attributes whose values are made absolute in the text of a mail. -/
def linkNames : List String := ["src", "href", "background"]

/-- Whether no source, target or background in a text begins with a slash. -/
def IsAbsolute (html : String) : Prop := ∀ name ∈ linkNames, ¬ Text.contains (attributeStart name "/") html

/-- Whether a text is a barrier to each of the beginnings that an absolute text does not have. -/
def IsUrlBarrier (u : List Char) : Prop := ∀ name ∈ linkNames, IsBarrier (name ++ "=").toList '"' '/' u

theorem toList_attributeStart (name valueStart : String) :
    (attributeStart name valueStart).toList = (name ++ "=").toList ++ '"' :: valueStart.toList := by
  have hquote : "=\"".toList = "=".toList ++ ['"'] := by decide
  simp only [attributeStart, String.toList_append, hquote, List.append_assoc, List.singleton_append]

theorem isAbsolute_iff {html : String} : IsAbsolute html ↔
    ∀ name ∈ linkNames, ¬ (name ++ "=").toList ++ ['"', '/'] <:+: html.toList := by
  have hslash : "/".toList = ['/'] := rfl
  simp only [IsAbsolute, Text.not_contains_iff, toList_attributeStart, hslash]

theorem isAbsolute_empty : IsAbsolute "" := by unfold IsAbsolute; decide +kernel

/-! ### Two characters at a border -/

section Pair

variable {q z : Char} {s t : List Char}

/-- Two characters that follow one another across a border are the last one and the first one there. -/
theorem pair_infix_append (h : [q, z] <:+: s ++ t) :
    [q, z] <:+: s ∨ [q, z] <:+: t ∨ q ∈ s.getLast? ∧ z ∈ t.head? := by
  by_cases hborder : q ∈ s.getLast? ∧ z ∈ t.head?
  · exact .inr (.inr hborder)
  · have hapart : Apart [q, z] s t := by
      refine apart_of_pair fun c hc d hd hpair => hborder ?_
      cases hpair.eq_of_length rfl
      exact ⟨hc, hd⟩
    exact (hapart.infix_append_iff.1 h).imp_right .inl

theorem not_infix_pair (h : q ∉ s) : ¬ [q, z] <:+: s := fun hin => h (hin.subset List.mem_cons_self)

end Pair

/-! ### What comes in -/

section Barriers

variable {baseUrl id token : String} {urls : TrackingUrls}

/-- In front of the double quote of such a beginning stand letters and the equals sign. -/
theorem isAlpha_or_of_mem_linkNames : ∀ name ∈ linkNames, ∀ c ∈ (name ++ "=").toList, c.isAlpha ∨ c = '=' := by
  have hall : ∀ name ∈ linkNames, (name ++ "=").toList.all fun c => c.isAlpha || c == '=' := by decide +kernel
  intro name hname c hc
  have h := List.all_eq_true.1 (hall name hname) c hc
  rwa [Bool.or_eq_true, beq_iff_eq] at h

/-- A text that ends in none of these characters ends like a barrier. -/
theorem isUrlBarrier_of_last {u : List Char} (hne : u ≠ []) (hhead : u.head? ≠ some '/') (hpair : ¬ ['"', '/'] <:+: u)
    (hlast : ∀ c ∈ u.getLast?, ¬ c.isAlpha ∧ c ≠ '=' ∧ c ≠ '"') : IsUrlBarrier u := by
  refine fun name hname => ⟨hne, hhead, hpair, fun c hc hmem => ?_⟩
  obtain ⟨halpha, hequals, hquote⟩ := hlast c hc
  rcases List.mem_append.1 hmem with hmem | hmem
  · exact (isAlpha_or_of_mem_linkNames name hname c hmem).elim halpha hequals
  · exact hquote (List.mem_singleton.1 hmem)

theorem head?_append_of_ne_empty (hne : baseUrl ≠ "") (rest : List Char) :
    (baseUrl.toList ++ rest).head? = baseUrl.toList.head? := by
  have hchars : baseUrl.toList ≠ [] := fun h => hne (String.toList_eq_nil_iff.1 h)
  rw [List.head?_append_of_ne_nil _ hchars]

theorem head?_ne_slash (hslash : ¬ Text.startsWith "/" baseUrl) : baseUrl.toList.head? ≠ some '/' := by
  intro h
  obtain ⟨rest, hrest⟩ := List.head?_eq_some_iff.1 h
  refine hslash (List.isPrefixOf_iff_prefix.2 ?_)
  rw [hrest]
  exact ⟨rest, rfl⟩

/-- **An attribute with the URL of the site** in front of its value. -/
theorem isUrlBarrier_attributeStart (hne : baseUrl ≠ "") (hslash : ¬ Text.startsWith "/" baseUrl)
    (hquote : '"' ∉ baseUrl.toList) {name : String} (hname : name ∈ linkNames) :
    IsUrlBarrier (attributeStart name (baseUrl ++ "/")).toList := by
  have hnames : ∀ name ∈ linkNames, (name ++ "=").toList.head? ≠ some '/' ∧ '"' ∉ (name ++ "=").toList ∧
      (name ++ "=").toList ≠ [] := by decide +kernel
  obtain ⟨hhead, hnone, hname⟩ := hnames name hname
  have hsplit : (attributeStart name (baseUrl ++ "/")).toList =
      ((name ++ "=").toList ++ ['"']) ++ (baseUrl.toList ++ ['/']) := by
    rw [toList_attributeStart, @String.toList_append baseUrl, List.append_assoc]
    rfl
  have hbase : (baseUrl.toList ++ ['/']).head? ≠ some '/' :=
    head?_append_of_ne_empty hne ['/'] ▸ head?_ne_slash hslash
  rw [hsplit]
  refine isUrlBarrier_of_last (by simp) ?_ ?_ ?_
  · rwa [List.append_assoc, List.head?_append_of_ne_nil _ hname]
  · intro h
    rcases pair_infix_append h with h | h | ⟨-, h⟩
    · -- The only double quote there is the last character.
      rcases pair_infix_append h with h | h | ⟨-, h⟩
      · exact not_infix_pair hnone h
      · revert h
        decide
      · cases h
    · refine not_infix_pair ?_ h
      rw [List.mem_append, not_or]
      exact ⟨hquote, by decide⟩
    · exact hbase h
  · rw [← List.append_assoc, List.getLast?_concat]
    rintro _ ⟨⟩
    decide

theorem quote_not_mem_webVersionUrl (hquote : '"' ∉ baseUrl.toList) (hid : '"' ∉ id.toList) :
    '"' ∉ (webVersionUrl baseUrl id token).toList := by
  have htoken : '"' ∉ (Url.Form.encode token).toList := fun h =>
    absurd (Url.Form.isAlphanum_or_of_mem_encode h) (by decide)
  simp only [webVersionUrl, String.toList_append, List.mem_append, not_or]
  exact ⟨⟨⟨hquote, quote_not_mem_trackingQuery hid⟩, by decide⟩, htoken⟩

/-- **The URL of the web version**, unless it ends like an attribute. -/
theorem isUrlBarrier_webVersionUrl (hne : baseUrl ≠ "") (hslash : ¬ Text.startsWith "/" baseUrl)
    (hquote : '"' ∉ baseUrl.toList) (hid : '"' ∉ id.toList)
    (hlast : ∀ c ∈ (webVersionUrl baseUrl id token).toList.getLast?, ¬ c.isAlpha ∧ c ≠ '=') :
    IsUrlBarrier (webVersionUrl baseUrl id token).toList := by
  have hnone : '"' ∉ (webVersionUrl baseUrl id token).toList := quote_not_mem_webVersionUrl hquote hid
  have hsplit : ∃ rest, (webVersionUrl baseUrl id token).toList = baseUrl.toList ++ rest := by
    simp only [webVersionUrl, String.toList_append, List.append_assoc]
    exact ⟨_, rfl⟩
  have hchars : baseUrl.toList ≠ [] := fun h => hne (String.toList_eq_nil_iff.1 h)
  obtain ⟨rest, hrest⟩ := hsplit
  -- The address of the site is its beginning, and what it ends with is given.
  refine isUrlBarrier_of_last ?_ ?_ (not_infix_pair hnone) fun c hc => ?_
  · rw [hrest]
    exact List.append_ne_nil_of_left_ne_nil hchars rest
  · rw [hrest, head?_append_of_ne_empty hne]
    exact head?_ne_slash hslash
  · obtain ⟨halpha, hequals⟩ := hlast c hc
    exact ⟨halpha, hequals, fun h => hnone (h ▸ List.mem_of_getLast? hc)⟩

/-- **The pixel.** -/
theorem isUrlBarrier_trackingPixel (hne : urls.baseUrl ≠ "") (hslash : ¬ Text.startsWith "/" urls.baseUrl)
    (hquote : '"' ∉ urls.baseUrl.toList) (hpath : '"' ∉ urls.pixelPath.toList) (hid : '"' ∉ id.toList) :
    IsUrlBarrier (trackingPixel urls id).toList := by
  have hsource : '"' ∉ (pixelSource urls id).toList := quote_not_mem_pixelSource hquote hpath hid
  have hstart : ¬ ['"', '/'] <:+: "<img style=\"opacity:0\" src=\"".toList := by decide +kernel
  have hsplit : (trackingPixel urls id).toList =
      "<img style=\"opacity:0\" src=\"".toList ++ ((pixelSource urls id).toList ++ ['"', '>']) := by
    rw [toList_trackingPixel, toList_pixelStart]
    simp only [List.append_assoc]
  have hhead : ((pixelSource urls id).toList ++ ['"', '>']).head? ≠ some '/' := by
    simp only [pixelSource, String.toList_append, List.append_assoc]
    rw [head?_append_of_ne_empty hne]
    exact head?_ne_slash hslash
  refine isUrlBarrier_of_last (by rw [toList_trackingPixel]; simp) ?_ ?_ ?_
  · obtain ⟨more, hmore⟩ := exists_toList_trackingPixel urls id
    rw [hmore, List.head?_cons]
    decide
  · rw [hsplit]
    intro h
    -- In front of the source, in it or behind it, or where it begins, which is not with a slash.
    rcases pair_infix_append h with h | h | ⟨-, h⟩
    · exact hstart h
    · rcases pair_infix_append h with h | h | ⟨h, -⟩
      · exact not_infix_pair hsource h
      · revert h
        decide
      · exact hsource (List.mem_of_getLast? h)
    · exact hhead h
  · rw [hsplit, ← List.append_assoc, List.getLast?_append]
    rintro _ ⟨⟩
    decide

end Barriers

/-! ### The stages -/

section Stages

variable {baseUrl html text new id token : String} {urls : TrackingUrls}

/-- What comes in as a barrier makes no occurrence, whatever it replaces. -/
theorem IsAbsolute.replaceAll (h : IsAbsolute html) (hnew : IsUrlBarrier new.toList) (old : String) :
    IsAbsolute (Text.replaceAll old new html) := by
  rw [isAbsolute_iff] at h ⊢
  intro name hname
  rw [Text.replaceAll, String.toList_ofList]
  exact (hnew name hname).separates.not_infix_replaceAll (by simp) _ (h name hname)

/-- A barrier between two parts of a text makes no occurrence. -/
theorem IsAbsolute.insert {before rest : String} (h : IsAbsolute (before ++ rest)) (hnew : IsUrlBarrier new.toList) :
    IsAbsolute (before ++ new ++ rest) := by
  rw [isAbsolute_iff] at h ⊢
  intro name hname
  have hno := h name hname
  rw [@String.toList_append before] at hno
  rw [@String.toList_append (before ++ new), @String.toList_append before]
  exact (hnew name hname).separates.not_infix_append hno

/-- **One attribute after the other.** Once its values have been made absolute, an attribute stays so while the values
of others are. -/
theorem not_contains_foldl_absolutize (hne : baseUrl ≠ "") (hslash : ¬ Text.startsWith "/" baseUrl)
    (hquote : '"' ∉ baseUrl.toList) {name : String} (hname : name ∈ linkNames) : ∀ {names : List String} {html : String},
    names ⊆ linkNames → name ∈ names ∨ ¬ Text.contains (attributeStart name "/") html →
      ¬ Text.contains (attributeStart name "/") (names.foldl (fun html name =>
        Text.replaceAll (attributeStart name "/") (attributeStart name (baseUrl ++ "/")) html) html)
  | [], html, _, h => by
    rcases h with h | h
    · cases h
    · exact h
  | first :: names, html, hnames, h => by
    have hslashes : "/".toList = ['/'] := rfl
    have hfirst : first ∈ linkNames := hnames List.mem_cons_self
    have hbarrier := (isUrlBarrier_attributeStart hne hslash hquote hfirst name hname).separates
    have hpat : (attributeStart name "/").toList = (name ++ "=").toList ++ ['"', '/'] := toList_attributeStart name "/"
    rw [List.foldl_cons]
    refine not_contains_foldl_absolutize hne hslash hquote hname
      (fun n hn => hnames (List.mem_cons_of_mem _ hn)) ?_
    rw [Text.not_contains_iff] at h ⊢
    rw [Text.replaceAll, String.toList_ofList]
    -- The step for the name itself leaves no relative link of it, and no later step brings one back.
    by_cases hsame : name = first
    · subst hsame
      rw [← hpat] at hbarrier
      exact .inr (hbarrier.not_infix_replaceAll_self (by rw [hpat]; simp) _)
    · rcases h with h | h
      · exact .inl ((List.mem_cons.1 h).resolve_left hsame)
      · rw [← hpat] at hbarrier
        exact .inr (hbarrier.not_infix_replaceAll (by rw [hpat]; simp) _ h)

/-- **Markup made absolute** is absolute. -/
theorem isAbsolute_absolutizeMarkup (hne : baseUrl ≠ "") (hslash : ¬ Text.startsWith "/" baseUrl)
    (hquote : '"' ∉ baseUrl.toList) (text : String) : IsAbsolute (absolutizeMarkup baseUrl text) := fun _ hname =>
  not_contains_foldl_absolutize hne hslash hquote hname (List.Subset.refl _) (.inl hname)

/-- Absolute markup has nothing to replace. -/
theorem IsAbsolute.absolutizeMarkup_eq (h : IsAbsolute html) : absolutizeMarkup baseUrl html = html := by
  have hsame : ∀ {names : List String}, names ⊆ linkNames → names.foldl (fun html name =>
      Text.replaceAll (attributeStart name "/") (attributeStart name (baseUrl ++ "/")) html) html = html := by
    intro names hnames
    induction names with
    | nil => rfl
    | cons name names ih =>
      rw [List.foldl_cons, Text.replaceAll_eq_self (h name (hnames List.mem_cons_self))]
      exact ih fun _ hname => hnames (List.mem_cons_of_mem _ hname)
  exact hsame (List.Subset.refl _)

/-- **Tracking** brings in no relative value. -/
theorem IsAbsolute.injectTracking (h : IsAbsolute html) (hne : urls.baseUrl ≠ "")
    (hslash : ¬ Text.startsWith "/" urls.baseUrl) (hquote : '"' ∉ urls.baseUrl.toList) (hpath : '"' ∉ urls.pixelPath.toList)
    (hid : '"' ∉ id.toList)
    (hlast : ∀ c ∈ (webVersionUrl urls.baseUrl id token).toList.getLast?, ¬ c.isAlpha ∧ c ≠ '=') (enabled : Bool) :
    IsAbsolute (injectTracking urls id token enabled html) := by
  have hlinked : IsAbsolute (insertWebVersion urls id token html) := by
    rw [insertWebVersion]
    split
    · exact h
    · exact h.replaceAll (isUrlBarrier_webVersionUrl hne hslash hquote hid hlast) _
  -- Both the link and the pixel are barriers, so no relative link comes up at their ends.
  by_cases hdone : enabled = false ∨ Text.contains (trackingPixel urls id) (insertWebVersion urls id token html)
  · rwa [injectTracking_of_done hdone]
  · obtain ⟨henabled, hmissing⟩ := not_or.1 hdone
    obtain ⟨before, rest, hcut, hplace⟩ :=
      exists_isPixelPlace (trackingPixel urls id) (insertWebVersion urls id token html)
    rw [injectTracking_of_missing (Bool.not_eq_false _ ▸ henabled) hmissing, hcut]
    rw [← hplace.parts] at hlinked
    exact hlinked.insert (isUrlBarrier_trackingPixel hne hslash hquote hpath hid)

/-- The tracking of a mail writes no double quote, and the URL of its web version ends in neither a letter nor an equals
sign. A mail without a number is not tracked. -/
def HasSafeTracking (config : Config) (tracking : Tracking) : Prop :=
  ∀ id, tracking.mailId? = some id → '"' ∉ id.toList ∧ '"' ∉ config.pixelPath.toList ∧
    ∀ c ∈ (webVersionUrl config.websiteUrl id (tracking.token?.getD "")).toList.getLast?, ¬ c.isAlpha ∧ c ≠ '='

theorem IsAbsolute.trackMarkup {config : Config} {tracking : Tracking} (h : IsAbsolute html)
    (hne : config.websiteUrl ≠ "") (hslash : ¬ Text.startsWith "/" config.websiteUrl)
    (hquote : '"' ∉ config.websiteUrl.toList) (htracking : HasSafeTracking config tracking) :
    IsAbsolute (trackMarkup config tracking html) := by
  rw [Mail.trackMarkup]
  split
  · next id hid =>
    obtain ⟨hid, hpath, hlast⟩ := htracking id hid
    exact @IsAbsolute.injectTracking _ _ _ config.trackingUrls h hne hslash hquote hpath hid hlast _
  · exact h

end Stages

/-- **No URL is left below the root of the site.** Let the URL of the site be some text without double quotes that
does not begin with a slash. Markup made absolute holds no source, target or background that begins with a slash, and
to make it absolute again changes nothing. Nor does the body of any mail hold one, if its tracking writes no double
quote and ends the URL of the web version in neither a letter nor an equals sign. -/
theorem isAbsolute_renderBody {baseUrl : String} (hne : baseUrl ≠ "") (hslash : ¬ Text.startsWith "/" baseUrl)
    (hquote : '"' ∉ baseUrl.toList) :
    (∀ text, IsAbsolute (absolutizeMarkup baseUrl text) ∧
      absolutizeMarkup baseUrl (absolutizeMarkup baseUrl text) = absolutizeMarkup baseUrl text) ∧
    ∀ (config : Config) (tracking : Tracking) (resolver : LinkResolver) (layout : Option Template.Layout)
      (tags : List Template.Tag) (template : String), config.websiteUrl = baseUrl → HasSafeTracking config tracking →
      IsAbsolute (renderBody config tracking resolver layout tags template) := by
  have hmarkup := isAbsolute_absolutizeMarkup hne hslash hquote
  refine ⟨fun text => ⟨hmarkup text, (hmarkup text).absolutizeMarkup_eq⟩, ?_⟩
  rintro config tracking resolver layout tags template rfl htracking
  rw [renderBody]
  -- No template means no mail; otherwise the last step is the tracking of absolute markup.
  split
  · exact isAbsolute_empty
  · exact (hmarkup _).trackMarkup hne hslash hquote htracking

/-- The settings of a site. -/
def siteConfig : Config := { Config.default with websiteUrl := "https://mail.test" }

/-- A tracked mail with relative URLs in a comment and in a tag. -/
theorem isAbsolute_renderBody_site :
    siteConfig.websiteUrl ≠ "" ∧ ¬ Text.startsWith "/" siteConfig.websiteUrl ∧ '"' ∉ siteConfig.websiteUrl.toList ∧
      HasSafeTracking siteConfig ⟨true, some "7", some "ä1"⟩ ∧
      IsAbsolute (renderBody siteConfig ⟨true, some "7", some "ä1"⟩ LinkResolver.none none
        [⟨"image", "src=\"/ä.png\"", by decide⟩]
        "<!--[if mso]><img src=\"/a.png\"><![endif]--><img [#image#]>[#webversion#]") := by
  have htracking : HasSafeTracking siteConfig ⟨true, some "7", some "ä1"⟩ := by
    rintro _ ⟨⟩
    have hlast : (webVersionUrl siteConfig.websiteUrl "7" "ä1").toList.getLast? = some '1' := by decide +kernel
    refine ⟨by decide, by decide +kernel, fun c hc => ?_⟩
    obtain rfl : '1' = c := Option.some.inj (hlast.symm.trans hc)
    decide
  refine ⟨by decide, by decide, by decide, htracking, ?_⟩
  exact (isAbsolute_renderBody (by decide) (by decide) (by decide)).2 siteConfig _ LinkResolver.none none _ _ rfl htracking

end HtmlMail.Mail
