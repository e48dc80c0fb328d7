import HtmlMail.Proofs.Mail.PixelInjection

/-!
# Taking the pixel out again

An image is taken out of a mail if the value of its source holds the path of the pixel. The search for it reads from
`<img` up to the source without leaving the tag, and then through the value up to a double quote; angle brackets do not
stop it there. So it could begin at another image and end at the pixel.

It does not if the path stands nowhere else and every other image in front of the pixel is closed there. From such an
image the search would have to reach the path before the next double quote, and the pixel has one in front of its path.
At the pixel itself the search ends where the pixel ends, because what is written into the pixel has no quotes.

* `exists_of_afterPixel?` : what has been read when an image is found;
* `dropPixels_eq_self`, `dropPixels_append` : where none is found, nothing is lost;
* `afterPixel?_pixel` : the pixel is found as it was put in;
* `stripPixel_injectTracking` : what is left is the mail without the pixel.
-/

namespace HtmlMail.Mail

open Chars

/-! ### What is found -/

section Search

variable {path s t after : List Char}

theorem exists_of_afterPixelPath? (h : afterPixelPath? path s = some after) : ∃ value tag,
    s = path ++ value ++ '"' :: tag ++ '>' :: after ∧ '"' ∉ value := by
  obtain ⟨afterPath, hpath, h⟩ := Option.bind_eq_some_iff.1 h
  obtain ⟨⟨value, rest⟩, hvalue, h⟩ := Option.bind_eq_some_iff.1 h
  obtain ⟨⟨tag, _⟩, htag, rfl⟩ := Option.map_eq_some_iff.1 h
  refine ⟨value, tag, ?_, not_mem_of_splitAtChar? hvalue⟩
  rw [eq_append_of_isPrefixOf? hpath, splitAtChar?_eq_some hvalue, splitAtChar?_eq_some htag]
  simp only [List.append_assoc, List.cons_append]

theorem exists_of_afterPixelSource? (h : afterPixelSource? path s = some after) : ∃ front value tag,
    s = front ++ path ++ value ++ '"' :: tag ++ '>' :: after ∧ '"' ∉ front ∧ '"' ∉ value := by
  induction s with
  | nil =>
    obtain ⟨value, tag, hs, hvalue⟩ := exists_of_afterPixelPath? h
    exact ⟨[], value, tag, hs, List.not_mem_nil, hvalue⟩
  | cons c rest ih =>
    unfold afterPixelSource? at h
    split at h
    · next a ha =>
      cases h
      obtain ⟨value, tag, hs, hvalue⟩ := exists_of_afterPixelPath? ha
      exact ⟨[], value, tag, hs, List.not_mem_nil, hvalue⟩
    · split at h
      · cases h
      · -- The path is sought further on, but not behind a quote.
        next hc =>
        obtain ⟨front, value, tag, hs, hfront, hvalue⟩ := ih h
        refine ⟨c :: front, value, tag, ?_, List.not_mem_cons_of_ne_of_not_mem (Ne.symm hc) hfront, hvalue⟩
        rw [hs]
        rfl

theorem exists_of_afterPixelTag? (h : afterPixelTag? path s = some after) : ∃ gap source,
    s = gap ++ "src=\"".toList ++ source ∧ '>' ∉ gap ∧ afterPixelSource? path source = some after := by
  induction s with
  | nil => cases h
  | cons c rest ih =>
    unfold afterPixelTag? at h
    split at h
    · next a ha =>
      cases h
      obtain ⟨source, hsource, ha⟩ := Option.bind_eq_some_iff.1 ha
      exact ⟨[], source, eq_append_of_isPrefixOf? hsource, List.not_mem_nil, ha⟩
    · split at h
      · cases h
      · -- The source is sought further on, but not behind the end of the tag.
        next hc =>
        obtain ⟨gap, source, hs, hgap, ha⟩ := ih h
        refine ⟨c :: gap, source, ?_, List.not_mem_cons_of_ne_of_not_mem (Ne.symm hc) hgap, ha⟩
        rw [hs]
        rfl

/-- **What has been read when an image is found**: its beginning, the tag up to its source, the source with the path in
it, and the rest of the tag. -/
theorem exists_of_afterPixel? (h : afterPixel? path s = some after) : ∃ gap front value tag,
    s = "<img".toList ++ gap ++ "src=\"".toList ++ (front ++ path ++ value) ++ '"' :: tag ++ '>' :: after ∧
      '>' ∉ gap ∧ '"' ∉ front ∧ '"' ∉ value := by
  obtain ⟨tagText, himg, h⟩ := Option.bind_eq_some_iff.1 h
  obtain ⟨gap, source, htag, hgap, h⟩ := exists_of_afterPixelTag? h
  obtain ⟨front, value, tag, hsource, hfront, hvalue⟩ := exists_of_afterPixelSource? h
  refine ⟨gap, front, value, tag, ?_, hgap, hfront, hvalue⟩
  rw [eq_append_of_isPrefixOf? himg, htag, hsource]
  simp only [List.append_assoc]

/-- An image is found only where the path stands. -/
theorem afterPixel?_eq_none (h : ¬ path <:+: s) : afterPixel? path s = none := by
  cases hs : afterPixel? path s with
  | none => rfl
  | some after =>
    obtain ⟨gap, front, value, tag, rfl, -⟩ := exists_of_afterPixel? hs
    refine absurd ⟨"<img".toList ++ gap ++ "src=\"".toList ++ front, value ++ '"' :: tag ++ '>' :: after, ?_⟩ h
    simp only [List.append_assoc]

theorem dropPixels_cons_of_none (c : Char) (h : afterPixel? path (c :: s) = none) :
    dropPixels path (c :: s) = c :: dropPixels path s := by
  rw [dropPixels]
  split
  · rfl
  · next a ha =>
    rw [h] at ha
    cases ha

theorem dropPixels_of_some (h : afterPixel? path s = some after) :
    dropPixels path s = dropPixels path after := by
  cases s with
  | nil => cases h
  | cons c s =>
    rw [dropPixels]
    split
    · next hno =>
      rw [h] at hno
      cases hno
    · next a ha =>
      rw [h] at ha
      cases ha
      rfl

/-- **A text without the path stays as it is.** -/
theorem dropPixels_eq_self (h : ¬ path <:+: s) : dropPixels path s = s := by
  induction s with
  | nil => rw [dropPixels]
  | cons c s ih =>
    have hrest : ¬ path <:+: s := fun hs => h (hs.trans (List.suffix_cons c s).isInfix)
    rw [dropPixels_cons_of_none c (afterPixel?_eq_none h), ih hrest]

/-- **A part in which no image is found** stays as it is. -/
theorem dropPixels_append (h : ∀ c u, c :: u <:+ s → afterPixel? path (c :: u ++ t) = none) :
    dropPixels path (s ++ t) = s ++ dropPixels path t := by
  induction s with
  | nil => rfl
  | cons c s ih =>
    have hrest := ih fun d u hu => h d u (hu.trans (List.suffix_cons c s))
    have hnone : afterPixel? path (c :: (s ++ t)) = none := h c s List.suffix_rfl
    rw [List.cons_append, dropPixels_cons_of_none c hnone, hrest, List.cons_append]

end Search

/-! ### The pixel -/

section Pixel

variable {urls : TrackingUrls} {id : String} {path value rest : List Char}

/-- A text without quotes that a value begins with, in front of the quote behind the value. -/
theorem prefix_of_prefix_append (hpath : '"' ∉ path) (h : path <+: value ++ '"' :: rest) : path <+: value := by
  refine prefix_of_append_of_head ?_ h
  intro c hc
  cases hc
  exact hpath

/-- Where a value begins with the path, it is read to its end, and so is the tag that ends behind it. -/
theorem afterPixelPath?_append (hvalue : '"' ∉ value) (h : path <+: value) :
    afterPixelPath? path (value ++ '"' :: '>' :: rest) = some rest := by
  obtain ⟨front, rfl⟩ := h
  have hfront : '"' ∉ front := fun hmem => hvalue (List.mem_append_right _ hmem)
  rw [afterPixelPath?, List.append_assoc, isPrefixOf?_append, Option.bind_some, splitAtChar?_append_cons _ hfront]
  rfl

/-- **A value that holds the path** is read to its end, and so is the tag that ends behind it. -/
theorem afterPixelSource?_append (hpath : '"' ∉ path) (hvalue : '"' ∉ value) (h : path <:+: value) :
    afterPixelSource? path (value ++ '"' :: '>' :: rest) = some rest := by
  induction value with
  | nil =>
    rw [List.infix_nil] at h
    subst h
    rfl
  | cons c value ih =>
    obtain ⟨hc, hlater⟩ := List.ne_and_not_mem_of_not_mem_cons hvalue
    rw [List.cons_append, afterPixelSource?]
    split
    · next a ha =>
      -- The path may stand before the place where it was written, but the value ends where it ends.
      obtain ⟨front, tag, hs, -⟩ := exists_of_afterPixelPath? ha
      have hhere : path <+: c :: value := prefix_of_prefix_append hpath ⟨front ++ '"' :: tag ++ '>' :: a, by
        rw [List.cons_append, hs]
        simp only [List.append_assoc]⟩
      rw [← ha, ← List.cons_append, afterPixelPath?_append hvalue hhere]
    · next hno =>
      rw [if_neg (Ne.symm hc)]
      rcases List.infix_cons_iff.1 h with hhere | h
      · rw [← List.cons_append, afterPixelPath?_append hvalue hhere] at hno
        cases hno
      · exact ih hlater h

/-- The source of the pixel. -/
def pixelSource (urls : TrackingUrls) (id : String) : String :=
  urls.baseUrl ++ urls.pixelPath ++ trackingQuery id .view ++ "&ipignore=true"

theorem toList_pixelStart : "<img style=\"opacity:0\" src=\"".toList =
    "<img".toList ++ (" style=\"opacity:0\" ".toList ++ "src=\"".toList) := by decide +kernel

theorem toList_pixelEnd : "&ipignore=true\">".toList = "&ipignore=true".toList ++ ['"', '>'] := by decide +kernel

theorem toList_trackingPixel (urls : TrackingUrls) (id : String) : (trackingPixel urls id).toList =
    "<img".toList ++ (" style=\"opacity:0\" ".toList ++ ("src=\"".toList ++
      ((pixelSource urls id).toList ++ ['"', '>']))) := by
  unfold trackingPixel pixelSource
  simp only [String.toList_append, List.append_assoc]
  rw [toList_pixelStart, toList_pixelEnd]
  simp only [List.append_assoc]

theorem exists_toList_trackingPixel (urls : TrackingUrls) (id : String) :
    ∃ more, (trackingPixel urls id).toList = '<' :: ("img style=".toList ++ '"' :: more) := by
  rw [toList_trackingPixel]
  exact ⟨_, rfl⟩

/-- No source begins before that of the pixel, and its tag does not end there. -/
theorem afterPixelTag?_style (s : List Char) :
    afterPixelTag? path (" style=\"opacity:0\" ".toList ++ s) = afterPixelTag? path s := by
  rfl

theorem pixelPath_infix_pixelSource (urls : TrackingUrls) (id : String) :
    urls.pixelPath.toList <:+: (pixelSource urls id).toList := by
  refine ⟨urls.baseUrl.toList, (trackingQuery id .view ++ "&ipignore=true").toList, ?_⟩
  simp only [pixelSource, String.toList_append, List.append_assoc]

theorem pixelPath_infix_trackingPixel (urls : TrackingUrls) (id : String) :
    urls.pixelPath.toList <:+: (trackingPixel urls id).toList := by
  have hsource : (pixelSource urls id).toList <:+: (trackingPixel urls id).toList := by
    rw [toList_trackingPixel, ← List.append_assoc, ← List.append_assoc, ← List.append_assoc]
    exact List.infix_append _ _ _
  exact (pixelPath_infix_pixelSource urls id).trans hsource

/-- **The pixel is found as it was put in.** -/
theorem afterPixel?_pixel (hpath : '"' ∉ urls.pixelPath.toList) (hsource : '"' ∉ (pixelSource urls id).toList) :
    afterPixel? urls.pixelPath.toList ((trackingPixel urls id).toList ++ rest) = some rest := by
  have hread : afterPixelSource? urls.pixelPath.toList ((pixelSource urls id).toList ++ '"' :: '>' :: rest) =
      some rest := afterPixelSource?_append hpath hsource (pixelPath_infix_pixelSource urls id)
  -- Where a source begins, it is looked at before what follows.
  have htag (s : List Char) : afterPixelTag? urls.pixelPath.toList ("src=\"".toList ++ s) =
      (afterPixelSource? urls.pixelPath.toList s).or (afterPixelTag? urls.pixelPath.toList ("rc=\"".toList ++ s)) := by
    have hcons : "src=\"".toList ++ s = 's' :: ("rc=\"".toList ++ s) := rfl
    rw [hcons, afterPixelTag?, ← hcons, isPrefixOf?_append, Option.bind_some]
    cases afterPixelSource? urls.pixelPath.toList s <;> rfl
  rw [toList_trackingPixel, afterPixel?]
  simp only [List.append_assoc]
  rw [isPrefixOf?_append, Option.bind_some, afterPixelTag?_style, htag]
  rw [List.cons_append, List.cons_append, List.nil_append, hread]
  rfl

/-- The text that begins an image begins in front of a pixel only if it ends there too. -/
theorem img_prefix_of_prefix_append {s : List Char} (hs : s ≠ []) (h : "<img".toList <+: s ++ '<' :: rest) :
    "<img".toList <+: s := by
  rcases List.prefix_or_prefix_of_prefix h (List.prefix_append s _) with hin | ⟨more, hmore⟩
  · exact hin
  · obtain ⟨c, s, rfl⟩ := List.exists_cons_of_ne_nil hs
    rw [← hmore, List.prefix_append_right_inj] at h
    have himg : "<img".toList = '<' :: "img".toList := by decide
    have hno : '<' ∉ "img".toList := by decide
    cases more with
    | nil => rw [← hmore, List.append_nil]
    | cons d more =>
      -- What is missing of it would begin with another angle bracket.
      rw [himg, List.cons_append] at hmore
      have htail : s ++ d :: more = "img".toList := (List.cons.inj hmore).2
      have hd : d = '<' := (List.cons_prefix_cons.1 h).1
      rw [← htail, ← hd] at hno
      exact absurd (List.mem_append_right _ List.mem_cons_self) hno

/-- Where an image that is closed in front of the pixel has its source. -/
theorem exists_source_of_closed {s after : List Char} (hs : s ≠ []) (hclosed : ∀ b, s = "<img".toList ++ b → '>' ∈ b)
    (h : afterPixel? path (s ++ '<' :: rest) = some after) : ∃ source front value tag, source <:+ s ∧
      source ++ '<' :: rest = front ++ (path ++ value) ++ '"' :: tag ++ '>' :: after ∧ '"' ∉ front ∧ '"' ∉ value := by
  obtain ⟨gap, front, value, tag, hread, hgap, hfront, hvalue⟩ := exists_of_afterPixel? h
  have himg : "<img".toList <+: s ++ '<' :: rest := by
    rw [hread]
    simp only [List.append_assoc]
    exact List.prefix_append _ _
  obtain ⟨b, rfl⟩ := img_prefix_of_prefix_append hs himg
  simp only [List.append_assoc, List.append_cancel_left_eq] at hread
  rw [← List.append_assoc gap] at hread
  -- The tag has its source before its first closing bracket.
  have hgap' : '>' ∉ gap ++ "src=\"".toList := by
    rw [List.mem_append, not_or]
    exact ⟨hgap, by decide⟩
  have hfirst : gap ++ "src=\"".toList <+: b ++ '<' :: rest := ⟨_, hread.symm⟩
  obtain ⟨source, rfl⟩ : gap ++ "src=\"".toList <+: b := by
    rcases List.prefix_or_prefix_of_prefix hfirst (List.prefix_append b _) with hin | hover
    · exact hin
    · exact absurd (hover.subset (hclosed b rfl)) hgap'
  rw [List.append_assoc, List.append_cancel_left_eq] at hread
  refine ⟨source, front, value, tag, ?_, ?_, hfront, hvalue⟩
  · exact (List.suffix_append _ _).trans (List.suffix_append _ _)
  · simp only [List.append_assoc]
    exact hread

/-- **From an image that is closed in front of the pixel, no path is reached**: the pixel has a quote before its
source. -/
theorem afterPixel?_closed {s : List Char} (hs : s ≠ []) (hslash : path.head? = some '/') (hangle : '<' ∉ path)
    (hquote : '"' ∉ path) (hpath : ¬ path <:+: s) (hclosed : ∀ b, s = "<img".toList ++ b → '>' ∈ b) :
    afterPixel? path (s ++ '<' :: ("img style=".toList ++ '"' :: rest)) = none := by
  rw [Option.eq_none_iff_forall_ne_some]
  intro after h
  obtain ⟨source, front, value, tag, hsource, hread, hfront, hvalue⟩ := exists_source_of_closed hs hclosed h
  -- The value of the source ends at the first quote of the pixel at the latest.
  have hends : front ++ (path ++ value) <+: source ++ '<' :: "img style=".toList ++ '"' :: rest := by
    refine ⟨'"' :: tag ++ '>' :: after, ?_⟩
    rw [← List.append_assoc, ← hread]
    simp only [List.append_assoc, List.cons_append]
  have hnone : '"' ∉ front ++ (path ++ value) := by
    simp only [List.mem_append, not_or]
    exact ⟨hfront, hquote, hvalue⟩
  have hin : path <:+: source ++ ['<'] ++ "img style=".toList := by
    have hfound : path <:+: front ++ (path ++ value) := ⟨front, value, List.append_assoc ..⟩
    rw [List.append_assoc, List.singleton_append]
    exact hfound.trans (prefix_of_prefix_append hnone hends).isInfix
  have hforeign : IsForeign path ['<'] := by
    refine ⟨?_, ?_, fun hinside => hangle (hinside.subset List.mem_cons_self)⟩
    · intro c hc
      rw [hslash] at hc
      cases hc
      decide
    · intro c hc hmem
      exact hangle (List.mem_singleton.1 hmem ▸ List.mem_of_getLast? hc)
  have hne : path ≠ [] := by
    rintro rfl
    cases hslash
  rcases hforeign.separates hne hin with hbefore | hbehind
  · exact hpath (hbefore.trans hsource.isInfix)
  · have hmem : '/' ∈ "img style=".toList := hbehind.subset (List.mem_of_head? hslash)
    exact absurd hmem (by decide)

end Pixel

/-! ### The mail without the pixel -/

section Removal

variable {urls : TrackingUrls} {id token html before rest : String}

/-- **Where the pixel goes**: between what stands in front of the last end of a body and what stands from there on, or
to the end of a mail that has none. -/
structure IsPixelPlace (html before rest : String) : Prop where
  parts : before ++ rest = html
  isLast : IsLastBodyEnd before rest ∨ rest = "" ∧ ∀ a b, a ++ b = html → ¬ beginsBodyEnd b

/-- **There is only one such place**, where the search for the last end of a body finds it. -/
theorem IsPixelPlace.toList_before {b r : List Char} (hplace : IsPixelPlace html before rest)
    (hsplit : splitBeforeLast? "</body>".toList html.toList = some (b, r)) : before.toList = b := by
  obtain ⟨hcut, hbegins, hlatest⟩ := splitBeforeLast?_spec hsplit
  have hhtml : String.ofList b ++ String.ofList r = html := by
    apply String.toList_inj.1
    rw [String.toList_append, String.toList_ofList, String.toList_ofList, hcut]
  have hbody : beginsBodyEnd (String.ofList r) := by
    rw [beginsBodyEnd_iff, @String.toList_ofList r]
    exact hbegins
  rcases hplace.isLast with ⟨hrest, hmax⟩ | ⟨-, hno⟩
  · -- Each of the two places is the later one.
    have hle := hlatest _ _ (by rw [← hplace.parts, String.toList_append]) (beginsBodyEnd_iff.1 hrest)
    have hge := hmax _ _ (hhtml.trans hplace.parts.symm) hbody
    rw [String.length_ofList, ← String.length_toList] at hge
    have hparts : before.toList ++ rest.toList = b ++ r := by
      rw [← String.toList_append, hplace.parts, hcut]
    exact (List.append_inj hparts (Nat.le_antisymm hle hge)).1
  · exact absurd hbody (hno _ _ hhtml)

/-- Whether each image that begins in a part of a mail is closed in it. -/
def ClosesImages (part : String) : Prop := ∀ a b, part = a ++ "<img" ++ b → '>' ∈ b.toList

theorem exists_isPixelPlace (extra html : String) : ∃ before rest,
    insertBeforeBodyEnd extra html = before ++ extra ++ rest ∧ IsPixelPlace html before rest := by
  obtain ⟨before, rest, hcut, hparts, hlast⟩ := insertBeforeBodyEnd_cases extra html
  exact ⟨before, rest, hcut, hparts, hlast⟩

/-- A text that can be written into the pixel: it holds nothing that would end a source or a tag. -/
def IsPixelText (s : String) : Prop := ∀ c ∈ ['<', '>', '"'], c ∉ s.toList

theorem quote_not_mem_trackingQuery {action : TrackingAction} (hid : '"' ∉ id.toList) :
    '"' ∉ (trackingQuery id action).toList := by
  have haction : '"' ∉ action.name.toList := by cases action <;> decide
  simp only [trackingQuery, String.toList_append, List.mem_append, not_or]
  exact ⟨⟨⟨by decide, hid⟩, by decide⟩, haction⟩

theorem quote_not_mem_pixelSource (hbase : '"' ∉ urls.baseUrl.toList) (hpath : '"' ∉ urls.pixelPath.toList)
    (hid : '"' ∉ id.toList) : '"' ∉ (pixelSource urls id).toList := by
  simp only [pixelSource, String.toList_append, List.mem_append, not_or]
  exact ⟨⟨⟨hbase, hpath⟩, quote_not_mem_trackingQuery hid⟩, by decide⟩

/-- In front of a pixel nothing is dropped where the path does not occur and every image is closed. -/
theorem dropPixels_front (hhead : urls.pixelPath.toList.head? = some '/') (hpath : IsPixelText urls.pixelPath)
    (habsent : ¬ urls.pixelPath.toList <:+: before.toList) (hclosed : ClosesImages before) (id : String)
    (rest : List Char) :
    dropPixels urls.pixelPath.toList (before.toList ++ ((trackingPixel urls id).toList ++ rest)) =
      before.toList ++ dropPixels urls.pixelPath.toList ((trackingPixel urls id).toList ++ rest) := by
  refine dropPixels_append fun c u hu => ?_
  obtain ⟨more, hmore⟩ := exists_toList_trackingPixel urls id
  have hno : ¬ urls.pixelPath.toList <:+: c :: u := fun h => habsent (h.trans hu.isInfix)
  have hcut : (trackingPixel urls id).toList ++ rest = '<' :: ("img style=".toList ++ '"' :: (more ++ rest)) := by
    rw [hmore]
    simp only [List.cons_append, List.append_assoc]
  rw [hcut]
  refine afterPixel?_closed (List.cons_ne_nil c u) hhead (hpath _ (by decide)) (hpath _ (by decide)) hno fun b hb => ?_
  -- An image that begins in front is closed there, so it does not reach into the pixel.
  obtain ⟨front, hfront⟩ := hu
  have himage := hclosed (String.ofList front) (String.ofList b) <| by
    apply String.toList_inj.1
    rw [← hfront, hb]
    simp only [String.toList_append, String.toList_ofList, List.append_assoc]
  rwa [String.toList_ofList] at himage

/-- **The pixel is all that is taken out** of a mail that does not hold its path elsewhere. -/
theorem stripPixel_append_pixel (hslash : Text.startsWith "/" urls.pixelPath) (hbase : IsPixelText urls.baseUrl)
    (hpath : IsPixelText urls.pixelPath) (hid : IsPixelText id)
    (habsent : ¬ Text.contains urls.pixelPath (before ++ rest)) (hclosed : ClosesImages before) :
    stripPixel urls.pixelPath (before ++ trackingPixel urls id ++ rest) = before ++ rest := by
  have hquote : '"' ∉ urls.pixelPath.toList := hpath _ (by decide)
  have hhead : urls.pixelPath.toList.head? = some '/' := by
    obtain ⟨path, hcut⟩ := List.isPrefixOf_iff_prefix.1 hslash
    rw [← hcut]
    rfl
  rw [Text.not_contains_iff, String.toList_append] at habsent
  have hrest : ¬ urls.pixelPath.toList <:+: rest.toList := fun h => habsent (h.trans (List.suffix_append _ _).isInfix)
  have hpixel : afterPixel? urls.pixelPath.toList ((trackingPixel urls id).toList ++ rest.toList) = some rest.toList :=
    afterPixel?_pixel hquote
      (quote_not_mem_pixelSource (hbase _ (by decide)) hquote (hid _ (by decide)))
  -- What stands before the pixel holds no image with the path, and no image begins in it that the pixel ends.
  have hbefore : dropPixels urls.pixelPath.toList (before.toList ++ ((trackingPixel urls id).toList ++ rest.toList)) =
      before.toList ++ dropPixels urls.pixelPath.toList ((trackingPixel urls id).toList ++ rest.toList) :=
    dropPixels_front hhead hpath (fun h => habsent (h.trans (List.prefix_append _ _).isInfix)) hclosed id rest.toList
  rw [stripPixel, String.toList_append, String.toList_append, List.append_assoc, hbefore, dropPixels_of_some hpixel,
    dropPixels_eq_self hrest]
  apply String.toList_inj.1
  simp only [String.toList_ofList, String.toList_append]

/-- **What was put in can be taken out.** Let the path of the pixel begin with a slash, and let it, the URL of the site
and the number of the mail hold no angle brackets and no double quotes. Take a mail with the URL of its web version in
place of every marker. If the path does not occur in it, and each image that begins in front of the place of the pixel is
closed there, then with the pixel put in and taken out again it is as before. -/
theorem stripPixel_injectTracking (hmarker : urls.webVersionMarker ≠ "")
    (hslash : Text.startsWith "/" urls.pixelPath) (hbase : IsPixelText urls.baseUrl)
    (hpath : IsPixelText urls.pixelPath) (hid : IsPixelText id) {linked : String}
    (hlinked : linked = Text.replaceAll urls.webVersionMarker (webVersionUrl urls.baseUrl id token) html)
    (habsent : ¬ Text.contains urls.pixelPath linked)
    (hclosed : ∀ before rest, IsPixelPlace linked before rest → ClosesImages before) :
    stripPixel urls.pixelPath (injectTracking urls id token true html) = linked := by
  have hsame : insertWebVersion urls id token html = linked := (insertWebVersion_eq hmarker).trans hlinked.symm
  have hmissing : ¬ Text.contains (trackingPixel urls id) linked := by
    -- The pixel would bring the path with it.
    rw [Text.not_contains_iff] at habsent ⊢
    intro h
    exact habsent ((pixelPath_infix_trackingPixel urls id).trans h)
  obtain ⟨before, rest, hcut, hplace⟩ := exists_isPixelPlace (trackingPixel urls id) linked
  rw [← hsame] at hmissing
  rw [injectTracking_of_missing rfl hmissing, hsame, hcut, ← hplace.parts]
  rw [← hplace.parts] at habsent
  exact stripPixel_append_pixel hslash hbase hpath hid habsent (hclosed before rest hplace)

/-- A mail with an image whose source has no end, so that its value goes on into the pixel. -/
def imageMail : String := "<img src=\"ä>[#webversion#]</BODY>"

/-- The pixel comes out as it went in, and the image stays. -/
theorem stripPixel_imageMail : stripPixel siteUrls.pixelPath (injectTracking siteUrls "7" "a+b" true imageMail) =
    "<img src=\"ä>https://mail.test?i=7&a=webversion&auth=a%2Bb</BODY>" := by
  have htext {s : String} (h : s.toList.all fun c => !(['<', '>', '"'].contains c)) : IsPixelText s := by
    intro c hc hmem
    have hno := List.all_eq_true.1 h c hmem
    rw [List.contains_iff_mem.2 hc] at hno
    cases hno
  have hlinked : "<img src=\"ä>https://mail.test?i=7&a=webversion&auth=a%2Bb</BODY>" =
      Text.replaceAll siteUrls.webVersionMarker (webVersionUrl siteUrls.baseUrl "7" "a+b") imageMail := by
    decide +kernel
  refine stripPixel_injectTracking (by decide) (by decide) (htext (by decide +kernel)) (htext (by decide +kernel))
    (htext (by decide +kernel)) hlinked (by decide +kernel) fun before rest hplace a b hab => ?_
  -- The image begins with the mail, and it is closed before the link.
  have hbefore := hplace.toList_before (r := "</BODY>".toList)
    (b := "<img src=\"ä>https://mail.test?i=7&a=webversion&auth=a%2Bb".toList) (by decide +kernel)
  have hall : ∀ t ∈ "<img src=\"ä>https://mail.test?i=7&a=webversion&auth=a%2Bb".toList.tails,
      "<img".toList <+: t → '>' ∈ t.drop 4 := by decide +kernel
  have hsuffix : "<img".toList ++ b.toList ∈ before.toList.tails := by
    rw [List.mem_tails, hab]
    simp only [String.toList_append, List.append_assoc]
    exact List.suffix_append _ _
  rw [hbefore] at hsuffix
  exact hall _ hsuffix (List.prefix_append _ _)

end Removal

end HtmlMail.Mail
