import HtmlMail.Mail.Links
import HtmlMail.Proofs.Dom.Frame
import HtmlMail.Proofs.Dom.Traversal
import HtmlMail.Proofs.Mail.TrackingEvent
import HtmlMail.Proofs.Text.Search
import Mathlib.Data.Set.Card

/-!
# Click tracking keeps the target

With the number of a mail every link is led through the click report. Without one it leads to its target
directly, and this is the target that the click report names, so tracking changes the way and not the end. Targets
with the token of a tag are set aside: they are the same with and without a mail.

* `contains_rewriteHref_none` : a target has a token if and only if it had one before it was made absolute;
* `rewriteHref_some` : what the number of a mail changes about a target, and `rewriteHref_tracked` : what it
  does not change;
* `linkAttributes_cases` : what happens to the attributes of a link;
* `attributesChanged_rewriteHyperlinks` : what happens to a document, namely this to its links;
* `rewriteHyperlinks_tracked` : the links of a document after they have been led through the click report, and
  everything else in it as it was.
-/

namespace HtmlMail.Mail

open Chars Dom Template

/-! ### Targets -/

section Target

variable {resolver : LinkResolver} {base id href : String} {s : List Char}

theorem toList_tokenStart : tokenStart.toList = ['[', '#'] := by decide

/-- **A target that is made absolute** keeps its end, and may get the URL of the site in front. -/
theorem absoluteTarget_cases (base : String) (s : List Char) : ∃ bare, bare <:+ s ∧
    (absoluteTarget base s = String.ofList bare ∨ absoluteTarget base s = base ++ String.ofList bare) := by
  rw [absoluteTarget]
  -- What is left of the target may have lost the slash in front of it.
  generalize hbare : (if "//".toList.isPrefixOf s || "/http".toList.isPrefixOf s then s.drop 1 else s) = bare
  have hsuffix : bare <:+ s := by
    rw [← hbare]
    split
    · exact List.drop_suffix 1 s
    · exact List.suffix_rfl
  refine ⟨bare, hsuffix, ?_⟩
  split
  · exact .inr rfl
  · exact .inl rfl

/-- No token comes into a target that is made absolute. -/
theorem contains_of_contains_absoluteTarget (hbase : '[' ∉ base.toList)
    (h : contains tokenStart.toList (absoluteTarget base s).toList) : contains tokenStart.toList s := by
  obtain ⟨bare, hsuffix, htarget⟩ := absoluteTarget_cases base s
  rw [contains_iff_isInfix, toList_tokenStart] at h ⊢
  have hbare : ['[', '#'] <:+: bare := by
    rcases htarget with htarget | htarget
    · rwa [htarget, String.toList_ofList] at h
    · -- The URL of the site has no bracket that a token could begin with.
      rw [htarget, String.toList_append, String.toList_ofList] at h
      exact infix_append_right hbase h
  exact hbare.trans hsuffix.isInfix

/-- **A target holds a token** without a mail if and only if it is kept for its token. -/
theorem contains_rewriteHref_none (hbase : '[' ∉ base.toList) :
    Text.contains tokenStart (rewriteHref resolver base none href) =
      contains tokenStart.toList (resolveContent resolver href).toList := by
  rw [Bool.eq_iff_iff, Text.contains, rewriteHref]
  dsimp only
  split
  · next h =>
    -- What is cut off does not reach into the token.
    refine iff_of_true ?_ h
    rw [contains_iff_isInfix, toList_tokenStart] at h ⊢
    rw [String.toList_ofList]
    exact infix_dropWhile (by decide) h
  · next h => exact iff_of_false (fun ht => h (contains_of_contains_absoluteTarget hbase ht)) h

/-- **What the number of a mail changes**: a target without a token is led through the click report. -/
theorem rewriteHref_some (hbase : '[' ∉ base.toList) : rewriteHref resolver base (some id) href =
    if Text.contains tokenStart (rewriteHref resolver base none href)
    then rewriteHref resolver base none href
    else clickUrl base id (rewriteHref resolver base none href) := by
  rw [contains_rewriteHref_none hbase, rewriteHref, rewriteHref]
  split
  · rfl
  · rfl

/-- **A tracked target**: without the token of a tag, it reports the click and what it is without a mail. -/
theorem rewriteHref_tracked (hquestion : '?' ∉ base.toList) (hbracket : '[' ∉ base.toList) {n : Nat}
    (hpos : 0 < n) (hlt : n < 2 ^ 64) :
    (Text.contains "[#" (rewriteHref resolver base none href) →
      rewriteHref resolver base (some (toString n)) href = rewriteHref resolver base none href) ∧
    (¬ Text.contains "[#" (rewriteHref resolver base none href) →
      Reports (rewriteHref resolver base (some (toString n)) href)
        ⟨n, .click, some (rewriteHref resolver base none href), none⟩) := by
  rw [rewriteHref_some hbracket, tokenStart]
  -- A token is replaced when the mail is sent, so only other targets are tracked.
  constructor
  · intro htoken
    rw [if_pos htoken]
  · intro htoken
    rw [if_neg htoken]
    exact reports_clickUrl hquestion hpos hlt

end Target

/-! ### The attributes of a link -/

section Attributes

variable {rewrite : String → String} {as : Attributes}

/-- Attributes are left out in any order. -/
theorem without_comm (as : Attributes) (m n : String) :
    (as.without m).without n = (as.without n).without m := by
  simp only [Attributes.without, List.filter_filter, Bool.and_comm]

/-- **The attributes of a link**: the window is set, and a target that is not empty is rewritten. -/
theorem linkAttributes_cases (rewrite : String → String) (as : Attributes) :
    (as.get? "href").getD "" = "" ∧ linkAttributes rewrite as = as.insert "target" "_blank" ∨
    ∃ href, as.get? "href" = some href ∧ href ≠ "" ∧
      linkAttributes rewrite as = (as.insert "target" "_blank").insert "href" (rewrite href) := by
  -- A new target window leaves the address alone.
  have hkeep : (as.insert "target" "_blank").get? "href" = as.get? "href" := by
    rw [Attributes.get?_insert, if_neg (by decide)]
  rw [linkAttributes, hkeep]
  cases as.get? "href" with
  | none => exact .inl ⟨rfl, rfl⟩
  | some href =>
    by_cases hempty : href = ""
    · exact .inl ⟨hempty, if_pos hempty⟩
    · exact .inr ⟨href, rfl, hempty, if_neg hempty⟩

/-- A link opens in a new window. -/
theorem get?_linkAttributes_target : (linkAttributes rewrite as).get? "target" = some "_blank" := by
  have hset : (as.insert "target" "_blank").get? "target" = some "_blank" := by
    rw [Attributes.get?_insert, if_pos (by decide)]
  rcases linkAttributes_cases rewrite as with ⟨-, he⟩ | ⟨href, -, -, he⟩
  · rw [he, hset]
  · rw [he, Attributes.get?_insert, if_neg (by decide), hset]

/-- An empty target stays empty, and one that is not there does not come into being. -/
theorem get?_linkAttributes_href_of_empty (h : (as.get? "href").getD "" = "") :
    (linkAttributes rewrite as).get? "href" = as.get? "href" := by
  rcases linkAttributes_cases rewrite as with ⟨-, he⟩ | ⟨href, hget, hne, -⟩
  · rw [he, Attributes.get?_insert, if_neg (by decide)]
  · rw [hget] at h
    exact absurd h hne

theorem get?_linkAttributes_href {href : String} (h : as.get? "href" = some href) (hne : href ≠ "") :
    (linkAttributes rewrite as).get? "href" = some (rewrite href) := by
  rcases linkAttributes_cases rewrite as with ⟨hempty, -⟩ | ⟨href', hget, -, he⟩
  · rw [h] at hempty
    exact absurd hempty hne
  · obtain rfl : href = href' := Option.some.inj (h.symm.trans hget)
    rw [he, Attributes.get?_insert, if_pos (by decide)]

/-- The other attributes of a link stay. -/
theorem without_linkAttributes (rewrite : String → String) (as : Attributes) :
    ((linkAttributes rewrite as).without "target").without "href" =
      (as.without "target").without "href" := by
  have htarget : ((as.insert "target" "_blank").without "target").without "href" =
      (as.without "target").without "href" := by
    rw [Attributes.without_insert]
  rcases linkAttributes_cases rewrite as with ⟨-, he⟩ | ⟨href, -, -, he⟩
  · rw [he, htarget]
  · rw [he, without_comm, Attributes.without_insert, without_comm, htarget]

end Attributes

/-! ### The links of a document -/

/-- **A link** is an element `a` of the document. -/
def IsLink (tree : Tree) (x : NodeId) : Prop := tree.Attached x ∧ tree.tagName? x = some "a"

section Document

variable {tree tree' : Tree} {resolver : LinkResolver} {base : String} {mailId : Option String}
  {count : Nat} {x : NodeId}

theorem mem_elementsNamed_iff (h : tree.Reachable) : x ∈ tree.elementsNamed ["a"] ↔ IsLink tree x := by
  have hname : (tree.tagName? x).any ["a"].contains ↔ tree.tagName? x = some "a" := by
    cases tree.tagName? x <;> simp
  rw [Tree.elementsNamed, List.mem_filter, h.mem_elements_iff, hname, IsLink, and_assoc]
  refine and_congr_right fun _ => and_iff_right_of_imp fun ha => ?_
  exact Tree.isElement_of_any_tagName? (hname.2 ha)

theorem elementsNamed_nodup (h : tree.Reachable) : (tree.elementsNamed ["a"]).Nodup :=
  h.elements_nodup.filter _

/-- As many nodes are listed as there are links. -/
theorem length_elementsNamed (h : tree.Reachable) :
    (tree.elementsNamed ["a"]).length = {x | IsLink tree x}.ncard := by
  have hset : {x | IsLink tree x} = ((tree.elementsNamed ["a"]).toFinset : Set NodeId) := by
    ext x
    rw [Finset.mem_coe, List.mem_toFinset]
    exact (mem_elementsNamed_iff h).symm
  rw [hset, Set.ncard_coe_finset, List.toFinset_card_of_nodup (elementsNamed_nodup h)]

/-- **What happens to a document** when its links are rewritten: the attributes of its links change, and
nothing else does. -/
theorem attributesChanged_rewriteHyperlinks (h : tree.Reachable) : Tree.AttributesChanged
    (fun x as => if x ∈ tree.elementsNamed ["a"] then
      linkAttributes (rewriteHref resolver base mailId) as else as)
    tree (rewriteHyperlinks resolver base mailId tree).2 :=
  Tree.attributesChanged_foldl (fun _ => linkAttributes (rewriteHref resolver base mailId))
    (elementsNamed_nodup h) tree

/-- The attributes of a link after its target has been rewritten. -/
theorem attribute?_rewriteHyperlinks (h : tree.Reachable) (hx : IsLink tree x) :
    ∃ as, (∀ name, tree.attribute? x name = as.get? name) ∧
      ∀ name, (rewriteHyperlinks resolver base mailId tree).2.attribute? x name =
        (linkAttributes (rewriteHref resolver base mailId) as).get? name := by
  obtain ⟨e, he, -⟩ := Option.map_eq_some_iff.1 hx.2
  refine ⟨e.attributes, fun name => ?_, fun name => ?_⟩
  · rw [Tree.attribute?, he, Option.bind_some]
  · rw [Tree.attribute?, (attributesChanged_rewriteHyperlinks h).element?_eq, he, Option.map_some,
      Option.bind_some, if_pos ((mem_elementsNamed_iff h).2 hx)]

theorem get?_rewriteHyperlinks (h : tree.Reachable) (hx : ¬ IsLink tree x) :
    (rewriteHyperlinks resolver base mailId tree).2.get? x = tree.get? x := by
  rw [(attributesChanged_rewriteHyperlinks h).get?]
  simp only [if_neg fun hmem => hx ((mem_elementsNamed_iff h).1 hmem), Tree.mapAttributes_self]
  exact Option.map_id'

/-- **The frame**: only targets and windows change. -/
theorem without_rewriteHyperlinks (h : tree.Reachable) :
    ((rewriteHyperlinks resolver base mailId tree).2.without "target").without "href" =
      (tree.without "target").without "href" := by
  have hrewrite : Tree.AttributesChanged _ tree (rewriteHyperlinks resolver base mailId tree).2 :=
    attributesChanged_rewriteHyperlinks h
  have hchange := (hrewrite.trans (Tree.attributesChanged_without _ "target")).trans
    (Tree.attributesChanged_without _ "href")
  have hkeep := (tree.attributesChanged_without "target").trans (Tree.attributesChanged_without _ "href")
  refine Tree.ext_get? fun id => ?_
  -- First the change and then the omissions are the omissions alone.
  have hsame (as : Attributes) : ((if id ∈ tree.elementsNamed ["a"] then
      linkAttributes (rewriteHref resolver base mailId) as else as).without "target").without "href" =
      (as.without "target").without "href" := by
    split
    · exact without_linkAttributes _ as
    · rfl
  rw [hchange.get?, hkeep.get?]
  simp only [hsame]

/-- **Click tracking changes the way and not the target.** Let the links of a document be rewritten for the mail
with the number `n`, on a site whose URL has no question mark and no bracket. Then the number that is returned
is that of the links, every link opens in a new window, and a target that is not empty becomes

* what it becomes without a mail, if that holds the token of a tag;
* otherwise a URL that reports a click of mail `n` on just that.

A link without a target, or with an empty one, keeps it. The other nodes are as they were, and so are all links
between nodes, all texts and all other attributes. -/
theorem rewriteHyperlinks_tracked (htree : tree.Reachable) (hquestion : '?' ∉ base.toList)
    (hbracket : '[' ∉ base.toList) {n : Nat} (hpos : 0 < n) (hlt : n < 2 ^ 64)
    (h : rewriteHyperlinks resolver base (some (toString n)) tree = (count, tree')) :
    count = {x | IsLink tree x}.ncard ∧
      (∀ x, IsLink tree x → tree'.attribute? x "target" = some "_blank") ∧
      (∀ x href, IsLink tree x → tree.attribute? x "href" = some href → href ≠ "" →
        ∃ href', tree'.attribute? x "href" = some href' ∧
          (Text.contains "[#" (rewriteHref resolver base none href) →
            href' = rewriteHref resolver base none href) ∧
          (¬ Text.contains "[#" (rewriteHref resolver base none href) →
            Reports href' ⟨n, .click, some (rewriteHref resolver base none href), none⟩)) ∧
      (∀ x, IsLink tree x → (tree.attribute? x "href").getD "" = "" →
        tree'.attribute? x "href" = tree.attribute? x "href") ∧
      (∀ x, ¬ IsLink tree x → tree'.get? x = tree.get? x) ∧
      (tree'.without "target").without "href" = (tree.without "target").without "href" := by
  -- Each part is read off the one change of the document, at a link or beside the links.
  obtain rfl : (tree.elementsNamed ["a"]).length = count := congrArg Prod.fst h
  obtain rfl : (rewriteHyperlinks resolver base (some (toString n)) tree).2 = tree' := congrArg Prod.snd h
  refine ⟨length_elementsNamed htree, fun x hx => ?_, fun x href hx hhref hne => ?_,
    fun x hx hempty => ?_, fun x hx => get?_rewriteHyperlinks htree hx, without_rewriteHyperlinks htree⟩
  · obtain ⟨as, -, hnew⟩ := attribute?_rewriteHyperlinks htree hx
    rw [hnew, get?_linkAttributes_target]
  · obtain ⟨as, hold, hnew⟩ := attribute?_rewriteHyperlinks htree hx
    rw [hold] at hhref
    refine ⟨_, (hnew _).trans (get?_linkAttributes_href hhref hne), ?_⟩
    exact rewriteHref_tracked hquestion hbracket hpos hlt
  · obtain ⟨as, hold, hnew⟩ := attribute?_rewriteHyperlinks htree hx
    rw [hold] at hempty ⊢
    rw [hnew, get?_linkAttributes_href_of_empty hempty]

end Document

/-- A link to a piece of content, one to a token that an editor has put a path in front of, and one without a
target. -/
def newsletter : Tree := Tree.afterCalls [
  .createElement "a", .setAttribute 1 "href" "/\x7blocalLink:7\x7d", .append 0 1,
  .createElement "a", .setAttribute 2 "href" "/edit/[#unsubscribe#]", .append 0 2,
  .createElement "a", .append 0 3]

/-- The resolver knows the content, by a path with letters that are not ASCII and with a query of its own. -/
def newsletterContent : LinkResolver := .ofList [(7, "/käse?page=2&all")]

/-- The content is reported with its query, the token stands for itself, and nothing is made up for the third
link. -/
theorem rewriteHyperlinks_newsletter : ∃ count tree',
    rewriteHyperlinks newsletterContent "https://mail.test" (some (toString 42)) newsletter = (count, tree') ∧
      (∃ href, tree'.attribute? 1 "href" = some href ∧
        Reports href ⟨42, .click, some "https://mail.test/käse?page=2&all", none⟩) ∧
      tree'.attribute? 2 "href" = some "[#unsubscribe#]" ∧
      tree'.attribute? 3 "href" = none ∧ tree'.attribute? 3 "target" = some "_blank" := by
  have htree : newsletter.Reachable := Tree.reachable_afterCalls _
  have hlink (x : NodeId) (hx : x ∈ newsletter.elementsNamed ["a"]) : IsLink newsletter x :=
    (mem_elementsNamed_iff htree).1 hx
  have h₁ := hlink 1 (by decide)
  have h₂ := hlink 2 (by decide)
  have h₃ := hlink 3 (by decide)
  rcases hrun : rewriteHyperlinks newsletterContent "https://mail.test" (some (toString 42)) newsletter
    with ⟨count, tree'⟩
  obtain ⟨-, htarget, hrewrite, hkeep, -, -⟩ := rewriteHyperlinks_tracked htree (by decide)
    (by decide) (by decide) (by decide) hrun
  refine ⟨count, tree', rfl, ?_, ?_, ?_, htarget 3 h₃⟩
  · have hold : newsletter.attribute? 1 "href" = some "/\x7blocalLink:7\x7d" := by decide
    obtain ⟨href, hget, -, hreports⟩ := hrewrite 1 _ h₁ hold (by decide)
    have hcontent : rewriteHref newsletterContent "https://mail.test" none "/\x7blocalLink:7\x7d" =
        "https://mail.test/käse?page=2&all" := by decide
    rw [hcontent] at hreports
    exact ⟨href, hget, hreports (by decide)⟩
  · have hold : newsletter.attribute? 2 "href" = some "/edit/[#unsubscribe#]" := by decide
    obtain ⟨href, hget, hkept, -⟩ := hrewrite 2 _ h₂ hold (by decide)
    have htoken : rewriteHref newsletterContent "https://mail.test" none "/edit/[#unsubscribe#]" =
        "[#unsubscribe#]" := by decide
    rw [htoken] at hkept
    rw [hget, hkept (by decide)]
  · have hnone : newsletter.attribute? 3 "href" = none := by decide
    rw [hkeep 3 h₃ (by rw [hnone]; rfl), hnone]

end HtmlMail.Mail
