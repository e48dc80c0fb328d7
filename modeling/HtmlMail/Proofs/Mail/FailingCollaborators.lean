import HtmlMail.Mail.Renderer

/-!
# Collaborators that fail

A collaborator that fails is as good as one that answers with nothing: no layout, no URL for a piece of content, an
empty token. A number that cannot be had is as good as no tracking at all. Each of them may fail by itself, and the
source of the URLs may fail for some pieces of content in the middle of the work, but a mail does not show which of
them did (`Renderer.render_neutral`).

The reason is that a mail depends on less than what the collaborators say:

* `renderBody_congr` : of a resolver only the URLs count that it knows, and of the tracking of a mail the number, and
  the token as far as it is written;
* `renderBody_disabled` : without tracking, links lead straight to their targets, and nothing is put into the markup.
-/

namespace HtmlMail.Mail

open Dom Template

/-- The answer of a collaborator, or a neutral one if it fails. -/
def answerOr {α : Type} (neutral : α) : Except CollaboratorError α → Except CollaboratorError α
  | .ok answer => .ok answer
  | .error _ => .ok neutral

/-- Tracking by collaborators of which none fails: without a number there is no tracking. -/
def TrackingServices.neutral? (services : TrackingServices) : Option TrackingServices :=
  match services.mailIds with
  | .ok _ => some { services with signer := fun id => answerOr "" (services.signer id) }
  | .error _ => none

/-- **The renderer with neutral collaborators** in place of those that fail. -/
def Renderer.neutral (renderer : Renderer) : Renderer where
  config := renderer.config
  layouts := answerOr none renderer.layouts
  links id := answerOr none (renderer.links id)
  tracking? := renderer.tracking?.bind TrackingServices.neutral?

/-! ### What a mail depends on -/

section Dependence

variable {links links' : LinkResolver} {tracking tracking' : Tracking}

/-- The target of a link depends on the URLs that the resolver knows. -/
theorem rewriteHref_congr (h : links.url? = links'.url?) : rewriteHref links = rewriteHref links' := by
  have hresolve : resolveContent links = resolveContent links' := by
    funext href
    rw [resolveContent, resolveContent, h]
  funext baseUrl mailId href
  rw [rewriteHref, rewriteHref, hresolve]

theorem rewriteLinksAndAssets_congr (h : links.url? = links'.url?) :
    rewriteLinksAndAssets links = rewriteLinksAndAssets links' := by
  funext baseUrl mailId tree
  rw [rewriteLinksAndAssets, rewriteLinksAndAssets, rewriteHyperlinks, rewriteHyperlinks, rewriteHref_congr h]

/-- **Two trackings that are written alike**: a missing token is written like an empty one. -/
structure Tracking.Alike (tracking tracking' : Tracking) : Prop where
  enabled : tracking.enabled = tracking'.enabled
  mailId : tracking.mailId? = tracking'.mailId?
  token : tracking.token?.getD "" = tracking'.token?.getD ""

theorem Tracking.Alike.refl (tracking : Tracking) : tracking.Alike tracking := ⟨rfl, rfl, rfl⟩

/-- **What a body depends on**, apart from its template, its layout, its tags and the site. -/
theorem renderBody_congr (hlinks : links.url? = links'.url?) (h : tracking.Alike tracking') (config : Config)
    (layout : Option Layout) (tags : List Tag) (template : String) :
    renderBody config tracking links layout tags template =
      renderBody config tracking' links' layout tags template := by
  have hactive : tracking.activeId? = tracking'.activeId? := by
    rw [Tracking.activeId?, Tracking.activeId?, h.enabled, h.mailId]
  have hmarkup : trackMarkup config tracking = trackMarkup config tracking' := by
    funext html
    rw [trackMarkup, trackMarkup, h.enabled, h.mailId, h.token]
  rw [renderBody, renderBody, rewriteLinksAndAssets_congr hlinks, hactive, hmarkup]

/-- **Without tracking** links lead straight to their targets, and the markup stays as it is written. -/
theorem renderBody_disabled (config : Config) (links : LinkResolver) (layout : Option Layout) (tags : List Tag)
    (template : String) : renderBody config .disabled links layout tags template =
      if template = "" then ""
      else
        let doc := Html.readDocument (fillTemplate config layout tags template)
        let linked := doc.withTree (rewriteLinksAndAssets links config.websiteUrl none doc.tree)
        absolutizeMarkup config.websiteUrl (Html.printDocument (styleDocument layout linked)) := rfl

end Dependence

/-! ### Neutral collaborators -/

namespace Renderer

variable (renderer : Renderer)

theorem layout?_neutral : renderer.neutral.layout? = renderer.layout? := by
  rw [layout?, layout?, neutral]
  cases renderer.layouts <;> rfl

theorem url?_neutral : renderer.neutral.links.url? = renderer.links.url? := by
  funext id
  rw [LinkResolver.url?, LinkResolver.url?, neutral]
  dsimp only
  cases renderer.links id <;> rfl

/-- **The tracking of a mail** is written alike, whether its number is missing or its token. -/
theorem tracking_neutral : renderer.neutral.tracking.Alike renderer.tracking := by
  rw [tracking, tracking, neutral]
  cases renderer.tracking? with
  | none => exact .refl _
  | some services =>
    obtain ⟨mailIds, signer⟩ := services
    cases mailIds with
    -- Without an identifier there is nothing to sign, whatever the signer does.
    | error e => exact .refl _
    | ok id =>
      refine ⟨rfl, rfl, ?_⟩
      show (answerOr "" (signer id)).toOption.getD "" = (signer id).toOption.getD ""
      cases signer id <;> rfl

/-- **Failing collaborators are neutral**: the mail is the same as if each of them had answered with nothing, whatever
the others answer. A mail that is not tracked, for the lack of a number or because it was not asked for, has none, and
its body has neither links through the click report nor a pixel nor the URL of a web version. -/
theorem render_neutral (tags : List Tag) (template : String) :
    renderer.neutral.render tags template = renderer.render tags template ∧
      ({ renderer with tracking? := none }.render tags template).mailId? = none ∧
      ({ renderer with tracking? := none }.render tags template).body =
        if template = "" then ""
        else
          let doc := Html.readDocument (fillTemplate renderer.config renderer.layout? tags template)
          let linked := doc.withTree (rewriteLinksAndAssets renderer.links renderer.config.websiteUrl none doc.tree)
          absolutizeMarkup renderer.config.websiteUrl
            (Html.printDocument (styleDocument renderer.layout? linked)) := by
  refine ⟨?_, rfl, renderBody_disabled ..⟩
  have hconfig : renderer.neutral.config = renderer.config := rfl
  have htracking := renderer.tracking_neutral
  rw [render, render, hconfig, renderer.layout?_neutral, htracking.mailId,
    renderBody_congr renderer.url?_neutral htracking]

end Renderer

end HtmlMail.Mail
