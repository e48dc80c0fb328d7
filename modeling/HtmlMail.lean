import HtmlMail.CommandLine.Arguments
import HtmlMail.CommandLine.Folder
import HtmlMail.CommandLine.Options
import HtmlMail.CommandLine.Run
import HtmlMail.Css.Declaration
import HtmlMail.Css.Inline
import HtmlMail.Css.LegacyAttributes
import HtmlMail.Css.Selector.Basic
import HtmlMail.Css.Selector.Parser
import HtmlMail.Css.Style
import HtmlMail.Css.Stylesheet
import HtmlMail.Dom.Attributes
import HtmlMail.Dom.Document
import HtmlMail.Dom.Tree
import HtmlMail.Html.CharacterNames
import HtmlMail.Html.CharacterReference
import HtmlMail.Html.Construction.Body
import HtmlMail.Html.Construction.Forest
import HtmlMail.Html.Construction.Formatting
import HtmlMail.Html.Construction.Insertion
import HtmlMail.Html.Construction.Metadata
import HtmlMail.Html.Construction.Rules
import HtmlMail.Html.Construction.State
import HtmlMail.Html.Construction.Table
import HtmlMail.Html.EncodingDeclaration
import HtmlMail.Html.Escape
import HtmlMail.Html.Lexer
import HtmlMail.Html.Markup
import HtmlMail.Html.Portion
import HtmlMail.Html.Printer
import HtmlMail.Html.Reader
import HtmlMail.Html.Token
import HtmlMail.Mail.Collaborator
import HtmlMail.Mail.Config
import HtmlMail.Mail.ConfigFile
import HtmlMail.Mail.Links
import HtmlMail.Mail.Render
import HtmlMail.Mail.Renderer
import HtmlMail.Mail.Tracking
import HtmlMail.Mail.TrackingEvent
import HtmlMail.Main
import HtmlMail.Outcome
import HtmlMail.Template.Conditional
import HtmlMail.Template.Envelope
import HtmlMail.Template.Layout
import HtmlMail.Template.Subject
import HtmlMail.Template.Tag
import HtmlMail.Text.AsciiCase
import HtmlMail.Text.Blank
import HtmlMail.Text.Composition.Basic
import HtmlMail.Text.Composition.Characters
import HtmlMail.Text.Digits
import HtmlMail.Text.Printable
import HtmlMail.Text.Quoted
import HtmlMail.Text.Ranges
import HtmlMail.Text.Scan
import HtmlMail.Text.Search
import HtmlMail.Text.Terminal
import HtmlMail.Text.Utf8
import HtmlMail.Toml.Moment
import HtmlMail.Toml.Number
import HtmlMail.Toml.Quoted
import HtmlMail.Toml.Reader
import HtmlMail.Toml.Table
import HtmlMail.Url.Absolute
import HtmlMail.Url.Domain.Basic
import HtmlMail.Url.Domain.Characters
import HtmlMail.Url.Domain.Mapping
import HtmlMail.Url.Domain.Punycode
import HtmlMail.Url.Form
import HtmlMail.Url.Host
import HtmlMail.Url.Ipv4
import HtmlMail.Url.Ipv6
import HtmlMail.Url.Percent
import HtmlMail.Version
import HtmlMail.Proofs.Dom.Links
import HtmlMail.Proofs.Dom.Order
import HtmlMail.Proofs.Dom.Calls
import HtmlMail.Proofs.Dom.Traversal
import HtmlMail.Proofs.Dom.Circles
import HtmlMail.Proofs.Dom.AttributeNames
import HtmlMail.Proofs.Dom.AttributeMap
import HtmlMail.Proofs.Html.NodeMarkup
import HtmlMail.Proofs.Css.Matching
import HtmlMail.Proofs.Css.WrittenStyle
import HtmlMail.Proofs.Css.Inlining
import HtmlMail.Proofs.Css.Merging
import HtmlMail.Proofs.Css.Cascade
import HtmlMail.Proofs.Css.Shorthand
import HtmlMail.Proofs.Css.Marks
import HtmlMail.Proofs.Css.Importance
import HtmlMail.Proofs.Mail.ClickTracking
import HtmlMail.Proofs.Text.Digits
import HtmlMail.Proofs.Text.Utf8
import HtmlMail.Proofs.Url.Form
import HtmlMail.Proofs.Mail.TrackingEvent
import HtmlMail.Proofs.Mail.QueryAnswers
import HtmlMail.Proofs.Mail.PixelInjection
import HtmlMail.Proofs.Mail.PixelRemoval
import HtmlMail.Proofs.Template.Pieces
import HtmlMail.Proofs.Template.Substitution
import HtmlMail.Proofs.Template.Outline
import HtmlMail.Proofs.Template.Blocks
import HtmlMail.Proofs.Template.Passes
import HtmlMail.Proofs.Template.Nesting
import HtmlMail.Proofs.Template.FlagOrder
import HtmlMail.Proofs.Template.SingleLine
import HtmlMail.Proofs.Mail.AbsoluteUrls
import HtmlMail.Proofs.Mail.SiteTargets
import HtmlMail.Proofs.Html.UniqueReading
import HtmlMail.Proofs.Html.Unescaping
import HtmlMail.Proofs.Mail.AssetUrls
import HtmlMail.Proofs.Html.References
import HtmlMail.Proofs.Html.ForestGrowth
import HtmlMail.Proofs.Html.PrintedTokens
import HtmlMail.Proofs.Html.RegularMarkup
import HtmlMail.Proofs.Html.OpenElements
import HtmlMail.Proofs.Html.ShapedText
import HtmlMail.Proofs.Html.StartTags
import HtmlMail.Proofs.Html.PartTags
import HtmlMail.Proofs.Html.EndTags
import HtmlMail.Proofs.Html.Feeding
import HtmlMail.Proofs.Html.RegularReading
import HtmlMail.Proofs.Css.Engines
import HtmlMail.Proofs.Css.AuthoredStyle
import HtmlMail.Proofs.Css.JoinedMarks
import HtmlMail.Proofs.Html.DocumentFront
import HtmlMail.Proofs.Html.DocumentReading
import HtmlMail.Proofs.Html.Numbering
import HtmlMail.Proofs.Html.DocumentOrder
import HtmlMail.Proofs.Html.RegularDocuments
import HtmlMail.Proofs.Html.Rereading
import HtmlMail.Proofs.Mail.FailingCollaborators
import HtmlMail.Proofs.Mail.WholeDocuments
import HtmlMail.Proofs.Css.RuleExtraction
import HtmlMail.Proofs.Css.LegacyValues
import HtmlMail.Proofs.Css.SelectorSpelling
import HtmlMail.Proofs.Css.Specificity
import HtmlMail.Proofs.Css.Comments
import HtmlMail.Proofs.Css.Siblings
import HtmlMail.Proofs.CommandLine.Spelling
import HtmlMail.Proofs.CommandLine.Acceptance
import HtmlMail.Proofs.CommandLine.TagOrder
