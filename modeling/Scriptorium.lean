import Scriptorium.Bibtex
import Scriptorium.Citation.Bibliography
import Scriptorium.Citation.Extraction
import Scriptorium.Citation.Format
import Scriptorium.Citation.Table
import Scriptorium.Citation.Token
import Scriptorium.Command.Arguments
import Scriptorium.Command.Run
import Scriptorium.Config
import Scriptorium.Error
import Scriptorium.Files.Memory
import Scriptorium.Files.Store
import Scriptorium.Files.Tree
import Scriptorium.Html.Article
import Scriptorium.Html.Escape
import Scriptorium.Html.Fixes
import Scriptorium.Html.Highlight
import Scriptorium.Html.Href
import Scriptorium.Json
import Scriptorium.Latex.Comment
import Scriptorium.Latex.Document
import Scriptorium.Latex.Escape
import Scriptorium.Latex.Paper
import Scriptorium.Latex.Repair
import Scriptorium.Latex.Span
import Scriptorium.Latex.Template
import Scriptorium.Library.Build
import Scriptorium.Library.Check
import Scriptorium.Library.Scan
import Scriptorium.Line
import Scriptorium.Link
import Scriptorium.Main
import Scriptorium.Manifest
import Scriptorium.Markdown.Block
import Scriptorium.Markdown.Cursor
import Scriptorium.Markdown.Entity
import Scriptorium.Markdown.Fragment
import Scriptorium.Markdown.Html
import Scriptorium.Markdown.Inline
import Scriptorium.Markdown.Reference
import Scriptorium.Markdown.Start
import Scriptorium.Math.Decode
import Scriptorium.Math.Encode
import Scriptorium.Math.Token
import Scriptorium.Metadata
import Scriptorium.Name
import Scriptorium.Page
import Scriptorium.Paragraph
import Scriptorium.Path
import Scriptorium.Proofs.Citation.Page
import Scriptorium.Proofs.Html.PublishingAgain
import Scriptorium.Proofs.Latex.Citations
import Scriptorium.Proofs.Latex.Balance
import Scriptorium.Proofs.Latex.DocumentLink
import Scriptorium.Proofs.Latex.Escape
import Scriptorium.Proofs.Library.Check
import Scriptorium.Proofs.Link.Relative
import Scriptorium.Proofs.Manifest
import Scriptorium.Proofs.Math.Markup
import Scriptorium.Proofs.Math.RoundTrip
import Scriptorium.Proofs.Section
import Scriptorium.Publication
import Scriptorium.Section
import Scriptorium.Text.Basic
import Scriptorium.Text.Blank
import Scriptorium.Text.CharRange
import Scriptorium.Text.Digit
import Scriptorium.Text.Hex
import Scriptorium.Text.Letter
import Scriptorium.Text.Lines
import Scriptorium.Text.Lowercase
import Scriptorium.Text.Percent
import Scriptorium.Text.Punctuation
import Scriptorium.Text.Scan
import Scriptorium.Text.Utf8
import Scriptorium.Toml.Configuration
import Scriptorium.Toml.Document
import Scriptorium.Toml.Scalar
import Scriptorium.Toml.Value
import Scriptorium.Proofs.Latex.Delimiter
import Scriptorium.Proofs.Latex.Nesting
import Scriptorium.Proofs.Latex.Quiet
import Scriptorium.Proofs.Strings
import Scriptorium.Proofs.Text.SmallLetter
import Scriptorium.Proofs.PublishedName
import Scriptorium.Proofs.PageSource
import Scriptorium.Proofs.Page
import Scriptorium.Proofs.Bibliography
import Scriptorium.Proofs.Matter
import Scriptorium.Proofs.Citation.ExtractingAgain
import Scriptorium.Proofs.Citation.Resolution
import Scriptorium.Proofs.Math.Environment
import Scriptorium.Proofs.Body
import Scriptorium.Proofs.Html.External
import Scriptorium.Proofs.Html.Outside
import Scriptorium.Proofs.Html.PathLink
import Scriptorium.Proofs.FrontMatter
import Scriptorium.Proofs.Abstract
import Scriptorium.Proofs.Code
import Scriptorium.Proofs.Citation.Fences
import Scriptorium.Proofs.Latex.Comment
import Scriptorium.Proofs.Latex.TemplateLines
import Scriptorium.Proofs.Latex.Verbatim
import Scriptorium.Proofs.Latex.SiteLink
import Scriptorium.Proofs.Bibtex.Reordering
import Scriptorium.Proofs.Repository
import Scriptorium.Proofs.Library.Sources
import Scriptorium.Proofs.Citation.Placing
import Scriptorium.Proofs.Citation.Formatting
import Scriptorium.Proofs.Math.Closing
import Scriptorium.Proofs.Splitting
import Scriptorium.Proofs.Latex.Unescape
import Scriptorium.Proofs.Link.Escaped
