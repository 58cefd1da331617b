import Scriptorium.Link
import Scriptorium.Text.Letter
import Scriptorium.Text.Scan
/-! # Links in HTML

The destinations in finished HTML are turned from those of the source tree into
those of the published one: links to documents lead to their pages, fragments
become anchors, and relative links without an extension get one.
-/

namespace Scriptorium.Html

/-- A destination in an attribute. -/
def href? : Scanner Text := fun s => do
  let (_, rest) ← Scanner.literal "href=\"".toList s
  let (_, behind) ← Scanner.literal ['"'] (rest.dropWhile (· != '"'))
  some (rest.takeWhile (· != '"'), behind)

/-- An attribute with the given destination. -/
def hrefText (href : Text) : Text :=
  "href=\"".toList ++ href ++ ['"']

/-- HTML with each destination replaced by what `change` makes of it; where it makes
nothing, the destination stays. -/
def mapHrefs (change : Text → Option Text) (html : Text) : Text :=
  Scanner.replaceAll href? (fun href => hrefText ((change href).getD href)) html

/-- Whether a destination leads to a Markdown document, perhaps with an anchor on the
same line. -/
def isMarkdownTarget (href : Text) : Bool :=
  let (path, anchor) := Link.splitAnchor href
  path.endsWith ".md".toList && !anchor.any fun anchor => anchor.contains '\n'

/-- The page that a destination leads to, when it is a document of this site. -/
def documentHref? (href : Text) : Option Text :=
  let target := Link.decode href
  if target.startsWith "//".toList || target.contains ':' || !isMarkdownTarget target then none
  else some (Link.publish target)

/-- HTML with the links to documents leading to their pages. -/
def publishDocuments (html : Text) : Text :=
  mapHrefs documentHref? html

/-- Whether a character may stand in the scheme of an address behind its first
letter. -/
def isSchemeChar (c : Char) : Bool :=
  isAsciiAlphanumeric c || c == '+' || c == '.' || c == '-'

/-- Whether a destination starts with a scheme and two slashes. -/
def hasScheme (href : Text) : Bool :=
  href.head?.any isAsciiLetter && Text.startsWith (href.dropWhile isSchemeChar) "://".toList

/-- A destination with its fragment as an anchor, when it has one and lies on this
site. -/
def fragmentHref? (href : Text) : Option Text :=
  if href.startsWith "//".toList || hasScheme href then none
  else
    match Link.splitAnchor href with
    | (path, some fragment) => some (path ++ '#' :: Anchor.ofText (Link.decode fragment))
    | (_, none) => none

/-- HTML with the fragments of its links as anchors. -/
def anchorFragments (html : Text) : Text :=
  mapHrefs fragmentHref? html

/-- A destination with an extension, when it needs one. -/
def extensionHref? (href : Text) : Option Text :=
  if Link.needsHtmlExtension href then some (href ++ ".html".toList) else none

/-- HTML with extensions on the relative links that have none. -/
def completeExtensions (html : Text) : Text :=
  mapHrefs extensionHref? html

/-- HTML with its links leading to published pages. -/
def publishLinks (html : Text) : Text :=
  completeExtensions (anchorFragments (publishDocuments html))

end Scriptorium.Html
