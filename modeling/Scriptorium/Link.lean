import Scriptorium.Html.Escape
import Scriptorium.Name
import Scriptorium.Text.Percent
/-! # Link destinations

A link to a Markdown document becomes a link to its page (`Link.publish`): each
named segment and the anchor get their published forms. A relative link without
an extension gets one (`Link.withHtmlExtension`). In HTML a destination stands in
an attribute; `Link.decode` gives it back as its author wrote it.
-/

namespace Scriptorium.Link

/-- A destination cut at its first number sign: the path, and the anchor if there
is one. -/
def splitAnchor (link : Text) : Text × Option Text :=
  match Text.cut? ['#'] link with
  | some (path, anchor) => (path, some anchor)
  | none => (link, none)

/-- Whether a segment is empty or made of one or two dots, and so has no name. -/
def isNameless (segment : Text) : Bool :=
  segment.isEmpty || segment == ['.'] || segment == ['.', '.']

/-- The published form of the segments of a link to a document; the last one names
its page. -/
def publishSegments : List Text → List Text
  | [] => []
  | [last] => [if isNameless last then last else Name.publish last ++ ".html".toList]
  | segment :: rest =>
    (if isNameless segment then segment else Name.publish segment) :: publishSegments rest

/-- The link to the page of a Markdown document. Other links stay as they are. -/
def publish (link : Text) : Text :=
  let (path, anchor) := splitAnchor link
  match Text.dropEnd? ".md".toList path with
  | none => link
  | some stem =>
    let page := Text.join ['/'] (publishSegments (stem.splitOn '/'))
    match anchor with
    | none => page
    | some anchor => page ++ '#' :: Anchor.ofText anchor

/-- The last segment of a path. -/
def lastSegment (path : Text) : Text :=
  (path.splitOn '/').getLast?.getD path

/-- Whether a dot stands in a segment behind its first character. -/
def hasInnerDot (segment : Text) : Bool :=
  segment.tail.contains '.'

/-- Whether a destination is a relative path whose last segment has a name but no
extension. -/
def needsHtmlExtension (path : Text) : Bool :=
  !(path.isEmpty || path.startsWith "//".toList || path.contains ':' || path.contains '#' ||
    path.endsWith ['/']) &&
  !isNameless (lastSegment path) && !hasInnerDot (lastSegment path)

/-- A destination with `.html` behind it, where it needs an extension. -/
def withHtmlExtension (path : Text) : Text :=
  if needsHtmlExtension path then path ++ ".html".toList else path

/-- A destination without the angle brackets around it. -/
def dropAngles (href : Text) : Text :=
  ((Text.dropStart? ['<'] href).bind (Text.dropEnd? ['>'])).getD href

/-- The destination that stands in an attribute, as it was written in the source:
angle brackets, character references and percent escapes are undone, in that
order. -/
def decode (href : Text) : Text :=
  Percent.decode (Html.unescape (dropAngles href))

end Scriptorium.Link
