import Prospector.Html.Tree

/-!
# Sets of elements

The sets of element names that the rules for building a document refer to.
-/

namespace Prospector.Html.TagSet

/-- Whether a name is that of an HTML element in a list. -/
def among (tags : List String) (n : Name) : Bool :=
  n.space == .html && tags.contains n.tag

/-- MathML elements whose content is HTML as far as text and most start tags go. -/
def mathmlText (n : Name) : Bool :=
  n.space == .mathml && ["mi", "mo", "mn", "ms", "mtext"].contains n.tag

/-- SVG elements whose content is HTML. -/
def svgHtml (n : Name) : Bool :=
  n.space == .svg && ["foreignObject", "desc", "title"].contains n.tag

/-- The elements that bound most scopes. -/
def scope (n : Name) : Bool :=
  among ["applet", "caption", "html", "table", "td", "th", "marquee", "object", "template"] n ||
    mathmlText n || svgHtml n

/-- The elements that bound the scope of list items. -/
def listItemScope (n : Name) : Bool :=
  scope n || among ["ol", "ul"] n

/-- The elements that bound the scope of paragraphs. -/
def buttonScope (n : Name) : Bool :=
  scope n || among ["button"] n

/-- The elements that bound the scope of parts of tables. -/
def tableScope : Name → Bool :=
  among ["html", "table", "template"]

/-- The elements that bound the scope of a `select` element. -/
def selectScope (n : Name) : Bool :=
  !among ["optgroup", "option"] n

/-- Where rows may stand. -/
def tableBodyContext : Name → Bool :=
  among ["tbody", "tfoot", "thead", "template", "html"]

/-- Where cells may stand. -/
def tableRowContext : Name → Bool :=
  among ["tr", "template", "html"]

/-- The cells of a table. -/
def cell : Name → Bool :=
  among ["td", "th"]

/-- The headings. -/
def heading : Name → Bool :=
  among ["h1", "h2", "h3", "h4", "h5", "h6"]

/-- The elements whose end tag may be left out. -/
def impliedEnd : Name → Bool :=
  among ["dd", "dt", "li", "option", "optgroup", "p", "rb", "rp", "rt", "rtc"]

/-- The elements whose end tag may be left out before the end of a template. -/
def impliedEndThoroughly (n : Name) : Bool :=
  impliedEnd n ||
    among ["caption", "colgroup", "tbody", "td", "tfoot", "th", "thead", "tr"] n

/-- The elements that text put directly into a table is moved out of. -/
def fosterTarget : Name → Bool :=
  among ["table", "tbody", "tfoot", "thead", "tr"]

/-- The elements with parsing rules of their own. -/
def special : Name → Bool :=
  among ["address", "applet", "area", "article", "aside", "base", "basefont", "bgsound",
    "blockquote", "body", "br", "button", "caption", "center", "col", "colgroup", "dd", "details",
    "dir", "div", "dl", "dt", "embed", "fieldset", "figcaption", "figure", "footer", "form",
    "frame", "frameset", "h1", "h2", "h3", "h4", "h5", "h6", "head", "header", "hgroup", "hr",
    "html", "iframe", "img", "input", "isindex", "li", "link", "listing", "main", "marquee", "menu",
    "meta", "nav", "noembed", "noframes", "noscript", "object", "ol", "p", "param", "plaintext",
    "pre", "script", "section", "select", "source", "style", "summary", "table", "tbody", "td",
    "template", "textarea", "tfoot", "th", "thead", "title", "tr", "track", "ul", "wbr", "xmp"]

/-- The special elements that a list item is not looked for behind. -/
def listBarrier (n : Name) : Bool :=
  special n && !among ["address", "div", "p"] n

/-- The start tags that end foreign content. -/
def breakout : List String :=
  ["b", "big", "blockquote", "body", "br", "center", "code", "dd", "div", "dl", "dt", "em", "embed",
    "h1", "h2", "h3", "h4", "h5", "h6", "head", "hr", "i", "img", "li", "listing", "menu", "meta",
    "nobr", "ol", "p", "pre", "ruby", "s", "small", "span", "strong", "strike", "sub", "sup",
    "table", "tt", "u", "ul", "var"]

end Prospector.Html.TagSet
