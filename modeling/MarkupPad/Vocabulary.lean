import MarkupPad.Text.Ascii

/-!
# The vocabulary of the markup language

Names of elements and attributes in the order in which they are offered, the elements
that never get a closing tag, the attributes that are written without a value, and the
fixed texts that triggers expand to.
-/

namespace MarkupPad.Vocabulary

/-! ## Word lists -/

/-- Element names, the likelier ones first within a letter. -/
def tags : List Text := [
   "a", "abbr", "address", "area", "article", "aside", "audio", "b", "base", "bdi", "bdo",
   "blockquote", "body", "br", "button", "canvas", "caption", "cite", "code", "col",
   "colgroup", "data", "datalist", "dd", "del", "details", "dfn", "dialog", "div", "dl",
   "dt", "em", "embed", "fieldset", "figcaption", "figure", "footer", "form", "h1", "h2",
   "h3", "h4", "h5", "h6", "head", "header", "hgroup", "hr", "html", "i", "iframe", "img",
   "input", "ins", "kbd", "label", "legend", "li", "link", "main", "map", "mark", "menu",
   "meta", "meter", "nav", "noscript", "object", "ol", "optgroup", "option", "output", "p",
   "picture", "pre", "progress", "q", "rp", "rt", "ruby", "s", "samp", "script", "section",
   "select", "slot", "small", "source", "span", "strong", "style", "sub", "summary", "sup",
   "table", "tbody", "td", "template", "textarea", "tfoot", "th", "thead", "time", "title",
   "tr", "track", "u", "ul", "var", "video", "wbr"].map String.toList

/-- Attribute names, the likelier ones first.  The names that end in a star stand for
whole families, of which only the part before the star is inserted. -/
def attributes : List Text := [
   "id", "class", "src", "href", "alt", "title", "style", "type", "value", "name",
   "placeholder", "target", "rel", "width", "height", "required", "disabled", "checked",
   "autocomplete", "autofocus", "autoplay", "loop", "muted", "controls", "multiple",
   "action", "method", "enctype", "charset", "lang", "loading", "srcset", "sizes", "aria-*",
   "data-*", "allowfullscreen", "allow", "sandbox", "integrity", "crossorigin", "accept",
   "accesskey", "align", "async", "bgcolor", "border", "cite", "color", "cols", "colspan",
   "content", "contenteditable", "coords", "datetime", "default", "defer", "dir", "dirname",
   "download", "draggable", "dropzone", "form", "formaction", "headers", "hidden", "high",
   "hreflang", "http-equiv", "ismap", "kind", "label", "list", "low", "max", "maxlength",
   "media", "min", "novalidate", "open", "optimum", "pattern", "poster", "preload",
   "readonly", "reversed", "rows", "rowspan", "scope", "selected", "shape", "size", "span",
   "spellcheck", "srcdoc", "srclang", "start", "step", "tabindex", "translate", "usemap",
   "wrap"].map String.toList

/-- Elements that never get a closing tag. -/
def voidElements : List Text := [
   "img", "br", "hr", "input", "meta", "link", "wbr", "area", "base", "col", "embed",
   "param", "source", "track"].map String.toList

/-- Attributes inserted without a value. -/
def booleanAttributes : List Text := [
   "disabled", "readonly", "checked", "required", "autofocus", "autoplay", "loop", "muted",
   "controls", "multiple", "reversed", "hidden", "async", "defer", "ismap", "open"].map String.toList

/-! ## Fixed texts -/

/-- The document skeleton. -/
def boilerplate : Text := Text.join ['\n'] <| [
    "<!DOCTYPE html>",
    "<html lang=\"en\">",
    "<head>",
    "  <meta charset=\"UTF-8\">",
    "  <meta name=\"viewport\" content=\"width=device-width, initial-scale=1.0\">",
    "  <title>New Project</title>",
    "</head>",
    "<body>",
    "",
    "</body>",
    "</html>"].map String.toList

/-- The comment skeleton. -/
def comment : Text := "<!--  -->".toList

/-- Where the caret stands inside the comment skeleton. -/
def commentCaret : Nat := 5

/-! ## Questions about names -/

/-- Does a list hold the name, in whatever ASCII case? -/
def lists (words : List Text) (name : Text) : Bool := words.any (Text.Same · name)

/-- An element that never gets a closing tag. -/
def isVoid (name : Text) : Bool := lists voidElements name

/-- An attribute inserted without a value. -/
def isBooleanAttribute (name : Text) : Bool := lists booleanAttributes name

/-- The part of a family name that is inserted: what stands before the star, if that
ends with a dash. -/
def familyStem? (name : Text) : Option Text :=
  if name.getLast? = some '*' ∧ name.dropLast.getLast? = some '-' then some name.dropLast
  else none

end MarkupPad.Vocabulary
