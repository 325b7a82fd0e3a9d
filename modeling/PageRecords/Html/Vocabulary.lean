import PageRecords.Html.Token

/-!
# Names that pages treat specially

Sets of element names by what the reading rules do with them, and the spelling of
names in foreign vocabularies, where pages are read in lower case.
-/

namespace PageRecords.Html

open Dom (Tag Space Attribute)

def html (name : String) : Tag := ⟨.html, name⟩

def isHtml (names : List String) (t : Tag) : Bool :=
  t.space = .html && names.contains t.name

-- --------------------------------------------------------------------
-- Scopes
-- --------------------------------------------------------------------

/-- Elements of formulas that hold text of the page. -/
def holdsText (t : Tag) : Bool :=
  t.space = .mathml && ["mi", "mo", "mn", "ms", "mtext"].contains t.name

/-- Elements of drawings that hold parts of the page. -/
def holdsPage (t : Tag) : Bool :=
  t.space = .svg && ["foreignObject", "desc", "title"].contains t.name

def endsScope (t : Tag) : Bool :=
  isHtml ["applet", "caption", "html", "table", "td", "th", "marquee", "object", "template"] t ||
    holdsText t || holdsPage t

def endsListScope (t : Tag) : Bool := endsScope t || isHtml ["ol", "ul"] t

def endsButtonScope (t : Tag) : Bool := endsScope t || isHtml ["button"] t

def endsTableScope (t : Tag) : Bool := isHtml ["html", "table", "template"] t

def endsSelectScope (t : Tag) : Bool := !isHtml ["optgroup", "option"] t

-- --------------------------------------------------------------------
-- Other sets
-- --------------------------------------------------------------------

/-- Elements whose end tag may be left out. -/
def closesByItself (t : Tag) : Bool :=
  isHtml ["dd", "dt", "li", "option", "optgroup", "p", "rb", "rp", "rt", "rtc"] t

/-- Elements that close by themselves with the end of a template. -/
def closesWithTemplate (t : Tag) : Bool :=
  closesByItself t ||
    isHtml ["caption", "colgroup", "tbody", "td", "tfoot", "th", "thead", "tr"] t

def headingNames : List String := ["h1", "h2", "h3", "h4", "h5", "h6"]

def isHeading (t : Tag) : Bool := isHtml headingNames t

/-- Elements that end tags of other elements do not close over. -/
def isSpecial (t : Tag) : Bool :=
  isHtml
    ["address", "applet", "area", "article", "aside", "base", "basefont", "bgsound", "blockquote",
     "body", "br", "button", "caption", "center", "col", "colgroup", "dd", "details", "dir", "div",
     "dl", "dt", "embed", "fieldset", "figcaption", "figure", "footer", "form", "frame",
     "frameset", "h1", "h2", "h3", "h4", "h5", "h6", "head", "header", "hgroup", "hr", "html",
     "iframe", "img", "input", "isindex", "li", "link", "listing", "main", "marquee", "menu",
     "meta", "nav", "noembed", "noframes", "noscript", "object", "ol", "p", "param", "plaintext",
     "pre", "script", "section", "select", "source", "style", "summary", "table", "tbody", "td",
     "template", "textarea", "tfoot", "th", "thead", "title", "tr", "track", "ul", "wbr", "xmp"] t

def isTableCell (t : Tag) : Bool := isHtml ["td", "th"] t

/-- Elements that text does not belong into directly. -/
def isTablePart (t : Tag) : Bool := isHtml ["table", "tbody", "tfoot", "thead", "tr"] t

def isTableContext (t : Tag) : Bool := endsTableScope t

def isTableBodyContext (t : Tag) : Bool :=
  isHtml ["tbody", "tfoot", "thead", "template", "html"] t

def isTableRowContext (t : Tag) : Bool := isHtml ["tr", "template", "html"] t

-- --------------------------------------------------------------------
-- Foreign spelling
-- --------------------------------------------------------------------

/-- Names of drawings that are not in lower case. -/
def svgNames : List String :=
  ["altGlyph", "altGlyphDef", "altGlyphItem", "animateColor", "animateMotion", "animateTransform",
   "clipPath", "feBlend", "feColorMatrix", "feComponentTransfer", "feComposite",
   "feConvolveMatrix", "feDiffuseLighting", "feDisplacementMap", "feDistantLight", "feDropShadow",
   "feFlood", "feFuncA", "feFuncB", "feFuncG", "feFuncR", "feGaussianBlur", "feImage", "feMerge",
   "feMergeNode", "feMorphology", "feOffset", "fePointLight", "feSpecularLighting", "feSpotLight",
   "feTile", "feTurbulence", "foreignObject", "glyphRef", "linearGradient", "radialGradient",
   "textPath"]

/-- Attributes of drawings that are not in lower case. -/
def svgAttributes : List String :=
  ["attributeName", "attributeType", "baseFrequency", "baseProfile", "calcMode", "clipPathUnits",
   "diffuseConstant", "edgeMode", "filterUnits", "glyphRef", "gradientTransform", "gradientUnits",
   "kernelMatrix", "kernelUnitLength", "keyPoints", "keySplines", "keyTimes", "lengthAdjust",
   "limitingConeAngle", "markerHeight", "markerUnits", "markerWidth", "maskContentUnits",
   "maskUnits", "numOctaves", "pathLength", "patternContentUnits", "patternTransform",
   "patternUnits", "pointsAtX", "pointsAtY", "pointsAtZ", "preserveAlpha", "preserveAspectRatio",
   "primitiveUnits", "refX", "refY", "repeatCount", "repeatDur", "requiredExtensions",
   "requiredFeatures", "specularConstant", "specularExponent", "spreadMethod", "startOffset",
   "stdDeviation", "stitchTiles", "surfaceScale", "systemLanguage", "tableValues", "targetX",
   "targetY", "textLength", "viewBox", "viewTarget", "xChannelSelector", "yChannelSelector",
   "zoomAndPan"]

/-- The spelling of a list that a lower case name stands for, or the name itself. -/
def respell (spellings : List String) (name : String) : String :=
  (spellings.find? fun s => s.toLower = name).getD name

def xlinkNames : List String := ["actuate", "arcrole", "href", "role", "show", "title", "type"]

def xmlNames : List String := ["base", "lang", "space"]

/-- An attribute of a foreign element, whose prefix names its vocabulary. -/
def Foreign.attribute (a : Attribute) : Attribute :=
  match xlinkNames.find? fun n => a.name = "xlink:" ++ n with
  | some n => ⟨.xlink, n, a.value⟩
  | none =>
    match xmlNames.find? fun n => a.name = "xml:" ++ n with
    | some n => ⟨.xml, n, a.value⟩
    | none =>
      if a.name = "xmlns" then ⟨.xmlns, "xmlns", a.value⟩
      else if a.name = "xmlns:xlink" then ⟨.xmlns, "xlink", a.value⟩
      else a

def respellAttribute (space : Space) (a : Attribute) : Attribute :=
  match space with
  | .svg => { a with name := respell svgAttributes a.name }
  | .mathml => { a with name := respell ["definitionURL"] a.name }
  | _ => a

/-- The attributes of a foreign element. -/
def Foreign.attributes (space : Space) (attributes : List Attribute) : List Attribute :=
  attributes.map fun a => Foreign.attribute (respellAttribute space a)

/-- The name of an element inside one of that vocabulary. -/
def Foreign.name (space : Space) (name : String) : String :=
  match space with
  | .svg => respell svgNames name
  | _ => name

/-- Elements that do not stand inside foreign ones: the page goes on after them. -/
def breaksOut (t : StartTag) : Bool :=
  ["b", "big", "blockquote", "body", "br", "center", "code", "dd", "div", "dl", "dt", "em",
   "embed", "h1", "h2", "h3", "h4", "h5", "h6", "head", "hr", "i", "img", "li", "listing", "menu",
   "meta", "nobr", "ol", "p", "pre", "ruby", "s", "small", "span", "strong", "strike", "sub",
   "sup", "table", "tt", "u", "ul", "var"].contains t.name ||
  (t.name = "font" && t.attributes.any fun a => ["color", "face", "size"].contains a.name)

-- --------------------------------------------------------------------
-- Document types
-- --------------------------------------------------------------------

/-- Public identifiers of document types whose pages are laid out the old way, by
their starts. -/
def oldPublicIds : List String :=
  ["-//advasoft ltd//dtd html 3.0 aswedit + extensions//",
   "-//as//dtd html 3.0 aswedit + extensions//",
   "-//ietf//dtd html 2.0 level 1//", "-//ietf//dtd html 2.0 level 2//",
   "-//ietf//dtd html 2.0 strict level 1//", "-//ietf//dtd html 2.0 strict level 2//",
   "-//ietf//dtd html 2.0 strict//", "-//ietf//dtd html 2.0//", "-//ietf//dtd html 2.1e//",
   "-//ietf//dtd html 3.0//", "-//ietf//dtd html 3.2 final//", "-//ietf//dtd html 3.2//",
   "-//ietf//dtd html 3//", "-//ietf//dtd html level 0//", "-//ietf//dtd html level 1//",
   "-//ietf//dtd html level 2//", "-//ietf//dtd html level 3//",
   "-//ietf//dtd html strict level 0//", "-//ietf//dtd html strict level 1//",
   "-//ietf//dtd html strict level 2//", "-//ietf//dtd html strict level 3//",
   "-//ietf//dtd html strict//", "-//ietf//dtd html//",
   "-//metrius//dtd metrius presentational//",
   "-//microsoft//dtd internet explorer 2.0 html strict//",
   "-//microsoft//dtd internet explorer 2.0 html//",
   "-//microsoft//dtd internet explorer 2.0 tables//",
   "-//microsoft//dtd internet explorer 3.0 html strict//",
   "-//microsoft//dtd internet explorer 3.0 html//",
   "-//microsoft//dtd internet explorer 3.0 tables//",
   "-//netscape comm. corp.//dtd html//", "-//netscape comm. corp.//dtd strict html//",
   "-//o'reilly and associates//dtd html 2.0//",
   "-//o'reilly and associates//dtd html extended 1.0//",
   "-//o'reilly and associates//dtd html extended relaxed 1.0//",
   "-//softquad software//dtd hotmetal pro 6.0::19990601::extensions to html 4.0//",
   "-//softquad//dtd hotmetal pro 4.0::19971010::extensions to html 4.0//",
   "-//spyglass//dtd html 2.0 extended//", "-//sq//dtd html 2.0 hotmetal + extensions//",
   "-//sun microsystems corp.//dtd hotjava html//",
   "-//sun microsystems corp.//dtd hotjava strict html//",
   "-//w3c//dtd html 3 1995-03-24//", "-//w3c//dtd html 3.2 draft//",
   "-//w3c//dtd html 3.2 final//", "-//w3c//dtd html 3.2//", "-//w3c//dtd html 3.2s draft//",
   "-//w3c//dtd html 4.0 frameset//", "-//w3c//dtd html 4.0 transitional//",
   "-//w3c//dtd html experimental 19960712//", "-//w3c//dtd html experimental 970421//",
   "-//w3c//dtd w3 html//", "-//w3o//dtd w3 html 3.0//",
   "-//webtechs//dtd mozilla html 2.0//", "-//webtechs//dtd mozilla html//"]

def oldPublicNames : List String :=
  ["-//w3o//dtd w3 html strict 3.0//en//", "-/w3c/dtd html 4.0 transitional/en", "html"]

def oldSystemNames : List String :=
  ["http://www.ibm.com/data/dtd/v11/ibmxhtml1-transitional.dtd"]

/-- Old only if no system identifier follows. -/
def unsystematicPublicIds : List String :=
  ["-//w3c//dtd html 4.01 frameset//", "-//w3c//dtd html 4.01 transitional//"]

/-- The page is laid out the old way, where a table does not end a paragraph. -/
def Doctype.isOld (d : Doctype) : Bool :=
  let startsWith (ids : List String) (s : String) := ids.any fun id => s.startsWith id
  let publicId := d.publicId.map String.toLower
  let systemId := d.systemId.map String.toLower
  d.broken || d.name != some "html" ||
    publicId.any (fun p => oldPublicNames.contains p || startsWith oldPublicIds p) ||
    systemId.any oldSystemNames.contains ||
    (systemId.isNone && publicId.any (startsWith unsystematicPublicIds))

end PageRecords.Html
