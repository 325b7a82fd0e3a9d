import PageRecords.Dom.Node

/-!
# Markup

How trees are written. A void element has no content and no end tag, and the text
of some elements is written as it is, because it is read so.
-/

namespace PageRecords.Dom

/-- Text outside tags. -/
def escapeTextChar (c : Char) : List Char :=
  if c = '&' then "&amp;".toList
  else if c = '<' then "&lt;".toList
  else if c = '>' then "&gt;".toList
  else if c = '\u00a0' then "&nbsp;".toList
  else [c]

/-- Text inside a quoted value. -/
def escapeValueChar (c : Char) : List Char :=
  if c = '&' then "&amp;".toList
  else if c = '"' then "&quot;".toList
  else if c = '\u00a0' then "&nbsp;".toList
  else [c]

def escapeText (s : String) : String := String.ofList (s.toList.flatMap escapeTextChar)

def escapeValue (s : String) : String := String.ofList (s.toList.flatMap escapeValueChar)

namespace Tag

def voidNames : List String :=
  ["area", "base", "basefont", "bgsound", "br", "col", "embed", "frame", "hr", "img", "input",
   "keygen", "link", "meta", "param", "source", "track", "wbr"]

def isVoid (t : Tag) : Bool :=
  t.space = .html && voidNames.contains t.name

def rawTextNames : List String :=
  ["style", "script", "xmp", "iframe", "noembed", "noframes", "plaintext", "noscript"]

/-- The text of the element stands unescaped. -/
def hasRawText (t : Tag) : Bool :=
  t.space = .html && rawTextNames.contains t.name

end Tag

/-- The name with the usual mark of its vocabulary. -/
def Attribute.shownName (a : Attribute) : String :=
  match a.space with
  | .none => a.name
  | .xml => "xml:" ++ a.name
  | .xmlns => if a.name = "xmlns" then a.name else "xmlns:" ++ a.name
  | .xlink => "xlink:" ++ a.name
  | _ => "unknown_namespace:" ++ a.name

def Attribute.markup (a : Attribute) : String :=
  " " ++ a.shownName ++ "=\"" ++ escapeValue a.value ++ "\""

def startTag (t : Tag) (attributes : List Attribute) : String :=
  "<" ++ t.name ++ String.join (attributes.map Attribute.markup) ++ ">"

def endTag (t : Tag) : String :=
  "</" ++ t.name ++ ">"

/-- The markup of a leaf; `raw` if it stands where text is unescaped. -/
def Leaf.markup (raw : Bool) : Leaf → String
  | .doctype name => "<!DOCTYPE " ++ name ++ ">"
  | .comment s => "<!--" ++ s ++ "-->"
  | .text s => if raw then s else escapeText s

namespace Node

mutual
def markupIn (raw : Bool) : Node → String
  | .leaf _ content => content.markup raw
  | .root _ _ children => listMarkupIn raw children
  | .element _ tag attributes _ children =>
    if tag.isVoid then startTag tag attributes
    else startTag tag attributes ++ listMarkupIn tag.hasRawText children ++ endTag tag
def listMarkupIn (raw : Bool) : List Node → String
  | [] => ""
  | n :: rest => n.markupIn raw ++ listMarkupIn raw rest
end

/-- The markup of a node with its own tags. -/
def outerMarkup (n : Node) : String := n.markupIn false

/-- The markup of the children, each on its own: their text is escaped whatever
the parent. -/
def innerMarkup (n : Node) : String := listMarkupIn false n.children

end Node

end PageRecords.Dom
