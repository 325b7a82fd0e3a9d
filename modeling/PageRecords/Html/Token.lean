import PageRecords.Dom.Node

/-!
# Tokens of pages

A page is read in tokens: single characters outside tags, tags, comments and
document types. How text is read depends on the element it stands in.
-/

namespace PageRecords.Html

structure Doctype where
  name : Option String
  publicId : Option String
  systemId : Option String
  /-- The declaration is too malformed to tell what it declares. -/
  broken : Bool
deriving DecidableEq, Repr, Inhabited

structure StartTag where
  name : String
  attributes : List Dom.Attribute
  selfClosing : Bool
deriving DecidableEq, Repr, Inhabited

inductive Token where
  /-- The null character stands for one that the page must not have. -/
  | char (c : Char)
  | startTag (tag : StartTag)
  | endTag (name : String)
  | comment (text : String)
  | doctype (d : Doctype)
  | stop
deriving DecidableEq, Repr, Inhabited

/-- How text is read. `dashes` counts the dashes just before, up to two. -/
inductive TextMode where
  | data
  | rcdata
  | rawtext
  | plaintext
  | cdata
  | script
  | scriptEscaped (dashes : Nat)
  | scriptDoubleEscaped (dashes : Nat)
deriving DecidableEq, Repr, Inhabited

/-- Stands for characters that a page must not have. -/
def replacement : Char := '\ufffd'

def isBlank (c : Char) : Bool :=
  c = ' ' || c = '\t' || c = '\n' || c = '\x0c' || c = '\r'

end PageRecords.Html
