import PageRecords.Document.Rule
import PageRecords.Json.Basic

/-!
# Rule documents

The normal form of a document: whom it is about, its rules in order, and the
query parameters its pages need.
-/

namespace PageRecords

inductive ExtractionType where
  | article
  | feed
  | custom (name : String)
deriving DecidableEq, Repr, Inhabited

def ExtractionType.name : ExtractionType → String
  | .article => "article"
  | .feed => "feed"
  | .custom name => name

structure Author where
  name : String
  /-- Whatever else the document says of its author, in its order. -/
  metadata : Json.Members
deriving Repr, Inhabited

def Author.unknown : Author := ⟨"Unknown author", []⟩

/-- The query parameters that a page's address must carry, each with its value. -/
structure Redirect where
  required : List (String × String)
deriving DecidableEq, Repr, Inhabited

structure RuleInfo where
  name : String
  type : ExtractionType
  domain : String
  pathPattern : Option String
  /-- The declared pattern, or the one derived from domain and path pattern. -/
  pattern : String
  /-- The compiled pattern. -/
  matcher : Regex
  testPages : List String
  author : Author
  description : String
deriving Repr, Inhabited

structure RuleDocument where
  info : RuleInfo
  /-- The document's own rules, then the built-in ones it does not shadow. -/
  rules : List Rule
  redirect : Option Redirect
deriving Repr, Inhabited

def RuleDocument.name (d : RuleDocument) : String := d.info.name

namespace Rule

/-- The page's title. -/
def title : Rule :=
  { name := "TITLE", source := .match_ (.single { included := "title" }), subRules := [],
    replacement := none }

/-- The page's Open Graph tags, whole. -/
def openGraphTags : Rule :=
  { name := "OPEN_GRAPH_TAGS",
    source := .match_ (.single
      { included := "meta[property^=\"og:\"]", outerNode := true, keepBasicMarkup := true }),
    subRules := [], replacement := none }

/-- The page's icon links, whole. -/
def iconTags : Rule :=
  { name := "ICON_TAGS",
    source := .match_ (.any [
      { included := "link[rel=\"icon\"]", outerNode := true, keepBasicMarkup := true },
      { included := "link[rel=\"shortcut icon\"]", outerNode := true, keepBasicMarkup := true }]),
    subRules := [], replacement := none }

/-- The rules that every document carries unless it has one of the same name. -/
def builtIn : List Rule := [title, openGraphTags, iconTags]

/-- Adds the built-in rules whose names are not in use. -/
def withBuiltIn (rules : List Rule) : List Rule :=
  rules ++ builtIn.filter fun b => !rules.any (·.name = b.name)

end Rule

end PageRecords
