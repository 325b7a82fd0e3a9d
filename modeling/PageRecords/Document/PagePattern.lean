import PageRecords.Document.Field
import PageRecords.Regex.Parser
import PageRecords.Regex.Match

/-!
# Patterns of page addresses

A document that declares no pattern gets one from its domain and path pattern.
-/

namespace PageRecords.PagePattern

/-- Scheme, and what may stand before the domain. -/
def originAnchor : String := "^https?://[^/]*"

def optionalQuery : String := "(\\?.*)?"

def optionalFragment : String := "(#.*)?"

/-- The classic operators. Hyphens, hashes, ampersands and tildes are left alone,
so that derived patterns stay portable. -/
def isOperator (c : Char) : Bool :=
  c ∈ ['\\', '^', '$', '.', '*', '+', '?', '(', ')', '[', ']', '{', '}', '|']

def escapeChars (cs : List Char) : List Char :=
  cs.flatMap fun c => if isOperator c then ['\\', c] else [c]

/-- A pattern that matches the text itself. -/
def escape (s : String) : String :=
  String.ofList (escapeChars s.toList)

/-- Whether a text occurs in another. -/
def occursIn (part : List Char) : List Char → Bool
  | [] => part.isEmpty
  | c :: rest => part.isPrefixOf (c :: rest) || occursIn part rest

/-- The pattern of a domain's pages. A slash is put between domain and path where
neither brings one. Query and fragment stay optional unless the path names them. -/
def deriveChars (domain path : List Char) : List Char :=
  let host := escapeChars domain
  let slash := if host.getLast? != some '/' && path.head? != some '/' then ['/'] else []
  let query := if occursIn ['\\', '?'] path then [] else optionalQuery.toList
  let fragment := if path.contains '#' then [] else optionalFragment.toList
  let whole := originAnchor.toList ++ host ++ slash ++ path ++ query ++ fragment
  if whole.getLast? = some '$' then whole else whole ++ ['$']

def derive (domain path : String) : String :=
  String.ofList (deriveChars domain.toList path.toList)

/-- Every test page must match the document's own pattern. -/
def checkTestPages (parser : String) (matcher : Regex) (pages : List String) :
    Except Fault Unit :=
  match pages.find? fun page => !matcher.isMatch page with
  | some url => .error (.testPageMismatch parser url)
  | none => .ok ()

end PageRecords.PagePattern
