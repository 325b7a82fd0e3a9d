import PageRecords.Html.Token
import PageRecords.Html.CharReference

/-!
# Inside tags

The name of a tag and its attributes up to the closing bracket. A page that ends
inside a tag has no such tag.
-/

namespace PageRecords.Html

open Dom (Attribute)

/-- A character of a name. -/
def nameChar (c : Char) : Char := if c = '\x00' then replacement else c.toLower

def valueChar (c : Char) : Char := if c = '\x00' then replacement else c

def endsTagName (c : Char) : Bool := isBlank c || c = '/' || c = '>'

/-- The name of a tag, and the rest. -/
def tagName (cs : List Char) : String × List Char :=
  (String.ofList ((cs.takeWhile fun c => !endsTagName c).map nameChar),
    cs.dropWhile fun c => !endsTagName c)

def endsAttributeName (c : Char) : Bool := endsTagName c || c = '='

/-- The name of an attribute, its first character whatever it is, and the rest. -/
def attributeName (first : Char) (cs : List Char) : String × List Char :=
  (String.ofList ((first :: cs.takeWhile fun c => !endsAttributeName c).map nameChar),
    cs.dropWhile fun c => !endsAttributeName c)

/-- The value up to a character that ends it, which stays, and the rest. -/
def valueUntil (ends : Char → Bool) : List Char → List Char × List Char
  | [] => ([], [])
  | c :: rest =>
    if ends c then ([], c :: rest)
    else if c = '&' then
      have := length_reference true rest
      let (value, after) := valueUntil ends (reference true rest).2
      ((reference true rest).1 ++ value, after)
    else
      let (value, after) := valueUntil ends rest
      (valueChar c :: value, after)
termination_by cs => cs.length
decreasing_by
  all_goals simp only [List.length_cons]
  all_goals omega

/-- The value after the equals sign, and the rest. -/
def attributeValue (cs : List Char) : List Char × List Char :=
  match cs.dropWhile isBlank with
  | '"' :: rest =>
    let (value, after) := valueUntil (· = '"') rest
    (value, after.drop 1)
  | '\'' :: rest =>
    let (value, after) := valueUntil (· = '\'') rest
    (value, after.drop 1)
  | '>' :: rest => ([], '>' :: rest)
  | rest => valueUntil (fun c => isBlank c || c = '>') rest

/-- The first of several attributes of one name counts. -/
def addAttribute (attributes : List Attribute) (name : String) (value : List Char) :
    List Attribute :=
  if attributes.any (·.name = name) then attributes
  else attributes ++ [⟨.none, name, String.ofList value⟩]

/-- The rest of a tag: the attributes, whether a slash stands before the bracket, and
what follows it. -/
def attributesFrom (fuel : Nat) (attributes : List Attribute) (cs : List Char) :
    Option (List Attribute × Bool × List Char) :=
  match fuel with
  | 0 => none
  | fuel + 1 =>
    match cs with
    | [] => none
    | '>' :: rest => some (attributes, false, rest)
    | '/' :: '>' :: rest => some (attributes, true, rest)
    | '/' :: rest => attributesFrom fuel attributes rest
    | c :: rest =>
      if isBlank c then attributesFrom fuel attributes rest
      else
        let (name, rest) := attributeName c rest
        match rest.dropWhile isBlank with
        | '=' :: rest =>
          let (value, rest) := attributeValue rest
          attributesFrom fuel (addAttribute attributes name value) rest
        | rest => attributesFrom fuel (addAttribute attributes name []) rest

def readAttributes (cs : List Char) : Option (List Attribute × Bool × List Char) :=
  attributesFrom (cs.length + 1) [] cs

end PageRecords.Html
