import PageRecords.Yaml.Node
import PageRecords.Yaml.Plain

/-!
# Decoding documents

The data that a document holds. Keys are their texts, whatever they mean; of equal keys
the last one's value counts, at the first one's place.
-/

namespace PageRecords.Yaml

-- --------------------------------------------------------------------
-- Scalars
-- --------------------------------------------------------------------

/-- The value of a scalar under a tag of the standard ones. Under any other it is text. -/
def taggedValue? (tag text : String) : Option Json :=
  match tag with
  | "tag:yaml.org,2002:bool" => (Plain.bool? text).map .bool
  | "tag:yaml.org,2002:int" => ((Plain.int? text.toList).bind id).map .number
  | "tag:yaml.org,2002:float" => (Plain.double? text.toList).map Plain.ofDouble
  | "tag:yaml.org,2002:null" => if Plain.isNull text then some .null else none
  | _ => some (.string text)

/-- A tag of one's own has no meaning here. -/
def isOwn (tag : Option String) : Bool := tag.any (·.startsWith "!")

def scalarValue? (tag : Option String) (isPlain : Bool) (text : String) : Option Json :=
  match tag with
  | some t => taggedValue? t text
  | none => if isPlain then Plain.value? text else some (.string text)

-- --------------------------------------------------------------------
-- Nodes
-- --------------------------------------------------------------------

namespace Node

def text? : Node → Option String
  | .scalar _ _ text => some text
  | _ => none

mutual
/-- The value of a node in which collections are so many deep at most. -/
def value? (depth : Nat) : Node → Option Json
  | .scalar tag isPlain text => if isOwn tag then none else scalarValue? tag isPlain text
  | .sequence tag items =>
    match depth with
    | 0 => none
    | depth + 1 => if isOwn tag then none else (values? depth items).map .array
  | .mapping tag entries =>
    match depth with
    | 0 => none
    | depth + 1 => if isOwn tag then none else (members? depth [] entries).map .object
def values? (depth : Nat) : List Node → Option (List Json)
  | [] => some []
  | n :: rest => do
    let v ← n.value? depth
    return v :: (← values? depth rest)
/-- The members that entries add to those before. -/
def members? (depth : Nat) (before : Json.Members) : List (Node × Node) → Option Json.Members
  | [] => some before
  | (k, v) :: rest => do
    let key ← k.text?
    let value ← v.value? depth
    members? depth (Json.Members.insert before key value) rest
end

end Node

/-- The data of a text that is one document, or of an empty text. -/
def decode? (text : String) : Option Json := do
  let ts ← tokens? text
  let node ← Node.ofTokens? ts
  node.value? 128

end PageRecords.Yaml
