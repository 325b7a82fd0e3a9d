import PageRecords.Document.Basic

/-!
# Writing documents

The normal form as data. What is read from it again is the same.
-/

namespace PageRecords

def Json.strings (ss : List String) : Json := .array (ss.map .string)

/-- A member that is left out when there is nothing to say. -/
def Json.optional (key : String) (value : Option Json) : Json.Members :=
  match value with
  | some value => [(key, value)]
  | none => []

def MatchBlock.toJson (b : MatchBlock) : Json :=
  .object (
    [("include", .string b.included), ("exclude", .string b.excluded)]
      ++ Json.optional "attribute" (b.attr.map .string)
      ++ [("outerNode", .bool b.outerNode), ("keepBasicMarkup", .bool b.keepBasicMarkup),
          ("removeInside", .strings b.removeInside)]
      ++ Json.optional "addNextUntil" (b.addNextUntil.map .string))

def MatchSpec.toJson : MatchSpec → Json
  | .single b => b.toJson
  | .any bs => .object [("or", .array (bs.map (·.toJson)))]

def Rule.Source.toMember : Rule.Source → String × Json
  | .match_ spec => ("match", spec.toJson)
  | .attr name => ("attribute", .string name)
  | .literals values => ("literalValues", .strings values)

def Replacement.toJson (r : Replacement) : Json :=
  .object [("find", .string r.find.source), ("output", .string r.output)]

namespace Rule

mutual
def toJson : Rule → Json
  | ⟨name, source, subRules, replacement⟩ =>
    .object (
      [("name", .string name), source.toMember]
        ++ Json.optional "subRules"
          (if subRules.isEmpty then none else some (.array (listToJson subRules)))
        ++ Json.optional "rewrite" (replacement.map (·.toJson)))
def listToJson : List Rule → List Json
  | [] => []
  | r :: rest => toJson r :: listToJson rest
end

end Rule

def Author.toJson (a : Author) : Json :=
  .object (("name", .string a.name) :: a.metadata)

def RuleInfo.toJson (i : RuleInfo) : Json :=
  .object (
    [("name", .string i.name), ("extractionType", .string i.type.name),
     ("domain", .string i.domain)]
      ++ Json.optional "pathPattern" (i.pathPattern.map .string)
      ++ [("suggestedPattern", .string i.pattern), ("testPages", .strings i.testPages),
          ("author", i.author.toJson), ("description", .string i.description)])

def Redirect.toJson (r : Redirect) : Json :=
  .object [("requiredQueryParams",
    .array (r.required.map fun (name, value) => Json.strings [name, value]))]

def RuleDocument.toJson (d : RuleDocument) : Json :=
  .object (
    [("info", d.info.toJson), ("rules", .array (Rule.listToJson d.rules))]
      ++ Json.optional "redirect" (d.redirect.map (·.toJson)))

end PageRecords
