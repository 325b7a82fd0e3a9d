import PageRecords.Document.Basic
import PageRecords.Document.PagePattern
import PageRecords.Document.RuleReader

/-!
# Reading documents

Decoded data to a document in normal form, or the first fault in reading order.
Main definition: `RuleDocument.read`.
-/

namespace PageRecords

open Json (Members)

/-- A custom type is named by the document, and not like a built-in one. -/
def ExtractionType.read (o : Members) (field : Field) : Except Fault ExtractionType := do
  let kind ← o.requireString field "type" ["extractionType"]
  match kind with
  | "article" => pure .article
  | "feed" => pure .feed
  | "custom" => do
    let custom ← o.requireString field "customType"
    if custom ∈ builtInTypes then .error (.builtInCustomType (field.key "customType"))
    else pure (.custom custom)
  | other => .error (.unknownType (field.key "type") other)

/-- A name, or an object with a name and whatever else. -/
def Author.read (value : Option Json) (field : Field) : Except Fault Author :=
  match value with
  | none | some .null => .ok .unknown
  | some (.string name) => .ok ⟨name, []⟩
  | some (.object o) => do
    let name ← Members.requireString o field "name"
    pure ⟨name, o.filter fun m => m.1 != "name"⟩
  | some _ => .error (.invalid field .authorShape)

namespace Redirect

def readRequired (field : Field) : Members → Except Fault (List (String × String))
  | [] => .ok []
  | (name, value) :: rest => do
    let text ← value.scalarText (field.key name)
    let more ← readRequired field rest
    pure ((name, text) :: more)

/-- The parameters stand under `requiredQueryParams`, or under `query.setParams`. -/
def read (value : Json) (field : Field) : Except Fault Redirect := do
  let o ← value.asObject field
  let (params, at_) ← match o.lookup? ["requiredQueryParams"] with
    | some (key, value) => pure (value, field.key key)
    | none => do
      let query := field.key "query"
      match o.lookup? ["query"] with
      | none => .error (.missing query)
      | some (_, value) => do
        let inner ← value.asObject query
        match inner.lookup? ["setParams"] with
        | some (key, value) => pure (value, query.key key)
        | none => .error (.missing (query.key "setParams"))
  let members ← params.asObject at_
  let required ← readRequired at_ members
  pure { required }

end Redirect

namespace RuleInfo

/-- The declared pattern with its key, or the derived one. -/
def choosePattern (field : Field) (domain : String) (declared path : Option (String × String)) :
    Except Fault (String × String) :=
  match declared, path with
  | some declared, _ => .ok declared
  | none, some (_, path) => .ok ("suggestedRegex", PagePattern.derive domain path)
  | none, none => .error (.missing (field.key "path"))

/-- A path pattern must compile on its own. -/
def checkPath (field : Field) (path : Option (String × String)) : Except Fault Unit :=
  match path with
  | some (key, pattern) => do
    let _ ← compilePattern pattern (field.key key)
    pure ()
  | none => .ok ()

def read (value : Json) (field : Field) : Except Fault RuleInfo := do
  let o ← value.asObject field
  let name ← o.requireString field "name"
  let type ← ExtractionType.read o field
  let domain ← o.requireString field "domain"
  let path ← o.keyedString field ["path", "pathPattern"]
  let declared ← o.keyedString field ["suggestedRegex", "suggestedPattern"]
  checkPath field path
  let (key, pattern) ← choosePattern field domain declared path
  let matcher ← compilePattern pattern (field.key key)
  let testPages ← Json.stringList ((o.lookup? ["testPages"]).map (·.2)) (field.key "testPages")
  PagePattern.checkTestPages name matcher testPages
  let author ← Author.read (o.get? "author") (field.key "author")
  let description ← o.optionalString field ["description"]
  pure { name, type, domain, pathPattern := path.map (·.2), pattern, matcher, testPages, author,
         description := description.getD "" }

end RuleInfo

namespace RuleDocument

def readRedirect (o : Members) : Except Fault (Option Redirect) :=
  match o.lookup? ["redirect"] with
  | some (key, value) => return some (← Redirect.read value (.at_ key))
  | none => .ok none

/-- A document must say whom it is about and have rules of its own. -/
def read (value : Json) : Except Fault RuleDocument :=
  if !value.isPresent then .error (.missing (.at_ "document"))
  else do
    let o ← value.asObject (.at_ "document")
    let info ← match o.lookup? ["info"] with
      | some (key, value) => RuleInfo.read value (.at_ key)
      | none => .error (.missing (.at_ "info"))
    let rules ← match o.lookup? ["rules"] with
      | some (key, value) => Rule.readAll value (.at_ key)
      | none => .error (.missing (.at_ "rules"))
    let redirect ← readRedirect o
    pure { info, rules := Rule.withBuiltIn rules, redirect }

/-- Whether the document handles the page of an address. -/
def handles (d : RuleDocument) (url : String) : Bool :=
  d.info.matcher.isMatch url

end RuleDocument

end PageRecords
