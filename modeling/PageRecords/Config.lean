import PageRecords.Files.Basic
import PageRecords.Unicode.Class

/-!
# Configuration

What the command line takes from its environment: the directory of the rule documents
and the format of the log.
-/

namespace PageRecords

inductive LogFormat where
  | text
  | json
deriving DecidableEq, Repr, Inhabited

def LogFormat.name : LogFormat → String
  | .text => "text"
  | .json => "json"

structure Config where
  rulesDir : String
  logFormat : LogFormat
deriving DecidableEq, Repr, Inhabited

namespace Config

def rulesDirVariable : String := "PAGERULE_RULES_DIR"

def logFormatVariable : String := "PAGERULE_LOG_FORMAT"

def default : Config := ⟨"rules", .text⟩

/-- The variable of the log format has a value that is none. -/
structure Error where
  value : String
deriving DecidableEq, Repr

def Error.message (e : Error) : String :=
  "invalid value for '" ++ logFormatVariable ++ "': expected 'text' or 'json', got '" ++ e.value
    ++ "'"

end Config

/-- The format that a text names, whatever its case and the blanks around it. -/
def LogFormat.read (s : String) : Except Config.Error LogFormat :=
  let isBlank (c : Char) : Bool := Unicode.Class.space.contains c
  let trimmed := ((s.toList.dropWhile isBlank).reverse.dropWhile isBlank).reverse
  match String.ofList (trimmed.map Char.toLower) with
  | "text" => .ok .text
  | "json" => .ok .json
  | other => .error ⟨other⟩

/-- The configuration of an environment: what it leaves out is as by default. -/
def Config.ofEnv (env : String → Option String) : Except Config.Error Config := do
  let rulesDir := (env rulesDirVariable).getD default.rulesDir
  match env logFormatVariable with
  | some value => return ⟨rulesDir, ← LogFormat.read value⟩
  | none => return ⟨rulesDir, default.logFormat⟩

/-- Whether a configuration says what the default does. -/
def Config.isDefault (c : Config) : Bool :=
  Path.same c.rulesDir default.rulesDir && c.logFormat = default.logFormat

end PageRecords
