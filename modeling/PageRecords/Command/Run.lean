import PageRecords.Command.Arguments
import PageRecords.Config
import PageRecords.Document.Redirect
import PageRecords.Extract.PageTokens
import PageRecords.Extract.Rule
import PageRecords.Json.Printer
import PageRecords.Registry.Basic

/-!
# Running commands

What a command prints, and the error that ends it. Lines that are printed before an
error stay printed.
-/

namespace PageRecords

/-- What comes of a command line. -/
structure Outcome where
  output : String
  exitCode : Nat
  error : Option String
deriving DecidableEq, Repr, Inhabited

namespace Outcome

def success (output : String) : Outcome := ⟨output, 0, none⟩

def failure (output error : String) : Outcome := ⟨output, 1, some error⟩

end Outcome

def programVersion : String := "0.1.0"

namespace Command

/-- The line that shows a document. -/
def summary (path : String) (d : RuleDocument) : String :=
  path ++ ": " ++ d.name ++ " (" ++ d.info.type.name ++ ") " ++ d.info.pattern ++ "\n"

def runCheck (files : Files) (paths : List String) : Outcome :=
  let loaded := paths.map fun path => (path, RuleDocument.load files path)
  let output := String.join (loaded.map fun (path, d) =>
    match d with
    | .ok d => summary path d
    | .error _ => "")
  let invalid := loaded.countP fun (_, d) =>
    match d with
    | .ok _ => false
    | .error _ => true
  if invalid = 0 then .success output
  else
    .failure output
      (toString invalid ++ " of " ++ toString paths.length ++ " documents are invalid")

/-- The address of the page, if the document handles it. -/
def pageUrl (d : RuleDocument) (url : String) : Except String Url :=
  if !d.handles url then .error ("parser '" ++ d.name ++ "' does not handle " ++ url)
  else (Url.parse url).mapError fun _ => "invalid page URL " ++ url

/-- The record of a page, as it is printed. -/
def extracted (files : Files) (rules html : String) (url : Option String) (isPretty : Bool) :
    Except String String := do
  let d ← (RuleDocument.load files rules).mapError (·.message)
  let page ← (files.text html).mapError fun _ => "failed to read " ++ html
  let url ← url.mapM (pageUrl d)
  let e ← (d.extract page).mapError (·.message)
  let record := match url with
    | some u => e.record.withPageUrls u
    | none => e.record
  let json := record.toJson
  return (if isPretty then json.pretty 0 else json.compact) ++ "\n"

def runExtract (files : Files) (rules html : String) (url : Option String) (isPretty : Bool) :
    Outcome :=
  match extracted files rules html url isPretty with
  | .ok text => .success text
  | .error e => .failure "" e

def runFind (files : Files) (dir url : String) : Outcome :=
  match Registry.empty.loadDir files dir with
  | (_, .error e) => .failure "" e.message
  | (r, .ok _) =>
    match r.find? url with
    | none => .failure "" ("none of " ++ toString r.size ++ " parsers handles " ++ url)
    | some d =>
      match d.redirectTarget url with
      | .ok none => .success (d.name ++ "\n")
      | .ok (some target) => .success (d.name ++ "\nredirect: " ++ target.text ++ "\n")
      | .error e => .failure (d.name ++ "\n") e.message

def run (files : Files) (config : Config) : Command → Outcome
  | .check paths => runCheck files paths
  | .extract rules html url isPretty => runExtract files rules html url isPretty
  | .find dir url => runFind files (dir.getD config.rulesDir) url

end Command

/-- Runs a command line. The environment only counts once the line asks for a command. -/
def Request.run (files : Files) (env : String → Option String) : Request → Outcome
  | .misuse => ⟨"", 2, none⟩
  | .version => .success ("pagerule " ++ programVersion ++ "\n")
  | .help text => .success text
  | .command c =>
    match Config.ofEnv env with
    | .error e => .failure "" e.message
    | .ok config => c.run files config

end PageRecords
