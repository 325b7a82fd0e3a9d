import PageRecords.Document.Reader
import PageRecords.Files.Basic
import PageRecords.Yaml.Document

/-!
# Loading documents

A rule document from its text or its file.
-/

namespace PageRecords

/-- Why a document cannot be loaded, each with the path it was to come from. -/
inductive LoadError where
  | unreadable (path : String) (cause : FileError)
  | undecodable (path : String)
  | invalid (path : String) (fault : Fault)
deriving Repr

def LoadError.message : LoadError → String
  | .unreadable path cause => "failed to read " ++ path ++ ": " ++ cause.message
  | .undecodable path => "failed to decode " ++ path
  | .invalid path fault => "invalid rule document " ++ path ++ ": " ++ fault.message

namespace RuleDocument

/-- The document of a text. The path is only told in errors. -/
def parse (text path : String) : Except LoadError RuleDocument :=
  match Yaml.decode? text with
  | none => .error (.undecodable path)
  | some raw => (read raw).mapError (.invalid path)

/-- The document of a file. -/
def load (files : Files) (path : String) : Except LoadError RuleDocument :=
  match files.text path with
  | .error e => .error (.unreadable path e)
  | .ok text => parse text path

end RuleDocument

end PageRecords
