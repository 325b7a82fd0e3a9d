/-!
# Failures

A rule fails when one of its selectors is malformed. The rules beside it go on.
-/

namespace PageRecords

/-- A selector that cannot be read. -/
structure BadSelector where
  selector : String
deriving DecidableEq, Repr, Inhabited

def BadSelector.message (b : BadSelector) : String := "invalid selector: " ++ b.selector

structure Failure where
  /-- The names of the rules from the document down to the one that failed. -/
  path : List String
  cause : BadSelector
deriving DecidableEq, Repr, Inhabited

namespace Failure

def rule (f : Failure) : String := ".".intercalate f.path

/-- The rule is one of the document itself. -/
def isTopLevel (f : Failure) : Bool := f.path.length = 1

def message (f : Failure) : String := "rule '" ++ f.rule ++ "': " ++ f.cause.message

end Failure

end PageRecords
