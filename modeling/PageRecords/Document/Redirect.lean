import PageRecords.Document.Basic
import PageRecords.Url.Forced
import PageRecords.Url.Parser

/-!
# Redirects

Where a page has to be fetched from when its address lacks query parameters that its
document requires.
-/

namespace PageRecords

/-- The address to go to instead, or none if this one will do. -/
def Redirect.target? (r : Redirect) (u : Url) : Option Url := u.forced? r.required

/-- The address to go to instead of one. Without required parameters the address is
not even read. -/
def RuleDocument.redirectTarget (d : RuleDocument) (address : String) :
    Except Url.Error (Option Url) :=
  match d.redirect with
  | some r => (Url.parse address).map r.target?
  | none => .ok none

end PageRecords
