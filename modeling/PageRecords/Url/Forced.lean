import PageRecords.Url.Basic

/-!
# Forced query pairs

A site may need certain names in the query, each with a certain value. Only the first
pair of a name counts. Forcing a value replaces the first pair of the name and drops
the later ones, or adds a pair at the end; all other pairs stay as they are.
-/

namespace PageRecords.Url

namespace Form.Pairs

/-- Whether the first pair of a name has a value. -/
def carries (ps : Pairs) (required : String × String) : Bool :=
  ps.lookup required.1 = some required.2

/-- Gives a name its value. -/
def put (required : String × String) : Pairs → Pairs
  | [] => [required]
  | p :: rest =>
    if p.1 = required.1 then required :: rest.filter (·.1 ≠ required.1)
    else p :: put required rest

/-- Gives a name its value where it does not have it. -/
def force (ps : Pairs) (required : String × String) : Pairs :=
  if carries ps required then ps else put required ps

end Form.Pairs

open Form (Pairs)

/-- The address with all required pairs forced, or none if it carries them already. -/
def forced? (u : Url) (required : Pairs) : Option Url :=
  if required.all (Pairs.carries u.pairs) then none
  else some (u.withPairs (required.foldl Pairs.force u.pairs))

end PageRecords.Url
