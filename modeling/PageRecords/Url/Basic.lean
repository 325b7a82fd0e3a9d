import PageRecords.Url.Form
import PageRecords.Url.Host

/-!
# Addresses of pages

An address in its parts, each in the form in which it is printed.
-/

namespace PageRecords

namespace Url

/-- What stands between two slashes and the path. -/
structure Authority where
  username : String
  password : String
  host : Host
  /-- Left out where it is the scheme's own. -/
  port : Option Nat
deriving DecidableEq, Repr, Inhabited

inductive Path where
  /-- Each segment has a slash before it. -/
  | rooted (segments : List String)
  | rootless (text : String)
deriving DecidableEq, Repr, Inhabited

/-- How addresses of a scheme are read. -/
inductive SchemeKind where
  | web
  | file
  | other
deriving DecidableEq, Repr

def SchemeKind.of (scheme : String) : SchemeKind :=
  if ["http", "https", "ws", "wss", "ftp"].contains scheme then .web
  else if scheme = "file" then .file
  else .other

/-- Schemes under which a backslash is as good as a slash, and the path is never empty. -/
def SchemeKind.isSpecial (k : SchemeKind) : Bool := k ≠ .other

def defaultPort? (scheme : String) : Option Nat :=
  if scheme = "http" ∨ scheme = "ws" then some 80
  else if scheme = "https" ∨ scheme = "wss" then some 443
  else if scheme = "ftp" then some 21
  else none

end Url

structure Url where
  scheme : String
  authority : Option Url.Authority
  path : Url.Path
  query : Option String
  fragment : Option String
deriving DecidableEq, Repr, Inhabited

namespace Url

-- --------------------------------------------------------------------
-- Printing
-- --------------------------------------------------------------------

def Authority.portText (a : Authority) : String :=
  match a.port with
  | some n => ":" ++ toString n
  | none => ""

def Authority.credentials (a : Authority) : String :=
  if a.username.isEmpty && a.password.isEmpty then ""
  else if a.password.isEmpty then a.username ++ "@"
  else a.username ++ ":" ++ a.password ++ "@"

def Authority.text (a : Authority) : String :=
  "//" ++ a.credentials ++ a.host.text ++ a.portText

def Path.text : Path → String
  | .rooted segments => String.join (segments.map ("/" ++ ·))
  | .rootless text => text

/-- What keeps a path that starts with two slashes from reading as an authority. -/
def Path.guard : Path → String
  | .rooted ("" :: _ :: _) => "/."
  | _ => ""

def hierarchy (u : Url) : String :=
  match u.authority with
  | some a => a.text ++ u.path.text
  | none => u.path.guard ++ u.path.text

def marked (mark : String) : Option String → String
  | some text => mark ++ text
  | none => ""

/-- The whole address. -/
def text (u : Url) : String :=
  u.scheme ++ ":" ++ u.hierarchy ++ marked "?" u.query ++ marked "#" u.fragment

-- --------------------------------------------------------------------
-- Query
-- --------------------------------------------------------------------

def pairs (u : Url) : Form.Pairs := Form.read (u.query.getD "").toList

/-- The address with the pairs for its query. -/
def withPairs (u : Url) (ps : Form.Pairs) : Url :=
  { u with query := some (String.ofList (Form.write ps)) }

end Url

end PageRecords
