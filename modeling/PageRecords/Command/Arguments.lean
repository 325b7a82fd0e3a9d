/-!
# Command lines

What the words of a command line ask for. Options may stand anywhere behind their
command, and two hyphens end them.
-/

namespace PageRecords

inductive Command where
  /-- Validates documents and shows their patterns. -/
  | check (files : List String)
  /-- Takes a record from a page in a file. -/
  | extract (rules html : String) (url : Option String) (isPretty : Bool)
  /-- Finds the document that handles an address. -/
  | find (rulesDir : Option String) (url : String)
deriving DecidableEq, Repr, Inhabited

/-- What a command line comes to. -/
inductive Request where
  | command (c : Command)
  | version
  | help (text : String)
  | misuse
deriving DecidableEq, Repr, Inhabited

namespace Request

-- --------------------------------------------------------------------
-- Help
-- --------------------------------------------------------------------

def generalHelp : String :=
  "Validate rule documents and extract records from HTML pages

Usage: pagerule <COMMAND>

Commands:
  check    Validate rule documents and print their effective URL patterns
  extract  Evaluate a rule document against an HTML file and print the record as JSON
  find     Find the registered parser that handles a URL
  help     Print this message or the help of the given subcommand(s)

Options:
  -h, --help     Print help
  -V, --version  Print version
"

def checkHelp : String :=
  "Validate rule documents and print their effective URL patterns

Usage: pagerule check <FILES>...

Arguments:
  <FILES>...  Rule documents (YAML or JSON)

Options:
  -h, --help  Print help
"

def extractHelp : String :=
  "Evaluate a rule document against an HTML file and print the record as JSON

Usage: pagerule extract [OPTIONS] --rules <RULES> --html <HTML>

Options:
      --rules <RULES>  Rule document (YAML or JSON)
      --html <HTML>    HTML page to evaluate
      --url <URL>      Page URL; must match the document and adds BASE_URL / FULL_URL
      --pretty         Pretty-print the JSON output
  -h, --help           Print help
"

def findHelp : String :=
  "Find the registered parser that handles a URL

Usage: pagerule find [OPTIONS] <URL>

Arguments:
  <URL>

Options:
      --rules-dir <RULES_DIR>  Directory of rule documents (defaults to PAGERULE_RULES_DIR)
  -h, --help                   Print help
"

-- --------------------------------------------------------------------
-- Options
-- --------------------------------------------------------------------

/-- An option of a command. -/
structure OptionRule where
  name : String
  /-- It has a value; otherwise it is only given or not. -/
  hasValue : Bool
  /-- Its value may be empty. -/
  mayBeEmpty : Bool

/-- What a command takes besides options. -/
structure OperandRule where
  /-- How many there may be, unless any number may. -/
  atMost : Option Nat
  mayBeEmpty : Bool

/-- What is read of a command's words, each list with the latest first. -/
structure Words where
  options : List (String × String)
  operands : List String

/-- Why reading stops before the end. -/
inductive Stop where
  | help
  | misuse
deriving DecidableEq, Repr

/-- Whether a word is an option. A lone hyphen is none. -/
def isOption (word : String) : Bool := word.startsWith "-" && word ≠ "-"

/-- Stores an option that is given for the first time. -/
def Words.give (w : Words) (o : OptionRule) (value : String) : Except Stop Words :=
  if (w.options.lookup o.name).isSome || (o.hasValue && !o.mayBeEmpty && value.isEmpty) then
    .error .misuse
  else .ok { w with options := (o.name, value) :: w.options }

/-- Stores an operand, if there is room for one more. -/
def Words.add (w : Words) (o : OperandRule) (word : String) : Except Stop Words :=
  if (word.isEmpty && !o.mayBeEmpty) || o.atMost.any (w.operands.length ≥ ·) then .error .misuse
  else .ok { w with operands := word :: w.operands }

/-- The name of a long option, and a value that an equals sign joins to it. -/
def longOption (word : String) : String × Option String :=
  let cs := word.toList.drop 2
  let name := String.ofList (cs.takeWhile (· ≠ '='))
  match cs.dropWhile (· ≠ '=') with
  | _ :: value => (name, some (String.ofList value))
  | [] => (name, none)

/-- Reads a word that is no value: an option that is complete, an option that waits for
its value, or an operand. -/
def Words.read (w : Words) (rules : List OptionRule) (operands : OperandRule) (word : String) :
    Except Stop (Words × Option OptionRule) :=
  if word.startsWith "--" then
    let (name, value) := longOption word
    if name = "help" && value.isNone then .error .help
    else
      match rules.find? (·.name = name), value with
      | none, _ => .error .misuse
      | some o, some v =>
        if o.hasValue then (w.give o v).map (·, none) else .error .misuse
      | some o, none =>
        if o.hasValue then .ok (w, some o) else (w.give o "").map (·, none)
  else if isOption word then .error (if word.startsWith "-h" then .help else .misuse)
  else (w.add operands word).map (·, none)

/-- Reads words up to the end; `waiting` is an option whose value comes next. -/
def Words.readAll (w : Words) (rules : List OptionRule) (operands : OperandRule)
    (waiting : Option OptionRule) : List String → Except Stop Words
  | [] => if waiting.isSome then .error .misuse else .ok w
  | word :: rest =>
    match waiting with
    | some o =>
      if isOption word then .error .misuse
      else do (← w.give o word).readAll rules operands none rest
    | none =>
      if word = "--" then rest.foldlM (·.add operands ·) w
      else do
        let (w, waiting) ← w.read rules operands word
        w.readAll rules operands waiting rest

/-- The request of a command's words. -/
def ofWords (help : String) (rules : List OptionRule) (operands : OperandRule)
    (command? : Words → Option Command) (words : List String) : Request :=
  match Words.readAll ⟨[], []⟩ rules operands none words with
  | .error .help => .help help
  | .error .misuse => .misuse
  | .ok w =>
    match command? w with
    | some c => .command c
    | none => .misuse

-- --------------------------------------------------------------------
-- Commands
-- --------------------------------------------------------------------

def check? (w : Words) : Option Command :=
  if w.operands.isEmpty then none else some (.check w.operands.reverse)

def extract? (w : Words) : Option Command := do
  let rules ← w.options.lookup "rules"
  let html ← w.options.lookup "html"
  return .extract rules html (w.options.lookup "url") (w.options.lookup "pretty").isSome

def find? (w : Words) : Option Command :=
  match w.operands with
  | [url] => some (.find (w.options.lookup "rules-dir") url)
  | _ => none

def extractOptions : List OptionRule :=
  [⟨"rules", true, false⟩, ⟨"html", true, false⟩, ⟨"url", true, true⟩, ⟨"pretty", false, false⟩]

def findOptions : List OptionRule := [⟨"rules-dir", true, false⟩]

/-- The help on a command. -/
def helpOn : List String → Request
  | [] => .help generalHelp
  | ["check"] => .help checkHelp
  | ["extract"] => .help extractHelp
  | ["find"] => .help findHelp
  | ["help"] => .help generalHelp
  | _ => .misuse

/-- The request of a whole command line. -/
def ofArguments : List String → Request
  | [] => .misuse
  | "check" :: words => ofWords checkHelp [] ⟨none, false⟩ check? words
  | "extract" :: words => ofWords extractHelp extractOptions ⟨some 0, false⟩ extract? words
  | "find" :: words => ofWords findHelp findOptions ⟨some 1, true⟩ find? words
  | "help" :: words => helpOn words
  | word :: _ =>
    if word = "--version" then .version
    else if word = "--help" then .help generalHelp
    else if word.startsWith "--" then .misuse
    else if word.startsWith "-V" then .version
    else if word.startsWith "-h" then .help generalHelp
    else .misuse

end Request

end PageRecords
