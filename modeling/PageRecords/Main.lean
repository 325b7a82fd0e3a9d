import PageRecords.Command.Run
import PageRecords.Files.Tree

/-!
# The program

Reads the files that the command line names, runs it on them, and prints what comes of
it.
-/

namespace PageRecords.Program

/-- What an error of the system means. -/
def fileError : IO.Error → FileError
  | .noFileOrDirectory .. => .notFound
  | .inappropriateType _ code details =>
    if code = 20 then .notDirectory else if code = 21 then .isDirectory else .other details
  | e => .other (toString e)

def readText (path : String) : IO (Except FileError String) := do
  try
    match String.fromUTF8? (← IO.FS.readBinFile path) with
    | some text => return .ok text
    | none => return .error .notText
  catch e => return .error (fileError e)

/-- The names of the regular files in a directory. -/
def readNames (dir : String) : IO (Except FileError (List String)) := do
  if dir.isEmpty then return .error .notFound
  else
    try
      let mut names := #[]
      for e in ← ((← IO.currentDir) / dir).readDir do
        if (← e.path.metadata).type == .file then names := names.push e.fileName
      return .ok names.toList
    catch e => return .error (fileError e)

/-- The files that a command reads, and the directory that it lists. -/
def sources (config : Config) : Command → List String × Option String
  | .check paths => (paths, none)
  | .extract rules html _ _ => ([rules, html], none)
  | .find dir _ => ([], some (dir.getD config.rulesDir))

/-- The files of a command, read once. -/
def readFiles (config : Config) (c : Command) : IO Files := do
  let (paths, dir?) := sources config c
  let names ← match dir? with
    | some dir => readNames dir
    | none => pure (.ok [])
  let documents := match dir?, names with
    | some dir, .ok names => (Registry.documentNames names).map (Path.join dir)
    | _, _ => []
  let texts ← (paths ++ documents).mapM fun path => return (path, ← readText path)
  return ⟨fun path => (texts.lookup path).getD (.error .notFound), fun _ => names⟩

/-- Reads nothing unless the line asks for a command and the environment is sound. -/
def filesOf (request : Request) (env : String → Option String) : IO Files := do
  match request, Config.ofEnv env with
  | .command c, .ok config => readFiles config c
  | _, _ => return FileTree.empty.files

end PageRecords.Program

open PageRecords in
def main (args : List String) : IO UInt32 := do
  let names := [Config.rulesDirVariable, Config.logFormatVariable]
  let values ← names.mapM fun name => return (name, ← IO.getEnv name)
  let env (name : String) : Option String := (values.lookup name).join
  let request := Request.ofArguments args
  let outcome := request.run (← Program.filesOf request env) env
  IO.print outcome.output
  match outcome.error with
  | some e => IO.eprintln ("Error: " ++ e)
  | none => if outcome.exitCode = 2 then IO.eprint Request.generalHelp
  return UInt32.ofNat outcome.exitCode
