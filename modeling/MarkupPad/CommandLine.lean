import MarkupPad.File.Path
import MarkupPad.File.System
import MarkupPad.Session
import MarkupPad.Text.Count

/-!
# The command line

The program runs a script and writes the page of the project, or prints it.  Arguments are
read in order, and so are the files that they name; the first thing that is wrong ends the
program.
-/

namespace MarkupPad.CommandLine

/-! ## Arguments -/

/-- What an argument asks for. -/
inductive Flag where
  | script (path : Text)
  | settings (path : Text)
  | out (path : Text)
  | name (name : Text)
  | maxSteps (count : Nat)
  | snapshot
  | help
  deriving Repr, DecidableEq

/-- What is wrong with the arguments. -/
inductive UsageError where
  | unknownOption (argument : Text)
  | missingValue (option : String)
  | invalidMaxSteps (value : Text)
  | unreadableScript (error : FileError)
  | unreadableSettings (error : FileError)
  deriving Repr, DecidableEq

/-- The wording of an error. -/
def UsageError.message : UsageError → Text
  | unknownOption argument => "Unknown option: ".toList ++ argument
  | missingValue option => "Missing value for ".toList ++ option.toList
  | invalidMaxSteps value => "Invalid max-steps value: ".toList ++ value
  | unreadableScript error => "Failed to read script file: ".toList ++ error.message
  | unreadableSettings error => "Failed to read settings file: ".toList ++ error.message

/-- The full name of an option that takes a value. -/
def valueOption? (argument : Text) : Option String :=
  match String.ofList argument with
  | "--script" | "-s" => some "--script"
  | "--settings" => some "--settings"
  | "--out" | "-o" => some "--out"
  | "--name" => some "--name"
  | "--max-steps" => some "--max-steps"
  | _ => none

/-- What an option asks for with its value. -/
def ofValue (option : String) (value : Text) : Except UsageError Flag :=
  match option with
  | "--script" => .ok (.script value)
  | "--settings" => .ok (.settings value)
  | "--out" => .ok (.out value)
  | "--name" => .ok (.name value)
  | _ =>
    match Text.count? value with
    | none => .error (.invalidMaxSteps value)
    | some count => .ok (.maxSteps count)

/-- What an argument without a value asks for. -/
def ofSwitch (argument : Text) : Except UsageError Flag :=
  match String.ofList argument with
  | "--snapshot" => .ok .snapshot
  | "--help" | "-h" => .ok .help
  | _ => .error (.unknownOption argument)

/-- The flags before the first argument that is wrong, and what is wrong with it. -/
def flags : List Text → List Flag × Option UsageError
  | [] => ([], none)
  | argument :: rest =>
    match valueOption? argument with
    | none =>
      match ofSwitch argument with
      | .error error => ([], some error)
      | .ok flag =>
        let (more, error) := flags rest
        (flag :: more, error)
    | some option =>
      match rest with
      | [] => ([], some (.missingValue option))
      | value :: rest =>
        match ofValue option value with
        | .error error => ([], some error)
        | .ok flag =>
          let (more, error) := flags rest
          (flag :: more, error)

/-! ## Options -/

/-- All that the arguments say. -/
structure Options where
  script : Option Text
  settings : Option ByteArray
  out : Option Text
  name : Text
  maxSteps : Nat
  snapshot : Bool

/-- What holds when nothing is said. -/
def Options.default : Options where
  script := none
  settings := none
  out := none
  name := []
  maxSteps := 0
  snapshot := false

/-- What the arguments come to. -/
inductive Request where
  | run (options : Options)
  | help
  | wrong (error : UsageError)

variable {m : Type → Type} [Monad m]

/-- The options that flags make up, with the files that they name.  What is wrong with the
arguments behind the flags counts only when the flags themselves are right. -/
def request (files : FileSystem m) (error : Option UsageError) (options : Options) :
    List Flag → m Request
  | [] =>
    match error with
    | none => return .run options
    | some error => return .wrong error
  | .help :: _ => return .help
  | .script path :: flags => do
    match ← files.readText path with
    | .error error => return .wrong (.unreadableScript error)
    | .ok t => request files error { options with script := some t } flags
  | .settings path :: flags => do
    match ← files.read path with
    | .error error => return .wrong (.unreadableSettings error)
    | .ok bytes => request files error { options with settings := some bytes } flags
  | .out path :: flags => request files error { options with out := some path } flags
  | .name name :: flags => request files error { options with name := name } flags
  | .maxSteps count :: flags => request files error { options with maxSteps := count } flags
  | .snapshot :: flags => request files error { options with snapshot := true } flags

/-! ## Running -/

/-- What the program leaves behind besides files. -/
structure Result where
  code : Nat
  output : Text
  errors : Text
  deriving Repr, DecidableEq

/-- A line of text. -/
def line (t : Text) : Text := t ++ ['\n']

/-- How to call the program. -/
def usage (program : Text) : Text := ([
  "Usage: ".toList ++ program ++ " [OPTIONS]".toList,
  [],
  "Options:".toList,
  "  -s, --script <FILE>      Input script file".toList,
  "  --settings <FILE>        Settings overrides (JSON)".toList,
  "  -o, --out <PATH>         Export file, or directory (see --name)".toList,
  "  --name <NAME>            Project name for the export file".toList,
  "  --max-steps <N>          Maximum steps to run (0 = unlimited)".toList,
  "  --snapshot               Print the final editor snapshot as JSON".toList,
  "  -h, --help               Show this help message".toList,
  [],
  "Without --out the exported document goes to stdout.".toList,
  [],
  "Examples:".toList,
  "  ".toList ++ program ++ " --script playgroundd/scripts/demo.pgkeys".toList,
  "  ".toList ++ program ++ " -s demo.pgkeys --out site/ --name landing --snapshot".toList]
  ).flatMap line

/-- The end of a run that has failed. -/
def failure (reason : Text) : Result := ⟨1, [], line reason⟩

/-- The end of a run that has gone well. -/
def success (output : Text) : Result := ⟨0, output, []⟩

/-- Writes the page of a session to where the options say, if they do. -/
def write (files : FileSystem m) (options : Options) (page : Text) : m (Option FileError) := do
  match options.out with
  | none => return none
  | some out =>
    let isDirectory ← files.isDirectory out
    files.write (Path.target isDirectory out options.name) page.bytes

/-- What is printed for a session. -/
def printed (options : Options) (s : Session) : Text :=
  if options.snapshot then line s.snapshotText
  else if options.out.isSome then []
  else s.page

/-- The script runs, the page is written, and what remains is printed. -/
def finish (files : FileSystem m) (options : Options) (s : Session) : m Result := do
  match s.run? options.maxSteps with
  | none => return failure "Runtime error: selection out of range".toList
  | some s =>
    match ← write files options s.page with
    | some error => return failure ("Failed to write export: I/O error: ".toList ++ error.message)
    | none => return success (printed options s)

/-- The program with its name and its arguments. -/
def run (files : FileSystem m) (program : Text) (arguments : List Text)
    (services : Services := .standard) : m Result := do
  let (flags, error) := flags arguments
  match ← request files error .default flags with
  | .help => return ⟨0, [], usage program⟩
  | .wrong error => return ⟨1, [], line ("Error: ".toList ++ error.message) ++ usage program⟩
  | .run options =>
    match Session.start options.script options.settings services with
    | .error error =>
      let reason := options.settings.bind services.reason
      return failure ("Failed to create runtime: ".toList ++ error.message reason)
    | .ok s => finish files options s

end MarkupPad.CommandLine
