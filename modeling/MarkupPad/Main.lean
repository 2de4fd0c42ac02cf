import MarkupPad.CommandLine

/-!
# The program

The command line on the files of the system.
-/

namespace MarkupPad

/-- The reason that the system gives for an error. -/
def fileErrorOf : IO.Error → FileError
  | .noFileOrDirectory _ number description
  | .interrupted _ number description
  | .alreadyExists _ number description
  | .invalidArgument _ number description
  | .permissionDenied _ number description
  | .resourceExhausted _ number description
  | .inappropriateType _ number description
  | .noSuchThing _ number description
  | .otherError number description
  | .resourceBusy number description
  | .resourceVanished number description
  | .unsupportedOperation number description
  | .hardwareFault number description
  | .unsatisfiedConstraints number description
  | .illegalOperation number description
  | .protocolError number description
  | .timeExpired number description => .refused description.toList number.toNat
  | .unexpectedEof => .refused "Input/output error".toList 5
  | .userError description => .refused description.toList 0

/-- The files of the system. -/
def systemFiles : FileSystem IO where
  read path := do
    try
      let file ← IO.FS.Handle.mk (String.ofList path) .read
      return .ok (← file.readBinToEnd)
    catch error => return .error (fileErrorOf error)
  isDirectory path := do
    if path = [] then return false
    return ← ((← IO.currentDir) / String.ofList path).isDir
  write path bytes := do
    try
      IO.FS.writeBinFile (String.ofList path) bytes
      return none
    catch error => return some (fileErrorOf error)

end MarkupPad

open MarkupPad in
/-- Runs the command line. -/
def main (arguments : List String) : IO UInt32 := do
  let result ← CommandLine.run systemFiles "playgroundd".toList (arguments.map String.toList)
  IO.print (String.ofList result.output)
  IO.eprint (String.ofList result.errors)
  return result.code.toUInt32
