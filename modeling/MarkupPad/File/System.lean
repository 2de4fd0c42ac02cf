import MarkupPad.Text.Symbols

/-!
# Access to files

What the program needs of a system of files, in whatever monad it runs: bytes are read and
written at a path.  An operation that fails gives its reason.
-/

namespace MarkupPad

/-- Why a file cannot be read or written. -/
inductive FileError where
  /-- The system refuses, with a description and a number of its own. -/
  | refused (description : Text) (number : Nat)
  /-- The bytes are no text. -/
  | notText
  deriving Repr, DecidableEq

namespace FileError

/-- There is nothing at the path. -/
def missing : FileError := refused "No such file or directory".toList 2

/-- A path goes on behind a file. -/
def notDirectory : FileError := refused "Not a directory".toList 20

/-- There is a directory at the path. -/
def isDirectory : FileError := refused "Is a directory".toList 21

/-- A name has more than 255 bytes. -/
def nameTooLong : FileError := refused "File name too long".toList 36

/-- The wording of an error. -/
def message : FileError → Text
  | refused description number =>
    description ++ " (os error ".toList ++ Nat.toDigits 10 number ++ [')']
  | notText => "stream did not contain valid UTF-8".toList

end FileError

/-- The operations of a system of files. -/
structure FileSystem (m : Type → Type) where
  read : Text → m (Except FileError ByteArray)
  isDirectory : Text → m Bool
  /-- Writes a file in place of whatever it held; `none` when all went well. -/
  write : Text → ByteArray → m (Option FileError)

namespace FileSystem

/-- A file as a text. -/
def readText {m : Type → Type} [Monad m] (files : FileSystem m) (path : Text) :
    m (Except FileError Text) := do
  match ← files.read path with
  | .error error => return .error error
  | .ok bytes =>
    match Text.ofBytes? bytes with
    | none => return .error .notText
    | some t => return .ok t

end FileSystem

end MarkupPad
