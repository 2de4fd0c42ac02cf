import MarkupPad.Library.Basic
import MarkupPad.Project
import MarkupPad.Text.Blank
import MarkupPad.Text.Count
import MarkupPad.Text.LowerCase

/-!
# Commands

A command does what no key does: it switches the buffer, points at a suggestion, selects,
adds libraries and templates, and turns features on and off.  It is written as words: its
name, in whatever case, and its arguments.  More words than a command needs are ignored.
-/

namespace MarkupPad

/-- What a host can be told to do. -/
inductive Command where
  | switchTo (facet : Facet)
  | hover (index : Nat)
  | click (index : Nat)
  | select (start stop : Nat)
  /-- Toggle a library of the catalog. -/
  | library (id : Text)
  /-- Add the library at an address. -/
  | customLibrary (kind : LibraryKind) (url name : Text)
  /-- Append a template. -/
  | template (id : Text)
  | autoClose (on : Bool)
  | predictions (on : Bool)
  deriving Repr, DecidableEq

/-- Why a text is no command. -/
inductive CommandError where
  /-- There are no words. -/
  | empty
  | missingArgument (what : Text)
  | invalidArgument (argument : Text)
  | unknown (name : Text)
  deriving Repr, DecidableEq

/-- The wording of an error. -/
def CommandError.message : CommandError → Text
  | empty => "Invalid command: Empty command".toList
  | missingArgument what => "Missing argument: ".toList ++ what
  | invalidArgument argument => "Invalid argument: ".toList ++ argument
  | unknown name => "Unknown command: ".toList ++ name

namespace Command

open Text

/-! ## Arguments -/

/-- The first argument and the others. -/
def argument (what : String) : List Text → Except CommandError (Text × List Text)
  | [] => .error (.missingArgument what.toList)
  | word :: rest => .ok (word, rest)

/-- The value that `read?` gives to an argument. -/
def readAs {α : Type} (read? : Text → Option α) (word : Text) : Except CommandError α :=
  match read? word with
  | none => .error (.invalidArgument word)
  | some value => .ok value

/-- The first argument as a count, and the others. -/
def count (what : String) (arguments : List Text) : Except CommandError (Nat × List Text) := do
  let (word, rest) ← argument what arguments
  return (← readAs count? word, rest)

/-- The words for on and off. -/
def switchOf? (word : Text) : Option Bool :=
  if ["on", "true", "1"].any (·.toList = word) then some true
  else if ["off", "false", "0"].any (·.toList = word) then some false
  else none

/-- The first argument as on or off. -/
def switch (arguments : List Text) : Except CommandError Bool := do
  let (word, _) ← argument "on or off" arguments
  readAs switchOf? (lower word)

/-! ## Reading -/

/-- A selection; a caret if there is one offset only. -/
def selectOf (arguments : List Text) : Except CommandError Command := do
  let (start, rest) ← count "selection start" arguments
  if rest = [] then return .select start start
  let (stop, _) ← count "selection end" rest
  return .select start stop

/-- A library at an address.  The words after the address are its name; without any the
address is. -/
def customLibraryOf (arguments : List Text) : Except CommandError Command := do
  let (word, rest) ← argument "library kind (css, js)" arguments
  let kind ← readAs LibraryKind.ofName? (lower word)
  let (url, rest) ← argument "library url" rest
  return .customLibrary kind url (if rest = [] then url else join [' '] rest)

/-- The command of a name in small letters. -/
def ofWords (name : Text) (arguments : List Text) : Except CommandError Command :=
  match String.ofList name with
  | "facet" | "tab" => do
    let (word, _) ← argument "facet (markup, style, script)" arguments
    return .switchTo (← readAs Facet.ofName? word)
  | "hover" => return .hover (← count "suggestion index" arguments).1
  | "click" => return .click (← count "suggestion index" arguments).1
  | "select" => selectOf arguments
  | "library" | "lib" => return .library (← argument "library id" arguments).1
  | "library-url" => customLibraryOf arguments
  | "skeleton" => return .template (← argument "skeleton id" arguments).1
  | "autoclose" => return .autoClose (← switch arguments)
  | "predictions" => return .predictions (← switch arguments)
  | _ => .error (.unknown name)

/-- The command that a text stands for. -/
def ofText (t : Text) : Except CommandError Command :=
  match words t with
  | [] => .error .empty
  | name :: arguments => ofWords (lower name) arguments

end Command

end MarkupPad
