import MarkupPad.Command
import MarkupPad.Key
import MarkupPad.Text.Affix
import MarkupPad.Word

/-!
# Scripts

A script drives a session line by line.  A line is a command after a colon, a delay, a
quoted text to be typed, a single character, or a key with modifiers before it.  Blank
lines and lines that begin with `#` stand for nothing.

    Script.ofText t = .ok inputs        the inputs of all lines, in order, at least one
-/

namespace MarkupPad

/-- One step of a script. -/
inductive Input where
  | press (press : KeyPress)
  /-- Let the clock go on. -/
  | wait (delay : Nat)
  | command (command : Command)
  deriving Repr, DecidableEq

/-- What is wrong with a line. -/
inductive LineError where
  | command (error : CommandError)
  | delay (t : Text)
  | modifier (word : Text)
  | key (name : Text)
  deriving Repr, DecidableEq

/-- The wording of an error. -/
def LineError.message : LineError → Text
  | command error => error.message
  | delay t => "Invalid delay format: ".toList ++ t
  | modifier word => "Invalid modifier: ".toList ++ word
  | key name => "Invalid key name: ".toList ++ name

/-- Why a text is no script. -/
inductive ScriptError where
  /-- The first line that cannot be read, counted from 1. -/
  | line (number : Nat) (error : LineError)
  /-- No line stands for anything. -/
  | empty
  deriving Repr, DecidableEq

/-- The wording of an error. -/
def ScriptError.message : ScriptError → Text
  | line number error =>
    "Parse error at line ".toList ++ Nat.toDigits 10 number ++ ": ".toList ++ error.message
  | empty => "Empty script".toList

namespace Script

open Text

/-! ## Delays -/

/-- A delay in milliseconds or in whole seconds. -/
def delay? (t : Text) : Option Nat :=
  match dropEnd? ['m', 's'] t with
  | some digits => count? (trim digits)
  | none => do
    let seconds ← count? (trim (← dropEnd? ['s'] t))
    if seconds * 1000 < Word.limit then some (seconds * 1000) else none

/-! ## Quoted texts -/

/-- What stands between the quotes of a line that is quoted. -/
def unquote? : Text → Option Text
  | '"' :: t => dropEnd? ['"'] t
  | _ => none

/-- The keys that type a quoted text.  After a backslash `n` stands for Enter, `t` for Tab,
and any other character for itself. -/
def typed : Text → List Key
  | '\\' :: 'n' :: t => .enter :: typed t
  | '\\' :: 't' :: t => .tab :: typed t
  | '\\' :: c :: t => .char c :: typed t
  | c :: t => .char c :: typed t
  | [] => []

/-! ## Keys with modifiers -/

/-- The words for modifiers. -/
def modifierWords : List (String × Modifiers) := [
  ("ctrl", .ctrl), ("control", .ctrl), ("alt", .alt), ("option", .alt), ("shift", .shift),
  ("super", .command), ("meta", .command), ("cmd", .command)]

/-- The names of keys. -/
def keyNames : List (String × Key) := [
  ("enter", .enter), ("return", .enter), ("escape", .escape), ("esc", .escape),
  ("backspace", .backspace), ("back", .backspace), ("delete", .delete), ("del", .delete),
  ("tab", .tab), ("space", .char ' '), ("up", .up), ("arrowup", .up), ("down", .down),
  ("arrowdown", .down), ("left", .left), ("arrowleft", .left), ("right", .right),
  ("arrowright", .right), ("home", .home), ("end", .toEnd)]

/-- What a name stands for in a list. -/
def named? {α : Type} (names : List (String × α)) (name : Text) : Option α :=
  (names.find? fun (n, _) => n.toList = name).map (·.2)

/-- The modifier of a word, in whatever case. -/
def modifier (word : Text) : Except LineError Modifiers :=
  let word := lower (trim word)
  match named? modifierWords word with
  | none => .error (.modifier word)
  | some m => .ok m

/-- The modifiers of words. -/
def modifiers : List Text → Except LineError Modifiers
  | [] => .ok .none
  | word :: words => do
    let m ← modifier word
    return m.union (← modifiers words)

/-- The key of a name: a character, or a name in whatever case. -/
def key (name : Text) : Except LineError Key :=
  match name with
  | [c] => .ok (.char c)
  | _ =>
    match named? keyNames (lower name) with
    | none => .error (.key name)
    | some k => .ok k

/-- A line at its last plus: the modifiers and the key.  A plus at the very end after
another one is the key. -/
def splitPlus? (line : Text) : Option (Text × Text) :=
  match dropEnd? ['+', '+'] line with
  | some head => some (head, ['+'])
  | none => splitLast? '+' line

/-- The press of a key with the modifiers before it. -/
def press (line : Text) : Except LineError KeyPress :=
  match splitPlus? line with
  | none => return ⟨← key line, .none⟩
  | some (head, name) => do
    let modifiers ← modifiers (splitBy (· = '+') head)
    return ⟨← key (trim name), modifiers⟩

/-! ## Lines -/

/-- A key pressed without modifiers. -/
def plain (k : Key) : Input := .press (.plain k)

/-- The inputs of a line without blanks around it. -/
def ofTrimmedLine (line : Text) : Except LineError (List Input) :=
  match line with
  | [] | '#' :: _ => .ok []
  | ':' :: command =>
    match Command.ofText command with
    | .error error => .error (.command error)
    | .ok command => .ok [.command command]
  | [c] => .ok [plain (.char c)]
  | _ =>
    match dropFront? "wait ".toList line with
    | some t =>
      match delay? (trim t) with
      | none => .error (.delay (trim t))
      | some delay => .ok [.wait delay]
    | none =>
      match unquote? line with
      | some t => .ok ((typed t).map plain)
      | none => return [.press (← press line)]

/-- The inputs of a line. -/
def ofLine (line : Text) : Except LineError (List Input) := ofTrimmedLine (trim line)

/-- The inputs of lines, the first of which has this number. -/
def ofLines (number : Nat) : List Text → Except ScriptError (List Input)
  | [] => .ok []
  | line :: lines =>
    match ofLine line with
    | .error error => .error (.line number error)
    | .ok inputs => (ofLines (number + 1) lines).map (inputs ++ ·)

/-- The inputs of a script. -/
def ofText (t : Text) : Except ScriptError (List Input) :=
  match ofLines 1 (lines t) with
  | .error error => .error error
  | .ok [] => .error .empty
  | .ok inputs => .ok inputs

end Script

end MarkupPad
