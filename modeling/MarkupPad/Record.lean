import MarkupPad.Editor.Basic
import MarkupPad.Json.Number
import MarkupPad.Json.Parser
import MarkupPad.Key
import MarkupPad.Word

/-!
# Values of the editor as JSON records

Each value is written as a record with its fields in order, and read back from a record.
Offsets, counts and times are whole numbers of 64 bits.
-/

namespace MarkupPad

open Json

/-- A whole number of 64 bits. -/
def Json.word? (json : Json) : Option Nat := json.nat? Word.limit

/-- The value whose name a choice gives. -/
def Json.choice? {α : Type} (names : List (String × α)) (json : Json) : Option α := do
  let name ← json.variant?
  (← names.find? fun (n, _) => n.toList = name).2

namespace Facet

def toJson (facet : Facet) : Json := .name facet.name

def ofJson? (json : Json) : Option Facet := json.choice? (all.map fun facet => (facet.name, facet))

end Facet

namespace Document

def toJson (d : Document) : Json :=
  .record [("markup", .text d.markup), ("style", .text d.style), ("script", .text d.script)]

def ofJson? (json : Json) : Option Document := do
  match ← json.allFields? ["markup", "style", "script"] with
  | [markup, style, script] => return ⟨← markup.text?, ← style.text?, ← script.text?⟩
  | _ => none

end Document

namespace Selection

def toJson (s : Selection) : Json := .record [("start", .nat s.start), ("end", .nat s.stop)]

def ofJson? (json : Json) : Option Selection := do
  match ← json.allFields? ["start", "end"] with
  | [start, stop] => return ⟨← start.word?, ← stop.word?⟩
  | _ => none

end Selection

namespace SuggestionKind

/-- The kinds with their names in records. -/
def named : List (String × SuggestionKind) :=
  [("Tag", .tag), ("Attribute", .attribute), ("EmmetTag", .element)]

/-- The name of a kind in records. -/
def name : SuggestionKind → String
  | .tag => "Tag"
  | .attribute => "Attribute"
  | .element => "EmmetTag"

end SuggestionKind

namespace Suggestion

def toJson (s : Suggestion) : Json :=
  .record [("value", .text s.value), ("kind", .name s.kind.name)]

def ofJson? (json : Json) : Option Suggestion := do
  match ← json.allFields? ["value", "kind"] with
  | [value, kind] => return ⟨← value.text?, ← kind.choice? SuggestionKind.named⟩
  | _ => none

end Suggestion

namespace PopupMetrics

def toJson (m : PopupMetrics) : Json :=
  .record [("line_height", .float m.lineHeight), ("char_width", .float m.charWidth),
    ("top_offset", .float m.topOffset), ("left_offset", .float m.leftOffset),
    ("viewport_width", .float m.viewportWidth), ("viewport_height", .float m.viewportHeight)]

def ofJson? (json : Json) : Option PopupMetrics := do
  match ← json.allFields? ["line_height", "char_width", "top_offset", "left_offset",
    "viewport_width", "viewport_height"] with
  | [lineHeight, charWidth, topOffset, leftOffset, viewportWidth, viewportHeight] =>
    return ⟨← lineHeight.float?, ← charWidth.float?, ← topOffset.float?, ← leftOffset.float?,
      ← viewportWidth.float?, ← viewportHeight.float?⟩
  | _ => none

end PopupMetrics

namespace Config

def toJson (c : Config) : Json :=
  .record [("auto_close", .bool c.autoClose), ("predictions", .bool c.predictions),
    ("history_capacity", .nat c.historyCapacity), ("debounce_ms", .nat c.commitDelay),
    ("max_suggestions", .nat c.maxSuggestions), ("popup", c.popup.toJson)]

def ofJson? (json : Json) : Option Config := do
  match ← json.allFields? ["auto_close", "predictions", "history_capacity", "debounce_ms",
    "max_suggestions", "popup"] with
  | [autoClose, predictions, historyCapacity, commitDelay, maxSuggestions, popup] =>
    return ⟨← autoClose.bool?, ← predictions.bool?, ← historyCapacity.word?,
      ← commitDelay.word?, ← maxSuggestions.word?, ← PopupMetrics.ofJson? popup⟩
  | _ => none

end Config

namespace Key

/-- The keys that are no characters, with their names in records. -/
def named : List (String × Key) := [
  ("Left", .left), ("Right", .right), ("Up", .up), ("Down", .down), ("Home", .home),
  ("End", .toEnd), ("Enter", .enter), ("Tab", .tab), ("Escape", .escape),
  ("Backspace", .backspace), ("Delete", .delete)]

/-- The name of a key in records. -/
def name : Key → String
  | .char _ => "Char"
  | .left => "Left"
  | .right => "Right"
  | .up => "Up"
  | .down => "Down"
  | .home => "Home"
  | .toEnd => "End"
  | .enter => "Enter"
  | .tab => "Tab"
  | .escape => "Escape"
  | .backspace => "Backspace"
  | .delete => "Delete"

def toJson (key : Key) : Json :=
  match key with
  | .char c => .record [(key.name, .text [c])]
  | _ => .name key.name

/-- A key that is no character is read from its name, and a character from an object with
the key `Char` and a text of one character. -/
def ofJson? : Json → Option Key
  | .object [(some ['C', 'h', 'a', 'r'], .string (some [c]))] => some (.char c)
  | json => json.choice? named

end Key

namespace KeyPress

def toJson (press : KeyPress) : Json :=
  .record [("key", press.key.toJson),
    ("modifiers", .record [("bits", .nat press.modifiers.bits.toNat)])]

def ofJson? (json : Json) : Option KeyPress := do
  match ← json.allFields? ["key", "modifiers"] with
  | [key, modifiers] =>
    match ← modifiers.allFields? ["bits"] with
    | [bits] => return ⟨← Key.ofJson? key, ⟨(← bits.nat? 256).toUInt8⟩⟩
    | _ => none
  | _ => none

end KeyPress

end MarkupPad
