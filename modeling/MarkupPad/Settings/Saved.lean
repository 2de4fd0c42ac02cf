import MarkupPad.Json.Number
import MarkupPad.Json.Parser
import MarkupPad.Json.Printer
import MarkupPad.Settings.Registry
import MarkupPad.Word

/-!
# Saved settings

Overrides are saved as JSON: a record with the version of the format and an object with
the overrides.

    SavedSettings.ofBytes d.toBytes = .ok d      for all overrides but floats
-/

namespace MarkupPad

/-- Why saved settings cannot be read. -/
inductive SavedSettingsError where
  /-- The bytes are no JSON, or JSON of another shape. -/
  | unreadable
  /-- The version is not the current one. -/
  | unsupportedVersion (version : Nat)
  deriving Repr, DecidableEq

/-- The wording of an error.  What makes bytes unreadable is said by whoever read the JSON, in
words of its own. -/
def SavedSettingsError.message (error : SavedSettingsError) (reason : Option Text := none) : Text :=
  match error, reason with
  | unreadable, none => "Failed to deserialize settings:".toList
  | unreadable, some reason => "Failed to deserialize settings: ".toList ++ reason
  | unsupportedVersion version, _ =>
    "Unsupported settings version: ".toList ++ Nat.toDigits 10 version

/-- Overrides with the version of their format. -/
structure SavedSettings where
  version : Nat
  overrides : Table SettingValue

namespace SavedSettings

/-! ## Algorithm -/

/-- The current version of the format. -/
def currentVersion : Nat := 1

/-- No overrides. -/
def empty : SavedSettings := ⟨currentVersion, .empty⟩

/-- The overrides of a registry. -/
def ofRegistry (r : Registry) : SavedSettings := ⟨currentVersion, r.overrides⟩

/-- A value of a setting in JSON. -/
def valueJson : SettingValue → Json
  | .boolean value => .bool value
  | .integer value => .int value
  | .float value => .float value
  | .string value => .text value

/-- The saved settings in JSON. -/
def toJson (s : SavedSettings) : Json :=
  .record [("version", .nat s.version),
    ("overrides", .object (s.overrides.entries.map fun (key, value) =>
      (some key, valueJson value)))]

/-- The text that is saved. -/
def toText (s : SavedSettings) : Text := s.toJson.pretty

/-- The bytes that are saved. -/
def toBytes (s : SavedSettings) : ByteArray := s.toText.bytes

/-- The value of a setting that JSON stands for.  Whole numbers of more than 63 bits are
floats. -/
def value? : Json → Option SettingValue
  | .bool value => some (.boolean value)
  | .string value => value.map .string
  | json =>
    match json.numeral? with
    | some (.natural n) =>
      if n < Word.signedLimit then some (.integer n) else some (.float (Float.ofNat n))
    | some (.negative n) => some (.integer (-n))
    | some (.real x) => some (.float x)
    | _ => none

/-- The overrides that JSON stands for.  Of several values for one key the last one
counts. -/
def overrides? (json : Json) : Option (Table SettingValue) := do
  let entries ← json.entries?
  return .ofList (← entries.mapM fun (key, json) => (value? json).map (key, ·))

/-- The saved settings that JSON stands for, in whatever version.  The overrides may be
missing. -/
def ofJson? (json : Json) : Option SavedSettings := do
  match ← json.fields? ["version", "overrides"] with
  | [some version, none] => return ⟨← version.nat? Word.limit32, .empty⟩
  | [some version, some overrides] => return ⟨← version.nat? Word.limit32, ← overrides? overrides⟩
  | _ => none

/-- The saved settings that a text stands for. -/
def ofSymbols (symbols : Symbols) : Except SavedSettingsError SavedSettings :=
  match (Json.parse? symbols).bind ofJson? with
  | none => .error .unreadable
  | some s =>
    if s.version = currentVersion then .ok s else .error (.unsupportedVersion s.version)

/-- The saved settings that bytes stand for. -/
def ofBytes (bytes : ByteArray) : Except SavedSettingsError SavedSettings :=
  ofSymbols (.ofBytes bytes)

/-- The saved settings that bytes stand for, or no overrides when they cannot be read. -/
def ofBytesOrEmpty (bytes : ByteArray) : SavedSettings :=
  match ofBytes bytes with
  | .ok s => s
  | .error _ => empty

end SavedSettings

end MarkupPad
