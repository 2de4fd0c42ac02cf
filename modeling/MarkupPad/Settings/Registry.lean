import MarkupPad.Settings.Table
import MarkupPad.Settings.Value

/-!
# The registry of settings

Every setting has a default, and an override of a fitting type may take its place.
Nothing else can be overridden.

    (r.set key value) succeeds ↔ key has a default and value fits it
-/

namespace MarkupPad

/-- Why a setting cannot be set or used. -/
inductive SettingsError where
  /-- The key has no default. -/
  | unknownKey (key : Text)
  /-- The value has another type than the default. -/
  | typeMismatch (key : Text) (expected found : SettingType)
  /-- The value has the right type but cannot be used. -/
  | outOfRange (key value : Text)
  deriving Repr, DecidableEq

/-- The wording of an error. -/
def SettingsError.message : SettingsError → Text
  | unknownKey key => "Unknown setting: ".toList ++ key
  | typeMismatch key expected found =>
    "Setting ".toList ++ key ++ " expects ".toList ++ expected.name.toList ++ ", got ".toList ++
      found.name.toList
  | outOfRange key value => "Setting ".toList ++ key ++ " out of range: ".toList ++ value

/-- The settings with their defaults and the overrides. -/
structure Registry where
  defaults : Table SettingValue
  overrides : Table SettingValue

namespace Registry

/-! ## Algorithm -/

/-- The registry without settings. -/
def empty : Registry := ⟨.empty, .empty⟩

/-- A registry with one more setting. -/
def register (r : Registry) (key : Text) (value : SettingValue) : Registry :=
  { r with defaults := r.defaults.insert key value }

/-- Why an override is refused, if it is. -/
def refusal? (r : Registry) (key : Text) (value : SettingValue) : Option SettingsError :=
  match r.defaults.find? key with
  | none => some (.unknownKey key)
  | some default =>
    if SettingValue.Fits value.type default.type then none
    else some (.typeMismatch key default.type value.type)

/-- The registry with an override. -/
def set (r : Registry) (key : Text) (value : SettingValue) : Except SettingsError Registry :=
  match r.refusal? key value with
  | some error => .error error
  | none => .ok { r with overrides := r.overrides.insert key value }

/-- Is a setting overridden? -/
def isOverridden (r : Registry) (key : Text) : Bool := (r.overrides.find? key).isSome

/-- The registry without an override. -/
def unset (r : Registry) (key : Text) : Registry := { r with overrides := r.overrides.erase key }

/-- The registry without overrides. -/
def clear (r : Registry) : Registry := { r with overrides := .empty }

/-- The value in effect: the override, or else the default. -/
def get? (r : Registry) (key : Text) : Option SettingValue :=
  r.overrides.find? key <|> r.defaults.find? key

/-- The settings whose keys begin with a text, with the values in effect. -/
def startingWith (r : Registry) (beginning : Text) : List (Text × SettingValue) :=
  (r.defaults.keys.filter beginning.isPrefixOf).filterMap fun key => (r.get? key).map (key, ·)

/-- The overrides set one after the other up to the first that is refused: the error, if
there is one, and the registry then. -/
def setAll (r : Registry) : List (Text × SettingValue) → Option SettingsError × Registry
  | [] => (none, r)
  | (key, value) :: overrides =>
    match r.set key value with
    | .error error => (some error, r)
    | .ok r => setAll r overrides

/-- The overrides of a table set in the order of their keys. -/
def apply (r : Registry) (overrides : Table SettingValue) : Option SettingsError × Registry :=
  r.setAll overrides.entries

/-- The value in effect of a setting that must exist. -/
def require (r : Registry) (key : Text) : Except SettingsError SettingValue :=
  match r.get? key with
  | none => .error (.unknownKey key)
  | some value => .ok value

/-- A value in effect read by `read?` as a value of the expected type. -/
def requireAs {α : Type} (r : Registry) (expected : SettingType) (read? : SettingValue → Option α)
    (key : Text) : Except SettingsError α := do
  let value ← r.require key
  match read? value with
  | none => throw (.typeMismatch key expected value.type)
  | some x => return x

/-- The truth value of a setting. -/
def boolean (r : Registry) (key : Text) : Except SettingsError Bool :=
  r.requireAs .boolean SettingValue.boolean? key

/-- The float of a setting. -/
def float (r : Registry) (key : Text) : Except SettingsError Float :=
  r.requireAs .float SettingValue.float? key

/-- The whole number of a setting, which must not be negative. -/
def count (r : Registry) (key : Text) : Except SettingsError Nat := do
  let n ← r.requireAs .integer SettingValue.integer? key
  if n < 0 then throw (.outOfRange key (SettingValue.intText n)) else return n.toNat

end Registry

end MarkupPad
