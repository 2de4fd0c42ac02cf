import MarkupPad.Decimal.Layout

/-!
# Values of settings

A setting is a truth value, a whole number, a float or a text, and it keeps the type of
its default.
-/

namespace MarkupPad

/-- The types of settings. -/
inductive SettingType where
  | boolean | integer | float | string
  deriving Repr, DecidableEq

/-- The name of a type in messages. -/
def SettingType.name : SettingType → String
  | boolean => "boolean"
  | integer => "integer"
  | float => "float"
  | string => "string"

/-- The value of a setting. -/
inductive SettingValue where
  | boolean (value : Bool)
  | integer (value : Int)
  | float (value : Float)
  | string (value : Text)

namespace SettingValue

/-- The type of a value. -/
def type : SettingValue → SettingType
  | boolean _ => .boolean
  | integer _ => .integer
  | float _ => .float
  | string _ => .string

/-- The truth value, of a truth value only. -/
def boolean? : SettingValue → Option Bool
  | boolean value => some value
  | _ => none

/-- The whole number, of a whole number only. -/
def integer? : SettingValue → Option Int
  | integer value => some value
  | _ => none

/-- The float; a whole number becomes the nearest one. -/
def float? : SettingValue → Option Float
  | float value => some value
  | integer value => some (Float.ofInt value)
  | _ => none

/-- The text, of a text only. -/
def string? : SettingValue → Option Text
  | string value => some value
  | _ => none

/-- May a value of one type replace a default of another?  Whole numbers may stand for
floats. -/
def Fits (found expected : SettingType) : Prop :=
  found = expected ∨ (found = .integer ∧ expected = .float)

instance (found expected : SettingType) : Decidable (Fits found expected) :=
  inferInstanceAs (Decidable (_ ∨ _))

/-- A whole number written out. -/
def intText (n : Int) : Text :=
  if n < 0 then '-' :: Nat.toDigits 10 n.natAbs else Nat.toDigits 10 n.natAbs

/-- The value written out. -/
def label : SettingValue → Text
  | boolean value => if value then "true".toList else "false".toList
  | integer value => intText value
  | float value => Layout.plain.float value
  | string value => value

end SettingValue

end MarkupPad
