import MarkupPad.Text.Basic

/-!
# JSON values

A value as it is written.  A number keeps its literal, since its meaning depends on what
it is read as.  A string whose escapes or bytes name no characters is still a value, but
one that nothing can be read from; such strings may only stand where they are ignored.
-/

namespace MarkupPad

/-- A JSON value.  An unreadable string is `none`. -/
inductive Json where
  | null
  | bool (b : Bool)
  | number (literal : Text)
  | string (value : Option Text)
  | array (items : List Json)
  | object (fields : List (Option Text × Json))
  deriving Repr

namespace Json

/-! ## Building values -/

/-- A readable string. -/
def text (t : Text) : Json := string (some t)

/-- A name. -/
def name (s : String) : Json := text s.toList

/-- A whole number from zero on. -/
def nat (n : Nat) : Json := number (Nat.toDigits 10 n)

/-- A whole number. -/
def int (n : Int) : Json :=
  number (if n < 0 then '-' :: Nat.toDigits 10 n.natAbs else Nat.toDigits 10 n.natAbs)

/-- An object with named fields. -/
def record (fields : List (String × Json)) : Json :=
  object (fields.map fun (name, value) => (some name.toList, value))

/-! ## Reading values -/

/-- The characters of a readable string. -/
def text? : Json → Option Text
  | string value => value
  | _ => none

/-- A truth value. -/
def bool? : Json → Option Bool
  | bool b => some b
  | _ => none

/-- The items of an array. -/
def items? : Json → Option (List Json)
  | array items => some items
  | _ => none

/-- The entries of an object, all of whose keys must be readable. -/
def entries? : Json → Option (List (Text × Json))
  | object fields => fields.mapM fun (key, value) => key.map (·, value)
  | _ => none

/-- The value of the one entry with a name; more than one is an error. -/
def only? (entries : List (Text × Json)) (name : Text) : Option (Option Json) :=
  match entries.filter (·.1 = name) with
  | [] => some none
  | [(_, value)] => some (some value)
  | _ => none

/-- The values of the fields of a record, in the order of the names.  A record is an
object, in which other entries are passed over, or an array with the fields in order.
Missing fields are `none`. -/
def fields? (names : List String) : Json → Option (List (Option Json))
  | array items =>
    if items.length ≤ names.length then
      some (items.map some ++ List.replicate (names.length - items.length) none)
    else none
  | json => do
    let entries ← json.entries?
    names.mapM fun name => only? entries name.toList

/-- The values of the fields of a record, none of which may be missing. -/
def allFields? (names : List String) (json : Json) : Option (List Json) := do
  (← json.fields? names).mapM id

/-- The variant of a choice without arguments: its name alone, or as the only key of an
object with the value null. -/
def variant? : Json → Option Text
  | string value => value
  | object [(key, null)] => key
  | _ => none

end Json

end MarkupPad
