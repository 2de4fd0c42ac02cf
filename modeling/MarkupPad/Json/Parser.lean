import MarkupPad.Json.Token

/-!
# From tokens to values

The tokens of a value are read one by one, with a stack of the arrays and objects that are
still open.  Each token makes one step, so the values may be nested to any depth.

    read? (tokens of v) = some v
-/

namespace MarkupPad.Json

/-- An array or an object that is still open, its parts in reverse order. -/
inductive Frame where
  | array (items : List Json)
  | object (fields : List (Option Text × Json)) (key : Option Text)
  deriving Repr

/-- What is expected next. -/
inductive Expected where
  /-- A value. -/
  | value
  /-- A value or the end of the array just opened. -/
  | firstItem
  /-- A key; the fields read so far, in reverse order. -/
  | key (fields : List (Option Text × Json))
  /-- A key or the end of the object just opened. -/
  | firstKey
  /-- The colon after a key. -/
  | colon (fields : List (Option Text × Json)) (key : Option Text)
  /-- What follows a value: the end, a comma, or a closing bracket. -/
  | after (value : Json)
  deriving Repr

/-- The state between two tokens. -/
structure ParseState where
  expected : Expected
  stack : List Frame
  deriving Repr

namespace ParseState

/-! ## Algorithm -/

/-- Nothing has been read yet. -/
def start : ParseState := ⟨.value, []⟩

/-- The step of a token where a value is expected. -/
def beginValue? (stack : List Frame) : Token → Option ParseState
  | .atom value => some ⟨.after value, stack⟩
  | .openArray => some ⟨.firstItem, stack⟩
  | .openObject => some ⟨.firstKey, stack⟩
  | _ => none

/-- The step of a token where a key is expected. -/
def beginKey? (fields : List (Option Text × Json)) (stack : List Frame) :
    Token → Option ParseState
  | .atom (.string key) => some ⟨.colon fields key, stack⟩
  | _ => none

/-- The step of one token. -/
def step? (s : ParseState) (token : Token) : Option ParseState :=
  match s.expected, token, s.stack with
  | .firstItem, .closeArray, stack => some ⟨.after (.array []), stack⟩
  | .firstItem, token, stack => beginValue? (.array [] :: stack) token
  | .value, token, stack => beginValue? stack token
  | .firstKey, .closeObject, stack => some ⟨.after (.object []), stack⟩
  | .firstKey, token, stack => beginKey? [] stack token
  | .key fields, token, stack => beginKey? fields stack token
  | .colon fields key, .colon, stack => some ⟨.value, .object fields key :: stack⟩
  | .after value, .comma, .array items :: stack => some ⟨.value, .array (value :: items) :: stack⟩
  | .after value, .closeArray, .array items :: stack =>
    some ⟨.after (.array (value :: items).reverse), stack⟩
  | .after value, .comma, .object fields key :: stack =>
    some ⟨.key ((key, value) :: fields), stack⟩
  | .after value, .closeObject, .object fields key :: stack =>
    some ⟨.after (.object ((key, value) :: fields).reverse), stack⟩
  | _, _, _ => none

/-- The value, once it is complete. -/
def result? : ParseState → Option Json
  | ⟨.after value, []⟩ => some value
  | _ => none

end ParseState

/-- The value that tokens stand for. -/
def read? (tokens : List Token) : Option Json := do
  (← tokens.foldlM ParseState.step? .start).result?

/-- The value that a text stands for. -/
def parse? (symbols : Symbols) : Option Json := do read? (← Token.all? symbols)

end MarkupPad.Json
