import MarkupPad.Json.Basic

/-!
# Writing JSON

Values are written without blanks, or with one entry a line and two blanks of indentation
for each level.  In strings only quotes, backslashes and control characters are escaped.
-/

namespace MarkupPad.Json

/-! ## Algorithm -/

/-- A character as it stands in a string. -/
def escapeChar (c : Char) : Text :=
  match c with
  | '"' => ['\\', '"']
  | '\\' => ['\\', '\\']
  | '\x08' => ['\\', 'b']
  | '\x0c' => ['\\', 'f']
  | '\n' => ['\\', 'n']
  | '\r' => ['\\', 'r']
  | '\t' => ['\\', 't']
  | c =>
    if c.toNat < 0x20 then
      ['\\', 'u', '0', '0', Nat.digitChar (c.toNat / 16), Nat.digitChar (c.toNat % 16)]
    else [c]

/-- A string in its quotes. -/
def quote (t : Text) : Text := '"' :: t.flatMap escapeChar ++ ['"']

mutual

/-- A value without blanks. -/
def compact : Json → Text
  | null => "null".toList
  | bool b => if b then "true".toList else "false".toList
  | number literal => literal
  | string value => quote (value.getD [])
  | array items => '[' :: Text.join [','] (compactItems items) ++ [']']
  | object fields => '\x7b' :: Text.join [','] (compactFields fields) ++ ['\x7d']

/-- The items of an array without blanks. -/
def compactItems : List Json → List Text
  | [] => []
  | item :: items => compact item :: compactItems items

/-- The fields of an object without blanks. -/
def compactFields : List (Option Text × Json) → List Text
  | [] => []
  | (key, value) :: fields =>
    (quote (key.getD []) ++ ':' :: compact value) :: compactFields fields

end

/-- A line break followed by the indentation of a level. -/
def newLine (level : Nat) : Text := '\n' :: List.replicate (2 * level) ' '

/-- Entries between brackets, each on a line of its own. -/
def block (level : Nat) (opening closing : Char) (entries : List Text) : Text :=
  if entries = [] then [opening, closing]
  else opening :: newLine (level + 1) ++ Text.join (',' :: newLine (level + 1)) entries ++
    newLine level ++ [closing]

mutual

/-- A value on indented lines. -/
def prettyAt (level : Nat) : Json → Text
  | null => "null".toList
  | bool b => if b then "true".toList else "false".toList
  | number literal => literal
  | string value => quote (value.getD [])
  | array items => block level '[' ']' (prettyItems (level + 1) items)
  | object fields => block level '\x7b' '\x7d' (prettyFields (level + 1) fields)

/-- The items of an array, each on indented lines. -/
def prettyItems (level : Nat) : List Json → List Text
  | [] => []
  | item :: items => prettyAt level item :: prettyItems level items

/-- The fields of an object, each on indented lines. -/
def prettyFields (level : Nat) : List (Option Text × Json) → List Text
  | [] => []
  | (key, value) :: fields =>
    (quote (key.getD []) ++ ':' :: ' ' :: prettyAt level value) :: prettyFields level fields

end

/-- A value on indented lines. -/
def pretty (json : Json) : Text := json.prettyAt 0

end MarkupPad.Json
