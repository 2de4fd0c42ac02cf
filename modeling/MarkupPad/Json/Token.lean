import MarkupPad.Json.Basic
import MarkupPad.Text.Symbols

/-!
# Tokens of JSON

A JSON text is a sequence of punctuation marks and atoms (null, truth values, numbers and
strings) with blanks between them.
-/

namespace MarkupPad.Json

/-- A punctuation mark or a value without parts. -/
inductive Token where
  | openArray | closeArray | openObject | closeObject | comma | colon
  | atom (value : Json)
  deriving Repr

/-- What a string is made of: a character, an escaped unit of 16 bits, or a byte that
belongs to no character. -/
inductive Unit16 where
  | char (c : Char)
  | escaped (code : Nat)
  | unreadable
  deriving Repr, DecidableEq

namespace Token

/-! ## Strings -/

/-- The value of a hexadecimal digit. -/
def hexDigit? (c : Char) : Option Nat :=
  if c.isDigit then some (c.toNat - '0'.toNat)
  else if 'a' ≤ c ∧ c ≤ 'f' then some (c.toNat - 'a'.toNat + 10)
  else if 'A' ≤ c ∧ c ≤ 'F' then some (c.toNat - 'A'.toNat + 10)
  else none

/-- The number of four hexadecimal digits. -/
def hexCode? (a b c d : Option Char) : Option Nat := do
  let digits ← [a, b, c, d].mapM fun x => x.bind hexDigit?
  return digits.foldl (fun n digit => n * 16 + digit) 0

/-- The character that a letter after a backslash stands for. -/
def escape? : Char → Option Char
  | '"' => some '"'
  | '\\' => some '\\'
  | '/' => some '/'
  | 'b' => some '\x08'
  | 'f' => some '\x0c'
  | 'n' => some '\n'
  | 'r' => some '\r'
  | 't' => some '\t'
  | _ => none

/-- The units of a string up to its closing quote, and what follows the quote. -/
def units? : Symbols → Option (List Unit16 × Symbols)
  | [] => none
  | some '"' :: rest => some ([], rest)
  | some '\\' :: some 'u' :: a :: b :: c :: d :: rest => do
    let code ← hexCode? a b c d
    let (units, rest) ← units? rest
    return (.escaped code :: units, rest)
  | some '\\' :: some letter :: rest => do
    let c ← escape? letter
    let (units, rest) ← units? rest
    return (.char c :: units, rest)
  | some c :: rest =>
    if c.toNat < 0x20 ∨ c = '\\' then none
    else do
      let (units, rest) ← units? rest
      return (.char c :: units, rest)
  | none :: rest => do
    let (units, rest) ← units? rest
    return (.unreadable :: units, rest)

/-- Is this unit the first of a pair? -/
def isHigh (code : Nat) : Bool := 0xD800 ≤ code && code < 0xDC00

/-- Is this unit the second of a pair? -/
def isLow (code : Nat) : Bool := 0xDC00 ≤ code && code < 0xE000

/-- The characters that units stand for; `none` when there is an unpaired unit or an
unreadable byte among them. -/
def characters? : List Unit16 → Option Text
  | [] => some []
  | .char c :: units => (characters? units).map (c :: ·)
  | .escaped high :: .escaped low :: units =>
    if isHigh high ∧ isLow low then
      (characters? units).map
        (Char.ofNat ((high - 0xD800) * 0x400 + (low - 0xDC00) + 0x10000) :: ·)
    else if isHigh high ∨ isLow high then none
    else (characters? (.escaped low :: units)).map (Char.ofNat high :: ·)
  | .escaped code :: units =>
    if isHigh code ∨ isLow code then none
    else (characters? units).map (Char.ofNat code :: ·)
  | .unreadable :: _ => none

/-! ## Numbers and words -/

/-- The characters at the front that are in the class, and what follows them. -/
def spanOf (p : Char → Bool) : Symbols → Text × Symbols
  | some c :: rest =>
    if p c then
      let (run, rest) := spanOf p rest
      (c :: run, rest)
    else ([], some c :: rest)
  | rest => ([], rest)

/-- The characters that a number is made of. -/
def isNumberChar (c : Char) : Bool :=
  c.isDigit || c = '-' || c = '+' || c = '.' || c = 'e' || c = 'E'

/-- A run of digits that is not empty, and what follows it. -/
def digits? (t : Text) : Option (Text × Text) :=
  let (digits, rest) := t.span Char.isDigit
  if digits = [] then none else some (digits, rest)

/-- What follows the sign of an exponent. -/
def afterSign : Text → Text
  | '+' :: t | '-' :: t => t
  | t => t

/-- Is a text an exponent or empty? -/
def isExponent : Text → Bool
  | 'e' :: t | 'E' :: t => (digits? (afterSign t)).any (·.2 = [])
  | t => t = []

/-- Is a text a fraction and an exponent, either of which may be missing? -/
def isFraction : Text → Bool
  | '.' :: t => (digits? t).any fun (_, rest) => isExponent rest
  | t => isExponent t

/-- Is a text the literal of a number?  A leading zero stands alone. -/
def isNumber (t : Text) : Bool :=
  let t := match t with
    | '-' :: t => t
    | t => t
  match digits? t with
  | none => false
  | some (whole, rest) => (whole.head? ≠ some '0' || whole.length = 1) && isFraction rest

/-- The value that a word stands for. -/
def word? (word : Text) : Option Json :=
  match String.ofList word with
  | "null" => some .null
  | "true" => some (.bool true)
  | "false" => some (.bool false)
  | _ => none

/-- The punctuation mark of a character. -/
def mark? : Char → Option Token
  | '[' => some openArray
  | ']' => some closeArray
  | '\x7b' => some openObject
  | '\x7d' => some closeObject
  | ',' => some comma
  | ':' => some colon
  | _ => none

/-- The blanks between tokens. -/
def isBlank (c : Char) : Bool := c = ' ' || c = '\t' || c = '\n' || c = '\r'

/-! ## Texts -/

/-- The first token of a text that does not begin with a blank, and what follows the
token. -/
def first? : Symbols → Option (Token × Symbols)
  | [] | none :: _ => none
  | some c :: rest =>
    match mark? c with
    | some token => some (token, rest)
    | none =>
      if c = '"' then do
        let (units, rest) ← units? rest
        return (atom (.string (characters? units)), rest)
      else if c = '-' ∨ c.isDigit then
        let (literal, rest) := spanOf isNumberChar (some c :: rest)
        if isNumber literal then some (atom (.number literal), rest) else none
      else do
        let (letters, rest) := spanOf Char.isAlpha (some c :: rest)
        return (atom (← word? letters), rest)

/-- All tokens of a text; `fuel` bounds their number and that of the blanks. -/
def allFrom? : Nat → Symbols → Option (List Token)
  | _, [] => some []
  | 0, _ => none
  | fuel + 1, symbol :: rest =>
    if symbol.any isBlank then allFrom? fuel rest
    else do
      let (token, rest) ← first? (symbol :: rest)
      let tokens ← allFrom? fuel rest
      return token :: tokens

/-- All tokens of a text.  Each token takes at least one symbol. -/
def all? (symbols : Symbols) : Option (List Token) := allFrom? symbols.length symbols

end Token

end MarkupPad.Json
