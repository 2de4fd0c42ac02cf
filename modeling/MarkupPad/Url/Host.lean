import MarkupPad.Url.Label.Basic
import MarkupPad.Url.Percent

/-!
# Hosts of web addresses

A host is a domain name, an address of four bytes or an address of eight pieces.  A domain
name in ASCII is made small; a name that ends in a number must be an address.  Names
beyond ASCII are refused.
-/

namespace MarkupPad

/-- The host of a web address. -/
inductive Host where
  | domain (name : Text)
  /-- An address of 32 bits. -/
  | ipv4 (address : Nat)
  /-- An address of eight pieces of 16 bits. -/
  | ipv6 (pieces : List Nat)
  deriving Repr, DecidableEq

namespace Host

open Text

/-! ## Domain names -/

/-- Characters that no domain name has. -/
def isForbidden (c : Char) : Bool :=
  c.toNat ≤ 0x20 || c.toNat = 0x7F || "%#/:<>?@[\\]^|".toList.contains c

/-- The domain name that a text stands for. -/
def domain? (t : Text) : Option Text := do
  let name := asciiLowerOf (← Url.decodeAscii? t)
  if name ≠ [] ∧ name.all (!isForbidden ·) ∧ Url.Label.formName (splitBy (· = '.') name) then some name
  else none
where
  asciiLowerOf (t : Text) : Text := t.map Char.toLower

/-! ## Addresses of four bytes -/

/-- The number that a text of digits stands for in a base. -/
def digits? (base : Nat) (t : Text) : Option Nat :=
  t.foldlM (fun n c => do
    let digit ← Url.hexValue? c
    if digit < base then some (n * base + digit) else none) 0

/-- A part of an address: a number in base 10, in base 16 after `0x`, or in base 8 after
`0`. -/
def part? : Text → Option Nat
  | [] => none
  | ['0'] => some 0
  | '0' :: 'x' :: t => digits? 16 t
  | '0' :: t => digits? 8 t
  | t => digits? 10 t

/-- The parts of a name between its dots, without the empty one after a last dot. -/
def parts (name : Text) : List Text :=
  let parts := splitBy (· = '.') name
  if parts.getLast? = some [] then parts.dropLast else parts

/-- Does a name end in a number? -/
def endsInNumber (name : Text) : Bool :=
  match (parts name).getLast? with
  | none => false
  | some last => (last ≠ [] && last.all Char.isDigit) || (part? last).isSome

/-- The address that a name stands for.  The last part fills all bytes that the others
leave. -/
def ipv4? (name : Text) : Option Nat := do
  let numbers ← (parts name).mapM part?
  let last ← numbers.getLast?
  let bytes := numbers.dropLast
  if bytes.length ≤ 3 ∧ bytes.all (· < 256) ∧ last < Nat.pow 256 (4 - bytes.length) then
    some (bytes.foldl (fun n b => n * 256 + b) 0 * Nat.pow 256 (4 - bytes.length) + last)
  else none

/-! ## Addresses of eight pieces -/

/-- A byte in base 10 without needless zeros. -/
def byte? (t : Text) : Option Nat := do
  if t = [] ∨ !t.all Char.isDigit ∨ (t.head? = some '0' ∧ t.length ≠ 1) then none
  else
    let n ← digits? 10 t
    if n < 256 then some n else none

/-- The two pieces that four bytes with dots between them stand for. -/
def dotted? (t : Text) : Option (List Nat) :=
  match (splitBy (· = '.') t).mapM byte? with
  | some [a, b, c, d] => some [a * 256 + b, c * 256 + d]
  | _ => none

/-- A piece of one to four digits in base 16. -/
def piece? (t : Text) : Option Nat :=
  if t = [] ∨ 4 < t.length then none else digits? 16 t

/-- The pieces of groups with colons between them.  The last group may be dotted. -/
def groups? (mayEndDotted : Bool) : List Text → Option (List Nat)
  | [] => some []
  | [last] =>
    if mayEndDotted ∧ last.contains '.' then dotted? last else (piece? last).map fun n => [n]
  | group :: groups => do
    let n ← piece? group
    let rest ← groups? mayEndDotted groups
    return n :: rest

/-- The pieces of a text with colons between the groups; none of an empty text. -/
def pieces? (mayEndDotted : Bool) (t : Text) : Option (List Nat) :=
  if t = [] then some [] else groups? mayEndDotted (splitBy (· = ':') t)

/-- The text before the first double colon and the text after it. -/
def splitDoubleColon? : Text → Option (Text × Text)
  | ':' :: ':' :: t => some ([], t)
  | c :: t => (splitDoubleColon? t).map fun (before, after) => (c :: before, after)
  | [] => none

/-- The address that a text between brackets stands for.  A double colon stands for as many
zero pieces as are missing, but at least one. -/
def ipv6? (t : Text) : Option (List Nat) :=
  match splitDoubleColon? t with
  | none => do
    let pieces ← pieces? true t
    if pieces.length = 8 then some pieces else none
  | some (before, after) => do
    let front ← pieces? false before
    let back ← pieces? true after
    if front.length + back.length ≤ 7 then
      some (front ++ List.replicate (8 - front.length - back.length) 0 ++ back)
    else none

/-! ## Reading and writing -/

/-- The host that a text stands for. -/
def ofText? (t : Text) : Option Host :=
  match t with
  | '[' :: inner =>
    if inner.getLast? = some ']' then (ipv6? inner.dropLast).map ipv6 else none
  | _ => do
    let name ← domain? t
    if endsInNumber name then (ipv4? name).map ipv4 else some (domain name)

/-- A piece in base 16 without needless zeros. -/
def pieceText (n : Nat) : Text := Nat.toDigits 16 n

/-- The length of the run of zeros at the front. -/
def zeroRun (pieces : List Nat) : Nat := (pieces.takeWhile (· = 0)).length

/-- The longest run of zeros: its start and its length; the first of several. -/
def longestZeros (pieces : List Nat) : Nat × Nat :=
  (List.range pieces.length).foldl (fun best start =>
    let length := zeroRun (pieces.drop start)
    if best.2 < length then (start, length) else best) (0, 0)

/-- The pieces with colons between them, and a double colon in place of the longest run of
zeros, if it has more than one. -/
def ipv6Text (pieces : List Nat) : Text :=
  let groups (pieces : List Nat) : Text := join [':'] (pieces.map pieceText)
  let (start, length) := longestZeros pieces
  if length < 2 then groups pieces
  else groups (pieces.take start) ++ [':', ':'] ++ groups (pieces.drop (start + length))

/-- The bytes of an address with dots between them. -/
def ipv4Text (n : Nat) : Text :=
  join ['.'] ([n / 16777216 % 256, n / 65536 % 256, n / 256 % 256, n % 256].map (Nat.toDigits 10))

/-- A host as it stands in an address. -/
def toText : Host → Text
  | domain name => name
  | ipv4 address => ipv4Text address
  | ipv6 pieces => '[' :: ipv6Text pieces ++ [']']

end Host

end MarkupPad
