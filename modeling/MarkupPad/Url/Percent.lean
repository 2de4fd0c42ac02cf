import MarkupPad.Text.Basic

/-!
# Percent encoding

Characters that may not stand for themselves in a part of a URL are written as their
UTF-8 bytes, each as `%` and two hexadecimal digits.
-/

namespace MarkupPad.Url

/-! ## Character sets -/

/-- Control characters and all characters beyond ASCII. -/
def isControl (c : Char) : Bool := c.toNat < 0x20 || 0x7F ≤ c.toNat

/-- What is encoded in a fragment. -/
def inFragmentSet (c : Char) : Bool :=
  isControl c || c = ' ' || c = '"' || c = '<' || c = '>' || c = '`'

/-- What is encoded in a path. -/
def inPathSet (c : Char) : Bool :=
  inFragmentSet c || c = '#' || c = '?' || c = '\x7b' || c = '\x7d'

/-- What is encoded in a username and in a password. -/
def inUserinfoSet (c : Char) : Bool :=
  inPathSet c || c = '/' || c = ':' || c = ';' || c = '=' || c = '@' || c = '[' || c = '\\' ||
    c = ']' || c = '^' || c = '|'

/-- What is encoded in the query of a web address. -/
def inQuerySet (c : Char) : Bool :=
  isControl c || c = ' ' || c = '"' || c = '#' || c = '<' || c = '>' || c = '\''

/-! ## Algorithm -/

/-- A digit of a number in base 16, in capitals. -/
def hexDigit (n : Nat) : Char := (Nat.digitChar n).toUpper

/-- A byte after a percent sign. -/
def encodeByte (b : UInt8) : Text := ['%', hexDigit (b.toNat / 16), hexDigit (b.toNat % 16)]

/-- A character, encoded if it is in the set. -/
def encodeChar (p : Char → Bool) (c : Char) : Text :=
  if p c then (String.utf8EncodeChar c).flatMap encodeByte else [c]

/-- A text with the characters of the set encoded. -/
def encode (p : Char → Bool) (t : Text) : Text := t.flatMap (encodeChar p)

/-- The value of a hexadecimal digit. -/
def hexValue? (c : Char) : Option Nat :=
  if c.isDigit then some (c.toNat - '0'.toNat)
  else
    let lower := c.toLower
    if 'a' ≤ lower ∧ lower ≤ 'f' then some (lower.toNat - 'a'.toNat + 10) else none

/-- A text with its encoded bytes made characters; `none` when a byte is beyond ASCII. -/
def decodeAscii? : Text → Option Text
  | '%' :: a :: b :: t =>
    match hexValue? a, hexValue? b with
    | some high, some low =>
      if high < 8 then (decodeAscii? t).map (Char.ofNat (high * 16 + low) :: ·) else none
    | _, _ => (decodeAscii? (a :: b :: t)).map ('%' :: ·)
  | c :: t => if c.toNat < 0x80 then (decodeAscii? t).map (c :: ·) else none
  | [] => some []

end MarkupPad.Url
