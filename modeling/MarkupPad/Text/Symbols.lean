import MarkupPad.Text.Basic

/-!
# Bytes as characters

A string of bytes is read as UTF-8, character by character.  A byte that begins no
character is kept as an unreadable symbol, so that a reader can pass over it.
-/

namespace MarkupPad

/-- What bytes are read as; `none` is a byte that belongs to no character. -/
abbrev Symbols := List (Option Char)

namespace Symbols

/-! ## Algorithm -/

/-- The symbols of the bytes from an index on. -/
def ofBytesFrom (bytes : ByteArray) (i : Nat) : Symbols :=
  if i < bytes.size then
    match bytes.utf8DecodeChar? i with
    | some c => some c :: ofBytesFrom bytes (i + c.utf8Size)
    | none => none :: ofBytesFrom bytes (i + 1)
  else []
termination_by bytes.size - i
decreasing_by
  · have := c.utf8Size_pos
    omega
  · omega

/-- The symbols of a string of bytes. -/
def ofBytes (bytes : ByteArray) : Symbols := ofBytesFrom bytes 0

/-- The symbols of a text, all of them readable. -/
def ofText (t : Text) : Symbols := t.map some

end Symbols

/-- The bytes of a text in UTF-8. -/
def Text.bytes (t : Text) : ByteArray := (String.ofList t).toUTF8

/-- The text that bytes in UTF-8 stand for. -/
def Text.ofBytes? (bytes : ByteArray) : Option Text := (String.fromUTF8? bytes).map String.toList

end MarkupPad
