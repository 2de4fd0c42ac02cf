import MarkupPad.Text.Symbols
import MarkupPad.Text.Utf8

/-!
# The symbols of a text

Bytes are read character by character, so that the bytes of a text are read as its characters.

    Symbols.ofBytes t.bytes = Symbols.ofText t                                (ofBytes_bytes)
-/

namespace MarkupPad

namespace Text

theorem bytes_eq (t : Text) : t.bytes = (utf8 t).toByteArray := rfl

theorem bytes_append (a b : Text) : (a ++ b).bytes = a.bytes ++ b.bytes := by
  rw [bytes_eq, bytes_eq, bytes_eq, utf8_append, List.toByteArray_append]

@[simp] theorem size_bytes (t : Text) : t.bytes.size = size t := by
  rw [bytes_eq, List.size_toByteArray, length_utf8]

end Text

namespace Symbols

open Text

theorem ofText_append (a b : Text) : ofText (a ++ b) = ofText a ++ ofText b := List.map_append

/-- At the offset of a character the character is read, whatever follows it. -/
theorem utf8DecodeChar?_bytes (a b : Text) (c : Char) :
    (a ++ c :: b).bytes.utf8DecodeChar? (size a) = some c := by
  rw [ByteArray.utf8DecodeChar?_eq_utf8DecodeChar?_extract, bytes_append,
    ByteArray.extract_append_eq_right (size_bytes a).symm ByteArray.size_append]
  exact List.utf8DecodeChar?_utf8Encode_cons

/-- From the offset of a part on, the part is read. -/
theorem ofBytesFrom_bytes (a b : Text) : ofBytesFrom (a ++ b).bytes (size a) = ofText b := by
  induction b generalizing a with
  | nil =>
    unfold ofBytesFrom
    simp [ofText]
  | cons c b ih =>
    have hlt : size a < (a ++ c :: b).bytes.size := by
      have := c.utf8Size_pos
      simp
      omega
    have hnext := ih (a ++ [c])
    rw [List.append_assoc, List.singleton_append, size_append, size_cons, size_nil,
      Nat.add_zero] at hnext
    rw [ofBytesFrom, if_pos hlt, utf8DecodeChar?_bytes]
    simp only [hnext]
    rfl

/-- **The bytes of a text are read as its characters.** -/
theorem ofBytes_bytes (t : Text) : ofBytes t.bytes = ofText t := ofBytesFrom_bytes [] t

end Symbols

end MarkupPad
