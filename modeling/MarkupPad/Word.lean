/-!
# Words

Offsets, counts and times are words of 64 bits, and versions of formats words of 32 bits.
-/

namespace MarkupPad.Word

/-- Words of 32 bits are below this. -/
def limit32 : Nat := 4294967296

/-- Words of 64 bits with a sign go up to just below this, and down to its opposite. -/
def signedLimit : Nat := 9223372036854775808

/-- Words of 64 bits are below this. -/
def limit : Nat := 18446744073709551616

end MarkupPad.Word
