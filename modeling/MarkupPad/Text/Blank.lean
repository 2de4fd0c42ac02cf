import MarkupPad.Text.Basic

/-!
# Blanks, words and lines

Blanks are the characters with the Unicode property White_Space.  Scripts and commands
are trimmed and split at them.  Lines end at a newline, and a carriage return just
before it belongs to the line end.
-/

namespace MarkupPad.Text

/-! ## Algorithm -/

/-- The Unicode property White_Space. -/
def isBlank (c : Char) : Bool :=
  ('\t' ≤ c && c ≤ '\r') || c = ' ' || c = '\u0085' || c = '\u00a0' || c = '\u1680' ||
    ('\u2000' ≤ c && c ≤ '\u200a') || c = '\u2028' || c = '\u2029' || c = '\u202f' ||
    c = '\u205f' || c = '\u3000'

/-- The blanks of ASCII except the vertical tab, as markup has them between attributes. -/
def isAsciiBlank (c : Char) : Bool :=
  c = ' ' || c = '\t' || c = '\n' || c = '\x0c' || c = '\r'

/-- The text without blanks at both ends. -/
def trim (t : Text) : Text := trimBy isBlank t

/-- The longest runs without blanks, in order. -/
def words (t : Text) : List Text := (splitBy isBlank t).filter (!·.isEmpty)

/-- A line without the carriage return at its end. -/
def dropCarriageReturn (line : Text) : Text :=
  if line.getLast? = some '\r' then line.dropLast else line

/-- The lines of a text: the pieces between newlines, without the empty piece after a
last newline; a carriage return before a newline is part of the line end. -/
def lines (t : Text) : List Text :=
  let pieces := splitBy (· = '\n') t
  let ended := pieces.dropLast.map dropCarriageReturn
  match pieces.getLast? with
  | none | some [] => ended
  | some last => ended ++ [last]

end MarkupPad.Text
