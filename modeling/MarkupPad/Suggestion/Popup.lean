import MarkupPad.Buffer.Line

/-!
# Where the menu pops up

The popup stands below and right of the caret, as far as the window has room for it.
Lengths are in pixels.
-/

namespace MarkupPad

/-- What the place of the popup depends on besides the caret. -/
structure PopupMetrics where
  lineHeight : Float
  charWidth : Float
  topOffset : Float
  leftOffset : Float
  viewportWidth : Float
  viewportHeight : Float

/-- The upper left corner of the popup. -/
structure PopupPosition where
  top : Float
  left : Float

namespace PopupMetrics

/-! ## Algorithm -/

/-- The measures of an ordinary window. -/
def default : PopupMetrics := ⟨24, 9.5, 90, 110, 1280, 800⟩

/-- Room kept free below the popup's corner. -/
def heightReserve : Float := 350

/-- Room kept free right of the popup's corner. -/
def widthReserve : Float := 300

/-- The smaller number; one that is not a number gives way to the other. -/
def atMost (x bound : Float) : Float :=
  if x.isNaN then bound else if bound.isNaN then x else if x < bound then x else bound

/-- The number, or zero when it is negative or not a number. -/
def atLeastZero (x : Float) : Float := if 0 < x then x else 0

/-- The popup for a caret on a line, after so many characters of it. -/
def place (m : PopupMetrics) (line column : Nat) : PopupPosition where
  top := atLeastZero
    (atMost (Float.ofNat line * m.lineHeight + m.topOffset) (m.viewportHeight - heightReserve))
  left := atLeastZero
    (atMost (Float.ofNat column * m.charWidth + m.leftOffset) (m.viewportWidth - widthReserve))

/-- The popup for a caret after the given text. -/
def position (m : PopupMetrics) (before : Text) : PopupPosition :=
  m.place (Caret.lineCount before) (Caret.column before)

end PopupMetrics

end MarkupPad
