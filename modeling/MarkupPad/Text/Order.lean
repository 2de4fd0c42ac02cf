import MarkupPad.Text.Basic

/-!
# The order of texts

Texts are ordered by their first different characters, which is also the order of their
UTF-8 bytes.

    comesBefore s t ↔ s < t      (comesBefore_iff)
-/

namespace MarkupPad.Text

/-! ## Algorithm -/

/-- Does a text come before another? -/
def comesBefore : Text → Text → Bool
  | [], [] => false
  | [], _ :: _ => true
  | _ :: _, [] => false
  | a :: s, b :: t => a < b || (a = b && comesBefore s t)

/-! ## Lemmas -/

/-- Texts are in the order of lists of characters. -/
theorem comesBefore_iff {s t : Text} : comesBefore s t ↔ s < t := by
  induction s generalizing t with
  | nil => cases t <;> simp [comesBefore]
  | cons a s ih =>
    cases t with
    | nil => simp [comesBefore]
    | cons b t => simp [comesBefore, List.cons_lt_cons_iff, ih]

end MarkupPad.Text
