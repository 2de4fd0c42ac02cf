import MarkupPad.Buffer.Token
import MarkupPad.Element.Renaming

/-!
# Matching and renaming tags in a buffer

The closing tag that balances an opening one is found by two searches in turn: the next
closing tag of the name, and the next opening tag before it.  A rename is recognised by
comparing the bytes of the old and the new text from both ends.

    closing? t start name = Element.closing? t start name
    rename? old new caret = some (Element.rename? old new caret)
-/

namespace MarkupPad.Buffer

open Text

/-! ## The balancing closing tag -/

/-- Do the bytes of the name stand at an offset, whatever their ASCII case? -/
def nameAt (bytes name : List UInt8) (i : Nat) : Bool :=
  let lower (b : UInt8) : Char := (Char.ofUInt8 b).toLower
  i + name.length ≤ bytes.length &&
    ((bytes.drop i).take name.length).map lower = name.map lower

/-- Does a `<` at this offset open an element of the name? -/
def opensAt (bytes name : List UInt8) (i : Nat) : Bool :=
  nameAt bytes name (i + 1) &&
    match bytes[i + 1 + name.length]? with
    | none => true
    | some b => byteIn (fun c => c = '>' || isAsciiBlank c) b

/-- Does a `<` at this offset begin the closing tag of the name? -/
def closesAt (bytes name : List UInt8) (i : Nat) : Bool :=
  holdsAt bytes (· = '/') (i + 1) && nameAt bytes name (i + 2) &&
    holdsAt bytes (· = '>') (i + 2 + name.length)

/-- The first `<` at an offset or after it that fits. -/
def nextAngle? (bytes : List UInt8) (start : Nat) (fits : Nat → Bool) : Option Nat :=
  (List.range' start (bytes.length - start)).find? fun i => holdsAt bytes (· = '<') i && fits i

theorem le_of_nextAngle? {bytes : List UInt8} {start i : Nat} {fits : Nat → Bool}
    (h : nextAngle? bytes start fits = some i) : start ≤ i := by
  have hm := List.mem_of_find?_eq_some h
  rw [List.mem_range'_1] at hm
  exact hm.1

/-- The balancing closing tag at an offset or after it, where `depth` elements of the name
are open inside the one whose closing tag is sought. -/
def closingFrom? (bytes name : List UInt8) (depth pos : Nat) : Option Nat :=
  if pos < bytes.length then
    match _hc : nextAngle? bytes pos (closesAt bytes name) with
    | none => none
    | some close =>
      match _ho : (nextAngle? bytes pos (opensAt bytes name)).filter (· < close) with
      | some opening => closingFrom? bytes name (depth + 1) (opening + 1)
      | none =>
        match depth with
        | 0 => some close
        | inner + 1 => closingFrom? bytes name inner (close + 1)
  else none
termination_by bytes.length - pos
decreasing_by
  · have := le_of_nextAngle? (Option.filter_eq_some_iff.1 _ho).1
    omega
  · have := le_of_nextAngle? _hc
    omega

/-- The offset of the closing tag that balances the opening tag which begins at `start`;
`none` when the markup is unbalanced. -/
def closing? (t : Text) (start : Nat) (name : Text) : Option Nat :=
  closingFrom? t.utf8 name.utf8 0 (start + 1)

/-! ## Renaming -/

/-- How many bytes two texts have in common at the front. -/
def commonPrefix : List UInt8 → List UInt8 → Nat
  | a :: as, b :: bs => if a = b then commonPrefix as bs + 1 else 0
  | _, _ => 0

/-- How many bytes two texts have in common at the end. -/
def commonSuffix (a b : List UInt8) : Nat := commonPrefix a.reverse b.reverse

/-- Does a `>` come before any `<` from an offset on? -/
def isEndedFrom (bytes : List UInt8) (i : Nat) : Bool :=
  ((bytes.drop i).find? (byteIn fun c => c = '<' || c = '>')).any (byteIn (· = '>'))

/-- The old and the new name of the tag that begins before the offset `start`, when the
edit from `old` to `new` changed nothing but that name. -/
def names? (old new : Text) (start : Nat) : Option (Option (Text × Text)) := do
  let shared := commonPrefix old.utf8 new.utf8
  if shared < start then return none
  let kept := min (commonSuffix old.utf8 new.utf8) (← minus? (min (size old) (size new)) shared)
  let oldStop := start + (runLength? old.utf8 Element.isNameChar start).getD 0
  let newStop := start + (runLength? new.utf8 Element.isNameChar start).getD 0
  if oldStop < (← minus? (size old) kept) then return none
  if newStop < (← minus? (size new) kept) then return none
  let oldName ← old.slice? start oldStop
  let newName ← new.slice? start newStop
  if oldName = newName ∨ !isEndedFrom old.utf8 oldStop then return none
  return some (oldName, newName)

/-- The new text with the closing tag renamed too; nothing when the edit did not rename the
opening tag at the caret, or when the tag is not closed. -/
def rename? (old new : Text) (caret : Nat) : Option (Option Text) :=
  if size old = size new then some none
  else
    match new.before? caret with
    | none => some none
    | some before => do
      match ← tagName? before with
      | none => return none
      | some name =>
        match ← names? old new name.start with
        | none => return none
        | some (oldName, newName) =>
          match closing? new (← minus? name.start 1) oldName with
          | none => return none
          | some close =>
            let head ← new.before? (close + 2)
            let tail ← new.after? (close + 2 + size oldName)
            return some (head ++ newName ++ tail)

end MarkupPad.Buffer
