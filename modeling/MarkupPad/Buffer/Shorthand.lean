import MarkupPad.Buffer.Offset
import MarkupPad.Shorthand

/-!
# Reading shorthand in a buffer

The shorthand before the caret is found backwards, selector by selector, and what it
stands for is read forwards from mark to mark.

    shorthand? before = some (Shorthand.token? before)
    ofToken? token = some (Shorthand.ofToken token)
-/

namespace MarkupPad.Buffer

open Text

/-! ## Algorithm -/

/-- Where the selector that ends at an offset begins. -/
def selectorStart? (bytes : List UInt8) (stop : Nat) : Option (Option Nat) := do
  let name ← runStart? bytes Shorthand.isSelectorChar stop
  if name < stop ∧ 0 < name then
    let mark ← minus? name 1
    let b ← bytes[mark]?
    return if byteIn Shorthand.isMark b then some mark else none
  else return none

theorem runStart?_le {bytes : List UInt8} {p : Char → Bool} {stop start : Nat}
    (h : runStart? bytes p stop = some start) : start ≤ stop := by
  induction stop with
  | zero =>
    simp only [runStart?, Option.some.injEq] at h
    omega
  | succ stop ih =>
    unfold runStart? at h
    split at h
    · cases h
    · split at h
      · have := ih h
        omega
      · cases h
        omega

theorem selectorStart?_lt {bytes : List UInt8} {stop start : Nat}
    (h : selectorStart? bytes stop = some (some start)) : start < stop := by
  unfold selectorStart? at h
  cases hn : runStart? bytes Shorthand.isSelectorChar stop with
  | none => simp [hn] at h
  | some name =>
    have := runStart?_le hn
    simp only [hn, Option.bind_eq_bind, Option.bind_some] at h
    split at h
    · rename_i hc
      simp only [minus?, show 1 ≤ name by omega, if_true, Option.bind_some] at h
      cases hb : bytes[name - 1]? with
      | none => simp [hb] at h
      | some b =>
        simp only [hb, Option.bind_some, Option.pure_def, Option.some.injEq] at h
        split at h
        · cases h
          omega
        · cases h
    · cases h

/-- Where the selectors that end at an offset begin. -/
def selectorsStart? (bytes : List UInt8) (stop : Nat) : Option Nat :=
  match h : selectorStart? bytes stop with
  | none => none
  | some none => some stop
  | some (some start) =>
    have := selectorStart?_lt h
    selectorsStart? bytes start
termination_by stop

/-- The shorthand before the caret: selectors, and the tag name before them. -/
def shorthand? (before : Text) : Option (Option Token) := do
  let bytes := before.utf8
  let selectors ← selectorsStart? bytes (size before)
  if selectors = size before then return none
  let start ← runStart? bytes Char.isAlphanum selectors
  return some ⟨start, ← before.after? start⟩

/-- How far it is to the next mark, or to the end. -/
def toMark (t : Text) : Nat := size (t.takeWhile fun c => !Shorthand.isMark c)

theorem size_after? {t u : Text} {n : Nat} (h : t.after? n = some u) : size u + n = size t := by
  obtain ⟨a, rfl, rfl⟩ := after?_eq_some_iff.1 h
  simp [Nat.add_comm]

/-- The element with the selectors that a text spells. -/
def addAll? (s : Shorthand) (t : Text) : Option Shorthand :=
  match t with
  | [] => some s
  | mark :: t' =>
    match _hb : after? (mark :: t') 1 with
    | none => none
    | some body =>
      match body.before? (toMark body), _hr : body.after? (toMark body) with
      | some name, some rest =>
        addAll? (s.add mark name) rest
      | _, _ => none
termination_by size t
decreasing_by
  have h1 := size_after? _hb
  have h2 := size_after? _hr
  omega

/-- The element that a token stands for; without a tag it is a `div`. -/
def ofToken? (token : Text) : Option Shorthand := do
  let typed ← token.before? (toMark token)
  let selectors ← token.after? (toMark token)
  addAll? ⟨if typed = [] then "div".toList else typed, [], none⟩ selectors

end MarkupPad.Buffer
