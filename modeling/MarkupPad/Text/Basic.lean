/-!
# Texts and their byte offsets

A `Text` is a list of characters.  Offsets into it count the bytes of its UTF-8
form, so they are a measure on prefixes: an offset is a *boundary* when it is the
size of some prefix.  `splitAt?` cuts a text at a boundary and refuses every other
offset; it is the only way in which this library takes a text apart by offset.

    splitAt? t n = some (a, b) ↔ t = a ++ b ∧ size a = n      (splitAt?_eq_some_iff)
-/

namespace MarkupPad

/-- The characters of a buffer, a name or a line, in order. -/
abbrev Text := List Char

namespace Text

/-! ## Algorithm -/

/-- The length in bytes of the UTF-8 form. -/
def size : Text → Nat
  | [] => 0
  | c :: t => c.utf8Size + size t

/-- The text before and the text after a byte offset; `none` when the offset lies
past the end or inside a character. -/
def splitAt? : Text → Nat → Option (Text × Text)
  | t, 0 => some ([], t)
  | [], _ + 1 => none
  | c :: t, n + 1 =>
    if c.utf8Size ≤ n + 1 then
      (splitAt? t (n + 1 - c.utf8Size)).map fun (before, after) => (c :: before, after)
    else none

/-- The text before an offset. -/
def before? (t : Text) (n : Nat) : Option Text := (t.splitAt? n).map (·.1)

/-- The text after an offset. -/
def after? (t : Text) (n : Nat) : Option Text := (t.splitAt? n).map (·.2)

/-- The text between two offsets, which must be ordered boundaries. -/
def slice? (t : Text) (start stop : Nat) : Option Text :=
  if start ≤ stop then (t.before? stop).bind (·.after? start) else none

/-- A boundary is an offset at which the text can be cut. -/
def IsBoundary (t : Text) (n : Nat) : Prop := ∃ a b, t = a ++ b ∧ size a = n

/-- All boundaries in order, 0 and the size included. -/
def boundariesFrom (offset : Nat) : Text → List Nat
  | [] => [offset]
  | c :: t => offset :: boundariesFrom (offset + c.utf8Size) t

/-- All boundaries in order, 0 and the size included. -/
def boundaries (t : Text) : List Nat := boundariesFrom 0 t

/-- Can the text be cut at the offset? -/
def isBoundary (t : Text) (n : Nat) : Bool := (t.splitAt? n).isSome

/-- The first boundary that is met going down from the offset, byte by byte. -/
def boundaryDownFrom (t : Text) : Nat → Nat
  | 0 => 0
  | n + 1 => if t.isBoundary (n + 1) then n + 1 else boundaryDownFrom t n

/-- The greatest boundary that is not above the offset. -/
def floorBoundary (t : Text) (n : Nat) : Nat := boundaryDownFrom t (min n (size t))

/-- The longest run of characters in the class at the end of the text, with what
stands before it. -/
def splitTrailing (p : Char → Bool) (t : Text) : Text × Text :=
  ((t.reverse.dropWhile p).reverse, (t.reverse.takeWhile p).reverse)

/-- Does the text end with this one? -/
def endsWith (t tail : Text) : Bool := tail.isSuffixOf t

/-- The text without blanks (of the given class) at both ends. -/
def trimBy (p : Char → Bool) (t : Text) : Text :=
  ((t.dropWhile p).reverse.dropWhile p).reverse

/-- The pieces between the characters of the class; always at least one piece. -/
def splitBy (p : Char → Bool) : Text → List Text
  | [] => [[]]
  | c :: t =>
    if p c then [] :: splitBy p t
    else match splitBy p t with
      | [] => [[c]]
      | piece :: rest => (c :: piece) :: rest

/-- The pieces with the separator between them. -/
def join (sep : Text) (pieces : List Text) : Text := (pieces.intersperse sep).flatten

/-! ## Lemmas -/

@[simp] theorem size_nil : size [] = 0 := rfl

@[simp] theorem size_cons (c : Char) (t : Text) : size (c :: t) = c.utf8Size + size t := rfl

@[simp] theorem size_append (a b : Text) : size (a ++ b) = size a + size b := by
  induction a with
  | nil => simp
  | cons c a ih => simp [ih, Nat.add_assoc]

theorem size_eq_zero_iff {t : Text} : size t = 0 ↔ t = [] := by
  cases t with
  | nil => simp
  | cons c t =>
    have := c.utf8Size_pos
    simp
    omega

/-- **Cutting at an offset finds the one decomposition whose first part has that
size.** -/
theorem splitAt?_eq_some_iff {t a b : Text} {n : Nat} :
    splitAt? t n = some (a, b) ↔ t = a ++ b ∧ size a = n := by
  fun_induction splitAt? t n generalizing a b with
  | case1 t =>
    constructor
    · rintro h
      simp only [Option.some.injEq, Prod.mk.injEq] at h
      obtain ⟨rfl, rfl⟩ := h
      simp
    · rintro ⟨rfl, h⟩
      simp [size_eq_zero_iff.1 h]
  | case2 n =>
    constructor
    · intro h
      cases h
    · rintro ⟨h, h'⟩
      obtain ⟨rfl, rfl⟩ := List.append_eq_nil_iff.1 h.symm
      simp at h'
  | case3 c t n hc ih =>
    simp only [Option.map_eq_some_iff, Prod.exists, Prod.mk.injEq]
    constructor
    · rintro ⟨a', b', h, rfl, rfl⟩
      obtain ⟨rfl, hs⟩ := ih.1 h
      exact ⟨by simp, by simp; omega⟩
    · rintro ⟨h, hs⟩
      cases a with
      | nil => simp at hs
      | cons d a =>
        simp only [List.cons_append, List.cons.injEq] at h
        obtain ⟨rfl, rfl⟩ := h
        simp only [size_cons] at hs
        exact ⟨a, b, ih.2 ⟨rfl, by omega⟩, rfl, rfl⟩
  | case4 c t n hc =>
    constructor
    · intro h
      cases h
    · rintro ⟨h, hs⟩
      cases a with
      | nil => simp at hs
      | cons d a =>
        simp only [List.cons_append, List.cons.injEq] at h
        obtain ⟨rfl, rfl⟩ := h
        simp only [size_cons] at hs
        omega

@[simp] theorem splitAt?_append (a b : Text) : splitAt? (a ++ b) (size a) = some (a, b) :=
  splitAt?_eq_some_iff.2 ⟨rfl, rfl⟩

theorem before?_eq_some_iff {t a : Text} {n : Nat} :
    before? t n = some a ↔ ∃ b, t = a ++ b ∧ size a = n := by
  simp [before?, splitAt?_eq_some_iff]

theorem after?_eq_some_iff {t b : Text} {n : Nat} :
    after? t n = some b ↔ ∃ a, t = a ++ b ∧ size a = n := by
  simp [after?, splitAt?_eq_some_iff]

theorem splitTrailing_append (p : Char → Bool) (t : Text) :
    (splitTrailing p t).1 ++ (splitTrailing p t).2 = t := by
  rw [splitTrailing, ← List.reverse_append, List.takeWhile_append_dropWhile, List.reverse_reverse]

end Text

end MarkupPad
