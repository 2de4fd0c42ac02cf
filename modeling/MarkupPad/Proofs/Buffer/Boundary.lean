import Mathlib.Order.Lattice.Nat
import MarkupPad.Buffer.Boundary
import MarkupPad.Proofs.Buffer.Run

/-!
# Clamping is a projection onto the selections that fit

The bytes of a text can be cut where the text can: where a character begins, for its later bytes
begin none.  Hence the way down from an offset ends at a boundary, at the latest at 0, and it
is the greatest one that is not above the offset.  A clamped selection is made of two such
boundaries, and the selections that clamping keeps are just those that fit.

    canCutAt t.utf8 offset ↔ IsBoundary t offset                                 (canCutAt_utf8_iff)
    IsGreatest {n | IsBoundary t n ∧ n ≤ min offset (size t)} (t.floorBoundary offset)
                                                                        (isGreatest_floorBoundary)
    clamp t a b = ⟨t.floorBoundary (min a b), t.floorBoundary (max a b)⟩       (clamp_eq_min_max)
-/

namespace MarkupPad

open Text

namespace Text

/-! ## The bytes of a character -/

/-- Only the first byte of a character begins one. -/
theorem any_isUTF8FirstByte_iff (a : Text) (c : Char) (r : Text) {i : Nat} (hi : i < c.utf8Size) :
    ((utf8 (a ++ c :: r))[size a + i]?.any fun b => b.IsUTF8FirstByte) ↔ i = 0 := by
  have hlength : i < (String.utf8EncodeChar c).length := by rwa [String.length_utf8EncodeChar]
  have hbyte : (utf8 (a ++ c :: r))[size a + i]? = some (String.utf8EncodeChar c)[i] := by
    rw [getElem?_utf8_append, utf8_cons, List.getElem?_append_left hlength,
      List.getElem?_eq_getElem hlength]
  rw [hbyte, Option.any_some, decide_eq_true_eq]
  exact UInt8.isUTF8FirstByte_getElem_utf8EncodeChar

/-! ## The greatest boundary below an offset -/

theorem isGreatest_floorBoundary (t : Text) (offset : Nat) :
    IsGreatest {n | IsBoundary t n ∧ n ≤ min offset (size t)} (t.floorBoundary offset) := by
  have hboundary := isBoundary_floorBoundary t offset
  refine ⟨⟨hboundary, Nat.le_min.2 ⟨floorBoundary_le t offset, hboundary.le_size⟩⟩, ?_⟩
  rintro n ⟨hn, hle⟩
  exact le_floorBoundary hn (Nat.le_min.1 hle).1

end Text

namespace Buffer

/-- **The bytes of a text can be cut where the text can be.** -/
theorem canCutAt_utf8_iff (t : Text) (offset : Nat) :
    canCutAt t.utf8 offset ↔ IsBoundary t offset := by
  have hbytes : canCutAt t.utf8 offset ↔
      offset = 0 ∨ offset = size t ∨ t.utf8[offset]?.any fun b => b.IsUTF8FirstByte := by
    simp [canCutAt, or_assoc]
  rw [hbytes]
  constructor
  · rintro (rfl | rfl | hfirst)
    · exact isBoundary_zero t
    · exact isBoundary_size t
    · obtain ⟨b, hb, -⟩ := (Option.any_eq_true _ _).1 hfirst
      obtain ⟨hlt, -⟩ := List.getElem?_eq_some_iff.1 hb
      rw [length_utf8] at hlt
      obtain ⟨a, c, r, rfl, hle, hlast⟩ := exists_char_at hlt
      obtain ⟨i, rfl⟩ := Nat.exists_eq_add_of_le hle
      rw [size_append, size_cons, size_nil] at hlast
      have hi : i < c.utf8Size := by omega
      rw [(any_isUTF8FirstByte_iff a c r hi).1 hfirst]
      exact isBoundary_append a (c :: r)
  · rintro ⟨a, r, rfl, rfl⟩
    cases r with
    | nil => simp
    | cons c r => exact .inr (.inr ((any_isUTF8FirstByte_iff a c r c.utf8Size_pos).2 rfl))

/-- The way down ends at the latest at 0, so it never leads below zero. -/
theorem floorFrom?_eq (t : Text) (offset : Nat) :
    floorFrom? t.utf8 offset = some (boundaryDownFrom t offset) := by
  induction offset with
  | zero =>
    rw [floorFrom?, if_pos ((canCutAt_utf8_iff t 0).2 (isBoundary_zero t))]
    rfl
  | succ offset ih =>
    rw [floorFrom?, boundaryDownFrom]
    simp only [canCutAt_utf8_iff, Text.isBoundary_iff, ih]
    split
    · rfl
    · rfl

theorem floorBoundary?_eq (t : Text) (offset : Nat) :
    floorBoundary? t offset = some (t.floorBoundary offset) := floorFrom?_eq t _

theorem clamp?_eq (t : Text) (start stop : Nat) :
    clamp? t start stop = some (Selection.clamp t start stop) := by
  by_cases h : start ≤ stop
  · simp only [clamp?, Selection.clamp, if_pos h, floorBoundary?_eq]
    rfl
  · simp only [clamp?, Selection.clamp, if_neg h, floorBoundary?_eq]
    rfl

end Buffer

namespace Selection

theorem clamp_eq_min_max (t : Text) (a b : Nat) :
    clamp t a b = ⟨t.floorBoundary (min a b), t.floorBoundary (max a b)⟩ := by
  rw [clamp]
  split
  · next h => rw [Nat.min_eq_left h, Nat.max_eq_right h]
  · next h =>
    have h' : b ≤ a := by omega
    rw [Nat.min_eq_right h', Nat.max_eq_left h']

/-- **Clamping keeps just the selections that fit.** -/
theorem clamp_eq_self_iff {s : Selection} {t : Text} :
    clamp t s.start s.stop = s ↔ s.Fits t := by
  constructor
  · intro h
    rw [← h]
    exact clamp_fits t s.start s.stop
  · exact clamp_of_fits

/-- **Clamping is a projection onto the selections that fit.**  Going down from any offset comes to
the greatest boundary that is neither above it nor past the end, without a step below zero, and
keeps the order of offsets.  So any two offsets give an ordered selection on boundaries of the text,
the same one in either order; the selections that are kept are those that fit, and a clamped one
is. -/
theorem clamp_is_projection (t : Text) :
    (∀ offset, Buffer.floorBoundary? t offset = some (t.floorBoundary offset) ∧
      IsGreatest {n | IsBoundary t n ∧ n ≤ min offset (size t)} (t.floorBoundary offset)) ∧
    Monotone t.floorBoundary ∧
    (∀ start stop, ∃ s, Buffer.clamp? t start stop = some s ∧ clamp t start stop = s ∧
      s = ⟨t.floorBoundary (min start stop), t.floorBoundary (max start stop)⟩ ∧
      s.start ≤ s.stop ∧ s.stop ≤ size t ∧ IsBoundary t s.start ∧ IsBoundary t s.stop ∧
      clamp t stop start = s ∧ clamp t s.start s.stop = s) ∧
    ∀ s : Selection, clamp t s.start s.stop = s ↔ s.Fits t := by
  refine ⟨fun offset => ⟨Buffer.floorBoundary?_eq t offset, isGreatest_floorBoundary t offset⟩,
    fun _ _ h => floorBoundary_mono t h, ?_, fun s => clamp_eq_self_iff⟩
  intro start stop
  obtain ⟨hle, hstart, hstop⟩ := clamp_fits t start stop
  have hswap : clamp t stop start = clamp t start stop := by
    rw [clamp_eq_min_max, Nat.min_comm, Nat.max_comm, ← clamp_eq_min_max]
  exact ⟨_, Buffer.clamp?_eq t start stop, rfl, clamp_eq_min_max t start stop, hle, hstop.le_size,
    hstart, hstop, hswap, clamp_of_fits ⟨hle, hstart, hstop⟩⟩

/-- An offset far past the end and one within the last character select that character. -/
theorem clamp_is_projection_within_characters :
    Buffer.clamp? "é😀".toList (2 ^ 64 - 1) 5 = some ⟨2, 6⟩ ∧
      Text.floorBoundary "é😀".toList 1 ≤ Text.floorBoundary "é😀".toList 5 ∧
      clamp "é😀".toList 2 6 = ⟨2, 6⟩ := by
  obtain ⟨-, hmono, hclamp, hkept⟩ := clamp_is_projection "é😀".toList
  obtain ⟨s, hs, -, heq, -⟩ := hclamp (2 ^ 64 - 1) 5
  refine ⟨?_, hmono (by decide), (hkept ⟨2, 6⟩).2 (by decide)⟩
  rw [hs, heq]
  rfl

end Selection

end MarkupPad
