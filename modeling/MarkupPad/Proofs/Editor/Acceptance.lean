import MarkupPad.Proofs.Editor.Menu
import MarkupPad.Proofs.Editor.Renaming

/-!
# Accepting a suggestion by pointer and by keys

A suggestion is accepted in one way only, once it is highlighted.  The pointer highlights it at
once; Down and Up come to it around the circle of the menu, each on its own way.  None of them
changes anything but the highlight, which is gone when the suggestion is accepted.

    (s.highlightAt i).press? (.plain .down) = some (.moved, s.highlightAt (i + 1))    (press?_down)
    (s.highlightAt i).press? (.plain .up) = some (.moved, s.highlightAt (i - 1))        (press?_up)
    index < s.menu.items.length →
      ∃ edit, (s.highlightAt index).accept? = some (s.perform .suggestion edit)
                                                                          (accept?_highlightAt)
-/

namespace MarkupPad

/-- A key without modifiers is no shortcut. -/
theorem KeyPress.not_shortcut_plain (key : Key) :
    ¬ (plain key).isUndo ∧ ¬ (plain key).isDuplicate := by
  have hctrl : Modifiers.none.holds .ctrl = false := by decide
  have hcommand : Modifiers.none.holds .command = false := by decide
  have halt : Modifiers.none.holds .alt = false := by decide
  simp [plain, isUndo, isDuplicate, hctrl, hcommand, halt]

namespace Editor

variable {s : Editor}

/-- The editor with the highlight of its menu at a place of the circle. -/
def highlightAt (s : Editor) (i : Int) : Editor := { s with menu := s.menu.highlight i }

theorem highlightAt_congr {i j : Int}
    (h : i % s.menu.items.length = j % s.menu.items.length) :
    s.highlightAt i = s.highlightAt j := by
  rw [highlightAt, Menu.highlight_congr h, highlightAt]

/-! ## Keys in an open menu -/

theorem MenuFits.menuIsOpen (h : s.MenuFits) (hne : s.menu.items ≠ []) :
    s.menuIsOpen ∧ s.menu.index < s.menu.items.length := by
  rcases h with hclosed | ⟨-, hpredictions, hoffers⟩
  · rw [hclosed] at hne
    exact absurd rfl hne
  · refine ⟨?_, hoffers.index_lt⟩
    rw [Editor.menuIsOpen, hoffers.isActive, hpredictions]
    rfl

/-- What an open menu takes goes nowhere else. -/
theorem press?_of_taken (hopen : s.menuIsOpen) {key : Key} {r : Outcome × Editor}
    (h : s.pressInMenu? key = some (some r)) : s.press? (.plain key) = some r := by
  obtain ⟨hundo, hduplicate⟩ := KeyPress.not_shortcut_plain key
  rw [press?, if_neg hundo, if_neg hduplicate, if_pos hopen]
  show (s.pressInMenu? key).bind _ = _
  rw [h]
  rfl

section
variable (hopen : s.menuIsOpen) (i : Int)
include hopen

theorem isActive_of_menuIsOpen : s.menu.isActive := (Bool.and_eq_true_iff.1 hopen).1

theorem press?_down : (s.highlightAt i).press? (.plain .down) =
    some (.moved, s.highlightAt (i + 1)) := by
  have hnext := Menu.next_highlight (isActive_of_menuIsOpen hopen) i
  have htaken : (s.highlightAt i).pressInMenu? .down =
      some (some (.moved, s.highlightAt (i + 1))) := by
    rw [highlightAt, highlightAt, ← hnext]
    rfl
  exact press?_of_taken (s := s.highlightAt i) hopen htaken

theorem press?_up : (s.highlightAt i).press? (.plain .up) =
    some (.moved, s.highlightAt (i - 1)) := by
  have hprev : (s.highlightAt i).menu.prev? = some (s.menu.highlight (i - 1)) :=
    Menu.prev?_highlight (isActive_of_menuIsOpen hopen) i
  have htaken : (s.highlightAt i).pressInMenu? .up =
      some (some (.moved, s.highlightAt (i - 1))) := by
    rw [pressInMenu?, hprev]
    rfl
  exact press?_of_taken (s := s.highlightAt i) hopen htaken

end

/-- A key that moves the highlight by so many places moves it on and on. -/
theorem pressAll?_replicate {key : Key} {d : Int}
    (hmove : ∀ i, (s.highlightAt i).press? (.plain key) = some (.moved, s.highlightAt (i + d)))
    (i : Int) (count : Nat) (presses : List KeyPress) :
    (s.highlightAt i).pressAll? (List.replicate count (.plain key) ++ presses) =
      ((s.highlightAt (i + count * d)).pressAll? presses).map fun r =>
        (List.replicate count .moved ++ r.1, r.2) := by
  induction count generalizing i with
  | zero =>
    rw [show i + ((0 : Nat) : Int) * d = i by simp]
    simp
  | succ count ih =>
    have hplace : i + d + count * d = i + ((count + 1 : Nat) : Int) * d := by
      rw [Int.natCast_add, Int.add_mul]
      omega
    rw [List.replicate_succ, List.cons_append, pressAll?, hmove]
    simp only [Option.bind_eq_bind, Option.bind_some, ih, hplace]
    cases (s.highlightAt (i + ((count + 1 : Nat) : Int) * d)).pressAll? presses with
    | none => rfl
    | some r => rfl

/-! ## Accepting -/

/-- What is accepted does not depend on how the highlight has come there. -/
theorem accept?_highlightAt {index : Nat} (h : index < s.menu.items.length) :
    ∃ edit, (s.highlightAt index).accept? = some (s.perform .suggestion edit) := by
  have hitem : (s.highlightAt index).menu.highlighted? = some s.menu.items[index] := by
    rw [highlightAt, Menu.highlight_of_lt h]
    exact List.getElem?_eq_getElem h
  rw [accept?, hitem]
  simp only [Buffer.accept?_eq, Option.bind_eq_bind, Option.bind_some]
  exact ⟨_, rfl⟩

theorem hover?_of_lt {index : Nat} (h : index < s.menu.items.length) :
    s.hover? index = some (s.highlightAt index) := by
  rw [hover?, Menu.hover?, if_pos h, highlightAt, Menu.highlight_of_lt h]
  rfl

/-- **The pointer and the keys accept alike.**  With the highlight at some index of `n` suggestions,
another one is accepted by a click, by Enter or Tab under the pointer, and by Enter after as many
Downs or Ups as there are places between the two: always with the same outcome and the same editor.
A click below the last one does nothing. -/
theorem pointer_and_keys_accept_alike (h : Reachable s) (index : Nat) :
    let n : Int := s.menu.items.length
    let downs := ((index - s.menu.index : Int) % n).toNat
    let ups := ((s.menu.index - index : Int) % n).toNat
    (index < s.menu.items.length →
      ∃ edit outcome s' hovered, (outcome, s') = s.perform .suggestion edit ∧
        s.click? index = some (outcome, s') ∧
        s.hover? index = some hovered ∧
        hovered.press? (.plain .enter) = some (outcome, s') ∧
        hovered.press? (.plain .tab) = some (outcome, s') ∧
        s.pressAll? (List.replicate downs (.plain .down) ++ [.plain .enter]) =
          some (List.replicate downs .moved ++ [outcome], s') ∧
        s.pressAll? (List.replicate ups (.plain .up) ++ [.plain .enter]) =
          some (List.replicate ups .moved ++ [outcome], s')) ∧
    (s.menu.items.length ≤ index → s.click? index = some (.unchanged, s)) := by
  intro n downs ups
  constructor
  · intro hindex
    have hne : s.menu.items ≠ [] := List.ne_nil_of_length_pos (Nat.zero_lt_of_lt hindex)
    obtain ⟨hopen, hhighlighted⟩ := h.menuFits.menuIsOpen hne
    obtain ⟨edit, haccept⟩ := accept?_highlightAt hindex
    have hhover := hover?_of_lt hindex
    have htaken : some <$> (s.highlightAt index).accept? =
        some (some (s.perform .suggestion edit)) := by
      rw [haccept]
      rfl
    have henter : (s.highlightAt index).press? (.plain .enter) =
        some (s.perform .suggestion edit) :=
      press?_of_taken (s := s.highlightAt index) hopen htaken
    have htab : (s.highlightAt index).press? (.plain .tab) = some (s.perform .suggestion edit) :=
      press?_of_taken (s := s.highlightAt index) hopen htaken
    have hself : s.highlightAt s.menu.index = s := by
      rw [highlightAt, Menu.highlight_of_lt hhighlighted]
    have hn : n ≠ 0 := by omega
    refine ⟨edit, _, _, _, rfl, ?click, hhover, henter, htab, ?down, ?up⟩
    case click =>
      rw [click?, hhover]
      exact haccept
    case down =>
      have hplace : (s.menu.index + downs * 1 : Int) % n = index % n := by
        rw [Int.toNat_of_nonneg (Int.emod_nonneg _ hn), Int.mul_one, Int.add_emod_emod,
          add_sub_cancel]
      have hall := pressAll?_replicate (press?_down hopen) s.menu.index downs [.plain .enter]
      rw [hself, highlightAt_congr hplace] at hall
      rw [hall, pressAll?, henter]
      rfl
    case up =>
      have hplace : (s.menu.index + ups * -1 : Int) % n = index % n := by
        rw [Int.toNat_of_nonneg (Int.emod_nonneg _ hn), Int.mul_neg_one, ← Int.sub_eq_add_neg,
          Int.sub_emod_emod, Int.sub_sub_self]
      have hall := pressAll?_replicate (press?_up hopen) s.menu.index ups [.plain .enter]
      rw [hself, highlightAt_congr hplace] at hall
      rw [hall, pressAll?, henter]
      rfl
  · intro hbelow
    rw [click?, hover?, Menu.hover?, if_neg (Nat.not_lt.2 hbelow)]
    rfl

/-- After `<l` the menu offers four elements.  The last one is a click away, or three Downs, or one
Up. -/
theorem pointer_and_keys_accept_alike_at_last :
    ∃ s, Reachable s ∧
      s.menu.items.map (·.value) = ["label", "legend", "li", "link"].map String.toList ∧
      s.menu.index = 0 ∧ ∃ outcome s', s'.text = "<link>".toList ∧
        s.click? 3 = some (outcome, s') ∧
        s.pressAll? [.plain .down, .plain .down, .plain .down, .plain .enter] =
          some ([.moved, .moved, .moved, outcome], s') ∧
        s.pressAll? [.plain .up, .plain .enter] = some ([.moved, outcome], s') := by
  have hl := Reachable.perform (.change "<l".toList ⟨2, 2⟩) (.new .default) rfl
  obtain ⟨edit, outcome, s', hovered, -, hclick, -, -, -, hdown, hup⟩ :=
    (pointer_and_keys_accept_alike hl 3).1 (by decide)
  refine ⟨_, hl, rfl, rfl, outcome, s', ?_, hclick, hdown, hup⟩
  cases hclick
  rfl

end Editor

end MarkupPad
