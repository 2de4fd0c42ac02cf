import MarkupPad.Proofs.Editor.Effect

/-!
# An editor whose selection fits never fails

Every scanner and every edit of the buffer yields `none` when it cuts a text outside or
inside a character, reads a byte past the end or goes below offset zero.  From a selection
that fits its text no operation does so, whatever its arguments are.

    s.selection.Fits s.text → (s.perform? operation).isSome ∧ s.popup?.isSome
-/

namespace MarkupPad.Editor

open Text

variable {s : Editor}

theorem moveCaret?_isSome (h : s.selection.Fits s.text) (motion : Motion) :
    (s.moveCaret? motion).isSome := by
  obtain ⟨n, hn, -⟩ := Caret.move?_isBoundary h motion
  rw [moveCaret?, Buffer.move?_eq, hn]
  simp only [Option.bind_eq_bind, Option.bind_some]
  split
  · rfl
  · rfl

theorem edit?_isSome (h : s.selection.Fits s.text) (press : KeyPress) :
    (s.edit? press).isSome := by
  obtain ⟨key, modifiers⟩ := press
  cases key with
  | char c =>
    obtain ⟨e, he, -⟩ := Edit.replace?_fits h [c]
    simp only [edit?, he]
    split
    · rfl
    · rfl
  | enter =>
    obtain ⟨e, he, -⟩ := Edit.replace?_fits h ['\n']
    simp only [edit?, he]
    rfl
  | backspace =>
    obtain ⟨e, he, -⟩ := Edit.backspace?_fits h
    simp only [edit?, Buffer.backspace?_eq, he]
    rfl
  | delete =>
    obtain ⟨e, he, -⟩ := Edit.delete?_fits h
    simp only [edit?, Buffer.delete?_eq, he]
    rfl
  | _ => rfl

theorem change?_isSome (s : Editor) (t : Text) (selection : Selection) :
    (s.change? t selection).isSome := by
  obtain ⟨r, hr, -⟩ := change?_spec s t selection
  rw [hr]
  rfl

theorem pressPlain?_isSome (h : s.selection.Fits s.text) (press : KeyPress) :
    (s.pressPlain? press).isSome := by
  unfold pressPlain?
  split
  · exact moveCaret?_isSome h .left
  · exact moveCaret?_isSome h .right
  · exact moveCaret?_isSome h .up
  · exact moveCaret?_isSome h .down
  · exact moveCaret?_isSome h .home
  · exact moveCaret?_isSome h .toEnd
  · obtain ⟨edit, he⟩ := Option.isSome_iff_exists.1 (edit?_isSome h press)
    rw [he]
    cases edit with
    | none => rfl
    | some edit => exact change?_isSome s edit.text edit.selection

/-- The triggers and the names of open elements are found on any text. -/
theorem detect_isSome (s : Editor) (key : Key) :
    (s.trigger? key).isSome ∧ (s.autoClosed? key).isSome := by
  constructor
  · unfold trigger?
    split
    · rw [Buffer.trigger?_eq]
      rfl
    · rfl
  · unfold autoClosed?
    split
    · split
      · rfl
      · rw [Buffer.autoClosed?_eq]
        rfl
    · rfl

theorem pressInText?_isSome (h : s.selection.Fits s.text) (press : KeyPress) :
    (s.pressInText? press).isSome := by
  obtain ⟨trigger, ht⟩ := Option.isSome_iff_exists.1 (detect_isSome s press.key).1
  obtain ⟨name, hn⟩ := Option.isSome_iff_exists.1 (detect_isSome s press.key).2
  rw [pressInText?, ht]
  cases trigger with
  | some trigger =>
    obtain ⟨c, hc, -⟩ := Trigger.expand?_fits (trigger?_at ht)
    simp only [Option.bind_eq_bind, Option.bind_some, Buffer.expand?_eq, hc]
    rfl
  | none =>
    simp only [Option.bind_eq_bind, Option.bind_some, hn]
    cases name with
    | some name =>
      obtain ⟨c, hc, -⟩ := Completion.autoClose?_fits h name
      simp only [hc, Option.bind_some]
      rfl
    | none => exact pressPlain?_isSome h press

theorem press?_isSome (h : s.selection.Fits s.text) (press : KeyPress) :
    (s.press? press).isSome := by
  unfold press?
  split
  · rfl
  · split
    · obtain ⟨e, he, -⟩ := Edit.duplicate?_fits h
      rw [Buffer.duplicate?_eq, he]
      rfl
    · split
      · obtain ⟨taken, ht, -⟩ := pressInMenu?_spec s press.key False
        rw [ht]
        cases taken with
        | some r => rfl
        | none => exact pressInText?_isSome h press
      · exact pressInText?_isSome h press

theorem popup?_isSome (h : s.selection.Fits s.text) : s.popup?.isSome := by
  obtain ⟨before, hb⟩ := Option.isSome_iff_exists.1 (isBoundary_iff_before?.1 h.2.1)
  unfold popup?
  split
  · simp only [hb, Buffer.column?_eq, Option.bind_eq_bind, Option.bind_some]
    rfl
  · rfl

theorem perform?_isSome (h : s.selection.Fits s.text) (operation : Operation) :
    (s.perform? operation).isSome := by
  cases operation with
  | press press =>
    rw [perform?, Option.isSome_map]
    exact press?_isSome h press
  | change t selection =>
    rw [perform?, Option.isSome_map]
    exact change?_isSome s t selection
  | click index =>
    obtain ⟨r, menu, hr, -⟩ := click?_spec s index
    rw [perform?, hr]
    rfl
  | select start stop =>
    rw [perform?_select]
    rfl
  | inject id =>
    rw [perform?_inject]
    rfl
  | finishRender =>
    rw [perform?_finishRender]
    rfl
  | _ => rfl

/-- **While the selection fits the active buffer, no operation fails**: none takes a piece of
a text out of range, backwards or from inside a character, and none subtracts below zero. -/
theorem operations_never_fail (h : s.selection.Fits s.text) :
    (∀ operation, (s.perform? operation).isSome) ∧ s.popup?.isSome :=
  ⟨perform?_isSome h, popup?_isSome h⟩

/-- An accented letter is selected, and is taken away. -/
theorem operations_never_fail_at_accent :
    let s := ((new .default).load ⟨"<p>é</p>".toList, [], []⟩).select 3 5
    s.selection.Fits s.text ∧ (s.perform? (.press (.plain .backspace))).isSome ∧ s.popup?.isSome :=
  have h : Selection.Fits ⟨3, 5⟩ "<p>é</p>".toList := by decide
  ⟨h, (operations_never_fail (s := ((new .default).load ⟨"<p>é</p>".toList, [], []⟩).select 3 5) h).1
    _, (operations_never_fail (s := ((new .default).load ⟨"<p>é</p>".toList, [], []⟩).select 3 5) h).2⟩

end MarkupPad.Editor
