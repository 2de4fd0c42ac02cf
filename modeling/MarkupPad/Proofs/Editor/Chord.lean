import MarkupPad.Proofs.Editor.Effect

/-!
# Characters typed with Ctrl, Alt or Meta

A character typed as a chord does nothing, with two exceptions: undo, and a `>` that ends an
opening tag.  The `>` brings the closing tag along whatever the modifiers are, in place of the
selection, so it keeps the document only where these very characters are selected.

    (∀ name, ¬ s.ClosesTag c name) → s.press? ⟨.char c, m⟩ = some (.unchanged, s)
                                                              (press?_of_not_closesTag)
-/

namespace MarkupPad

open Text

theorem Text.slice?_eq_some_iff {t m : Text} {start stop : Nat} :
    t.slice? start stop = some m ↔ ∃ a b, t = a ++ m ++ b ∧ size a = start ∧ size (a ++ m) = stop := by
  constructor
  · intro h
    unfold slice? at h
    split at h
    · obtain ⟨before, hb, ha⟩ := Option.bind_eq_some_iff.1 h
      obtain ⟨b, rfl, hstop⟩ := before?_eq_some_iff.1 hb
      obtain ⟨a, rfl, hstart⟩ := after?_eq_some_iff.1 ha
      exact ⟨a, b, rfl, hstart, hstop⟩
    · cases h
  · rintro ⟨a, b, rfl, rfl, rfl⟩
    exact slice?_append a m b

theorem Document.set_eq_self_iff {d : Document} {facet : Facet} {t : Text} :
    d.set facet t = d ↔ t = d.get facet := by
  obtain ⟨markup, style, script⟩ := d
  cases facet <;> simp [set, get]

/-- A replacement leaves the text as it is just where it stands there already. -/
theorem Completion.splice?_eq_self_iff {t insertion : Text} {start stop caret : Nat} :
    (∃ c, splice? t start stop insertion caret = some c ∧ c.text = t) ↔
      t.slice? start stop = some insertion := by
  rw [slice?_eq_some_iff]
  constructor
  · rintro ⟨c, hc, ht⟩
    simp only [splice?, Option.bind_eq_bind, Option.bind_eq_some_iff] at hc
    obtain ⟨head, hhead, tail, htail, hc⟩ := hc
    cases hc
    obtain ⟨-, -, hstart⟩ := before?_eq_some_iff.1 hhead
    obtain ⟨a, ha, hstop⟩ := after?_eq_some_iff.1 htail
    have hsame : head ++ insertion = a := List.append_cancel_right (ht.trans ha)
    exact ⟨head, tail, ht.symm, hstart, by rw [hsame, hstop]⟩
  · rintro ⟨a, b, rfl, rfl, rfl⟩
    exact ⟨_, splice?_append a insertion b insertion caret, rfl⟩

namespace Editor

/-- A `>` typed now ends the opening tag of an element of this name, and closes the element. -/
def ClosesTag (s : Editor) (c : Char) (name : Text) : Prop :=
  c = '>' ∧ s.facet = .markup ∧ s.config.autoClose ∧
    ∃ before, s.text.before? s.selection.start = some before ∧
      Element.autoClosed? before = some name

variable {s : Editor} {c : Char} {m : Modifiers} {name : Text}

/-! ## The closing tag that comes along -/

theorem autoClosed?_of_closesTag (h : s.ClosesTag c name) :
    s.autoClosed? (.char c) = some (some name) := by
  obtain ⟨rfl, hfacet, hauto, before, hbefore, hname⟩ := h
  rw [autoClosed?, if_pos ⟨rfl, hfacet, hauto⟩, hbefore]
  simp only [Buffer.autoClosed?_eq, hname]

theorem autoClosed?_of_not_closesTag (h : ∀ name, ¬ s.ClosesTag c name) :
    s.autoClosed? (.char c) = some none := by
  unfold autoClosed?
  split
  · next hc =>
    cases hbefore : s.text.before? s.selection.start with
    | none => rfl
    | some before =>
      simp only [Buffer.autoClosed?_eq]
      cases hname : Element.autoClosed? before with
      | none => rfl
      | some name =>
        exact absurd ⟨Key.char.inj hc.1, hc.2.1, hc.2.2, before, hbefore, hname⟩ (h name)
  · rfl

/-- No more than one name is closed. -/
theorem ClosesTag.unique {other : Text} (h : s.ClosesTag c name) (h' : s.ClosesTag c other) :
    other = name := by
  have hsame := (autoClosed?_of_closesTag h').symm.trans (autoClosed?_of_closesTag h)
  simpa using hsame

/-! ## Presses of characters -/

/-- A character that does not undo goes past the shortcuts, the menu and the triggers. -/
theorem press?_char (hundo : ¬ KeyPress.isUndo ⟨.char c, m⟩) :
    s.press? ⟨.char c, m⟩ = (do
      match ← s.autoClosed? (.char c) with
      | some name =>
        let completion ← Completion.autoClose? s.text s.selection.start s.selection.stop name
        return s.perform .autoClose completion.toEdit
      | none => s.pressPlain? ⟨.char c, m⟩) := by
  have hduplicate : ¬ KeyPress.isDuplicate ⟨.char c, m⟩ := by simp [KeyPress.isDuplicate]
  have hmenu : s.pressInMenu? (.char c) = some none := rfl
  have htrigger : s.trigger? (.char c) = some none := by simp [trigger?]
  rw [press?, if_neg hundo, if_neg hduplicate, hmenu, ite_self, pressInText?, htrigger]
  rfl

section
variable (hchord : KeyPress.isChord ⟨.char c, m⟩) (hundo : ¬ KeyPress.isUndo ⟨.char c, m⟩)

include hundo

/-- The closing tag comes along whatever the modifiers are. -/
theorem press?_of_closesTag (h : s.ClosesTag c name) :
    s.press? ⟨.char c, m⟩ =
      (Completion.autoClose? s.text s.selection.start s.selection.stop name).map fun completion =>
        s.perform .autoClose completion.toEdit := by
  rw [press?_char hundo, autoClosed?_of_closesTag h, Option.map_eq_bind]
  rfl

include hchord

/-- **A chord that closes no tag does nothing at all.** -/
theorem press?_of_not_closesTag (h : ∀ name, ¬ s.ClosesTag c name) :
    s.press? ⟨.char c, m⟩ = some (.unchanged, s) := by
  have hplain : s.pressPlain? ⟨.char c, m⟩ = some (.unchanged, s) := by
    simp [pressPlain?, edit?, hchord]
  rw [press?_char hundo, autoClosed?_of_not_closesTag h]
  exact hplain

/-- **A chord keeps the document unless it is a `>` that closes a tag**, and then only where the
characters that would be put in are selected. -/
theorem chord_keeps_document_iff :
    (∃ outcome s', s.press? ⟨.char c, m⟩ = some (outcome, s') ∧ s'.document = s.document) ↔
      ∀ name, s.ClosesTag c name →
        s.text.slice? s.selection.start s.selection.stop =
          some (['>'] ++ Shorthand.closingTag name) := by
  by_cases h : ∃ name, s.ClosesTag c name
  · obtain ⟨name, hname⟩ := h
    have hdocument (completion : Completion) :
        (s.perform .autoClose completion.toEdit).2.document = s.document ↔
          completion.text = s.text :=
      Document.set_eq_self_iff
    constructor
    · rintro ⟨outcome, s', hpress, hs'⟩ other hother
      obtain rfl := hname.unique hother
      rw [← Completion.splice?_eq_self_iff]
      rw [press?_of_closesTag hundo hname, Option.map_eq_some_iff] at hpress
      obtain ⟨completion, hsplice, hperform⟩ := hpress
      refine ⟨completion, hsplice, (hdocument completion).1 ?_⟩
      rw [hperform]
      exact hs'
    · intro hselected
      obtain ⟨completion, hsplice, htext⟩ :=
        Completion.splice?_eq_self_iff.2 (hselected name hname)
      rw [press?_of_closesTag hundo hname, Completion.autoClose?, hsplice]
      exact ⟨_, _, rfl, (hdocument completion).2 htext⟩
  · rw [not_exists] at h
    rw [press?_of_not_closesTag hchord hundo h]
    constructor
    · intro _ name hname
      exact absurd hname (h name)
    · intro _
      exact ⟨_, _, rfl, rfl⟩

end

/-- A void element is not closed: there the chord keeps the document. -/
theorem chord_keeps_document_after_void_tag :
    let s := (new .default).load ⟨['<', 'b', 'r'], [], []⟩
    KeyPress.isChord ⟨.char '>', .ctrl⟩ ∧ ¬ KeyPress.isUndo ⟨.char '>', .ctrl⟩ ∧
      ∃ outcome s', s.press? ⟨.char '>', .ctrl⟩ = some (outcome, s') ∧ s'.document = s.document := by
  have hchord : KeyPress.isChord ⟨.char '>', .ctrl⟩ := by decide
  have hundo : ¬ KeyPress.isUndo ⟨.char '>', .ctrl⟩ := by decide
  refine ⟨hchord, hundo, (chord_keeps_document_iff hchord hundo).2 ?_⟩
  rintro name ⟨-, -, -, before, hbefore, hname⟩
  obtain rfl : ['<', 'b', 'r'] = before := Option.some.inj hbefore
  have hvoid : Element.autoClosed? ['<', 'b', 'r'] = none := by decide
  cases hvoid.symm.trans hname

/-- Ctrl and `>` after an opening tag put its closing tag in. -/
theorem not_all_chords_keep_document :
    ¬ ∀ s c m, Reachable s → KeyPress.isChord ⟨.char c, m⟩ → ¬ KeyPress.isUndo ⟨.char c, m⟩ →
      ∃ outcome s', s.press? ⟨.char c, m⟩ = some (outcome, s') ∧ s'.document = s.document := by
  intro hall
  have hload : Reachable ((new .default).load ⟨"<p".toList, [], []⟩) :=
    .perform (.load _) (.new .default) rfl
  have hundo : ¬ KeyPress.isUndo ⟨.char '>', .ctrl⟩ := by decide
  obtain ⟨outcome, s', hpress, hs'⟩ := hall _ '>' .ctrl hload (by decide) hundo
  have hcloses : ((new .default).load ⟨"<p".toList, [], []⟩).ClosesTag '>' ['p'] :=
    ⟨rfl, rfl, rfl, "<p".toList, rfl, by decide⟩
  rw [press?_of_closesTag hundo hcloses] at hpress
  cases hpress
  cases hs'

end Editor

end MarkupPad
