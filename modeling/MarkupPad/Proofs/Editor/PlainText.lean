import MarkupPad.Proofs.Editor.Menu
import MarkupPad.Proofs.Editor.Renaming
import MarkupPad.Proofs.Editor.Selection

/-!
# Outside the markup an editor is a plain one

A plain editor has a text with its selection and nothing else: every key types its character,
takes a character away, moves the caret or does nothing.  In the styles and the script an editor
does just that.  No menu is open there, no trigger fires and no tag is closed or renamed.

    s.Shows facet d e → the press leads to s' and e' with s'.Shows facet d e'
                                                              (Shows.press?_alike)
    typing t at a selection a ++ m ++ b leads to a ++ t ++ b            (Edit.foldlM_press?_typed)
    Reachable s → s.facet ≠ .markup → s.SelectionFits ∧ s.menu = .empty
                                                              (Reachable.outside_markup)
-/

namespace MarkupPad

open Text

namespace KeyPress

/-- The character that a press types into a plain text. -/
def character? (press : KeyPress) : Option Char :=
  match press.key with
  | .char c => if press.isChord then none else some c
  | .enter => some '\n'
  | _ => none

/-- A press that types is no shortcut. -/
theorem not_shortcut_of_character? {press : KeyPress} {c : Char} (h : press.character? = some c) :
    ¬ press.isUndo ∧ ¬ press.isDuplicate := by
  obtain ⟨key, modifiers⟩ := press
  cases key with
  | char d =>
    simp only [character?] at h
    split at h
    · cases h
    · next hchord =>
      simp only [isChord, Bool.or_eq_true, not_or] at hchord
      simp [isUndo, isDuplicate, hchord]
  | enter => simp [isUndo, isDuplicate]
  | _ => cases h

theorem no_shortcuts_of_mapM {presses : List KeyPress} {typed : Text}
    (h : presses.mapM character? = some typed) :
    ∀ press ∈ presses, ¬ press.isUndo ∧ ¬ press.isDuplicate := by
  induction presses generalizing typed with
  | nil => simp
  | cons press presses ih =>
    simp only [List.mapM_cons, Option.bind_eq_bind, Option.bind_eq_some_iff] at h
    obtain ⟨c, hc, rest, hrest, -⟩ := h
    rw [List.forall_mem_cons]
    exact ⟨not_shortcut_of_character? hc, ih hrest⟩

end KeyPress

/-! ## The plain editor -/

namespace Edit

/-- The caret at its new place. -/
def move? (e : Edit) (motion : Motion) : Option Edit :=
  (Caret.move? e.text e.selection motion).map (collapsed e.text)

/-- What a key press makes of a text and its selection. -/
def press? (e : Edit) (press : KeyPress) : Option Edit :=
  match press.key with
  | .char c => if press.isChord then some e else replace? e.text e.selection [c]
  | .enter => replace? e.text e.selection ['\n']
  | .backspace => (backspace? e.text e.selection).map (·.getD e)
  | .delete => (delete? e.text e.selection).map (·.getD e)
  | .left => e.move? .left
  | .right => e.move? .right
  | .up => e.move? .up
  | .down => e.move? .down
  | .home => e.move? .home
  | .toEnd => e.move? .toEnd
  | .tab | .escape => some e

/-- A press that types replaces the selection by its character. -/
theorem press?_of_character {press : KeyPress} {c : Char} (h : press.character? = some c)
    (e : Edit) : e.press? press = replace? e.text e.selection [c] := by
  obtain ⟨key, modifiers⟩ := press
  cases key with
  | char d =>
    simp only [KeyPress.character?] at h
    split at h
    · cases h
    · next hchord =>
      cases h
      exact if_neg hchord
  | enter =>
    cases h
    rfl
  | _ => cases h

/-- **A text that is typed takes the place of the selection, and the caret stands after it.** -/
theorem foldlM_press?_typed {presses : List KeyPress} {typed : Text} (a m b : Text)
    (ht : presses.mapM KeyPress.character? = some typed) (hm : typed = [] → m = []) :
    presses.foldlM press? ⟨a ++ m ++ b, ⟨size a, size (a ++ m)⟩⟩ =
      some (collapsed (a ++ typed ++ b) (size (a ++ typed))) := by
  induction presses generalizing a m typed with
  | nil =>
    rw [List.mapM_nil] at ht
    cases ht
    rw [hm rfl]
    simp [collapsed, Selection.collapsed]
  | cons press presses ih =>
    simp only [List.mapM_cons, Option.bind_eq_bind, Option.bind_eq_some_iff] at ht
    obtain ⟨c, hc, rest, hrest, ht⟩ := ht
    cases ht
    -- after the first character the selection is the empty text behind it
    have hfirst : press? ⟨a ++ m ++ b, ⟨size a, size (a ++ m)⟩⟩ press =
        some ⟨a ++ [c] ++ [] ++ b, ⟨size (a ++ [c]), size (a ++ [c] ++ [])⟩⟩ := by
      rw [press?_of_character hc, replace?_append, List.append_nil, size_append]
      rfl
    have hnext := ih (a ++ [c]) [] hrest fun _ => rfl
    rw [List.foldlM_cons, hfirst]
    simpa using hnext

end Edit

namespace Document

@[simp] theorem set_set (d : Document) (facet : Facet) (t u : Text) :
    (d.set facet t).set facet u = d.set facet u := by
  cases facet <;> rfl

theorem set_get_self (d : Document) (facet : Facet) : d.set facet (d.get facet) = d := by
  cases facet <;> rfl

end Document

namespace Editor

variable {s s' : Editor}

/-! ## Changes and presses outside the markup -/

/-- A change outside the markup renames nothing and opens no menu. -/
theorem change?_outside (hfacet : s.facet ≠ .markup) (t : Text) (selection : Selection) :
    s.change? t selection =
      some (.edited ⟨t, .clamp t selection.start selection.stop⟩,
        { s.install ⟨t, .clamp t selection.start selection.stop⟩ with
          timer := .schedule s.now s.config.commitDelay
          menu := .empty }) := by
  have hrenamed (caret : Nat) : s.renamed? t caret = some none := if_neg hfacet
  have hrefresh : refresh? { s.install ⟨t, .clamp t selection.start selection.stop⟩ with
      timer := .schedule s.now s.config.commitDelay } =
      some { s.install ⟨t, .clamp t selection.start selection.stop⟩ with
        timer := .schedule s.now s.config.commitDelay
        menu := .empty } := by
    apply if_neg
    intro h
    exact hfacet h.1
  simp only [change?, Buffer.clamp?_eq, hrenamed, hrefresh, Option.bind_eq_bind, Option.bind_some]
  rfl

/-- With its menu closed, an editor outside the markup takes a press that is no shortcut as a
plain editing key. -/
theorem press?_outside (hfacet : s.facet ≠ .markup) (hmenu : s.menu = .empty) {press : KeyPress}
    (hundo : ¬ press.isUndo) (hduplicate : ¬ press.isDuplicate) :
    s.press? press = s.pressPlain? press := by
  have hclosed : ¬ s.menuIsOpen := by
    rw [menuIsOpen, hmenu]
    exact Bool.false_ne_true
  have htrigger : s.trigger? press.key = some none := by
    unfold trigger?
    rw [if_neg]
    intro h
    exact hfacet h.2.1
  have hname : s.autoClosed? press.key = some none := by
    unfold autoClosed?
    rw [if_neg]
    intro h
    exact hfacet h.2.1
  rw [press?, if_neg hundo, if_neg hduplicate, if_neg hclosed, pressInText?, htrigger]
  simp only [Option.bind_eq_bind, Option.bind_some, hname]

/-- The editor after an edit of its text, if there is one. -/
def take? (s : Editor) : Option Edit → Option (Outcome × Editor)
  | none => some (.unchanged, s)
  | some edit => s.change? edit.text edit.selection

/-! ## One press -/

/-- The editor shows a plain text in one buffer of a document, without any menu. -/
structure Shows (s : Editor) (facet : Facet) (d : Document) (e : Edit) : Prop where
  facet_eq : s.facet = facet
  document_eq : s.document = d.set facet e.text
  selection_eq : s.selection = e.selection
  menu_eq : s.menu = .empty
  fits : e.Fits

namespace Shows

variable {facet : Facet} {d : Document} {e : Edit}

theorem text_eq (h : s.Shows facet d e) : s.text = e.text := by
  rw [text, h.document_eq, h.facet_eq, Document.get_set_self]

/-- An edit whose selection fits is shown as it is. -/
theorem change?_shows (h : s.Shows facet d e) (hfacet : facet ≠ .markup) {e' : Edit}
    (hfits : e'.Fits) :
    ∃ s', s.change? e'.text e'.selection = some (.edited e', s') ∧ s'.Shows facet d e' := by
  have hs : s.facet ≠ .markup := by rwa [h.facet_eq]
  have hchange := change?_outside hs e'.text e'.selection
  rw [Selection.clamp_of_fits hfits] at hchange
  refine ⟨_, hchange, h.facet_eq, ?_, rfl, rfl, hfits⟩
  show s.document.set s.facet e'.text = _
  rw [h.document_eq, h.facet_eq, Document.set_set]

end Shows

/-- Both editors go on, without any action, and the one shows what the other has become. -/
def GoOnAlike (facet : Facet) (d : Document) (r : Option (Outcome × Editor)) (e : Option Edit) :
    Prop :=
  ∃ outcome s' e', r = some (outcome, s') ∧ e = some e' ∧ s'.Shows facet d e' ∧
    ∀ action edit, outcome ≠ .applied action edit

namespace Shows

variable {facet : Facet} {d : Document} {e : Edit}

/-- A motion moves the shown caret. -/
theorem moveCaret?_alike (h : s.Shows facet d e) (motion : Motion) :
    GoOnAlike facet d (s.moveCaret? motion) (e.move? motion) := by
  obtain ⟨n, hn, hb⟩ := Caret.move?_isBoundary h.fits motion
  have hmove : e.move? motion = some (.collapsed e.text n) := by
    rw [Edit.move?, hn]
    rfl
  have hfits : (Edit.collapsed e.text n).Fits := Selection.collapsed_fits_iff.2 hb
  rw [Editor.moveCaret?, Buffer.move?_eq, h.text_eq, h.selection_eq, hn]
  simp only [Option.bind_eq_bind, Option.bind_some]
  by_cases hsame : Selection.collapsed n = e.selection
  · rw [if_pos hsame]
    refine ⟨_, _, _, rfl, hmove, ⟨h.facet_eq, h.document_eq, ?_, h.menu_eq, hfits⟩, by simp⟩
    rw [h.selection_eq, ← hsame]
    rfl
  · rw [if_neg hsame]
    exact ⟨_, _, _, rfl, hmove, ⟨h.facet_eq, h.document_eq, rfl, h.menu_eq, hfits⟩, by simp⟩

/-- A key that edits changes the buffer, and one that has nothing to edit leaves it. -/
theorem edit?_alike (h : s.Shows facet d e) (hfacet : facet ≠ .markup) {press : KeyPress}
    {edit : Option Edit} (hplain : s.pressPlain? press = (s.edit? press).bind s.take?)
    (hedit : s.edit? press = some edit) (hpress : e.press? press = some (edit.getD e))
    (hfits : ∀ e' ∈ edit, e'.Fits) :
    GoOnAlike facet d (s.pressPlain? press) (e.press? press) := by
  rw [hplain, hedit, hpress]
  cases edit with
  | none => exact ⟨_, _, _, rfl, rfl, h, by simp⟩
  | some e' =>
    obtain ⟨s', hs', hshows⟩ := h.change?_shows hfacet (hfits e' rfl)
    exact ⟨_, _, _, hs', rfl, hshows, by simp⟩

/-- A key that replaces the selection does so in both. -/
theorem replace?_alike (h : s.Shows facet d e) (hfacet : facet ≠ .markup) {press : KeyPress}
    {insertion : Text} (hplain : s.pressPlain? press = (s.edit? press).bind s.take?)
    (hedit : s.edit? press = some <$> Edit.replace? s.text s.selection insertion)
    (hpress : e.press? press = Edit.replace? e.text e.selection insertion) :
    GoOnAlike facet d (s.pressPlain? press) (e.press? press) := by
  obtain ⟨e', he', hfits⟩ := Edit.replace?_fits h.fits insertion
  rw [h.text_eq, h.selection_eq, he'] at hedit
  rw [he'] at hpress
  exact h.edit?_alike hfacet hplain hedit hpress (by simpa using hfits)

/-- **A key press outside the markup does in the editor what it does in the plain one.** -/
theorem press?_alike (h : s.Shows facet d e) (hfacet : facet ≠ .markup) {press : KeyPress}
    (hundo : ¬ press.isUndo) (hduplicate : ¬ press.isDuplicate) :
    GoOnAlike facet d (s.press? press) (e.press? press) := by
  have hs : s.facet ≠ .markup := by rwa [h.facet_eq]
  rw [press?_outside hs h.menu_eq hundo hduplicate]
  obtain ⟨key, modifiers⟩ := press
  cases key with
  | char c =>
    by_cases hchord : (KeyPress.mk (.char c) modifiers).isChord
    · exact h.edit?_alike hfacet rfl (if_pos hchord) (if_pos hchord) (by simp)
    · exact h.replace?_alike hfacet rfl (if_neg hchord) (if_neg hchord)
  | enter => exact h.replace?_alike hfacet rfl rfl rfl
  | backspace =>
    obtain ⟨edit, hbackspace, hfits⟩ := Edit.backspace?_fits h.fits
    have hedit : Buffer.backspace? s.text s.selection = some edit := by
      rw [Buffer.backspace?_eq, h.text_eq, h.selection_eq, hbackspace]
    exact h.edit?_alike hfacet rfl hedit (by rw [Edit.press?, hbackspace]; rfl) hfits
  | delete =>
    obtain ⟨edit, hdelete, hfits⟩ := Edit.delete?_fits h.fits
    have hedit : Buffer.delete? s.text s.selection = some edit := by
      rw [Buffer.delete?_eq, h.text_eq, h.selection_eq, hdelete]
    exact h.edit?_alike hfacet rfl hedit (by rw [Edit.press?, hdelete]; rfl) hfits
  | tab => exact ⟨_, _, _, rfl, rfl, h, by simp⟩
  | escape => exact ⟨_, _, _, rfl, rfl, h, by simp⟩
  | left => exact h.moveCaret?_alike .left
  | right => exact h.moveCaret?_alike .right
  | up => exact h.moveCaret?_alike .up
  | down => exact h.moveCaret?_alike .down
  | home => exact h.moveCaret?_alike .home
  | toEnd => exact h.moveCaret?_alike .toEnd

/-- **So do key presses one after the other.** -/
theorem pressAll?_alike (h : s.Shows facet d e) (hfacet : facet ≠ .markup) {presses : List KeyPress}
    (hpresses : ∀ press ∈ presses, ¬ press.isUndo ∧ ¬ press.isDuplicate) :
    ∃ outcomes s' e', s.pressAll? presses = some (outcomes, s') ∧
      presses.foldlM Edit.press? e = some e' ∧ s'.Shows facet d e' ∧
      ∀ o ∈ outcomes, ∀ action edit, o ≠ .applied action edit := by
  induction presses generalizing s e with
  | nil => exact ⟨[], s, e, rfl, rfl, h, by simp⟩
  | cons press presses ih =>
    rw [List.forall_mem_cons] at hpresses
    obtain ⟨outcome, s₁, e₁, hs₁, he₁, h₁, houtcome⟩ :=
      h.press?_alike hfacet hpresses.1.1 hpresses.1.2
    obtain ⟨outcomes, s', e', hs', he', h', houtcomes⟩ := ih h₁ hpresses.2
    refine ⟨outcome :: outcomes, s', e', ?_, ?_, h', ?_⟩
    · simp only [Editor.pressAll?, hs₁, hs', Option.bind_eq_bind, Option.bind_some]
      rfl
    · rw [List.foldlM_cons, he₁]
      exact he'
    · rw [List.forall_mem_cons]
      exact ⟨houtcome, houtcomes⟩

end Shows

/-! ## All operations -/

/-- Only a switch makes another buffer the active one. -/
theorem perform?_facet {operation : Operation} (h : s.perform? operation = some s')
    (hswitch : ∀ facet, operation ≠ .switchTo facet) : s'.facet = s.facet := by
  cases operation with
  | press press =>
    obtain ⟨r, hr, rfl⟩ := Option.map_eq_some_iff.1 h
    exact (frame_press (press?_effect hr)).1
  | change t selection =>
    obtain ⟨r, hr, rfl⟩ := Option.map_eq_some_iff.1 h
    exact (frame_change (change?_effect hr)).1
  | switchTo facet => exact absurd rfl (hswitch facet)
  | tick time =>
    cases h
    obtain ⟨timer, history, htick⟩ := tick_frame s time
    rw [htick]
  | advance delay =>
    cases h
    obtain ⟨timer, history, htick⟩ := tick_frame s (Clock.after s.now delay)
    rw [advance, htick]
  | hover index =>
    cases h
    unfold hover?
    cases s.menu.hover? index with
    | none => rfl
    | some menu => rfl
  | click index =>
    obtain ⟨r, hr, rfl⟩ := Option.map_eq_some_iff.1 h
    obtain ⟨r', menu, hr', he⟩ := click?_spec s index
    rw [hr] at hr'
    cases hr'
    exact (frame_press he).1.trans rfl
  | inject id =>
    rw [perform?_inject] at h
    cases h
    cases Template.find? id with
    | none => rfl
    | some template => rfl
  | finishRender =>
    rw [perform?_finishRender] at h
    cases h
    unfold withPending
    cases s.pendingSelection with
    | none => rfl
    | some pending => rfl
  | flush =>
    cases h
    obtain ⟨timer, history, hflush⟩ := flush_frame s
    rw [hflush]
  | select start stop =>
    rw [perform?_select] at h
    cases h
    rfl
  | load document =>
    cases h
    rfl
  | setAutoClose on =>
    cases h
    rfl
  | setPredictions on =>
    cases h
    rfl

/-- Outside the markup nothing is renamed, so that no change selects beyond a renamed text. -/
theorem keepsSelection_outside (hfacet : s.facet ≠ .markup) (operation : Operation) :
    operation.KeepsSelection s := by
  cases operation with
  | change t selection =>
    intro renamed hr
    rw [renamed?_eq, if_neg hfacet] at hr
    cases hr
  | _ => trivial

/-- The editor shows its own buffer when its selection fits and its menu is closed. -/
theorem Shows.self (hfits : s.selection.Fits s.text) (hmenu : s.menu = .empty) :
    s.Shows s.facet s.document ⟨s.text, s.selection⟩ :=
  ⟨rfl, (Document.set_get_self _ _).symm, rfl, hmenu, hfits⟩

/-- **Outside the markup the selection fits and no menu is open**, whatever has happened in the
markup before: a switch puts the caret at the end of its buffer, and open menus belong to the
markup. -/
theorem Reachable.outside_markup (h : Reachable s) (hfacet : s.facet ≠ .markup) :
    s.SelectionFits ∧ s.menu = .empty := by
  constructor
  · induction h with
    | new config => exact absurd rfl hfacet
    | @perform s s' operation _ hp ih =>
      by_cases hswitch : ∃ facet, operation = .switchTo facet
      · obtain ⟨facet, rfl⟩ := hswitch
        cases hp
        refine selectionFits_of_pending rfl ?_
        exact Selection.collapsed_fits_iff.2 (isBoundary_size _)
      · have hbefore : s.facet ≠ .markup := by
          rwa [← perform?_facet hp fun facet he => hswitch ⟨facet, he⟩]
        exact (perform?_fits_iff (ih hbefore) hp).2 (keepsSelection_outside hbefore operation)
  · rcases h.menuFits with hclosed | ⟨hmarkup, -, -⟩
    · exact hclosed
    · exact absurd hmarkup hfacet

/-! ## Runs of key presses -/

/-- **Outside the markup an editor is a plain one.**  Key presses other than the two shortcuts
make of its text and selection what they make of them in the plain editor.  None of them acts, no
menu opens and the other two buffers stay.  In particular a text that is typed takes the place of
the selection, whatever tags and triggers there are in it, and the caret stands after it. -/
theorem plain_outside_markup (h : Reachable s) (hfacet : s.facet ≠ .markup) :
    (∀ presses : List KeyPress, (∀ press ∈ presses, ¬ press.isUndo ∧ ¬ press.isDuplicate) →
      ∃ outcomes s', s.pressAll? presses = some (outcomes, s') ∧
        presses.foldlM Edit.press? ⟨s.text, s.selection⟩ = some ⟨s'.text, s'.selection⟩ ∧
        (∀ o ∈ outcomes, ∀ action edit, o ≠ .applied action edit) ∧
        s'.menu = .empty ∧ s'.facet = s.facet ∧
        ∀ facet, facet ≠ s.facet → s'.document.get facet = s.document.get facet) ∧
    ∃ a m b, s.text = a ++ m ++ b ∧ s.selection = ⟨size a, size (a ++ m)⟩ ∧
      ∀ presses typed, presses.mapM KeyPress.character? = some typed → (typed = [] → m = []) →
        ∃ outcomes s', s.pressAll? presses = some (outcomes, s') ∧
          s'.text = a ++ typed ++ b ∧ s'.selection = .collapsed (size (a ++ typed)) := by
  obtain ⟨hfits, hmenu⟩ := h.outside_markup hfacet
  have hself := Shows.self hfits.1 hmenu
  constructor
  · intro presses hpresses
    obtain ⟨outcomes, s', e', hs', he', h', houtcomes⟩ := hself.pressAll?_alike hfacet hpresses
    refine ⟨outcomes, s', hs', ?_, houtcomes, h'.menu_eq, h'.facet_eq, ?_⟩
    · rw [he', h'.text_eq, h'.selection_eq]
    · intro facet hne
      rw [h'.document_eq, Document.get_set_of_ne hne]
  · obtain ⟨a, m, b, htext, hselection⟩ := Selection.fits_iff.1 hfits.1
    refine ⟨a, m, b, htext, hselection, ?_⟩
    intro presses typed htyped hne
    obtain ⟨outcomes, s', e', hs', he', h', -⟩ :=
      hself.pressAll?_alike hfacet (KeyPress.no_shortcuts_of_mapM htyped)
    rw [htext, hselection, Edit.foldlM_press?_typed a m b htyped hne] at he'
    cases he'
    exact ⟨outcomes, s', hs', h'.text_eq, h'.selection_eq⟩

/-- In the style sheet a `!` in place of the first of two letters and an Enter behind it are just
the two characters. -/
theorem plain_outside_markup_at_bang :
    let s := (((new .default).load ⟨[], ['a', 'b'], []⟩).switchTo .style).select 0 1
    Reachable s ∧ s.facet ≠ .markup ∧
      ∃ outcomes s', s.pressAll? [.plain (.char '!'), .plain .enter] = some (outcomes, s') ∧
        s'.text = ['!', '\n', 'b'] ∧ s'.selection = .collapsed 2 ∧ s'.menu = .empty := by
  intro s
  have hload : Reachable ((new .default).load ⟨[], ['a', 'b'], []⟩) :=
    .perform (.load _) (.new .default) rfl
  have hs : Reachable s := .perform (.select 0 1) (.perform (.switchTo .style) hload rfl) rfl
  have hfacet : s.facet ≠ .markup := by decide
  obtain ⟨outcomes, s', hs', hplain, -, hmenu, -⟩ :=
    (plain_outside_markup hs hfacet).1 [.plain (.char '!'), .plain .enter] (by decide)
  have hedit : [KeyPress.plain (.char '!'), .plain .enter].foldlM Edit.press?
      ⟨s.text, s.selection⟩ = some ⟨['!', '\n', 'b'], .collapsed 2⟩ := by decide
  rw [hedit, Option.some.injEq, Edit.mk.injEq] at hplain
  exact ⟨hs, hfacet, outcomes, s', hs', hplain.1.symm, hplain.2.symm, hmenu⟩

/-- The empty text takes the place of nothing: without a key press the selected letter stays. -/
theorem not_all_texts_replace_selection :
    ¬ ∀ s, Reachable s → s.facet ≠ .markup → ∀ a m b presses typed,
      s.text = a ++ m ++ b → s.selection = ⟨size a, size (a ++ m)⟩ →
      presses.mapM KeyPress.character? = some typed →
        ∃ outcomes s', s.pressAll? presses = some (outcomes, s') ∧
          s'.text = a ++ typed ++ b ∧ s'.selection = .collapsed (size (a ++ typed)) := by
  intro hall
  have hload : Reachable ((new .default).load ⟨[], ['a', 'b'], []⟩) :=
    .perform (.load _) (.new .default) rfl
  have hs : Reachable ((((new .default).load ⟨[], ['a', 'b'], []⟩).switchTo .style).select 0 1) :=
    .perform (.select 0 1) (.perform (.switchTo .style) hload rfl) rfl
  obtain ⟨outcomes, s', hs', htext, -⟩ :=
    hall _ hs (by decide) [] ['a'] ['b'] [] [] rfl (by decide) rfl
  cases hs'
  exact absurd htext (by decide)

end Editor

end MarkupPad
