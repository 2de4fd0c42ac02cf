import MarkupPad.Proofs.Session

/-!
# Rendering does not show

A session renders after every edit, which puts the selection that the edit asked for in place of
the current one.  The two are the same: what is asked for is what has just been selected, and
nothing is left over from before.  So a session goes on like an editor that never renders.

Nothing but rendering reads the selection that waits for it, so that dropping it commutes with all
other operations.

    (s.settled.perform? operation).map settled = (s.perform? operation).map settled
                                                                      (perform?_settled)
    s.settled.run? input.operations = (s.run? input.unrendered).map settled
                                                                      (run?_operations)
-/

namespace MarkupPad

/-- Rendering, and nothing else. -/
def Operation.isRendering : Operation → Bool
  | .finishRender => true
  | _ => false

/-- What an input does with the editor besides rendering. -/
def Input.unrendered (input : Input) : List Operation :=
  input.operations.filter fun operation => !operation.isRendering

/-- An input either renders after an operation, or not at all. -/
theorem Input.rendered_or_not (input : Input) :
    (∃ operation, input.operations = [operation, .finishRender] ∧
      input.unrendered = [operation]) ∨
    input.operations = input.unrendered := by
  cases input with
  | press press => exact .inl ⟨.press press, rfl, rfl⟩
  | wait delay => exact .inr rfl
  | command command =>
    cases command with
    | switchTo facet => exact .inl ⟨.switchTo facet, rfl, rfl⟩
    | click index => exact .inl ⟨.click index, rfl, rfl⟩
    | template id =>
      simp only [unrendered, operations, Command.operations]
      split
      · exact .inl ⟨.inject id, rfl, rfl⟩
      · exact .inr rfl
    | _ => exact .inr rfl

namespace Editor

/-- The editor with no selection waiting for rendering. -/
def settled (s : Editor) : Editor := { s with pendingSelection := none }

/-- What a press, a change or a click leads to, without a selection waiting for rendering. -/
def settledAfter (r : Outcome × Editor) : Outcome × Editor := (r.1, r.2.settled)

variable {s s' : Editor}

/-! ## Only rendering reads the selection that waits for it -/

theorem settled_of_none (h : s.pendingSelection = none) : s.settled = s := by
  rw [settled, ← h]

theorem flush_settled (s : Editor) : s.settled.flush.2 = s.flush.2.settled := by
  show (if s.timer.isPending then s.settled.commit else (false, s.settled)).2 = _
  unfold flush
  split
  · rfl
  · rfl

theorem tick_settled (s : Editor) (time : Nat) :
    (s.settled.tick time).2 = (s.tick time).2.settled := by
  have hsettled : s.settled.tick time =
      if s.timer.isDue (max s.now time) then
        { s.settled with now := max s.now time : Editor }.commit
      else (false, { s.settled with now := max s.now time }) := rfl
  rw [hsettled, tick]
  simp only
  split
  · rfl
  · rfl

theorem undo_settled (s : Editor) : settledAfter s.settled.undo = settledAfter s.undo := by
  have hhistory : s.settled.flush.2.history = s.flush.2.history := by
    rw [flush_settled]
    rfl
  unfold undo
  simp only [hhistory]
  rw [flush_settled]
  cases s.flush.2.history.undo? with
  | none => rfl
  | some history => rfl

theorem accept?_settled (s : Editor) :
    s.settled.accept?.map settledAfter = s.accept?.map settledAfter := by
  have hmenu : s.settled.menu = s.menu := rfl
  unfold accept?
  rw [hmenu]
  cases s.menu.highlighted? with
  | none => rfl
  | some suggestion => rfl

theorem pressInMenu?_settled (s : Editor) (key : Key) :
    (s.settled.pressInMenu? key).map (Option.map settledAfter) =
      (s.pressInMenu? key).map (Option.map settledAfter) := by
  have haccept : (some <$> s.settled.accept?).map (Option.map settledAfter) =
      (some <$> s.accept?).map (Option.map settledAfter) := by
    simp only [Option.map_eq_map, Option.map_map]
    show Option.map (some ∘ settledAfter) _ = Option.map (some ∘ settledAfter) _
    rw [← Option.map_map, ← Option.map_map, accept?_settled]
  cases key with
  | up =>
    show Option.map _ (s.menu.prev?.bind _) = Option.map _ (s.menu.prev?.bind _)
    cases s.menu.prev? with
    | none => rfl
    | some menu => rfl
  | enter => exact haccept
  | tab => exact haccept
  | _ => rfl

theorem moveCaret?_settled (s : Editor) (motion : Motion) :
    (s.settled.moveCaret? motion).map settledAfter = (s.moveCaret? motion).map settledAfter := by
  show Option.map _ ((Buffer.move? s.text s.selection motion).bind _) =
    Option.map _ ((Buffer.move? s.text s.selection motion).bind _)
  cases Buffer.move? s.text s.selection motion with
  | none => rfl
  | some offset =>
    show Option.map _ (if Selection.collapsed offset = s.selection then _ else _) =
      Option.map _ (if Selection.collapsed offset = s.selection then _ else _)
    split
    · rfl
    · rfl

theorem pressPlain?_settled (s : Editor) (press : KeyPress) :
    (s.settled.pressPlain? press).map settledAfter = (s.pressPlain? press).map settledAfter := by
  obtain ⟨key, modifiers⟩ := press
  cases key with
  | left => exact moveCaret?_settled s .left
  | right => exact moveCaret?_settled s .right
  | up => exact moveCaret?_settled s .up
  | down => exact moveCaret?_settled s .down
  | home => exact moveCaret?_settled s .home
  | toEnd => exact moveCaret?_settled s .toEnd
  | _ =>
    have hedit : s.settled.edit? = s.edit? := rfl
    simp only [pressPlain?, hedit]
    generalize s.edit? _ = edit
    rcases edit with _ | _ | edit
    · rfl
    · rfl
    · rfl

theorem pressInText?_settled (s : Editor) (press : KeyPress) :
    (s.settled.pressInText? press).map settledAfter = (s.pressInText? press).map settledAfter := by
  show Option.map _ ((s.trigger? press.key).bind _) = Option.map _ ((s.trigger? press.key).bind _)
  rcases s.trigger? press.key with _ | _ | trigger
  · rfl
  · show Option.map _ ((s.autoClosed? press.key).bind _) =
      Option.map _ ((s.autoClosed? press.key).bind _)
    rcases s.autoClosed? press.key with _ | _ | name
    · rfl
    · exact pressPlain?_settled s press
    · rfl
  · rfl

/-- A press that is no shortcut goes to the open menu, and to the text if the menu does not take
it. -/
theorem press?_of_no_shortcut {press : KeyPress} (hundo : ¬ press.isUndo)
    (hduplicate : ¬ press.isDuplicate) (s : Editor) :
    s.press? press =
      (if s.menuIsOpen then s.pressInMenu? press.key else some none).bind fun
        | some r => some r
        | none => s.pressInText? press := by
  rw [press?, if_neg hundo, if_neg hduplicate]
  split
  · rfl
  · rfl

theorem press?_settled (s : Editor) (press : KeyPress) :
    (s.settled.press? press).map settledAfter = (s.press? press).map settledAfter := by
  by_cases hundo : press.isUndo
  · rw [press?, press?, if_pos hundo, if_pos hundo]
    exact congrArg some (undo_settled s)
  · by_cases hduplicate : press.isDuplicate
    · rw [press?, press?, if_neg hundo, if_neg hundo, if_pos hduplicate, if_pos hduplicate]
      rfl
    · have hmenu : (if s.menuIsOpen then s.settled.pressInMenu? press.key else some none).map
            (Option.map settledAfter) =
          (if s.menuIsOpen then s.pressInMenu? press.key else some none).map
            (Option.map settledAfter) := by
        split
        · exact pressInMenu?_settled s press.key
        · rfl
      -- what the menu takes never reaches the text
      have htaken (taken : Option (Option (Outcome × Editor))) (r : Option (Outcome × Editor)) :
          Option.map settledAfter (taken.bind fun | some r => some r | none => r) =
            (taken.map (Option.map settledAfter)).bind fun
              | some r => some r
              | none => r.map settledAfter := by
        rcases taken with _ | _ | r
        · rfl
        · rfl
        · rfl
      rw [press?_of_no_shortcut hundo hduplicate, press?_of_no_shortcut hundo hduplicate, htaken,
        htaken, pressInText?_settled]
      exact congrArg (Option.bind · _) hmenu

theorem click?_settled (s : Editor) (index : Nat) :
    (s.settled.click? index).map settledAfter = (s.click? index).map settledAfter := by
  have hmenu : s.settled.menu = s.menu := rfl
  unfold click? hover?
  rw [hmenu]
  cases s.menu.hover? index with
  | none => rfl
  | some menu => exact accept?_settled { s with menu := menu }

/-- **No operation but rendering can tell whether a selection waits for rendering.** -/
theorem perform?_settled {operation : Operation} (h : ¬ operation.isRendering) (s : Editor) :
    (s.settled.perform? operation).map settled = (s.perform? operation).map settled := by
  have hafter {r r' : Option (Outcome × Editor)} (h : r.map settledAfter = r'.map settledAfter) :
      (r.map (·.2)).map settled = (r'.map (·.2)).map settled := by
    have h' := congrArg (Option.map fun r => r.2) h
    rw [Option.map_map, Option.map_map] at h' ⊢
    exact h'
  cases operation with
  | press press => exact hafter (press?_settled s press)
  | click index => exact hafter (click?_settled s index)
  | tick time => exact congrArg (fun s => some s.settled) (tick_settled s time)
  | advance delay => exact congrArg (fun s => some s.settled) (tick_settled s _)
  | flush => exact congrArg (fun s => some s.settled) (flush_settled s)
  | hover index =>
    show some (((s.menu.hover? index).map _).getD s.settled).settled =
      some (((s.menu.hover? index).map _).getD s).settled
    cases s.menu.hover? index with
    | none => rfl
    | some menu => rfl
  | select start stop =>
    rw [perform?_select, perform?_select]
    rfl
  | inject id =>
    rw [perform?_inject, perform?_inject]
    cases Template.find? id with
    | none => rfl
    | some template => rfl
  | finishRender => exact absurd rfl h
  | _ => rfl

/-- Nor can any run without rendering. -/
theorem run?_settled {operations : List Operation}
    (h : ∀ operation ∈ operations, ¬ operation.isRendering) (s : Editor) :
    (s.settled.run? operations).map settled = (s.run? operations).map settled := by
  -- by the last operation: the states before it may differ in what waits, and only there
  induction operations using List.reverseRecOn with
  | nil => rfl
  | append_singleton operations operation ih =>
    have hlast : ¬ operation.isRendering := h operation (by simp)
    have hbefore : ∀ operation ∈ operations, ¬ operation.isRendering := by
      intro before hmem
      exact h before (by simp [hmem])
    have hstep (r : Option Editor) : (r.bind (·.perform? operation)).map settled =
        ((r.map settled).bind (·.perform? operation)).map settled := by
      cases r with
      | none => rfl
      | some s => exact (perform?_settled hlast s).symm
    rw [run?_concat, run?_concat, hstep, ih hbefore, ← hstep]

/-! ## What waits is what is shown -/

/-- A selection that waits for rendering is the current one. -/
def AsksForShown (s : Editor) : Prop := ∀ pending ∈ s.pendingSelection, pending = s.selection

theorem asksForShown_of_none (h : s.pendingSelection = none) : s.AsksForShown := by
  intro pending hp
  rw [h] at hp
  cases hp

theorem asksForShown_of_some (h : s.pendingSelection = some s.selection) : s.AsksForShown := by
  intro pending hp
  rw [h] at hp
  cases hp
  rfl

theorem asksForShown_undo (h : s.pendingSelection = none) : s.undo.2.AsksForShown := by
  obtain ⟨timer, history, hflush⟩ := flush_frame s
  rcases undo_cases s with ⟨-, hundo⟩ | ⟨history, -, -, hundo⟩
  · rw [hundo, hflush]
    exact asksForShown_of_none h
  · rw [hundo]
    exact asksForShown_of_some rfl

theorem asksForShown_change {t : Text} {selection : Selection} {r : Outcome × Editor}
    (he : ChangeEffect s t selection r) : r.2.AsksForShown := by
  cases he with
  | rename renamed menu => exact asksForShown_of_some rfl
  | edit menu => exact asksForShown_of_some rfl

theorem asksForShown_press {mayUndo : Prop} {r : Outcome × Editor} (h : s.pendingSelection = none)
    (he : PressEffect s mayUndo r) : r.2.AsksForShown := by
  cases he with
  | undo => exact asksForShown_undo h
  | unchanged => exact asksForShown_of_none h
  | menu menu => exact asksForShown_of_none h
  | caret => exact asksForShown_of_none h
  | act action => exact asksForShown_of_some rfl
  | change _ hr => exact asksForShown_change (change?_effect hr)

/-- Whatever is rendered asks for what is shown, unless something waited before. -/
theorem asksForShown_of_rendered {input : Input} {operation : Operation}
    (hrendered : input.operations = [operation, .finishRender]) (h : s.pendingSelection = none)
    (hp : s.perform? operation = some s') : s'.AsksForShown := by
  cases input with
  | press press =>
    cases hrendered
    obtain ⟨r, hr, rfl⟩ := Option.map_eq_some_iff.1 hp
    exact asksForShown_press h (press?_effect hr)
  | wait delay => cases hrendered
  | command command =>
    cases command with
    | switchTo facet =>
      cases hrendered
      cases hp
      exact asksForShown_of_some rfl
    | click index =>
      cases hrendered
      obtain ⟨r, hr, rfl⟩ := Option.map_eq_some_iff.1 hp
      rcases click?_cases s index with hclick | ⟨edit, hclick⟩
      · rw [hclick] at hr
        cases hr
        exact asksForShown_of_none h
      · rw [hclick] at hr
        cases hr
        exact asksForShown_of_some rfl
    | template id =>
      simp only [Input.operations, Command.operations] at hrendered
      split at hrendered
      · cases hrendered
        rw [perform?_inject] at hp
        cases hp
        cases Template.find? id with
        | none => exact asksForShown_of_none h
        | some template => exact asksForShown_of_some rfl
      · cases hrendered
    | _ => cases hrendered

/-- **Rendering shows what is shown already**, and drops what waited. -/
theorem finishRender_eq (h : s.AsksForShown) (hfits : s.SelectionFits) :
    s.perform? .finishRender = some s.settled := by
  rw [perform?_finishRender, Option.some_inj]
  unfold withPending
  split
  · next hp => exact (settled_of_none hp).symm
  · next pending hp =>
    obtain rfl := h pending hp
    rw [Selection.clamp_of_fits hfits.1]
    rfl

/-! ## Inputs with and without rendering -/

/-- An operation and the rendering after it come to the operation, with nothing left waiting. -/
theorem run?_rendered {input : Input} {operation : Operation}
    (hrendered : input.operations = [operation, .finishRender]) (h : s.pendingSelection = none)
    (hfits : s.SelectionFits) (hp : s.perform? operation = some s') :
    s'.AsksForShown ∧ s'.perform? .finishRender = some s'.settled := by
  have hkeeps : operation.KeepsSelection s := by
    refine input.keepsSelection operation ?_ s
    rw [hrendered]
    exact List.mem_cons_self
  have hasks : s'.AsksForShown := asksForShown_of_rendered hrendered h hp
  exact ⟨hasks, finishRender_eq hasks ((perform?_fits_iff hfits hp).2 hkeeps)⟩

/-- Whatever is not rendered lets no selection wait. -/
theorem pendingSelection_of_unrendered {input : Input}
    (hunrendered : input.operations = input.unrendered) (h : s.pendingSelection = none)
    (hr : s.run? input.unrendered = some s') : s'.pendingSelection = none := by
  cases input with
  | press press => cases hunrendered
  | wait delay =>
    cases hr
    obtain ⟨timer, history, htick⟩ := tick_frame s (Clock.after s.now delay)
    rw [advance, htick]
    exact h
  | command command =>
    cases command with
    | switchTo facet => cases hunrendered
    | click index => cases hunrendered
    | hover index =>
      cases hr
      unfold hover?
      cases s.menu.hover? index with
      | none => exact h
      | some menu => exact h
    | template id =>
      simp only [Input.unrendered, Input.operations, Command.operations] at hunrendered hr
      split at hunrendered
      · cases hunrendered
      · rw [if_neg ‹_›] at hr
        cases hr
        exact h
    | select start stop =>
      have hselect := (run?_singleton s (.select start stop)).trans (perform?_select s start stop)
      cases hselect.symm.trans hr
      exact h
    | _ =>
      cases hr
      exact h

theorem run?_operations_of_none (h : s.pendingSelection = none) (hfits : s.SelectionFits)
    (input : Input) : s.run? input.operations = (s.run? input.unrendered).map settled := by
  rcases input.rendered_or_not with ⟨operation, hrendered, hunrendered⟩ | hunrendered
  · obtain ⟨s', hp⟩ := Option.isSome_iff_exists.1 (perform?_isSome hfits.1 operation)
    have hrun : s.run? [operation] = some s' := (run?_concat s [] operation).trans hp
    have hlast := run?_concat s [operation] .finishRender
    rw [hrun] at hlast
    rw [hrendered, hunrendered, hrun]
    exact hlast.trans (run?_rendered hrendered h hfits hp).2
  · rw [hunrendered]
    cases hr : s.run? input.unrendered with
    | none => rfl
    | some s' =>
      exact congrArg some (settled_of_none (pendingSelection_of_unrendered hunrendered h hr)).symm

/-- **Whether a selection waits does not matter to an input, which lets none wait.** -/
theorem run?_operations (hfits : s.settled.SelectionFits) (input : Input) :
    s.settled.run? input.operations = (s.run? input.unrendered).map settled := by
  have hbare : ∀ operation ∈ input.unrendered, ¬ operation.isRendering := by
    intro operation hmem hrendering
    have hkept := (List.mem_filter.1 hmem).2
    rw [hrendering] at hkept
    cases hkept
  rw [run?_operations_of_none rfl hfits, run?_settled hbare]

/-- **Two editors that agree but for what waits agree after every input**, one with rendering
and one without. -/
theorem run?_inputs (hreachable : s.settled.Reachable) (hfits : s.settled.SelectionFits)
    (inputs : List Input) :
    ∃ s', s.run? (inputs.flatMap Input.unrendered) = some s' ∧
      s.settled.run? (inputs.flatMap Input.operations) = some s'.settled := by
  -- the rendered editor is the one whose selection is known to fit, so it carries the induction
  induction inputs generalizing s with
  | nil => exact ⟨s, rfl, rfl⟩
  | cons input inputs ih =>
    obtain ⟨t, ht, hreachable', hfits'⟩ :=
      run?_of_keepsSelection hreachable hfits input.keepsSelection
    rw [run?_operations hfits, Option.map_eq_some_iff] at ht
    obtain ⟨s₁, hs₁, rfl⟩ := ht
    obtain ⟨s', hs', hsettled⟩ := ih hreachable' hfits'
    refine ⟨s', ?_, ?_⟩
    · rw [List.flatMap_cons, run?_append, hs₁]
      exact hs'
    · rw [List.flatMap_cons, run?_append, run?_operations hfits, hs₁]
      exact hsettled

end Editor

namespace Session

/-! ## Sessions -/

/-- The session after some steps. -/
def steps? : Nat → Session → Option Session
  | 0, s => some s
  | n + 1, s => s.step?.bind fun (_, t) => t.steps? n

/-- Steps take the first inputs of the script, and never fail. -/
theorem steps?_of_sound {s : Session} (h : s.Sound) (n : Nat) :
    ∃ t, s.steps? n = some t ∧ t.Sound ∧ t.inputs = s.inputs.drop n ∧
      s.editor.run? ((s.inputs.take n).flatMap Input.operations) = some t.editor := by
  induction n generalizing s with
  | zero => exact ⟨s, rfl, h, rfl, rfl⟩
  | succ n ih =>
    rw [steps?, step?]
    cases hinputs : s.inputs with
    | nil =>
      obtain ⟨t, ht, hsound, hrest, hrun⟩ := ih h
      rw [hinputs, List.drop_nil] at hrest
      rw [hinputs, List.take_nil] at hrun
      exact ⟨t, ht, hsound, hrest, hrun⟩
    | cons input inputs =>
      have h' : { s with inputs := inputs, steps := s.steps + 1 : Session }.Sound := h
      obtain ⟨s₁, hs₁, hsound₁, hinputs₁, -, hrun₁⟩ := perform?_of_sound h' input
      obtain ⟨t, ht, hsound, hrest, hrun⟩ := ih hsound₁
      rw [hinputs₁] at hrest hrun
      refine ⟨t, ?_, hsound, hrest, ?_⟩
      · show (Option.map _ ({ s with inputs := inputs, steps := s.steps + 1 : Session }.perform?
          input)).bind _ = some t
        rw [hs₁]
        exact ht
      · rw [List.take_succ_cons, List.flatMap_cons, Editor.run?_append, hrun₁]
        exact hrun

/-- **A session cannot be told from an editor that never renders.**  The editors of both are the
same after every input, but for the selection that waits for rendering in the second one.  All
that a session ever renders is the selection that its last edit has already made the current one,
whatever the next input is. -/
theorem rendering_does_not_show (services : Services) (config : Config) (inputs : List Input)
    (n : Nat) :
    let start : Session := {
      services, editor := .new config, libraries := .empty, customCount := 0, inputs, steps := 0 }
    ∃ session bare, start.steps? n = some session ∧
      (Editor.new config).run? ((inputs.take n).flatMap Input.unrendered) = some bare ∧
      session.editor = { bare with pendingSelection := none } ∧
      ∀ (input : Input) (operation : Operation), input.operations = [operation, .finishRender] →
        ∃ s, session.editor.perform? operation = some s ∧
          (∀ pending ∈ s.pendingSelection, pending = s.selection) ∧
          s.perform? .finishRender = some { s with pendingSelection := none } := by
  intro start
  have hnew : start.Sound := ⟨.new config, Editor.selectionFits_new config⟩
  obtain ⟨session, hsteps, hsound, -, hrun⟩ := steps?_of_sound hnew n
  obtain ⟨bare, hbare, hsettled⟩ :=
    Editor.run?_inputs (s := .new config) hnew.1 hnew.2 (inputs.take n)
  have heditor : session.editor = bare.settled := Option.some.inj (hrun.symm.trans hsettled)
  refine ⟨session, bare, hsteps, hbare, heditor, fun input operation hrendered => ?_⟩
  obtain ⟨s, hs⟩ := Option.isSome_iff_exists.1 (Editor.perform?_isSome hsound.2.1 operation)
  have hnone : session.editor.pendingSelection = none := by
    rw [heditor]
    rfl
  exact ⟨s, hs, Editor.run?_rendered hrendered hnone hsound.2 hs⟩

end Session

end MarkupPad
