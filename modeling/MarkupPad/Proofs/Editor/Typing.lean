import MarkupPad.Proofs.Editor.Effect

/-!
# Typing is coalesced

Plain edits leave the history alone and set the timer anew, each to the delay after its own
time.  Looking around in between leaves both alone.  So a run of them becomes one entry, with
the document as it is when the clock reaches the deadline of the last edit.

    Types s operation s' → s'.timer = .schedule s.now s.config.commitDelay      (Types.spec)
    TypingRun s last s' → s'.history = s.history                 (TypingRun.waiting)
    the first reading at last + s.config.commitDelay commits s'.document
-/

namespace MarkupPad

namespace History

variable {α : Type} [DecidableEq α]

/-- A commit tells whether the entry is another one than the current one. -/
theorem commit_fst_iff (h : History α) (entry : α) :
    (h.commit entry).1 = true ↔ entry ≠ h.current := by
  unfold commit
  split
  · next he => simp [he]
  · next he => simpa using Ne.symm he

end History

namespace Editor

variable {s s' : Editor}

/-! ## Time -/

/-- Time passes: the clock is set to a reading or goes on by a delay. -/
inductive Passes (s : Editor) : Bool × Editor → Prop where
  | tick (time : Nat) : Passes s (s.tick time)
  | advance (delay : Nat) : Passes s (s.advance delay)

/-- Time that passes is a tick. -/
theorem Passes.exists_tick {r : Bool × Editor} (h : Passes s r) : ∃ time, r = s.tick time := by
  cases h with
  | tick time => exact ⟨time, rfl⟩
  | advance delay => exact ⟨_, rfl⟩

theorem tick_now (s : Editor) (time : Nat) : (s.tick time).2.now = max s.now time := by
  obtain ⟨timer, history, htick⟩ := tick_frame s time
  rw [htick]

/-- Before the deadline a tick moves the clock. -/
theorem tick_of_not_due {time : Nat} (h : ∀ deadline ∈ s.timer.deadline, max s.now time < deadline) :
    s.tick time = (false, { s with now := max s.now time }) := by
  have hdue : ¬ s.timer.isDue (max s.now time) := by
    unfold Timer.isDue
    cases hd : s.timer.deadline with
    | none => simp
    | some deadline =>
      have := h deadline hd
      simp
      omega
  rw [tick, if_neg hdue]

theorem tick_of_idle (h : s.timer = .idle) (time : Nat) :
    s.tick time = (false, { s with now := max s.now time }) := by
  apply tick_of_not_due
  intro deadline hd
  rw [h] at hd
  cases hd

/-- At the deadline or later a tick commits the document. -/
theorem tick_of_due {time deadline : Nat} (hd : s.timer.deadline = some deadline)
    (h : deadline ≤ max s.now time) :
    s.tick time = { s with now := max s.now time : Editor }.commit := by
  have hdue : s.timer.isDue (max s.now time) := by
    rw [Timer.isDue, hd]
    simpa using h
  rw [tick, if_pos hdue]

/-! ## Steps -/

/-- The operation is a plain edit: it edits the active buffer without any action. -/
def Types (s : Editor) (operation : Operation) (s' : Editor) : Prop :=
  ∃ edit, match operation with
    | .press press => s.press? press = some (.edited edit, s')
    | .change t selection => s.change? t selection = some (.edited edit, s')
    | _ => False

/-- The operation only looks at the document: it moves the caret or the highlight, points,
selects, turns to a buffer or tells that the last edit has been rendered. -/
def Looks (s : Editor) (operation : Operation) (s' : Editor) : Prop :=
  match operation with
  | .press press =>
    s.press? press = some (.moved, s') ∨ ¬ press.isUndo ∧ s.press? press = some (.unchanged, s')
  | .hover _ | .select _ _ | .switchTo _ | .finishRender => s.perform? operation = some s'
  | _ => False

/-- An undo is neither a plain edit nor a mere move of the caret. -/
theorem undo_fst (s : Editor) :
    s.undo.1 = .unchanged ∨ ∃ edit, s.undo.1 = .applied .undo edit := by
  rcases undo_cases s with ⟨-, hundo⟩ | ⟨history, -, hundo, -⟩
  · rw [hundo]
    exact Or.inl rfl
  · exact Or.inr ⟨_, hundo⟩

/-- A press whose outcome is a plain edit is a change. -/
theorem PressEffect.edited {mayUndo : Prop} {edit : Edit}
    (h : PressEffect s mayUndo (.edited edit, s')) :
    ∃ t selection, ChangeEffect s t selection (.edited edit, s') := by
  generalize hr : ((.edited edit, s') : Outcome × Editor) = r at h
  cases h with
  | undo =>
    have hfst := undo_fst s
    rw [← hr] at hfst
    simp at hfst
  | change hc hchange => exact ⟨_, _, change?_effect hchange⟩
  | _ => cases hr

/-- A press whose outcome is that nothing but the caret or the menu has changed. -/
theorem PressEffect.moved {mayUndo : Prop} (h : PressEffect s mayUndo (.moved, s')) :
    ∃ selection menu, s' = { s with selection := selection, menu := menu } := by
  generalize hr : ((.moved, s') : Outcome × Editor) = r at h
  cases h with
  | undo =>
    have hfst := undo_fst s
    rw [← hr] at hfst
    simp at hfst
  | menu menu =>
    cases hr
    exact ⟨_, _, rfl⟩
  | caret =>
    cases hr
    exact ⟨_, _, rfl⟩
  | change hc hchange =>
    subst hr
    cases change?_effect hchange
  | _ => cases hr

/-- A press that changes nothing, and does not undo, leaves the editor as it is. -/
theorem PressEffect.unchanged_eq {mayUndo : Prop} (hundo : ¬ mayUndo)
    (h : PressEffect s mayUndo (.unchanged, s')) : s' = s := by
  generalize hr : ((.unchanged, s') : Outcome × Editor) = r at h
  cases h with
  | undo hmay => exact absurd hmay hundo
  | unchanged =>
    cases hr
    rfl
  | change hc hchange =>
    subst hr
    cases change?_effect hchange
  | _ => cases hr

/-- **A plain edit sets the timer, and leaves clock and history alone.** -/
theorem Types.spec {operation : Operation} (h : Types s operation s') :
    ∃ edit menu, s' = { s.install edit with
      timer := .schedule s.now s.config.commitDelay
      menu := menu } := by
  have hchange {t : Text} {selection : Selection} {edit : Edit}
      (h : ChangeEffect s t selection (.edited edit, s')) :
      ∃ edit menu, s' = { s.install edit with
        timer := .schedule s.now s.config.commitDelay
        menu := menu } := by
    cases h with
    | edit menu => exact ⟨_, menu, rfl⟩
  obtain ⟨edit, h⟩ := h
  cases operation with
  | press press =>
    obtain ⟨t, selection, he⟩ := (press?_effect h).edited
    exact hchange he
  | change t selection => exact hchange (change?_effect h)
  | _ => cases h

/-- **Looking around leaves document, timer, clock and history alone.** -/
theorem Looks.spec {operation : Operation} (h : Looks s operation s') :
    ∃ facet selection pendingSelection menu, s' = { s with
      facet := facet
      selection := selection
      pendingSelection := pendingSelection
      menu := menu } := by
  cases operation with
  | press press =>
    rcases h with h | ⟨hundo, h⟩
    · obtain ⟨selection, menu, rfl⟩ := (press?_effect h).moved
      exact ⟨_, _, _, _, rfl⟩
    · rw [(press?_effect h).unchanged_eq hundo]
      exact ⟨_, _, _, _, rfl⟩
  | hover index =>
    cases h
    unfold hover?
    cases s.menu.hover? index with
    | none => exact ⟨_, _, _, _, rfl⟩
    | some menu => exact ⟨_, _, _, menu, rfl⟩
  | finishRender =>
    cases (perform?_finishRender s).symm.trans h
    unfold withPending
    cases s.pendingSelection with
    | none => exact ⟨_, _, _, _, rfl⟩
    | some pending => exact ⟨_, _, _, _, rfl⟩
  | select start stop =>
    cases (perform?_select s start stop).symm.trans h
    exact ⟨_, _, _, _, rfl⟩
  | switchTo facet =>
    cases h
    exact ⟨_, _, _, _, rfl⟩
  | _ => cases h

/-! ## Runs -/

/-- A run that begins with a plain edit and goes on with plain edits, looks around and time that
passes, but never reaches the deadline of the last edit.  That edit was made when the clock read
`last`. -/
inductive TypingRun (s : Editor) : Nat → Editor → Prop where
  | start {operation : Operation} {s' : Editor} : Types s operation s' → TypingRun s s.now s'
  | type {last : Nat} {operation : Operation} {s' s'' : Editor} :
      TypingRun s last s' → Types s' operation s'' → TypingRun s s'.now s''
  | look {last : Nat} {operation : Operation} {s' s'' : Editor} :
      TypingRun s last s' → Looks s' operation s'' → TypingRun s last s''
  | pass {last : Nat} {s' : Editor} {r : Bool × Editor} :
      TypingRun s last s' → Passes s' r → r.2.now < last + s.config.commitDelay →
        TypingRun s last r.2

/-- Without edits: looks around and time that passes. -/
inductive RestingRun (s : Editor) : Editor → Prop where
  | refl : RestingRun s s
  | look {operation : Operation} {s' s'' : Editor} :
      RestingRun s s' → Looks s' operation s'' → RestingRun s s''
  | pass {s' : Editor} {r : Bool × Editor} : RestingRun s s' → Passes s' r → RestingRun s r.2

/-- The history is that of `s`, and a commit waits for the edit that was made at `last`. -/
structure Waiting (s : Editor) (last : Nat) (s' : Editor) : Prop where
  history : s'.history = s.history
  timer : s'.timer = ⟨some (last + s.config.commitDelay)⟩
  commitDelay : s'.config.commitDelay = s.config.commitDelay

/-- A deadline that the clock can read is the time of the edit and the delay. -/
theorem schedule_eq {now delay : Nat} (h : now + delay < Word.limit) :
    Timer.schedule now delay = ⟨some (now + delay)⟩ := by
  have hlast : now + delay ≤ Clock.last := by
    unfold Clock.last
    omega
  rw [Timer.schedule, Clock.after, Nat.min_eq_left hlast]

/-- **All along a run of typing the history stays and the commit waits for the last edit.** -/
theorem TypingRun.waiting {last : Nat} (h : TypingRun s last s') :
    last ≤ s'.now ∧ (last + s.config.commitDelay < Word.limit → Waiting s last s') := by
  induction h with
  | start htypes =>
    obtain ⟨edit, menu, rfl⟩ := htypes.spec
    refine ⟨Nat.le_refl _, fun hl => ⟨rfl, ?_, rfl⟩⟩
    exact schedule_eq hl
  | type _ htypes ih =>
    obtain ⟨hle, hwait⟩ := ih
    obtain ⟨edit, menu, rfl⟩ := htypes.spec
    refine ⟨Nat.le_refl _, fun hl => ?_⟩
    -- the clock does not go back, so the earlier deadlines could be read, too
    have hw := hwait (by omega)
    refine ⟨hw.history, ?_, hw.commitDelay⟩
    show Timer.schedule _ _ = _
    rw [hw.commitDelay, schedule_eq hl]
  | look _ hlooks ih =>
    obtain ⟨facet, selection, pending, menu, rfl⟩ := hlooks.spec
    refine ⟨ih.1, fun hl => ?_⟩
    obtain ⟨hhistory, htimer, hdelay⟩ := ih.2 hl
    exact ⟨hhistory, htimer, hdelay⟩
  | @pass last s' r _ hpass hnow ih =>
    obtain ⟨time, rfl⟩ := hpass.exists_tick
    rw [tick_now] at hnow ⊢
    refine ⟨by omega, fun hl => ?_⟩
    have hw := ih.2 hl
    have hdue : ∀ deadline ∈ s'.timer.deadline, max s'.now time < deadline := by
      intro deadline hd
      rw [hw.timer] at hd
      cases hd
      exact hnow
    rw [tick_of_not_due hdue]
    exact ⟨hw.history, hw.timer, hw.commitDelay⟩

/-- While no commit is pending and nothing is edited, the history stays. -/
theorem RestingRun.history_eq (h : RestingRun s s') (ht : s.timer = .idle) :
    s'.timer = .idle ∧ s'.history = s.history := by
  induction h with
  | refl => exact ⟨ht, rfl⟩
  | look _ hlooks ih =>
    obtain ⟨facet, selection, pending, menu, rfl⟩ := hlooks.spec
    exact ih
  | pass _ hpass ih =>
    obtain ⟨time, rfl⟩ := hpass.exists_tick
    rw [tick_of_idle ih.1]
    exact ih

/-- The tick that reaches the deadline commits the document of that moment. -/
theorem Waiting.tick {last time : Nat} (h : Waiting s last s')
    (hdue : last + s.config.commitDelay ≤ max s'.now time) :
    s'.tick time =
      ((s.history.commit s'.document).1,
        { s' with
          now := max s'.now time
          timer := .idle
          history := (s.history.commit s'.document).2 }) := by
  have hdeadline : s'.timer.deadline = some (last + s.config.commitDelay) := by
    rw [h.timer]
  rw [tick_of_due hdeadline hdue, ← h.history]
  rfl

/-- **Typing is coalesced.**  All along a run of typing the history stays as it was and the commit
of the last edit is pending.  The first reading of the clock at its deadline commits the document
of that moment, and tells whether it differs from the current entry.  From then on the document is
the current entry, and without edits nothing is committed any more. -/
theorem typing_is_coalesced {last : Nat} (h : TypingRun s last s')
    (hl : last + s.config.commitDelay < Word.limit) :
    s'.history = s.history ∧ s'.timer.deadline = some (last + s.config.commitDelay) ∧
      ∀ r, Passes s' r → last + s.config.commitDelay ≤ r.2.now →
        ¬ r.2.timer.isPending ∧ r.2.document = s'.document ∧
          r.2.history = (s.history.commit s'.document).2 ∧
          (r.1 = true ↔ s'.document ≠ s.history.current) ∧
          r.2.history.current = r.2.document ∧
          ∀ s'', RestingRun r.2 s'' → s''.history = r.2.history ∧
            ∀ q, Passes s'' q → q.1 = false ∧ q.2.history = r.2.history := by
  have hw := h.waiting.2 hl
  refine ⟨hw.history, by rw [hw.timer], ?_⟩
  intro r hr hdue
  obtain ⟨time, rfl⟩ := hr.exists_tick
  rw [tick_now] at hdue
  have htick := hw.tick hdue
  rw [htick]
  refine ⟨Bool.false_ne_true, rfl, rfl, History.commit_fst_iff _ _, History.commit_current _ _, ?_⟩
  intro s'' hrest
  obtain ⟨hidle, hhistory⟩ := hrest.history_eq rfl
  refine ⟨hhistory, ?_⟩
  intro q hq
  obtain ⟨time', rfl⟩ := hq.exists_tick
  rw [tick_of_idle hidle]
  exact ⟨rfl, hhistory⟩

/-- Two letters are typed in the style sheet, the second one 600 ms after the first, and the caret
goes back.  At 1599 ms nothing has been committed, at 1600 ms both letters are. -/
theorem typing_is_coalesced_at_two_letters :
    let s := (new .default).switchTo .style
    ∃ s', TypingRun s 600 s' ∧ 600 + s.config.commitDelay < Word.limit ∧ s'.now = 1599 ∧
      s'.history = s.history ∧ (s'.tick 1600).1 = true ∧
      (s'.tick 1600).2.history.current = ⟨[], ['a', 'b'], []⟩ ∧
      ((s'.tick 1600).2.tick 5000).1 = false := by
  intro s
  let s₁ : Editor := { s.install (.collapsed ['a'] 1) with timer := .schedule 0 1000 }
  let s₂ : Editor := { s₁ with now := 600 }
  let s₃ : Editor := { s₂.install (.collapsed ['a', 'b'] 2) with timer := .schedule 600 1000 }
  let s₄ : Editor := { s₃ with selection := .collapsed 1 }
  have ha : Types s (.press (.plain (.char 'a'))) s₁ := ⟨.collapsed ['a'] 1, rfl⟩
  have hb : Types s₂ (.press (.plain (.char 'b'))) s₃ := ⟨.collapsed ['a', 'b'] 2, rfl⟩
  have hleft : Looks s₃ (.press (.plain .left)) s₄ := Or.inl rfl
  have hwait : TypingRun s 0 s₂ := TypingRun.pass (.start ha) (.tick 600) (by decide)
  have hrun : TypingRun s 600 { s₄ with now := 1599 } :=
    TypingRun.pass (.look (.type hwait hb) hleft) (.tick 1599) (by decide)
  have hl : 600 + s.config.commitDelay < Word.limit := by decide
  obtain ⟨hhistory, -, hcommit⟩ := typing_is_coalesced hrun hl
  obtain ⟨-, hdocument, -, hnew, hcurrent, hrest⟩ := hcommit _ (.tick 1600) (by decide)
  refine ⟨_, hrun, hl, rfl, hhistory, hnew.2 (by decide), ?_, ?_⟩
  · rw [hcurrent, hdocument]
    rfl
  · exact ((hrest _ .refl).2 _ (.tick 5000)).1

end Editor

end MarkupPad
