import MarkupPad.Proofs.Editor.Deadline
import MarkupPad.Proofs.Editor.Selection
import MarkupPad.Proofs.Library.Ids
import MarkupPad.Session

/-!
# Sessions run to their end

What an input does to the editor of a session is a few operations, none of which is a change
from outside.  So the selection fits all along the script and no input fails.  A limit of steps
is a shorter script, and the flush after the last input finds the deadline near.  The ids that are
made for libraries are read by nothing but the libraries, so other ids change nothing else.

    s.perform? input = (s.editor.run? input.operations).map
      fun editor => { s.stock input with editor := editor }                          (perform?_eq)
    s.playUntil? limit inputs plays the first limit - s.steps of them          (playUntil?_limit)
    s.SameButIds s' → s.run? 0 = some t → s'.run? 0 = some t' with t.SameButIds t'
                                                                              (SameButIds.run?)
    s.run? limit leads to a session without a pending commit                        (runs_finish)
-/

namespace MarkupPad

/-! ## Inputs as operations -/

/-- What a command does with the editor. -/
def Command.operations : Command → List Operation
  | .switchTo facet => [.switchTo facet, .finishRender]
  | .hover index => [.hover index]
  | .click index => [.click index, .finishRender]
  | .select start stop => [.select start stop]
  | .library _ | .customLibrary _ _ _ => []
  | .template id => if (Template.find? id).isSome then [.inject id, .finishRender] else []
  | .autoClose on => [.setAutoClose on]
  | .predictions on => [.setPredictions on]

/-- What an input does with the editor. -/
def Input.operations : Input → List Operation
  | .press p => [.press p, .finishRender]
  | .wait delay => [.advance delay]
  | .command c => c.operations

/-- No input changes the text from outside, so that all of them keep the selection in it. -/
theorem Input.keepsSelection (input : Input) :
    ∀ operation ∈ input.operations, ∀ s, operation.KeepsSelection s := by
  intro operation hmem s
  cases operation with
  | change t selection =>
    -- there is no such operation
    cases input with
    | press p => simp [operations] at hmem
    | wait delay => simp [operations] at hmem
    | command c =>
      cases c with
      | template id =>
        simp only [operations, Command.operations] at hmem
        split at hmem
        · simp at hmem
        · simp at hmem
      | _ => simp [operations, Command.operations] at hmem
  | _ => trivial

namespace Editor

/-- Operations that keep the selection in the text do not fail. -/
theorem run?_of_keepsSelection {s : Editor} (h : Reachable s) (hfits : s.SelectionFits)
    {operations : List Operation}
    (hkeeps : ∀ operation ∈ operations, ∀ s, operation.KeepsSelection s) :
    ∃ s', s.run? operations = some s' ∧ Reachable s' ∧ s'.SelectionFits := by
  induction operations generalizing s with
  | nil => exact ⟨s, rfl, h, hfits⟩
  | cons operation operations ih =>
    rw [List.forall_mem_cons] at hkeeps
    obtain ⟨s₁, hs₁⟩ := Option.isSome_iff_exists.1 (perform?_isSome hfits.1 operation)
    obtain ⟨s', hs', hreachable, hfits'⟩ :=
      ih (.perform operation h hs₁) ((perform?_fits_iff hfits hs₁).2 (hkeeps.1 s)) hkeeps.2
    refine ⟨s', ?_, hreachable, hfits'⟩
    rw [run?, List.foldlM_cons, hs₁]
    exact hs'

theorem run?_append (s : Editor) (operations operations' : List Operation) :
    s.run? (operations ++ operations') = (s.run? operations).bind (·.run? operations') :=
  List.foldlM_append

theorem run?_singleton (s : Editor) (operation : Operation) :
    s.run? [operation] = s.perform? operation := bind_pure _

theorem run?_pair (s : Editor) (operation operation' : Operation) :
    s.run? [operation, operation'] = (s.perform? operation).bind (·.perform? operation') := by
  rw [run?, List.foldlM_cons]
  exact congrArg (Option.bind _) (funext fun t => run?_singleton t operation')

end Editor

namespace Session

/-! ## One input -/

/-- The session with the libraries that an input adds or takes away. -/
def stock (s : Session) : Input → Session
  | .command (.library id) => s.toggleLibrary id
  | .command (.customLibrary kind url name) => s.addLibrary kind url name
  | _ => s

theorem render?_eq (s : Session) (editor : Editor) :
    s.render? editor =
      (editor.perform? .finishRender).map fun editor => { s with editor := editor } := by
  rw [render?, Editor.perform?, Option.map_map]
  rfl

/-- Where libraries change, the editor, the script and the steps do not matter, and stay. -/
theorem stock_frame (s : Session) (input : Input) (inputs : List Input) (steps : Nat) :
    { s with inputs := inputs, steps := steps }.stock input =
        { s.stock input with inputs := inputs, steps := steps } ∧
      (s.stock input).editor = s.editor ∧ (s.stock input).inputs = s.inputs ∧
      (s.stock input).steps = s.steps := by
  unfold stock
  split
  next id =>
    unfold toggleLibrary
    cases s.libraries.toggleCatalog id with
    | error error => exact ⟨rfl, rfl, rfl, rfl⟩
    | ok r => exact ⟨rfl, rfl, rfl, rfl⟩
  next kind url name =>
    unfold addLibrary
    cases s.libraries.addCustom (s.services.newId s.customCount) name url kind
      s.services.reader with
    | error error => exact ⟨rfl, rfl, rfl, rfl⟩
    | ok r => exact ⟨rfl, rfl, rfl, rfl⟩
  next => exact ⟨rfl, rfl, rfl, rfl⟩

/-- **An input does to the editor what its operations do**, and apart from that it does no more than
change the libraries. -/
theorem perform?_eq (s : Session) (input : Input) :
    s.perform? input =
      (s.editor.run? input.operations).map fun editor =>
        { s.stock input with editor := editor } := by
  cases input with
  | press press =>
    simp only [perform?, Input.operations, Editor.run?_pair, Editor.perform?]
    cases s.editor.press? press with
    | none => rfl
    | some r => exact render?_eq s r.2
  | wait delay => rfl
  | command command =>
    cases command with
    | switchTo facet =>
      simp only [perform?, Input.operations, Command.operations, Editor.run?_pair]
      exact render?_eq s _
    | click index =>
      simp only [perform?, execute?, Input.operations, Command.operations, Editor.run?_pair,
        Editor.perform?]
      cases s.editor.click? index with
      | none => rfl
      | some r => exact render?_eq s r.2
    | select start stop =>
      simp only [perform?, execute?, Input.operations, Command.operations, Editor.run?_singleton]
      rfl
    | template id =>
      simp only [perform?, execute?, Editor.injected?, Input.operations, Command.operations]
      cases hfound : Template.find? id with
      | none => rfl
      | some template =>
        rw [if_pos Option.isSome_some, Editor.run?_pair, Editor.perform?, Editor.injected?, hfound]
        simp only
        cases s.editor.insertTemplate? template with
        | none => rfl
        | some editor => exact render?_eq s editor
    | library id =>
      obtain ⟨-, heditor, -⟩ := s.stock_frame (.command (.library id)) s.inputs s.steps
      exact congrArg (fun editor => some { s.toggleLibrary id with editor := editor }) heditor
    | customLibrary kind url name =>
      obtain ⟨-, heditor, -⟩ :=
        s.stock_frame (.command (.customLibrary kind url name)) s.inputs s.steps
      exact congrArg (fun editor => some { s.addLibrary kind url name with editor := editor })
        heditor
    | _ => rfl

/-- An input neither reads nor writes the script and the steps. -/
theorem perform?_frame (s : Session) (input : Input) (inputs : List Input) (steps : Nat) :
    { s with inputs := inputs, steps := steps }.perform? input =
      (s.perform? input).map fun t => { t with inputs := inputs, steps := steps } := by
  rw [perform?_eq, perform?_eq, (s.stock_frame input inputs steps).1, Option.map_map]
  rfl

/-- The editor has been led here by operations, and its selection fits. -/
def Sound (s : Session) : Prop := s.editor.Reachable ∧ s.editor.SelectionFits

/-- **No input fails.** -/
theorem perform?_of_sound {s : Session} (h : s.Sound) (input : Input) :
    ∃ t, s.perform? input = some t ∧ t.Sound ∧ t.inputs = s.inputs ∧ t.steps = s.steps ∧
      s.editor.run? input.operations = some t.editor := by
  obtain ⟨editor, hrun, hreachable, hfits⟩ :=
    Editor.run?_of_keepsSelection h.1 h.2 input.keepsSelection
  obtain ⟨-, -, hinputs, hsteps⟩ := s.stock_frame input s.inputs s.steps
  refine ⟨{ s.stock input with editor := editor }, ?_, ⟨hreachable, hfits⟩, hinputs, hsteps, hrun⟩
  rw [perform?_eq, hrun]
  rfl

/-! ## A script -/

/-- **Without a limit all inputs take place.** -/
theorem playUntil?_of_sound {s : Session} (h : s.Sound) (inputs : List Input) :
    ∃ t, s.playUntil? 0 inputs = some t ∧ t.Sound ∧ t.inputs = [] ∧
      t.steps = s.steps + inputs.length ∧
      s.editor.run? (inputs.flatMap Input.operations) = some t.editor := by
  induction inputs generalizing s with
  | nil => exact ⟨{ s with inputs := [] }, rfl, h, rfl, rfl, rfl⟩
  | cons input inputs ih =>
    have h' : { s with inputs := inputs, steps := s.steps + 1 : Session }.Sound := h
    obtain ⟨s₁, hs₁, hsound, -, hsteps, hrun⟩ := perform?_of_sound h' input
    obtain ⟨t, ht, hsound', hinputs', hsteps', hrun'⟩ := ih hsound
    refine ⟨t, ?_, hsound', hinputs', ?_, ?_⟩
    · rw [playUntil?, hs₁]
      simpa using ht
    · rw [hsteps', hsteps]
      show s.steps + 1 + inputs.length = s.steps + (inputs.length + 1)
      omega
    · rw [List.flatMap_cons, Editor.run?_append, hrun]
      exact hrun'

theorem playUntil?_frame (s : Session) (limit : Nat) (rest inputs : List Input) :
    { s with inputs := rest }.playUntil? limit inputs = s.playUntil? limit inputs := by
  cases inputs with
  | nil => rfl
  | cons input inputs => rfl

/-- **With a limit the first inputs take place, as many as the limit leaves.** -/
theorem playUntil?_limit {s : Session} {limit : Nat} (hlimit : s.steps < limit)
    (inputs : List Input) :
    s.playUntil? limit inputs =
      (s.playUntil? 0 (inputs.take (limit - s.steps))).map fun t =>
        { t with inputs := inputs.drop (limit - s.steps) } := by
  induction inputs generalizing s with
  | nil =>
    rw [List.take_nil, List.drop_nil]
    rfl
  | cons input inputs ih =>
    obtain ⟨left, hleft⟩ : ∃ left, limit - s.steps = left + 1 := ⟨limit - s.steps - 1, by omega⟩
    rw [hleft, List.take_succ_cons, List.drop_succ_cons, playUntil?, playUntil?, perform?_frame,
      perform?_frame s input (inputs.take left)]
    cases s.perform? input with
    | none => rfl
    | some s₁ =>
      simp only [Option.map_some, Option.bind_eq_bind, Option.bind_some, ne_eq, not_true_eq_false,
        false_and, if_false]
      by_cases hlast : limit ≤ s.steps + 1
      · -- the limit is reached, and nothing is left to play
        have hnone : left = 0 := by omega
        rw [if_pos ⟨by omega, hlast⟩, hnone, List.take_zero, List.drop_zero]
        rfl
      · have hless : s.steps + 1 < limit := by omega
        have hnext := ih (s := { s₁ with inputs := inputs, steps := s.steps + 1 }) hless
        have hleft' : limit - (s.steps + 1) = left := by omega
        rw [if_neg fun hstop => hlast hstop.2, hnext]
        simp only [hleft']
        rw [playUntil?_frame { s₁ with steps := s.steps + 1 } 0 inputs,
          playUntil?_frame { s₁ with steps := s.steps + 1 } 0 (inputs.take left)]

/-! ## Other ids -/

end Session

/-- The ids that are made are not those of the catalog. -/
def Services.MakesFreeIds (services : Services) : Prop :=
  ∀ n, Library.IsFreeId (services.newId n)

/-- The ids that count have zeros in front, which no id of the catalog has. -/
theorem Services.makesFreeIds_standard : Services.standard.MakesFreeIds := by
  intro n library hlibrary heq
  have hcatalog : ∀ l ∈ Library.catalog, l.id.head? ≠ some '0' := by decide
  refine hcatalog library hlibrary ?_
  rw [heq]
  rfl

namespace Session

/-- Two sessions that read the same addresses and differ in nothing but the ids that they make for
custom libraries. -/
structure SameButIds (s s' : Session) : Prop where
  reader : s.services.reader = s'.services.reader
  freeIds : s.services.MakesFreeIds
  freeIds' : s'.services.MakesFreeIds
  editor : s.editor = s'.editor
  libraries : s.libraries.SameButIds s'.libraries
  inputs : s.inputs = s'.inputs
  steps : s.steps = s'.steps

namespace SameButIds

variable {s s' t : Session}

theorem toggleLibrary (h : s.SameButIds s') (id : Text) :
    (s.toggleLibrary id).SameButIds (s'.toggleLibrary id) := by
  unfold Session.toggleLibrary
  rcases LibrarySet.toggleCatalog_cases s.libraries id with
    ⟨library, hlibrary, rfl, hcall⟩ | ⟨hid, hcall⟩
  · rw [hcall, LibrarySet.toggleCatalog_of_mem hlibrary]
    exact { h with libraries := h.libraries.toggle hlibrary }
  · rcases LibrarySet.toggleCatalog_cases s'.libraries id with
      ⟨library, hlibrary, hsame, -⟩ | ⟨-, hcall'⟩
    · exact absurd hsame (hid library hlibrary)
    · rw [hcall, hcall']
      exact h

theorem addLibrary (h : s.SameButIds s') (kind : LibraryKind) (url name : Text) :
    (s.addLibrary kind url name).SameButIds (s'.addLibrary kind url name) := by
  unfold Session.addLibrary
  rw [← h.reader]
  cases hread : Library.readUrl url s.services.reader with
  | ok address =>
    rw [LibrarySet.addCustom_eq_ok_iff.2 ⟨address, hread, rfl, rfl⟩,
      LibrarySet.addCustom_eq_ok_iff.2 ⟨address, hread, rfl, rfl⟩]
    exact { h with libraries := h.libraries.push (.inr ⟨h.freeIds _, h.freeIds' _, rfl⟩) }
  | error error =>
    simp only [LibrarySet.addCustom, Library.custom, hread]
    exact h

/-- **An input does the same to both,** up to ids. -/
theorem perform? (h : s.SameButIds s') {input : Input} (ht : s.perform? input = some t) :
    ∃ t', s'.perform? input = some t' ∧ t.SameButIds t' := by
  have hstock : (s.stock input).SameButIds (s'.stock input) := by
    unfold stock
    split
    next id => exact h.toggleLibrary id
    next kind url name => exact h.addLibrary kind url name
    next => exact h
  rw [perform?_eq, Option.map_eq_some_iff] at ht
  obtain ⟨editor, hrun, rfl⟩ := ht
  refine ⟨{ s'.stock input with editor := editor }, ?_, { hstock with editor := rfl }⟩
  rw [perform?_eq, ← h.editor, hrun]
  rfl

/-- **So does a script.** -/
theorem playUntil? (h : s.SameButIds s') {inputs : List Input}
    (ht : s.playUntil? 0 inputs = some t) :
    ∃ t', s'.playUntil? 0 inputs = some t' ∧ t.SameButIds t' := by
  induction inputs generalizing s s' with
  | nil =>
    cases ht
    exact ⟨{ s' with inputs := [] }, rfl, { h with inputs := rfl }⟩
  | cons input inputs ih =>
    have hnext : { s with inputs := inputs, steps := s.steps + 1 : Session }.SameButIds
        { s' with inputs := inputs, steps := s'.steps + 1 } :=
      { h with inputs := rfl, steps := congrArg (· + 1) h.steps }
    simp only [Session.playUntil?, Option.bind_eq_bind, Option.bind_eq_some_iff, ne_eq,
      not_true_eq_false, false_and, if_false] at ht ⊢
    obtain ⟨s₁, hs₁, ht⟩ := ht
    obtain ⟨s₁', hs₁', h₁⟩ := hnext.perform? hs₁
    obtain ⟨t', ht', htt'⟩ := ih h₁ ht
    exact ⟨t', ⟨s₁', hs₁', ht'⟩, htt'⟩

theorem flush (h : s.SameButIds s') : s.flush.2.SameButIds s'.flush.2 := by
  obtain ⟨services, editor, libraries, customCount, inputs, steps⟩ := s
  obtain ⟨services', editor', libraries', customCount', inputs', steps'⟩ := s'
  cases h.editor
  exact { h with editor := rfl }

/-- **Whole runs end in the same state,** up to ids. -/
theorem run? (h : s.SameButIds s') (ht : s.run? 0 = some t) :
    ∃ t', s'.run? 0 = some t' ∧ t.SameButIds t' := by
  rw [Session.run?, Option.map_eq_some_iff] at ht
  obtain ⟨u, hu, rfl⟩ := ht
  obtain ⟨u', hu', huu'⟩ := h.playUntil? hu
  refine ⟨u'.flush.2, ?_, huu'.flush⟩
  rw [Session.run?, ← h.inputs, hu']
  rfl

end SameButIds

/-! ## Whole runs -/

/-- How many inputs of the script a limit of steps lets take place. -/
def share (limit : Nat) (s : Session) : Nat :=
  if limit = 0 then s.inputs.length else min s.inputs.length limit

/-- A session starts with an empty project and no steps. -/
theorem sound_of_start {script : Option Text} {saved : Option ByteArray} {services : Services}
    {s : Session} (h : start script saved services = .ok s) :
    s.Sound ∧ s.steps = 0 ∧ s.services = services ∧ s.libraries = .empty := by
  unfold start at h
  cases hconfig : config saved with
  | error error =>
    rw [hconfig] at h
    cases h
  | ok config =>
    cases hinputs : inputsOf script with
    | error error =>
      rw [hconfig, hinputs] at h
      cases h
    | ok inputs =>
      rw [hconfig, hinputs] at h
      cases h
      exact ⟨⟨.new config, Editor.selectionFits_new config⟩, rfl, rfl, rfl⟩

/-- A run up to a limit is a run of the first inputs. -/
theorem playUntil?_share {s : Session} (h : s.Sound) (hsteps : s.steps = 0) (limit : Nat) :
    s.playUntil? limit s.inputs =
      (s.playUntil? 0 (s.inputs.take (s.share limit))).map fun t =>
        { t with inputs := s.inputs.drop (s.share limit) } := by
  unfold share
  by_cases hlimit : limit = 0
  · obtain ⟨t, ht, -, hinputs, -⟩ := playUntil?_of_sound h s.inputs
    rw [if_pos hlimit, hlimit, List.take_length, List.drop_length, ht, ← hinputs]
    rfl
  · have htake : s.inputs.take (min s.inputs.length limit) = s.inputs.take limit :=
      List.take_eq_take_iff.2 (by omega)
    have hdrop : s.inputs.drop (min s.inputs.length limit) = s.inputs.drop limit :=
      List.drop_eq_drop_iff.2 (by omega)
    have hless : s.steps < limit := by omega
    have hplay := playUntil?_limit hless s.inputs
    rw [hsteps, Nat.sub_zero] at hplay
    rw [if_neg hlimit, htake, hdrop, hplay]

/-- **Every run finishes.**  The inputs of the script that the limit lets take place do so, and no
more, and what they leave is what they leave as a script of their own, up to ids if other ids are
made then.  All along the run the deadline is near, so that after the last flush no commit is
pending and the document is the current entry of the history. -/
theorem runs_finish {script : Option Text} {saved : Option ByteArray} {services : Services}
    {s : Session} (h : start script saved services = .ok s) (limit : Nat) :
    ∃ t s', s.playUntil? limit s.inputs = some t ∧ t.editor.InTime ∧
      s.editor.run? ((s.inputs.take (s.share limit)).flatMap Input.operations) = some t.editor ∧
      s.run? limit = some s' ∧ s' = t.flush.2 ∧
      s'.steps = s.share limit ∧ s'.inputs = s.inputs.drop (s.share limit) ∧
      { s with inputs := s.inputs.take (s.share limit) }.run? 0 = some { s' with inputs := [] } ∧
      (∀ others : Services, others.reader = services.reader →
        services.MakesFreeIds → others.MakesFreeIds →
        ∃ u, { s with
            services := others
            inputs := s.inputs.take (s.share limit) }.run? 0 = some u ∧
          u.editor = s'.editor ∧ u.steps = s'.steps ∧ s'.libraries.SameButIds u.libraries) ∧
      ¬ s'.editor.timer.isPending ∧ s'.editor.history.current = s'.editor.document := by
  obtain ⟨hsound, hzero, hservices, hempty⟩ := sound_of_start h
  obtain ⟨t, ht, hsound', hinputs, hsteps, hrun⟩ :=
    playUntil?_of_sound hsound (s.inputs.take (s.share limit))
  have hplay := playUntil?_share hsound hzero limit
  rw [ht, Option.map_some] at hplay
  have hshare : s.share limit ≤ s.inputs.length := by
    unfold share
    split
    · exact Nat.le_refl _
    · exact Nat.min_le_left _ _
  have hsteps' : t.steps = s.share limit := by
    rw [hsteps, hzero, Nat.zero_add, List.length_take, Nat.min_eq_left hshare]
  have halone : { s with inputs := s.inputs.take (s.share limit) }.run? 0 = some t.flush.2 := by
    rw [run?, playUntil?_frame, ht]
    rfl
  refine ⟨{ t with inputs := s.inputs.drop (s.share limit) }, _, hplay, hsound'.1.inTime, hrun,
    ?_, rfl, hsteps', rfl, ?_, ?_, hsound'.1.advance_commitDelay⟩
  · rw [run?, hplay]
    rfl
  · rw [halone, ← hinputs]
    rfl
  · intro others hreader hfree hfree'
    have hsame : { s with inputs := s.inputs.take (s.share limit) : Session }.SameButIds
        { s with services := others, inputs := s.inputs.take (s.share limit) } := {
      reader := by rw [hservices, hreader]
      freeIds := by rwa [hservices]
      freeIds' := hfree'
      editor := rfl
      libraries := by
        rw [hempty]
        exact .nil
      inputs := rfl
      steps := rfl }
    obtain ⟨u, hu, hsame'⟩ := hsame.run? halone
    exact ⟨u, hu, hsame'.editor.symm, hsame'.steps.symm, hsame'.libraries⟩

/-- A script of two letters and a library stops before the last letter, with the first one
committed, and does the same under other ids. -/
theorem runs_finish_after_library :
    let s : Session :=
      { services := .standard
        editor := .new .default
        libraries := .empty
        customCount := 0
        inputs := [
          Script.plain (.char 'a'),
          .command (.customLibrary .js "https://a.org".toList ['N']),
          Script.plain (.char 'b')]
        steps := 0 }
    let others : Services := { Services.standard with newId := fun _ => ['1'] }
    start (some "a\n:library-url js https://a.org N\nb".toList) none = .ok s ∧
      Services.standard.MakesFreeIds ∧ others.MakesFreeIds ∧
      ∃ s', s.run? 2 = some s' ∧ s'.steps = 2 ∧ s'.inputs = [Script.plain (.char 'b')] ∧
        (∃ u, { s with services := others, inputs := s.inputs.take 2 }.run? 0 = some u ∧
          u.editor = s'.editor ∧ s'.libraries.SameButIds u.libraries) ∧
        ¬ s'.editor.timer.isPending ∧ s'.editor.history.current = s'.editor.document := by
  intro s others
  have hstart : start (some "a\n:library-url js https://a.org N\nb".toList) none = .ok s := rfl
  have hothers : others.MakesFreeIds := fun _ =>
    show ∀ library ∈ Library.catalog, library.id ≠ ['1'] by decide
  obtain ⟨t, s', -, -, -, hrun, -, hsteps, hinputs, -, hsame, hpending, hcurrent⟩ :=
    runs_finish hstart 2
  obtain ⟨u, hu, heditor, -, hlibraries⟩ :=
    hsame others rfl Services.makesFreeIds_standard hothers
  exact ⟨hstart, Services.makesFreeIds_standard, hothers, s', hrun, hsteps, hinputs,
    ⟨u, hu, heditor, hlibraries⟩, hpending, hcurrent⟩

end Session

end MarkupPad
