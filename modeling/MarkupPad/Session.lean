import MarkupPad.Editor.Snapshot
import MarkupPad.Page
import MarkupPad.Script
import MarkupPad.Settings.Editor
import MarkupPad.Settings.Saved

/-!
# Sessions

A session is an editor with a set of libraries and a script that drives both.  After every
edit the session renders, so that the selection the edit asked for becomes the current one.

    run? limit s = the first `limit` inputs of s one after the other, and then a flush
-/

namespace MarkupPad

/-- Why a session cannot start, or a command is refused. -/
inductive SessionError where
  /-- The saved settings cannot be read. -/
  | savedSettings (error : SavedSettingsError)
  /-- The settings cannot be used. -/
  | settings (error : SettingsError)
  | script (error : ScriptError)
  | command (error : CommandError)
  deriving Repr, DecidableEq

/-- The wording of an error.  The reason is what makes saved settings unreadable. -/
def SessionError.message (error : SessionError) (reason : Option Text := none) : Text :=
  match error with
  | savedSettings error => "Settings error: ".toList ++ error.message reason
  | settings error => "Settings error: ".toList ++ error.message
  | script error => "Script error: ".toList ++ error.message
  | command error => "Command error: ".toList ++ error.message

/-- The id of a number: a UUID of version 4 that counts. -/
def Session.customId (n : Nat) : Text :=
  let digits := Nat.toDigits 16 n
  "00000000-0000-4000-8000-".toList ++ List.replicate (12 - digits.length) '0' ++ digits

/-- What a session is given from outside. -/
structure Services where
  /-- Reads the addresses of libraries. -/
  reader : Url.Reader
  /-- The id that is made for the custom library of a number. -/
  newId : Nat → Text
  /-- What is said of bytes that are no saved settings. -/
  reason : ByteArray → Option Text

/-- Addresses read by the standard, ids that count, and no reasons. -/
def Services.standard : Services := ⟨Url.standard, Session.customId, fun _ => none⟩

/-- A project that is being worked on. -/
structure Session where
  services : Services
  editor : Editor
  libraries : LibrarySet
  /-- How many custom libraries have been added so far. -/
  customCount : Nat
  /-- What is left of the script. -/
  inputs : List Input
  /-- How many inputs have taken place. -/
  steps : Nat

namespace Session

/-! ## Starting -/

/-- The configuration that saved settings make up, or the default one. -/
def config (saved : Option ByteArray) : Except SessionError Config := do
  let registry ← match saved with
    | none => pure Settings.registry
    | some bytes =>
      match SavedSettings.ofBytes bytes with
      | .error error => throw (.savedSettings error)
      | .ok saved =>
        match Settings.registry.apply saved.overrides with
        | (some error, _) => throw (.settings error)
        | (none, registry) => pure registry
  (Settings.config registry).mapError .settings

/-- The inputs of a script, or none at all. -/
def inputsOf (script : Option Text) : Except SessionError (List Input) :=
  match script with
  | none => .ok []
  | some t => (Script.ofText t).mapError .script

/-- An empty project with the whole script ahead.  Wrong settings are reported before a
wrong script. -/
def start (script : Option Text) (saved : Option ByteArray) (services : Services := .standard) :
    Except SessionError Session := do
  let config ← config saved
  let inputs ← inputsOf script
  return {
    services, editor := .new config, libraries := .empty, customCount := 0, inputs, steps := 0 }

/-! ## Commands -/

/-- The session with an editor whose last edit is shown with the selection that it asked for. -/
def render? (s : Session) (editor : Editor) : Option Session :=
  editor.rendered?.map fun rendered => { s with editor := rendered.getD editor }

/-- The session with a library of the catalog toggled; unknown ids are ignored. -/
def toggleLibrary (s : Session) (id : Text) : Session :=
  match s.libraries.toggleCatalog id with
  | .error _ => s
  | .ok (_, libraries) => { s with libraries := libraries }

/-- The session with a custom library; what is no web address is ignored. -/
def addLibrary (s : Session) (kind : LibraryKind) (url name : Text) : Session :=
  match s.libraries.addCustom (s.services.newId s.customCount) name url kind s.services.reader with
  | .error _ => s
  | .ok (_, libraries) => { s with libraries := libraries, customCount := s.customCount + 1 }

/-- The session after a command.  A command that does not apply changes nothing. -/
def execute? (s : Session) : Command → Option Session
  | .switchTo facet => s.render? (s.editor.switchTo facet)
  | .hover index => some { s with editor := (s.editor.hover? index).getD s.editor }
  | .click index => do
    let (_, editor) ← s.editor.click? index
    s.render? editor
  | .select start stop =>
    (s.editor.selected? start stop).map fun editor => { s with editor := editor }
  | .library id => some (s.toggleLibrary id)
  | .customLibrary kind url name => some (s.addLibrary kind url name)
  | .template id => do
    match ← s.editor.injected? id with
    | none => return s
    | some editor => s.render? editor
  | .autoClose on => some { s with editor := s.editor.setAutoClose on }
  | .predictions on => some { s with editor := s.editor.setPredictions on }

/-- The session after a command that is given as a text, if the text of the editor can be cut
where the command needs it. -/
def executeText (s : Session) (t : Text) : Except SessionError Session :=
  match Command.ofText t with
  | .error error => .error (.command error)
  | .ok command => .ok ((s.execute? command).getD s)

/-! ## Running -/

/-- The session after an input. -/
def perform? (s : Session) : Input → Option Session
  | .press press => do
    let (_, editor) ← s.editor.press? press
    s.render? editor
  | .wait delay => some { s with editor := (s.editor.advance delay).2 }
  | .command command => s.execute? command

/-- The next input of the script takes place; tells whether there was one. -/
def step? (s : Session) : Option (Bool × Session) :=
  match s.inputs with
  | [] => some (false, s)
  | input :: inputs =>
    ({ s with inputs := inputs, steps := s.steps + 1 }.perform? input).map (true, ·)

/-- Inputs take place until they are spent or the limit of steps is reached.  The limit 0
is none, and one input takes place in any case. -/
def playUntil? (limit : Nat) (s : Session) : List Input → Option Session
  | [] => some { s with inputs := [] }
  | input :: inputs => do
    let s ← { s with inputs := inputs, steps := s.steps + 1 }.perform? input
    if limit ≠ 0 ∧ limit ≤ s.steps then return s
    playUntil? limit s inputs

/-- The typing that has not been committed yet is given the time it needs. -/
def flush (s : Session) : Bool × Session :=
  let (isNew, editor) := s.editor.advance s.editor.config.commitDelay
  (isNew, { s with editor := editor })

/-- The script runs to its end or to the limit of steps. -/
def run? (limit : Nat) (s : Session) : Option Session :=
  (s.playUntil? limit s.inputs).map fun s => s.flush.2

/-! ## Results -/

/-- The page of the project. -/
def page (s : Session) : Text :=
  Page.ofDocument s.editor.document s.libraries s.services.reader

/-- The snapshot of the editor in JSON. -/
def snapshotText (s : Session) : Text := s.editor.snapshot.toJson.pretty

end Session

end MarkupPad
