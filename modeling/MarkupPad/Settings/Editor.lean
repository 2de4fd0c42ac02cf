import MarkupPad.Editor.Config
import MarkupPad.Settings.Registry

/-!
# The settings of the editor

Every knob of the editor is a setting, with the default configuration as its defaults.
-/

namespace MarkupPad.Settings

/-! ## Keys -/

def autoClose : Text := "editor.auto_close".toList
def predictions : Text := "editor.predictions".toList
def historyCapacity : Text := "history.capacity".toList
def commitDelay : Text := "history.debounce_ms".toList
def maxSuggestions : Text := "suggest.max_results".toList
def lineHeight : Text := "popup.line_height".toList
def charWidth : Text := "popup.char_width".toList
def topOffset : Text := "popup.top_offset".toList
def leftOffset : Text := "popup.left_offset".toList
def viewportWidth : Text := "popup.viewport_width".toList
def viewportHeight : Text := "popup.viewport_height".toList

/-! ## Algorithm -/

/-- The settings that make up a configuration. -/
def ofConfig (c : Config) : List (Text × SettingValue) := [
  (autoClose, .boolean c.autoClose),
  (predictions, .boolean c.predictions),
  (historyCapacity, .integer c.historyCapacity),
  (commitDelay, .integer c.commitDelay),
  (maxSuggestions, .integer c.maxSuggestions),
  (lineHeight, .float c.popup.lineHeight),
  (charWidth, .float c.popup.charWidth),
  (topOffset, .float c.popup.topOffset),
  (leftOffset, .float c.popup.leftOffset),
  (viewportWidth, .float c.popup.viewportWidth),
  (viewportHeight, .float c.popup.viewportHeight)]

/-- The registry of the editor's settings. -/
def registry : Registry :=
  (ofConfig .default).foldl (fun r (key, value) => r.register key value) .empty

/-- The configuration that the settings in effect make up.  Of several settings that cannot
be used the first one of the list above is reported. -/
def config (r : Registry) : Except SettingsError Config := do
  return {
    autoClose := ← r.boolean autoClose
    predictions := ← r.boolean predictions
    historyCapacity := ← r.count historyCapacity
    commitDelay := ← r.count commitDelay
    maxSuggestions := ← r.count maxSuggestions
    popup := {
      lineHeight := ← r.float lineHeight
      charWidth := ← r.float charWidth
      topOffset := ← r.float topOffset
      leftOffset := ← r.float leftOffset
      viewportWidth := ← r.float viewportWidth
      viewportHeight := ← r.float viewportHeight } }

end MarkupPad.Settings
