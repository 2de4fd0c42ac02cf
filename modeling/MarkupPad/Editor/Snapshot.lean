import MarkupPad.Editor.Operations
import MarkupPad.Json.Printer
import MarkupPad.Record

/-!
# Snapshots of an editor

A snapshot holds what can be seen of an editor, without the entries of its history.
-/

namespace MarkupPad

/-- What can be seen of an editor. -/
structure Snapshot where
  facet : Facet
  document : Document
  selection : Selection
  historyLength : Nat
  historyStep : Nat
  suggestions : List Suggestion
  highlighted : Nat
  now : Nat
  deriving Repr, DecidableEq

/-- The snapshot of an editor. -/
def Editor.snapshot (s : Editor) : Snapshot where
  facet := s.facet
  document := s.document
  selection := s.selection
  historyLength := s.history.length
  historyStep := s.history.step
  suggestions := s.menu.items
  highlighted := s.menu.index
  now := s.now

namespace Snapshot

/-- A snapshot as a record. -/
def toJson (s : Snapshot) : Json :=
  .record [("facet", s.facet.toJson), ("document", s.document.toJson),
    ("selection", s.selection.toJson), ("history_len", .nat s.historyLength),
    ("history_step", .nat s.historyStep),
    ("suggestions", .array (s.suggestions.map Suggestion.toJson)),
    ("highlighted", .nat s.highlighted), ("now_ms", .nat s.now)]

/-- The snapshot that a record stands for. -/
def ofJson? (json : Json) : Option Snapshot := do
  match ← json.allFields? ["facet", "document", "selection", "history_len", "history_step",
    "suggestions", "highlighted", "now_ms"] with
  | [facet, document, selection, historyLength, historyStep, suggestions, highlighted, now] =>
    return {
      facet := ← Facet.ofJson? facet
      document := ← Document.ofJson? document
      selection := ← Selection.ofJson? selection
      historyLength := ← historyLength.word?
      historyStep := ← historyStep.word?
      suggestions := ← (← suggestions.items?).mapM Suggestion.ofJson?
      highlighted := ← highlighted.word?
      now := ← now.word? }
  | _ => none

end Snapshot

end MarkupPad
