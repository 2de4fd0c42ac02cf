import MarkupPad.Buffer.Boundary
import MarkupPad.Buffer.Completion
import MarkupPad.Buffer.Line
import MarkupPad.Buffer.Offset
import MarkupPad.Buffer.Shorthand
import MarkupPad.Buffer.Tag
import MarkupPad.Buffer.Token
import MarkupPad.Caret
import MarkupPad.Clock
import MarkupPad.Command
import MarkupPad.CommandLine
import MarkupPad.Completion
import MarkupPad.Decimal.Layout
import MarkupPad.Decimal.Shortest
import MarkupPad.Editor.Basic
import MarkupPad.Editor.Config
import MarkupPad.Editor.Keys
import MarkupPad.Editor.Operations
import MarkupPad.Editor.Snapshot
import MarkupPad.Element.Closing
import MarkupPad.Element.Opening
import MarkupPad.Element.Renaming
import MarkupPad.File.Path
import MarkupPad.File.System
import MarkupPad.File.Tree
import MarkupPad.History
import MarkupPad.Json.Basic
import MarkupPad.Json.Number
import MarkupPad.Json.Parser
import MarkupPad.Json.Printer
import MarkupPad.Json.Token
import MarkupPad.Key
import MarkupPad.Library.Basic
import MarkupPad.Library.Policy
import MarkupPad.Library.Set
import MarkupPad.Main
import MarkupPad.Page
import MarkupPad.Project
import MarkupPad.Proofs.Buffer.Boundary
import MarkupPad.Proofs.Buffer.Closing
import MarkupPad.Proofs.Buffer.Completion
import MarkupPad.Proofs.Buffer.Inverse
import MarkupPad.Proofs.Buffer.Line
import MarkupPad.Proofs.Buffer.NameEdit
import MarkupPad.Proofs.Buffer.Renaming
import MarkupPad.Proofs.Buffer.Run
import MarkupPad.Proofs.Buffer.Shorthand
import MarkupPad.Proofs.Buffer.Token
import MarkupPad.Proofs.Caret.Duplication
import MarkupPad.Proofs.Caret.Grid
import MarkupPad.Proofs.Caret.Motion
import MarkupPad.Proofs.Completion.Element
import MarkupPad.Proofs.Decimal.Rounding
import MarkupPad.Proofs.Decimal.Shortest
import MarkupPad.Proofs.Editor.Acceptance
import MarkupPad.Proofs.Editor.Chord
import MarkupPad.Proofs.Editor.Deadline
import MarkupPad.Proofs.Editor.Edit
import MarkupPad.Proofs.Editor.Effect
import MarkupPad.Proofs.Editor.History
import MarkupPad.Proofs.Editor.Menu
import MarkupPad.Proofs.Editor.Outcome
import MarkupPad.Proofs.Editor.PlainText
import MarkupPad.Proofs.Editor.Renaming
import MarkupPad.Proofs.Editor.Rewind
import MarkupPad.Proofs.Editor.Safety
import MarkupPad.Proofs.Editor.Selection
import MarkupPad.Proofs.Editor.Typing
import MarkupPad.Proofs.Editor.Undo
import MarkupPad.Proofs.Element.Balance
import MarkupPad.Proofs.Element.Closing
import MarkupPad.Proofs.Element.Matching
import MarkupPad.Proofs.Element.Opening
import MarkupPad.Proofs.Element.Renaming
import MarkupPad.Proofs.Element.Tree
import MarkupPad.Proofs.Float.Arithmetic
import MarkupPad.Proofs.Float.Parts
import MarkupPad.Proofs.Float.Rounding
import MarkupPad.Proofs.History
import MarkupPad.Proofs.History.Row
import MarkupPad.Proofs.History.Stack
import MarkupPad.Proofs.Json.Decimal
import MarkupPad.Proofs.Json.Float
import MarkupPad.Proofs.Json.Literal
import MarkupPad.Proofs.Json.Number
import MarkupPad.Proofs.Json.Parser
import MarkupPad.Proofs.Json.Printer
import MarkupPad.Proofs.Json.Token
import MarkupPad.Proofs.Library.Changes
import MarkupPad.Proofs.Library.Custom
import MarkupPad.Proofs.Library.Ids
import MarkupPad.Proofs.Library.Policy
import MarkupPad.Proofs.Library.Sources
import MarkupPad.Proofs.Rendering
import MarkupPad.Proofs.Script.Composition
import MarkupPad.Proofs.Script.Line
import MarkupPad.Proofs.Script.Modifiers
import MarkupPad.Proofs.Script.Quoted
import MarkupPad.Proofs.Session
import MarkupPad.Proofs.Settings.Applied
import MarkupPad.Proofs.Settings.Editor
import MarkupPad.Proofs.Settings.Overrides
import MarkupPad.Proofs.Settings.Restored
import MarkupPad.Proofs.Settings.Saved
import MarkupPad.Proofs.Settings.Table
import MarkupPad.Proofs.Shorthand
import MarkupPad.Proofs.Shorthand.Expansion
import MarkupPad.Proofs.Shorthand.Spelling
import MarkupPad.Proofs.Suggestion.Context
import MarkupPad.Proofs.Suggestion.Highlight
import MarkupPad.Proofs.Suggestion.Insertion
import MarkupPad.Proofs.Text.Boundary
import MarkupPad.Proofs.Text.Case
import MarkupPad.Proofs.Text.Order
import MarkupPad.Proofs.Text.Pattern
import MarkupPad.Proofs.Text.Split
import MarkupPad.Proofs.Text.Symbols
import MarkupPad.Proofs.Text.Trim
import MarkupPad.Proofs.Text.Words
import MarkupPad.Proofs.Url.Character
import MarkupPad.Record
import MarkupPad.Script
import MarkupPad.Selection
import MarkupPad.Session
import MarkupPad.Settings.Editor
import MarkupPad.Settings.Registry
import MarkupPad.Settings.Saved
import MarkupPad.Settings.Table
import MarkupPad.Settings.Value
import MarkupPad.Shorthand
import MarkupPad.Suggestion.Basic
import MarkupPad.Suggestion.Menu
import MarkupPad.Suggestion.Popup
import MarkupPad.Template
import MarkupPad.Text.Affix
import MarkupPad.Text.Ascii
import MarkupPad.Text.Basic
import MarkupPad.Text.Blank
import MarkupPad.Text.Count
import MarkupPad.Text.LowerCase
import MarkupPad.Text.Order
import MarkupPad.Text.Ranges
import MarkupPad.Text.Symbols
import MarkupPad.Text.Utf8
import MarkupPad.Token
import MarkupPad.Url.Basic
import MarkupPad.Url.Host
import MarkupPad.Url.Label.Basic
import MarkupPad.Url.Label.Character
import MarkupPad.Url.Label.Composition
import MarkupPad.Url.Label.Direction
import MarkupPad.Url.Label.Joining
import MarkupPad.Url.Label.Mark
import MarkupPad.Url.Percent
import MarkupPad.Url.Punycode
import MarkupPad.Url.Reader
import MarkupPad.Vocabulary
import MarkupPad.Word
