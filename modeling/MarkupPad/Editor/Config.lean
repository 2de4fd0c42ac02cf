import MarkupPad.Suggestion.Popup
import MarkupPad.History

/-!
# What can be configured about an editor
-/

namespace MarkupPad

/-- The knobs of an editor. -/
structure Config where
  /-- Does a `>` that ends an opening tag bring the closing tag along? -/
  autoClose : Bool
  /-- Are suggestions shown while typing? -/
  predictions : Bool
  /-- How many snapshots the history keeps. -/
  historyCapacity : Nat
  /-- How long typing must rest until it is committed, in milliseconds. -/
  commitDelay : Nat
  /-- How many suggestions are offered at most. -/
  maxSuggestions : Nat
  popup : PopupMetrics

namespace Config

/-- The configuration when nothing is set. -/
def default : Config where
  autoClose := true
  predictions := true
  historyCapacity := History.defaultCapacity
  commitDelay := 1000
  maxSuggestions := 15
  popup := .default

end Config

end MarkupPad
