import MarkupPad.Proofs.Script.Line

/-!
# Scripts one below the other

A script with another one below it stands for the inputs of both, in order.  The lower script
begins as many lines further down as the upper one has, so its errors are reported that much
further down; an error of the upper one is met first.  A script that stands for nothing is an
error only as long as there is nothing above or below it.

    ofLines (n + count) lines = (ofLines n lines).mapError (·.lowered count)       (ofLines_add)
    ofText (a ++ '\n' :: b) = stacked (a.count '\n' + 1) (ofText a) (ofText b)
                                                                             (scripts_compose)
-/

namespace MarkupPad

/-- The error in a script that begins so many lines further down. -/
def ScriptError.lowered (count : Nat) : ScriptError → ScriptError
  | line number error => line (number + count) error
  | empty => empty

namespace Script

open Text

/-- What two scripts stand for, one below the other, when the upper one has so many lines. -/
def stacked (count : Nat) :
    (upper lower : Except ScriptError (List Input)) → Except ScriptError (List Input)
  | .error (.line number error), _ => .error (.line number error)
  | _, .error (.line number error) => .error (.line (number + count) error)
  | .ok inputs, .ok more => .ok (inputs ++ more)
  | .ok inputs, .error .empty => .ok inputs
  | .error .empty, .ok more => .ok more
  | .error .empty, .error .empty => .error .empty

/-! ## The first line that cannot be read -/

/-- The first line that cannot be read is the one of this number, counted from `start`. -/
def IsFirstUnreadable (start number : Nat) (error : LineError) (lines : List Text) : Prop :=
  ∃ before line after, lines = before ++ line :: after ∧ number = start + before.length ∧
    (∀ l ∈ before, ∃ inputs, ofLine l = .ok inputs) ∧ ofLine line = .error error

variable {n number : Nat} {lines : List Text} {error : LineError}

/-- All lines can be read, or the first that cannot is reported. -/
theorem ofLines_cases (n : Nat) (lines : List Text) :
    (∃ inputs, ofLines n lines = .ok inputs) ∨
      ∃ number error, ofLines n lines = .error (.line number error) ∧
        IsFirstUnreadable n number error lines := by
  induction lines generalizing n with
  | nil => exact .inl ⟨[], rfl⟩
  | cons line lines ih =>
    cases hline : ofLine line with
    | error error =>
      refine .inr ⟨n, error, ?_, [], line, lines, rfl, rfl, List.forall_mem_nil _, hline⟩
      rw [ofLines, hline]
    | ok inputs =>
      rcases ih (n + 1) with ⟨rest, hrest⟩ | ⟨number, error, herror, hfirst⟩
      · refine .inl ⟨inputs ++ rest, ?_⟩
        rw [ofLines, hline, hrest]
        rfl
      · obtain ⟨before, line', after, rfl, rfl, hbefore, hline'⟩ := hfirst
        refine .inr ⟨n + (line :: before).length, error, ?_, line :: before, line', after, rfl, rfl,
          List.forall_mem_cons.2 ⟨⟨inputs, hline⟩, hbefore⟩, hline'⟩
        have hnumber : n + (line :: before).length = n + 1 + before.length := by
          rw [List.length_cons]
          omega
        rw [ofLines, hline, herror, hnumber]
        rfl

/-- **The first line that cannot be read is reported, and no other.** -/
theorem ofLines_eq_error_iff :
    ofLines n lines = .error (.line number error) ↔ IsFirstUnreadable n number error lines := by
  constructor
  · intro h
    rcases ofLines_cases n lines with ⟨inputs, hok⟩ | ⟨number', error', herror, hfirst⟩
    · cases h.symm.trans hok
    · cases h.symm.trans herror
      exact hfirst
  · rintro ⟨before, line, after, rfl, rfl, hbefore, hline⟩
    obtain ⟨inputs, hinputs⟩ := exists_ofLines n hbefore
    rw [ofLines_append, hinputs, ofLines, hline]
    rfl

/-- Lines alone are never an empty script. -/
theorem ofLines_ne_empty (n : Nat) (lines : List Text) : ofLines n lines ≠ .error .empty := by
  intro h
  rcases ofLines_cases n lines with ⟨inputs, hok⟩ | ⟨number, error, herror, -⟩
  · cases h.symm.trans hok
  · cases h.symm.trans herror

/-! ## Lines further down -/

/-- **The number of the first line only counts in errors.** -/
theorem ofLines_add (n count : Nat) (lines : List Text) :
    ofLines (n + count) lines = (ofLines n lines).mapError (·.lowered count) := by
  induction lines generalizing n with
  | nil => rfl
  | cons line lines ih =>
    have hnext : n + count + 1 = n + 1 + count := by omega
    rw [ofLines, ofLines, hnext, ih]
    cases ofLine line with
    | error error => rfl
    | ok inputs => cases ofLines (n + 1) lines <;> rfl

/-- The lines of a script below another one are further down by the lines of that one. -/
theorem ofLines_below (a b : Text) :
    ofLines 1 ((a ++ '\n' :: b).splitBy (· = '\n')) = do
      return (← ofLines 1 (a.splitBy (· = '\n'))) ++
        (← (ofLines 1 (b.splitBy (· = '\n'))).mapError (·.lowered (a.count '\n' + 1))) := by
  have hlength : (a.splitBy (· = '\n')).length = a.count '\n' + 1 := length_splitBy _ a
  rw [splitBy_append_cons (by decide), ofLines_append, hlength, ofLines_add]

/-! ## Whole scripts -/

/-- A script is an error of a line just when its lines are. -/
theorem ofText_eq_line_iff {t : Text} :
    ofText t = .error (.line number error) ↔
      ofLines 1 (Text.lines t) = .error (.line number error) := by
  rw [ofText]
  cases ofLines 1 (Text.lines t) with
  | error error => rfl
  | ok inputs => cases inputs <;> simp

/-- **Scripts compose line by line.**  Two scripts one below the other, with a newline between them,
stand for the inputs of both, of one if the other stands for nothing, and for nothing if both do.
An error of the upper one is reported as it is, and else an error of the lower one as many lines
further down as there are newlines above it.  So an error always names the first line that cannot
be read, whatever stands in the lines above it. -/
theorem scripts_compose (a b : Text) :
    ofText (a ++ '\n' :: b) = stacked (a.count '\n' + 1) (ofText a) (ofText b) ∧
      ∀ t number error, ofText t = .error (.line number error) ↔
        IsFirstUnreadable 1 number error (Text.lines t) := by
  refine ⟨?_, fun t number error => ofText_eq_line_iff.trans ofLines_eq_error_iff⟩
  have hupper := ofLines_ne_empty 1 (a.splitBy (· = '\n'))
  have hlower := ofLines_ne_empty 1 (b.splitBy (· = '\n'))
  rw [ofText, ofText, ofText, ofLines_lines, ofLines_lines, ofLines_lines, ofLines_below]
  cases hupper' : ofLines 1 (a.splitBy (· = '\n')) with
  | error error =>
    cases error with
    | line number error => rfl
    | empty => exact absurd hupper' hupper
  | ok inputs =>
    cases hlower' : ofLines 1 (b.splitBy (· = '\n')) with
    | error error =>
      cases error with
      | line number error => cases inputs <;> rfl
      | empty => exact absurd hlower' hlower
    | ok more =>
      cases inputs with
      | nil => cases more <;> rfl
      | cons input inputs =>
        cases more with
        | nil => exact congrArg Except.ok (List.append_nil _)
        | cons => rfl

/-- Comments and blank lines count, and what stands below the error does not. -/
example : ofText "Enter\n# down\n\nPageDown\nx".toList =
    .error (.line 4 (.key "PageDown".toList)) := by rfl

end Script

end MarkupPad
