import MarkupPad.Proofs.Text.Split
import MarkupPad.Proofs.Text.Trim
import MarkupPad.Script

/-!
# Scripts line by line

A script is read piece by piece between its newlines: a carriage return before a newline is a blank
of its line, and an empty piece stands for nothing.  Lines that can be read stand for their inputs
in order, and the first line that cannot be read is the one that is reported.

    ofLines n (a ++ b) = do
      return (← ofLines n a) ++ (← ofLines (n + a.length) b)               (ofLines_append)
    ofLines n (lines t) = ofLines n (t.splitBy (· = '\n'))                   (ofLines_lines)
    ofText (t ++ ['\n']) = ofText t                                     (ofText_concat_newline)
-/

namespace MarkupPad.Script

open Text

/-- The text with one character on each line. -/
def characterLines (chars : List Char) : Text := join ['\n'] (chars.map fun c => [c])

/-! ## Lines one after the other -/

/-- **Lines are read on from where other lines end.** -/
theorem ofLines_append (n : Nat) (a b : List Text) :
    ofLines n (a ++ b) = do return (← ofLines n a) ++ (← ofLines (n + a.length) b) := by
  induction a generalizing n with
  | nil =>
    show ofLines n b = do return [] ++ (← ofLines n b)
    cases ofLines n b <;> rfl
  | cons line a ih =>
    have hlen : n + (line :: a).length = n + 1 + a.length := by
      rw [List.length_cons]
      omega
    rw [List.cons_append, ofLines, ofLines, ih, hlen]
    cases ofLine line with
    | error error => rfl
    | ok inputs =>
      cases ofLines (n + 1) a with
      | error error => rfl
      | ok rest =>
        cases ofLines (n + 1 + a.length) b with
        | error error => rfl
        | ok more => exact congrArg Except.ok (List.append_assoc _ _ _).symm

/-- An empty line at the end stands for nothing. -/
theorem ofLines_concat_nil (n : Nat) (a : List Text) : ofLines n (a ++ [[]]) = ofLines n a := by
  have hnil (m : Nat) : ofLines m [[]] = .ok [] := rfl
  rw [ofLines_append, hnil]
  cases ofLines n a with
  | error error => rfl
  | ok inputs => exact congrArg Except.ok (List.append_nil inputs)

theorem ofLine_dropCarriageReturn (line : Text) :
    ofLine (dropCarriageReturn line) = ofLine line := by
  rw [ofLine, ofLine, trim_dropCarriageReturn]

theorem ofLines_map_dropCarriageReturn (n : Nat) (a : List Text) :
    ofLines n (a.map dropCarriageReturn) = ofLines n a := by
  induction a generalizing n with
  | nil => rfl
  | cons line a ih => rw [List.map_cons, ofLines, ofLines, ofLine_dropCarriageReturn, ih]

/-- **The lines of a script are the pieces between its newlines.** -/
theorem ofLines_lines (n : Nat) (t : Text) :
    ofLines n (lines t) = ofLines n (t.splitBy (· = '\n')) := by
  rw [lines]
  rcases List.eq_nil_or_concat (t.splitBy (· = '\n')) with hnil | ⟨init, last, hpieces⟩
  · rw [hnil]
    rfl
  · rw [hpieces, List.concat_eq_append]
    simp only [List.dropLast_concat, List.getLast?_concat]
    cases last with
    | nil => rw [ofLines_concat_nil, ofLines_map_dropCarriageReturn]
    | cons c last =>
      simp only [ofLines_append, ofLines_map_dropCarriageReturn, List.length_map]

/-! ## Whole scripts -/

section
variable {t : Text} {inputs : List Input}

theorem ofText_of_ok (h : ofLines 1 (t.splitBy (· = '\n')) = .ok inputs) (hne : inputs ≠ []) :
    ofText t = .ok inputs := by
  rw [ofText, ofLines_lines, h]
  cases inputs with
  | nil => exact absurd rfl hne
  | cons input inputs => rfl

theorem ofText_of_error {error : ScriptError}
    (h : ofLines 1 (t.splitBy (· = '\n')) = .error error) : ofText t = .error error := by
  rw [ofText, ofLines_lines, h]

/-- A newline at the end of a script changes nothing. -/
theorem ofText_concat_newline (t : Text) : ofText (t ++ ['\n']) = ofText t := by
  have hsplit : (t ++ ['\n']).splitBy (· = '\n') = t.splitBy (· = '\n') ++ [[]] :=
    splitBy_append_cons (by decide) t []
  rw [ofText, ofText, ofLines_lines, ofLines_lines, hsplit, ofLines_concat_nil]

/-- A script of one line. -/
theorem ofText_of_line (hline : '\n' ∉ t) (h : ofLine t = .ok inputs) (hne : inputs ≠ []) :
    ofText t = .ok inputs := by
  have hsplit : t.splitBy (· = '\n') = [t] :=
    splitBy_of_not fun c hc => decide_eq_false fun heq => hline (heq ▸ hc)
  refine ofText_of_ok ?_ hne
  rw [hsplit, ofLines, h]
  exact congrArg Except.ok (List.append_nil inputs)

end

theorem exists_ofLines {lines : List Text} (n : Nat)
    (h : ∀ line ∈ lines, ∃ inputs, ofLine line = .ok inputs) :
    ∃ inputs, ofLines n lines = .ok inputs := by
  induction lines generalizing n with
  | nil => exact ⟨[], rfl⟩
  | cons line lines ih =>
    obtain ⟨⟨inputs, hline⟩, hlines⟩ := List.forall_mem_cons.1 h
    obtain ⟨rest, hrest⟩ := ih (n + 1) hlines
    refine ⟨inputs ++ rest, ?_⟩
    rw [ofLines, hline, hrest]
    rfl

/-- **The first line that cannot be read is reported with its number.** -/
theorem ofText_join_of_error {before after : List Text} {line : Text} {error : LineError}
    (hlines : ∀ l ∈ before ++ line :: after, '\n' ∉ l)
    (hbefore : ∀ l ∈ before, ∃ inputs, ofLine l = .ok inputs) (h : ofLine line = .error error) :
    ofText (join ['\n'] (before ++ line :: after)) =
      .error (.line (before.length + 1) error) := by
  have hsplit : (join ['\n'] (before ++ line :: after)).splitBy (· = '\n') =
      before ++ line :: after := splitBy_join_eq_iff.2 ⟨by simp, hlines⟩
  obtain ⟨inputs, hinputs⟩ := exists_ofLines 1 hbefore
  refine ofText_of_error ?_
  rw [hsplit, ofLines_append, hinputs, ofLines, h, Nat.add_comm]
  rfl

/-! ## Single characters -/

/-- A character is typed, unless it begins a comment or a command. -/
theorem ofLine_singleton {c : Char} (hblank : isBlank c = false) (hcomment : c ≠ '#')
    (hcommand : c ≠ ':') : ofLine [c] = .ok [plain (.char c)] := by
  have htrim : trim [c] = [c] := trim_of_not_isBlank (List.forall_mem_singleton.2 hblank)
  rw [ofLine, htrim]
  unfold ofTrimmedLine
  split
  · next h => cases h
  · next h => exact absurd (List.cons.inj h).1 hcomment
  · next h => exact absurd (List.cons.inj h).1 hcommand
  · next h => cases h; rfl
  · next h => exact absurd rfl (h c)

/-- A colon alone is a command without words. -/
theorem ofLine_colon : ofLine [':'] = .error (.command .empty) := rfl

theorem ofLines_singletons {chars : List Char} (n : Nat)
    (h : ∀ c ∈ chars, isBlank c = false ∧ c ≠ '#' ∧ c ≠ ':') :
    ofLines n (chars.map fun c => [c]) = .ok (chars.map fun c => plain (.char c)) := by
  induction chars generalizing n with
  | nil => rfl
  | cons c chars ih =>
    obtain ⟨⟨hblank, hcomment, hcommand⟩, hrest⟩ := List.forall_mem_cons.1 h
    rw [List.map_cons, ofLines, ofLine_singleton hblank hcomment hcommand, ih (n + 1) hrest]
    rfl

/-- Lines up to the first one that is a colon alone. -/
theorem ofLines_singletons_colon {before : List Char} (n : Nat)
    (h : ∀ c ∈ before, isBlank c = false ∧ c ≠ '#' ∧ c ≠ ':') (after : List Char) :
    ofLines n ((before ++ ':' :: after).map fun c => [c]) =
      .error (.line (n + before.length) (.command .empty)) := by
  rw [List.map_append, ofLines_append, ofLines_singletons n h, List.length_map, List.map_cons,
    ofLines, ofLine_colon]
  rfl

theorem splitBy_characterLines {chars : List Char} (hne : chars ≠ [])
    (h : ∀ c ∈ chars, isBlank c = false) :
    (characterLines chars).splitBy (· = '\n') = chars.map fun c => [c] := by
  refine splitBy_join_eq_iff.2 ⟨by simpa using hne, ?_⟩
  intro line hline hmem
  obtain ⟨c, hc, rfl⟩ := List.mem_map.1 hline
  obtain rfl := List.mem_singleton.1 hmem
  cases h '\n' hc

/-- **A line of one character is typed, unless it is a colon.**  A script with one character on each
line, none of them blank and none of them `#`, stands for just these characters exactly when none
of them is a colon; else the first colon is reported as a command without words. -/
theorem single_characters_are_typed_iff {chars : List Char} (hne : chars ≠ [])
    (hchars : ∀ c ∈ chars, isBlank c = false ∧ c ≠ '#') {t : Text}
    (ht : t = characterLines chars ∨ t = characterLines chars ++ ['\n']) :
    (ofText t = .ok (chars.map fun c => plain (.char c)) ↔ ':' ∉ chars) ∧
      (':' ∈ chars → ofText t = .error (.line (chars.idxOf ':' + 1) (.command .empty))) := by
  have hsplit := splitBy_characterLines hne fun c hc => (hchars c hc).1
  have hlast : ofText t = ofText (characterLines chars) := by
    rcases ht with rfl | rfl
    · rfl
    · exact ofText_concat_newline _
  rw [hlast]
  by_cases hcolon : ':' ∈ chars
  · obtain ⟨before, after, rfl, hbefore⟩ := List.eq_append_cons_of_mem hcolon
    have hfirst : (before ++ ':' :: after).idxOf ':' = before.length := by
      rw [List.idxOf_append, if_neg hbefore, List.idxOf_cons_self, Nat.zero_add]
    have hread : ∀ c ∈ before, isBlank c = false ∧ c ≠ '#' ∧ c ≠ ':' := by
      intro c hc
      obtain ⟨hblank, hcomment⟩ := hchars c (List.mem_append_left _ hc)
      exact ⟨hblank, hcomment, fun heq => hbefore (heq ▸ hc)⟩
    have herror := ofLines_singletons_colon 1 hread after
    rw [← hsplit, Nat.add_comm, ← hfirst] at herror
    have htext := ofText_of_error herror
    refine ⟨⟨fun h => ?_, fun h => absurd hcolon h⟩, fun _ => htext⟩
    rw [htext] at h
    cases h
  · have hread : ∀ c ∈ chars, isBlank c = false ∧ c ≠ '#' ∧ c ≠ ':' := by
      intro c hc
      exact ⟨(hchars c hc).1, (hchars c hc).2, fun heq => hcolon (heq ▸ hc)⟩
    have hok := ofLines_singletons 1 hread
    rw [← hsplit] at hok
    have htext := ofText_of_ok hok (by simpa using hne)
    exact ⟨⟨fun _ => hcolon, fun _ => htext⟩, fun h => absurd h hcolon⟩

/-- A quote, a plus and a backslash are typed like any other character. -/
theorem single_characters_are_typed_with_marks :
    (∀ c ∈ ['"', '+', '\\'], isBlank c = false ∧ c ≠ '#') ∧
      "\"\n+\n\\\n".toList = characterLines ['"', '+', '\\'] ++ ['\n'] ∧
      ofText "\"\n+\n\\\n".toList =
        .ok [plain (.char '"'), plain (.char '+'), plain (.char '\\')] := by
  have hchars : ∀ c ∈ ['"', '+', '\\'], isBlank c = false ∧ c ≠ '#' := by
    simp only [List.forall_mem_cons, List.not_mem_nil, false_imp_iff, implies_true]
    decide
  have ht : "\"\n+\n\\\n".toList = characterLines ['"', '+', '\\'] ++ ['\n'] := rfl
  obtain ⟨htyped, -⟩ := single_characters_are_typed_iff (by decide) hchars (Or.inr ht)
  exact ⟨hchars, ht, htyped.2 (by decide)⟩

/-- A colon alone on its line is read as a command. -/
theorem not_all_single_characters_are_typed :
    ¬ ∀ chars : List Char, chars ≠ [] → (∀ c ∈ chars, isBlank c = false ∧ c ≠ '#') →
      ofText (characterLines chars) = .ok (chars.map fun c => plain (.char c)) := by
  intro hall
  have h := hall [':'] (List.cons_ne_nil _ _) (List.forall_mem_singleton.2 (by decide))
  have hcolon : ofText (characterLines [':']) = .error (.line 1 (.command .empty)) := rfl
  rw [hcolon] at h
  cases h

end MarkupPad.Script
