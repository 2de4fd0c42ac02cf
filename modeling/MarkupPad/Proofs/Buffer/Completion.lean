import MarkupPad.Buffer.Completion
import MarkupPad.Proofs.Buffer.Shorthand
import MarkupPad.Proofs.Buffer.Token

/-!
# Completions of a buffer are those of its text

What Enter expands, what is offered and what an accepted suggestion leaves are the same by
offsets as on characters.  Suggestions and triggers are found at any offset; an expansion
fails where the caret is no boundary.

    trigger? t caret = some (Trigger.at? t caret)                   (trigger?_eq)
    expand? t caret trigger = trigger.expand? t caret               (expand?_eq)
    offer? before limit = some (Suggestion.offer before limit)      (offer?_eq)
    accept? s t caret = some (s.accept t caret)                     (accept?_eq)
-/

namespace MarkupPad.Buffer

open Text

/-! ## Expansions of Enter -/

theorem standsBetweenTags?_append (a b : Text) :
    standsBetweenTags? (a ++ b) (size a) = some (Trigger.standsBetweenTags (a ++ b) (size a)) := by
  rw [standsBetweenTags?, Trigger.standsBetweenTags, splitAt?_append]
  rcases List.eq_nil_or_concat a with rfl | ⟨h, c, rfl⟩
  · rfl
  · have hnext := holdsAt_utf8_append (p := (· = '<')) (asciiClass_eq (by decide)) (h.concat c) b
    obtain ⟨n, x, hn, hx, hin⟩ :=
      getElem?_utf8_pred (p := (· = '>')) (asciiClass_eq (by decide)) h c b
    rw [List.concat_eq_append] at hnext ⊢
    have hlast : holdsAt (utf8 (h ++ [c] ++ b)) (· = '>') n = decide (c = '>') := by
      rw [holdsAt, hx, Option.any_some, hin]
    have hpred : minus? (n + 1) 1 = some n := by simp [minus?]
    rw [hn] at hnext ⊢
    simp only [Nat.add_one_ne_zero, if_false, hpred, Option.bind_eq_bind, Option.bind_some, hlast, hnext,
      List.getLast?_concat, Option.some.injEq]
    cases b with
    | nil => simp
    | cons d b => simp

/-- **What Enter expands is found at any offset.** -/
theorem trigger?_eq (t : Text) (caret : Nat) : trigger? t caret = some (Trigger.at? t caret) := by
  rw [trigger?, Trigger.at?]
  cases h : t.before? caret with
  | none => rfl
  | some before =>
    obtain ⟨after, rfl, rfl⟩ := before?_eq_some_iff.1 h
    by_cases hb : Trigger.endsBoilerplate before
    · simp [hb]
    · by_cases hc : Trigger.endsComment before
      · simp [hb, hc]
      · simp only [hb, hc, Bool.false_eq_true, if_false, shorthand?_eq, Option.bind_eq_bind,
          Option.bind_some]
        cases Shorthand.token? before with
        | some token => rfl
        | none => simp [standsBetweenTags?_append]

theorem betweenTags?_eq (t : Text) (caret : Nat) :
    betweenTags? t caret = Completion.betweenTags? t caret := by
  rw [betweenTags?, Completion.betweenTags?, lineStart?]
  cases h : t.before? caret with
  | none => rfl
  | some before =>
    obtain ⟨after, rfl, rfl⟩ := before?_eq_some_iff.1 h
    have hslice : (before ++ after).slice? (size (splitTrailing (· != '\n') before).1)
        (size before) = some (splitTrailing (· != '\n') before).2 := by
      have := slice?_append (splitTrailing (· != '\n') before).1
        (splitTrailing (· != '\n') before).2 after
      rwa [splitTrailing_append] at this
    have hmark : '\n'.toNat < 128 := by decide
    simp only [Option.bind_eq_bind, Option.bind_some, Option.pure_def, afterLast_eq hmark, hslice,
      Completion.indent]
    generalize (splitTrailing (· != '\n') before).2 = line
    have hline := List.takeWhile_append_dropWhile (p := isBlank) (l := line)
    have hsize : size line = size (line.takeWhile isBlank) + size (line.dropWhile isBlank) := by
      rw [← size_append, hline]
    have hminus : minus? (size line) (size (line.dropWhile isBlank)) =
        some (size (line.takeWhile isBlank)) := by
      rw [minus?, if_pos (by omega)]
      congr 1
      omega
    have hindent : line.before? (size (line.takeWhile isBlank)) = some (line.takeWhile isBlank) :=
      before?_eq_some_iff.2 ⟨_, hline.symm, rfl⟩
    simp only [hminus, Option.bind_some, hindent]

theorem expand?_eq (t : Text) (caret : Nat) (trigger : Trigger) :
    expand? t caret trigger = trigger.expand? t caret := by
  cases trigger with
  | boilerplate => rfl
  | comment => rfl
  | shorthand token =>
    rw [expand?, ofToken?_eq]
    rfl
  | betweenTags => exact betweenTags?_eq t caret

/-! ## Suggestions -/

/-- **Suggestions are found without a wrong cut, in any text.** -/
theorem offer?_eq (before : Text) (limit : Nat) :
    offer? before limit = some (Suggestion.offer before limit) := by
  rw [offer?, context?_eq, Suggestion.offer]
  cases Context.ofText? before with
  | none => rfl
  | some context => rfl

/-- The run before the caret gives way to an insertion. -/
theorem replaceToken?_trailing (p : Char → Bool) (before after insertion : Text) (inside : Nat) :
    replaceToken? (before ++ after) (Token.trailing p before) (size before) (insertion, inside) =
      some ⟨(splitTrailing p before).1 ++ insertion ++ after,
        size (splitTrailing p before).1 + inside⟩ := by
  have hb := splitTrailing_append p before
  have h := Completion.splice?_append (splitTrailing p before).1 (splitTrailing p before).2 after
    insertion inside
  rw [hb] at h
  exact h

theorem accept?_eq (s : Suggestion) (t : Text) (caret : Nat) :
    accept? s t caret = some (s.accept t caret) := by
  rw [accept?, Suggestion.accept, before?]
  cases h : t.splitAt? caret with
  | none => rfl
  | some parts =>
    obtain ⟨before, after⟩ := parts
    obtain ⟨rfl, rfl⟩ := splitAt?_eq_some_iff.1 h
    simp only [Option.map_some, Suggestion.replacement?]
    cases s.kind with
    | tag =>
      simp only [tag?_eq, Context.tag?, Token.afterAngle?, Option.bind_eq_bind, Option.bind_some]
      by_cases hl : (splitTrailing Char.isAlphanum before).1.getLast? = some '<'
      · simp only [hl, if_true, Option.map_some]
        exact replaceToken?_trailing _ _ _ _ _
      · simp [hl]
    | element =>
      simp only [trailing?_eq asciiClass_isAlphanum, Option.bind_eq_bind, Option.bind_some]
      by_cases hw : (splitTrailing Char.isAlphanum before).2 = []
      · simp [Token.trailing, hw]
      · have hne : (Token.trailing Char.isAlphanum before).text ≠ [] := hw
        simp only [hne, hw, if_false]
        exact replaceToken?_trailing _ _ _ _ _
    | _ =>
      simp only [trailing?_eq asciiClass_isAttributeChar, Option.bind_eq_bind, Option.bind_some]
      exact replaceToken?_trailing _ _ _ _ _

end MarkupPad.Buffer
