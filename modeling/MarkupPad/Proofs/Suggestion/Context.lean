import MarkupPad.Proofs.Suggestion.Insertion
import MarkupPad.Proofs.Text.Case

/-!
# Suggestions, fresh and stale

Each kind of suggestion is offered where its detector finds a token before the caret.  Accepted
there, a suggestion replaces that very token.  The caret may have gone elsewhere by then.  A tag
is accepted only where it would be offered; but an element replaces any run of letters and
digits, and an attribute goes in everywhere.

    detect? kind before = some context → kind.Replaces head run             (replaces_of_detect?)
    accept? s (before ++ after) (size before) = some ⟨before ++ after, size before⟩ ↔
      ¬ s.kind.Replaces head run ∨ s.Inserts run []                         (accept?_eq_self_iff)
-/

namespace MarkupPad

open Text

/-! ## Detectors -/

namespace Context

/-- The detector of a kind of suggestions. -/
def detect? : SuggestionKind → Text → Option Context
  | .attribute => attribute?
  | .tag => tag?
  | .element => element?

variable {before head run : Text} {kind : SuggestionKind} {context : Context}

theorem element?_eq_some_iff :
    element? before = some context ↔
      ((splitTrailing Char.isAlphanum before).2 ≠ [] ∧
        Token.wordMayFollow (splitTrailing Char.isAlphanum before).1) ∧
      context = ⟨.element, Token.trailing Char.isAlphanum before⟩ := by
  simp only [element?, Option.ite_none_right_eq_some, Option.some.injEq, eq_comm (b := context)]

/-- A detector finds the run before the caret. -/
theorem eq_of_detect? (h : detect? kind before = some context) :
    context = ⟨kind, Token.trailing kind.tokenChar before⟩ := by
  cases kind with
  | tag =>
    obtain ⟨token, htoken, rfl⟩ := Option.map_eq_some_iff.1 h
    simp only [Token.afterAngle?, Option.ite_none_right_eq_some, Option.some.injEq] at htoken
    rw [← htoken.2]
    rfl
  | element => exact (element?_eq_some_iff.1 h).2
  | _ =>
    obtain ⟨-, -, rfl⟩ := Option.map_eq_some_iff.1 h
    rfl

/-- **Where a detector finds a token, an accepted suggestion has something to replace.** -/
theorem replaces_of_detect? (h : detect? kind before = some context)
    (hb : splitTrailing kind.tokenChar before = (head, run)) : kind.Replaces head run := by
  cases kind with
  | tag =>
    obtain ⟨token, htoken, -⟩ := Option.map_eq_some_iff.1 h
    simp only [SuggestionKind.tokenChar] at hb
    simp only [Token.afterAngle?, hb, Option.ite_none_right_eq_some] at htoken
    exact htoken.1
  | element =>
    have hword := (element?_eq_some_iff.1 h).1.1
    simp only [SuggestionKind.tokenChar] at hb
    rwa [hb] at hword
  | _ => exact trivial

/-- What a detector finds is the run before the caret, which an accepted suggestion replaces. -/
theorem exists_of_detect? (h : detect? kind before = some context) :
    ∃ head run, splitTrailing kind.tokenChar before = (head, run) ∧
      context = ⟨kind, ⟨size head, run⟩⟩ ∧ kind.Replaces head run :=
  ⟨_, _, rfl, eq_of_detect? h, replaces_of_detect? h rfl⟩

/-- For a tag it is the other way round as well. -/
theorem not_replaces_of_detect?_tag (h : detect? .tag before = none)
    (hb : splitTrailing Char.isAlphanum before = (head, run)) :
    ¬ SuggestionKind.tag.Replaces head run := by
  intro hangle
  have hangle' : head.getLast? = some '<' := hangle
  simp [detect?, tag?, Token.afterAngle?, hb, hangle'] at h

/-- What is being typed is what the detector of its kind finds. -/
theorem detect?_of_ofText? (h : ofText? before = some context) :
    detect? context.kind before = some context := by
  have hkind (kind : SuggestionKind) (h : detect? kind before = some context) :
      detect? context.kind before = some context := by
    rwa [show context.kind = kind by rw [eq_of_detect? h]]
  unfold ofText? at h
  cases ha : attribute? before with
  | some found => exact hkind .attribute (ha.trans (by simpa [ha] using h))
  | none =>
    cases ht : tag? before with
    | some found => exact hkind .tag (ht.trans (by simpa [ha, ht] using h))
    | none => exact hkind .element (by simpa [detect?, ha, ht] using h)

end Context

namespace Suggestion

variable {s : Suggestion} {before : Text} {limit : Nat}

/-- What is offered is a word of the vocabulary that begins with what is being typed. -/
theorem exists_context_of_mem_offer (h : s ∈ offer before limit) :
    ∃ context, Context.ofText? before = some context ∧ s.kind = context.kind ∧
      s.value ∈ vocabulary s.kind ∧ asciiLower context.token.text <+: asciiLower s.value := by
  unfold offer at h
  split at h
  · cases h
  · next context hcontext =>
    obtain ⟨word, hword, rfl⟩ := List.mem_map.1 h
    obtain ⟨hmem, hprefix⟩ := List.mem_filter.1 (List.mem_of_mem_take hword)
    exact ⟨context, hcontext, rfl, hmem, isSome_dropName?_iff.1 hprefix⟩

end Suggestion

namespace Buffer

open Suggestion

/-- The detector of a kind of suggestions, by offsets. -/
def detect? : SuggestionKind → Text → Option (Option Context)
  | .attribute => attribute?
  | .tag => tag?
  | .element => element?

theorem detect?_eq (kind : SuggestionKind) (before : Text) :
    detect? kind before = some (Context.detect? kind before) := by
  cases kind with
  | tag => exact tag?_eq before
  | element => exact element?_eq before
  | _ => exact attribute?_eq before

/-! ## Fresh suggestions -/

/-- **A suggestion that is offered replaces the token that it was offered for.**  The token ends
at the caret and begins the word, but for ASCII case; what the word brings along goes in for it,
with the caret between the two parts, and nothing else changes. -/
theorem fresh_suggestion_replaces_token (before after : Text) (limit : Nat) :
    ∃ offered, offer? before limit = some offered ∧ ∀ s ∈ offered, ∃ context head left right,
      context? before = some (some context) ∧ context.kind = s.kind ∧
      before = head ++ context.token.text ∧ context.token.start = size head ∧
      context.token.stop = size before ∧
      asciiLower context.token.text <+: asciiLower s.value ∧
      s.Inserts left right ∧
      accept? s (before ++ after) (size before) =
        some ⟨head ++ (left ++ right) ++ after, size (head ++ left)⟩ := by
  refine ⟨_, offer?_eq before limit, fun s hs => ?_⟩
  obtain ⟨context, hcontext, hkind, -, hprefix⟩ := exists_context_of_mem_offer hs
  obtain ⟨left, right, hinserts⟩ := exists_inserts s
  have hdetect := Context.detect?_of_ofText? hcontext
  rw [← hkind] at hdetect
  obtain ⟨head, run, hb, rfl, hreplaces⟩ := Context.exists_of_detect? hdetect
  have hcut := eq_append_of_splitTrailing _ hb
  refine ⟨_, head, left, right, ?_, rfl, hcut, rfl, ?_, hprefix, hinserts, ?_⟩
  · rw [context?_eq, hcontext]
  · rw [hcut, Token.stop, size_append]
  · exact accept?_of_replaces after hb hreplaces hinserts

/-- The attributes `aria-…` are offered for `Ar`, and their front goes in for it. -/
theorem fresh_suggestion_replaces_token_of_family :
    let s : Suggestion := ⟨"aria-*".toList, .attribute⟩
    s ∈ offer "<p Ar".toList 15 ∧
      ∃ context, context? "<p Ar".toList = some (some context) ∧ context.token.stop = 5 ∧
        asciiLower context.token.text <+: asciiLower s.value := by
  intro s
  have hs : s ∈ offer "<p Ar".toList 15 := by decide
  obtain ⟨offered, hoffered, h⟩ := fresh_suggestion_replaces_token "<p Ar".toList ">".toList 15
  rw [offer?_eq, Option.some.injEq] at hoffered
  obtain ⟨context, -, -, -, hcontext, -, -, -, hstop, hprefix, -⟩ := h s (hoffered ▸ hs)
  exact ⟨hs, context, hcontext, hstop, hprefix⟩

/-! ## Stale suggestions -/

/-- A suggestion is stale at an offset where its detector finds no token. -/
def IsStale (s : Suggestion) (t : Text) (caret : Nat) : Prop :=
  ∀ before, t.before? caret = some before → detect? s.kind before = some none

variable {s : Suggestion} {before head run : Text}

/-- **An accepted suggestion changes nothing** just where there is nothing to replace, or where
the run before the caret is all that it inserts. -/
theorem accept?_eq_self_iff (after : Text)
    (hb : splitTrailing s.kind.tokenChar before = (head, run)) :
    accept? s (before ++ after) (size before) = some ⟨before ++ after, size before⟩ ↔
      ¬ s.kind.Replaces head run ∨ s.Inserts run [] := by
  by_cases hr : s.kind.Replaces head run
  · obtain ⟨left, right, hs⟩ := exists_inserts s
    have hself : s.Inserts run [] ↔ left ++ right = run ∧ size left = size run := by
      simp [inserts_iff, hs.insertion_eq]
    rw [accept?_of_replaces after hb hr hs, eq_append_of_splitTrailing _ hb, hself]
    simp only [Option.some.injEq, Completion.mk.injEq, List.append_cancel_right_eq,
      List.append_cancel_left_eq, size_append, Nat.add_left_cancel_iff, hr, not_true_eq_false,
      false_or]
  · simp [accept?_of_not_replaces after hb hr, hr]

/-- An element is no run of letters and digits. -/
theorem not_inserts_element {name : Text} (h : ∀ c ∈ run, c.isAlphanum) :
    ¬ Inserts ⟨name, .element⟩ run [] := by
  intro hs
  cases hs with
  | voidElement hvoid => exact absurd (h '<' List.mem_cons_self) (by decide)

/-- **A stale suggestion changes nothing if it is for a tag.**  For an element it changes nothing
just where no letter or digit stands before the caret; and for an attribute, just where the run
before the caret is all that the attribute inserts. -/
theorem stale_suggestion_changes_nothing_iff {t : Text} {caret : Nat} (h : IsStale s t caret) :
    accept? s t caret = some ⟨t, caret⟩ ↔
      ∀ before, t.before? caret = some before →
        (s.kind = .element → ∀ c ∈ before.getLast?, ¬ c.isAlphanum) ∧
        (s.kind = .attribute → s.Inserts (splitTrailing Token.isAttributeChar before).2 []) := by
  cases hbefore : t.before? caret with
  | none => simp [accept?_of_not_isBoundary hbefore]
  | some before =>
    have hstale := h before hbefore
    rw [detect?_eq, Option.some.injEq] at hstale
    obtain ⟨after, rfl, rfl⟩ := before?_eq_some_iff.1 hbefore
    simp only [Option.some.injEq, forall_eq']
    obtain ⟨head, run, hb⟩ : ∃ head run, splitTrailing s.kind.tokenChar before = (head, run) :=
      ⟨_, _, rfl⟩
    rw [accept?_eq_self_iff after hb]
    obtain ⟨name, kind⟩ := s
    cases kind with
    | tag =>
      -- Only here does acceptance ask for all that the detector asks for.
      have hr := Context.not_replaces_of_detect?_tag hstale hb
      simp [hr]
    | element =>
      have hrun : ∀ c ∈ run, c.isAlphanum := by
        have hall := all_splitTrailing Char.isAlphanum before
        simp only [SuggestionKind.tokenChar] at hb
        rwa [hb] at hall
      have hinserts : ¬ Inserts ⟨name, .element⟩ run [] := not_inserts_element hrun
      have hlast := splitTrailing_snd_eq_nil_iff Char.isAlphanum before
      simp only [SuggestionKind.tokenChar] at hb
      rw [hb] at hlast
      simp [SuggestionKind.Replaces, hinserts, hlast]
    | _ =>
      simp only [SuggestionKind.tokenChar] at hb
      simp [SuggestionKind.Replaces, hb]

/-- Out of any tag, the attribute `disabled` changes nothing behind that very word. -/
theorem stale_suggestion_changes_nothing_behind_itself :
    let s : Suggestion := ⟨"disabled".toList, .attribute⟩
    IsStale s "disabled".toList 8 ∧
      accept? s "disabled".toList 8 = some ⟨"disabled".toList, 8⟩ := by
  intro s
  have hstale : IsStale s "disabled".toList 8 := by
    rintro before ⟨⟩
    rw [detect?_eq]
    decide
  refine ⟨hstale, (stale_suggestion_changes_nothing_iff hstale).2 ?_⟩
  rintro before ⟨⟩
  refine ⟨by decide, fun _ => ?_⟩
  exact .boolean (by decide)

/-- In front of a tag whose attributes are being offered, an accepted one takes the place of the
word there. -/
theorem not_all_stale_suggestions_change_nothing :
    ¬ ∀ s t caret, IsStale s t caret → accept? s t caret = some ⟨t, caret⟩ := by
  intro hall
  have hstale : IsStale ⟨"id".toList, .attribute⟩ "hello <p ".toList 5 := by
    rintro before ⟨⟩
    rw [detect?_eq]
    decide
  have haccept := hall _ _ _ hstale
  rw [accept?_eq] at haccept
  revert haccept
  decide

end Buffer

end MarkupPad
