import MarkupPad.Proofs.Script.Line

/-!
# Quoted lines

Between quotes every character can be typed, and Enter and Tab besides.  A backslash spells itself
twice and begins what stands for Enter and Tab; every other character spells itself, a quote also
with a backslash before it.  Only the first and the last character of a line say that it is quoted,
so nothing between them ends it, and nothing there is a comment, a command or a delay.

    SpellsKey t k → typed (t ++ e) = k :: typed e                            (SpellsKey.typed)
    Spells e keys → typed e = keys                                               (Spells.typed)
    ofLine (left ++ '"' :: e ++ '"' :: right) = .ok ((typed e).map plain)
      where all of left and right are blank                                     (ofLine_quoted)
-/

namespace MarkupPad.Script

open Text

/-- A text between quotes stands for a key. -/
inductive SpellsKey : Text → Key → Prop where
  | enter : SpellsKey ['\\', 'n'] .enter
  | tab : SpellsKey ['\\', 't'] .tab
  | backslash : SpellsKey ['\\', '\\'] (.char '\\')
  | quote : SpellsKey ['\\', '"'] (.char '"')
  | self {c : Char} : c ≠ '\\' → SpellsKey [c] (.char c)

/-- A text between quotes stands for keys, one after the other. -/
inductive Spells : Text → List Key → Prop where
  | nil : Spells [] []
  | cons {t e : Text} {k : Key} {keys : List Key} :
    SpellsKey t k → Spells e keys → Spells (t ++ e) (k :: keys)

/-- Enter, Tab, and the characters that a line can hold. -/
def IsTypeable : Key → Prop
  | .enter | .tab => True
  | .char c => c ≠ '\n'
  | _ => False

/-! ## Spelling and typing -/

section
variable {t e : Text} {k : Key} {keys : List Key}

/-- **What spells a key types it.** -/
theorem SpellsKey.typed (h : SpellsKey t k) (e : Text) : typed (t ++ e) = k :: typed e := by
  cases h with
  | enter => rfl
  | tab => rfl
  | backslash => rfl
  | quote => rfl
  | self hc =>
    rw [List.singleton_append, Script.typed]
    · exact fun _ h => absurd h hc
    · exact fun _ h => absurd h hc
    · exact fun _ _ h => absurd h hc

theorem Spells.typed (h : Spells e keys) : typed e = keys := by
  induction h with
  | nil => rfl
  | cons ht _ ih => rw [ht.typed, ih]

theorem exists_spellsKey (h : IsTypeable k) : ∃ t, SpellsKey t k := by
  cases k with
  | enter => exact ⟨_, .enter⟩
  | tab => exact ⟨_, .tab⟩
  | char c =>
    by_cases hc : c = '\\'
    · rw [hc]
      exact ⟨_, .backslash⟩
    · exact ⟨_, .self hc⟩
  | _ => exact h.elim

theorem exists_spells (h : ∀ k ∈ keys, IsTypeable k) : ∃ e, Spells e keys := by
  induction keys with
  | nil => exact ⟨[], .nil⟩
  | cons k keys ih =>
    obtain ⟨hk, hkeys⟩ := List.forall_mem_cons.1 h
    obtain ⟨t, ht⟩ := exists_spellsKey hk
    obtain ⟨e, he⟩ := ih hkeys
    exact ⟨t ++ e, .cons ht he⟩

theorem SpellsKey.not_mem_newline (h : SpellsKey t k) (hk : IsTypeable k) : '\n' ∉ t := by
  cases h with
  | enter => decide
  | tab => decide
  | backslash => decide
  | quote => decide
  | self hc => exact fun h => hk (List.mem_singleton.1 h).symm

/-- What spells keys that a line can hold is on one line. -/
theorem Spells.not_mem_newline (h : Spells e keys) (hkeys : ∀ k ∈ keys, IsTypeable k) :
    '\n' ∉ e := by
  induction h with
  | nil => exact List.not_mem_nil
  | cons ht _ ih =>
    obtain ⟨hk, hkeys⟩ := List.forall_mem_cons.1 hkeys
    rw [List.mem_append, not_or]
    exact ⟨ht.not_mem_newline hk, ih hkeys⟩

end

/-! ## Lines between quotes -/

theorem ofTrimmedLine_quoted (e : Text) :
    ofTrimmedLine ('"' :: (e ++ ['"'])) = .ok ((typed e).map plain) := by
  have hquote : unquote? ('"' :: (e ++ ['"'])) = some e := dropEnd?_eq_some_iff.2 rfl
  have hdelay : dropFront? "wait ".toList ('"' :: (e ++ ['"'])) = none := rfl
  unfold ofTrimmedLine
  split
  · next h => cases h
  · next h => cases h
  · next h => cases h
  · next h => simp at h
  · rw [hdelay, hquote]

/-- **A line between quotes types what stands between them,** whatever that is, with blanks around
it or not. -/
theorem ofLine_quoted {left right : Text} (hleft : ∀ c ∈ left, isBlank c)
    (hright : ∀ c ∈ right, isBlank c) (e : Text) :
    ofLine (left ++ '"' :: e ++ '"' :: right) = .ok ((typed e).map plain) := by
  have hline : left ++ '"' :: e ++ '"' :: right = left ++ '"' :: (e ++ ['"']) ++ right := by simp
  have hends : trimBy isBlank ('"' :: (e ++ ['"'])) = '"' :: (e ++ ['"']) := by
    refine trimBy_eq_self ?_ ?_
    · rintro c ⟨⟩
      rfl
    · rw [← List.cons_append, List.getLast?_concat]
      rintro c ⟨⟩
      rfl
  rw [ofLine, trim, hline, trimBy_append_append hleft hright, hends, ofTrimmedLine_quoted]

/-- **A quoted line can type anything.**  Any keys out of Enter, Tab and the characters other than a
newline can be spelled; and however they are spelled, a line of that between quotes, with any blanks
around it, is a script that presses just these keys in order. -/
theorem quoted_line_types_anything {keys : List Key} (hne : keys ≠ [])
    (hkeys : ∀ k ∈ keys, IsTypeable k) :
    (∃ e, Spells e keys) ∧
      ∀ e left right, Spells e keys → (∀ c ∈ left ++ right, isBlank c ∧ c ≠ '\n') →
        ofText (left ++ '"' :: e ++ '"' :: right) = .ok (keys.map plain) := by
  refine ⟨exists_spells hkeys, fun e left right he hblank => ?_⟩
  have hleft : ∀ c ∈ left, isBlank c ∧ c ≠ '\n' := fun c hc => hblank c (List.mem_append_left _ hc)
  have hright : ∀ c ∈ right, isBlank c ∧ c ≠ '\n' := fun c hc =>
    hblank c (List.mem_append_right _ hc)
  have hline := ofLine_quoted (fun c hc => (hleft c hc).1) (fun c hc => (hright c hc).1) e
  rw [he.typed] at hline
  refine ofText_of_line ?_ hline (by simpa using hne)
  simp only [List.mem_append, List.mem_cons, not_or]
  exact ⟨⟨fun h => (hleft _ h).2 rfl, by decide, he.not_mem_newline hkeys⟩, by decide,
    fun h => (hright _ h).2 rfl⟩

/-- A blank, a backslash before the letter for Enter, Enter, and a quote, once with a backslash and
once bare. -/
theorem quoted_line_types_backslash_and_quotes :
    let keys : List Key := [.char ' ', .char '\\', .char 'n', .enter, .char '"', .char '"']
    (∀ k ∈ keys, IsTypeable k) ∧ Spells " \\\\n\\n\\\"\"".toList keys ∧
      ofText "  \" \\\\n\\n\\\"\"\"\r".toList = .ok (keys.map plain) := by
  intro keys
  have hkeys : ∀ k ∈ keys, IsTypeable k := by simp [keys, IsTypeable]
  have hspells : Spells " \\\\n\\n\\\"\"".toList keys :=
    .cons (.self (by decide)) (.cons .backslash (.cons (.self (by decide))
      (.cons .enter (.cons .quote (.cons (.self (by decide)) .nil)))))
  obtain ⟨-, htyped⟩ := quoted_line_types_anything (List.cons_ne_nil _ _) hkeys
  have hblank : ∀ c ∈ "  ".toList ++ ['\r'], isBlank c ∧ c ≠ '\n' := by simp [isBlank]
  exact ⟨hkeys, hspells, htyped _ "  ".toList ['\r'] hspells hblank⟩

end MarkupPad.Script
