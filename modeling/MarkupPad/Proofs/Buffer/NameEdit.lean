import MarkupPad.Proofs.Buffer.Renaming

/-!
# Which edits rename

An edit renames an element just when it changes the name in one opening tag and nothing else,
the caret stands in the new name, the tag has been ended, and the tag was closed before.  Since
the text behind the name stays, the closing tag is found in the new text just where it was in
the old one, as far away as the name has grown.

    closingFrom? name start (pos + k) depth t = (closingFrom? name start pos depth t).map (· + k)
                                                                         (closingFrom?_shift)
    nameChange? old new caret = some (e.before ++ ['<'], e.oldName, e.newName, e.rest)
                                                  for e : NameEdit old new caret (nameChange?_eq)
    Buffer.rename? old new caret = some (some out) ↔
      ∃ (e : NameEdit old new caret) (close : Nat),
        Buffer.closing? old (size e.before) e.oldName = some close ∧ e.Yields close out
                                                                         (rename?_iff_nameEdit)
-/

namespace MarkupPad

open Text

namespace Element

/-- A change of the name in one opening tag and of nothing else, with the caret in the new name.
Behind the name the tag has been ended by a `>` before any other tag begins. -/
structure NameEdit (old new : Text) (caret : Nat) where
  before : Text
  oldName : Text
  newName : Text
  rest : Text
  old_eq : old = before ++ '<' :: (oldName ++ rest)
  new_eq : new = before ++ '<' :: (newName ++ rest)
  isOldName : ∀ c ∈ oldName, isNameChar c
  isNewName : ∀ c ∈ newName, isNameChar c
  size_ne : size oldName ≠ size newName
  /-- The names are whole. -/
  isWhole : ¬ rest.head?.any isNameChar
  le_caret : size before + 1 ≤ caret
  caret_le : caret ≤ size before + 1 + size newName
  ended : ∃ attributes after, rest = attributes ++ '>' :: after ∧ '<' ∉ attributes ∧ '>' ∉ attributes

/-- The text that a renaming yields, where `close` is the offset of the closing tag in the old
text: the new text with the new name in the closing tag, in place of the old one. -/
def NameEdit.Yields {old new : Text} {caret : Nat} (e : NameEdit old new caret) (close : Nat)
    (out : Text) : Prop :=
  ∃ front typed after, new = front ++ ['<', '/'] ++ typed ++ '>' :: after ∧
    size (front ++ ['<', '/']) = close + 2 + size e.newName - size e.oldName ∧
    size typed = size e.oldName ∧ Same typed e.oldName ∧
    out = front ++ ['<', '/'] ++ e.newName ++ '>' :: after

/-! ## The closing tag in both texts -/

/-- The scan knows its offsets only by their distance. -/
theorem closingFrom?_shift {name t : Text} {start pos depth : Nat} (k : Nat) (h : start < pos) :
    closingFrom? name start (pos + k) depth t =
      (closingFrom? name start pos depth t).map (· + k) := by
  induction t generalizing pos depth with
  | nil => rfl
  | cons c t ih =>
    have hnext (depth : Nat) : closingFrom? name start (pos + k + c.utf8Size) depth t =
        (closingFrom? name start (pos + c.utf8Size) depth t).map (· + k) := by
      rw [← ih (by omega), Nat.add_right_comm]
    have hlt : start < pos + k := by omega
    simp only [closingFrom?_cons, h, hlt, and_true]
    by_cases hc : c = '<'
    · rw [if_pos hc, if_pos hc]
      by_cases hclose : closes name t
      · rw [if_pos hclose, if_pos hclose]
        cases depth with
        | zero => rfl
        | succ inner => exact hnext inner
      · rw [if_neg hclose, if_neg hclose]
        split
        · exact hnext (depth + 1)
        · exact hnext depth
    · rw [if_neg hc, if_neg hc]
      exact hnext depth

/-- The search begins behind the name in the opening tag. -/
theorem closing?_behind_name (before name sought rest : Text) (hname : ∀ c ∈ name, isNameChar c) :
    closing? (before ++ '<' :: (name ++ rest)) (size before) sought =
      (closingFrom? sought (size before) (size before + 1) 0 rest).map (· + size name) := by
  have hcut : before ++ '<' :: (name ++ rest) = (before ++ ['<']) ++ (name ++ rest) := by simp
  have hpos : 0 + size (before ++ ['<']) = size before + 1 := by simp
  rw [closing?, hcut, closingFrom?_append_of_le (by simp), hpos,
    closingFrom?_append_of_not_mem (not_mem_of_name hname), closingFrom?_shift _ (by omega)]

/-- A closing tag that has been found stands in the text. -/
theorem exists_of_closing? {t name : Text} {start close : Nat}
    (h : closing? t start name = some close) :
    ∃ front typed after, t = front ++ ['<', '/'] ++ typed ++ '>' :: after ∧ size front = close ∧
      Same typed name := by
  obtain ⟨front, b, rfl, hb, rfl⟩ := closingFrom?_some h
  obtain ⟨typed, after, rfl, hs⟩ := closes_iff.1 hb
  exact ⟨front, typed, after, by simp, by simp, hs⟩

/-! ## The change of name -/

/-- Has the tag been ended? -/
theorem isEnded_iff {t : Text} :
    isEnded t ↔ ∃ attributes after, t = attributes ++ '>' :: after ∧ '<' ∉ attributes ∧
      '>' ∉ attributes := by
  simp only [isEnded, decide_eq_true_eq, List.find?_eq_some_iff_append]
  constructor
  · rintro ⟨-, attributes, after, rfl, h⟩
    refine ⟨attributes, after, rfl, fun hm => ?_, fun hm => ?_⟩
    · simpa using h '<' hm
    · simpa using h '>' hm
  · rintro ⟨attributes, after, rfl, hl, hg⟩
    refine ⟨by simp, attributes, after, rfl, fun c hc => ?_⟩
    have h1 : c ≠ '<' := fun h => hl (h ▸ hc)
    have h2 : c ≠ '>' := fun h => hg (h ▸ hc)
    simp [h1, h2]

/-- A name is as long in bytes as in letters. -/
theorem size_name {a : Text} (h : ∀ c ∈ a, isNameChar c) : size a = a.length :=
  size_of_ascii fun c hc => asciiClass_isNameChar c (h c hc)

/-- An edit of a name is seen as a change of name. -/
theorem NameEdit.nameChange?_eq {old new : Text} {caret : Nat} (e : NameEdit old new caret) :
    nameChange? old new caret = some (e.before ++ ['<'], e.oldName, e.newName, e.rest) := by
  have hne : e.oldName.length ≠ e.newName.length := by
    rw [← size_name e.isOldName, ← size_name e.isNewName]
    exact e.size_ne
  -- the caret cuts the new name, which is ASCII, in two
  obtain ⟨l, r, hname, hl⟩ :
      ∃ l r, e.newName = l ++ r ∧ size l = caret - (size e.before + 1) := by
    refine ⟨e.newName.take (caret - (size e.before + 1)),
      e.newName.drop (caret - (size e.before + 1)), by simp, ?_⟩
    have hle := e.caret_le
    rw [size_name e.isNewName] at hle
    rw [size_name fun c hc => e.isNewName c (List.mem_of_mem_take hc), List.length_take]
    omega
  have hcaret : size (e.before ++ ['<'] ++ l) = caret := by
    have hle := e.le_caret
    simp [hl]
    omega
  have hold : e.before ++ ['<'] ++ (e.oldName ++ e.rest) = old := by simp [e.old_eq]
  have hnew : e.before ++ ['<'] ++ (l ++ r ++ e.rest) = new := by simp [e.new_eq, hname]
  have hangle : (e.before ++ ['<']).getLast? = some '<' := List.getLast?_concat
  have h := nameChange?_append hangle e.isOldName
    (hname ▸ e.isNewName) e.isWhole (hname ▸ hne) (isEnded_iff.2 e.ended)
  rwa [hold, hnew, hcaret, ← hname] at h

/-- Every change of name is an edit of a name. -/
theorem exists_nameEdit {old new : Text} {caret : Nat} {change : Text × Text × Text × Text}
    (h : nameChange? old new caret = some change) :
    ∃ e : NameEdit old new caret, change = (e.before ++ ['<'], e.oldName, e.newName, e.rest) := by
  simp only [nameChange?, Option.bind_eq_bind, Option.bind_eq_some_iff] at h
  obtain ⟨before, hb, oldRest, hold, newRest, hnew, h⟩ := h
  split at h
  · next hc =>
    obtain ⟨hangle, hrest, hne, hended⟩ := hc
    cases h
    obtain ⟨P, hP⟩ := List.getLast?_eq_some_iff.1 hangle
    have hsplit := splitTrailing_append isNameChar before
    have hrun := all_splitTrailing isNameChar before
    obtain ⟨after, rfl, rfl⟩ := before?_eq_some_iff.1 hb
    rw [hP] at hold hnew hsplit ⊢
    generalize (splitTrailing isNameChar before).2 = run at hsplit hrun
    subst hsplit
    have hnewRest : newRest = run ++ after := by
      rw [dropFront?_eq_some_iff] at hnew
      simpa using hnew.symm
    subst hnewRest
    have hold' := dropFront?_eq_some_iff.1 hold
    obtain ⟨a, s, rfl, ha, hs⟩ := Buffer.exists_name oldRest
    obtain ⟨b, s', hrun', hb', hs'⟩ := Buffer.exists_name (run ++ after)
    rw [hrun'] at hrest hne hended ⊢
    simp only [takeWhile_name ha hs, takeWhile_name hb' hs'] at hrest hne hended ⊢
    subst hrest
    -- the run before the caret is the front of the new name
    have hprefix : run.length ≤ b.length := by
      have hlen := congrArg (fun t => (t.takeWhile isNameChar).length) hrun'
      simp only [(takeWhile_name hb' hs').1, List.takeWhile_append_of_pos hrun,
        List.length_append] at hlen
      omega
    have hold'' : old = P ++ '<' :: (a ++ s) := by simp [hold']
    have hnew'' : P ++ ['<'] ++ run ++ after = P ++ '<' :: (b ++ s) := by simp [← hrun']
    refine ⟨⟨P, a, b, s, hold'', hnew'', ha, hb', ?_, hs, ?_, ?_, isEnded_iff.1 hended⟩, rfl⟩
    · rw [size_name ha, size_name hb']
      exact hne
    · simp
    · rw [size_append, size_append, size_name hrun, size_name hb']
      simp
      omega
  · cases h

/-! ## The renaming -/

section
variable {old new out : Text} {caret close : Nat} (e : NameEdit old new caret)

/-- The closing tag is found in the new text as far behind its place in the old one as the name
has grown. -/
theorem NameEdit.closing?_both :
    ∃ found : Option Nat,
      closing? old (size e.before) e.oldName = found.map (· + size e.oldName) ∧
      closing? new (size e.before) e.oldName = found.map (· + size e.newName) := by
  have hold := closing?_behind_name e.before e.oldName e.oldName e.rest e.isOldName
  have hnew := closing?_behind_name e.before e.newName e.oldName e.rest e.isNewName
  rw [← e.old_eq] at hold
  rw [← e.new_eq] at hnew
  exact ⟨_, hold, hnew⟩

/-- Where the tag was closed, the edit yields a text. -/
theorem NameEdit.exists_yields
    (h : closing? old (size e.before) e.oldName = some close) : ∃ out, e.Yields close out := by
  obtain ⟨found, hold, hnew⟩ := e.closing?_both
  cases found with
  | none => cases h.symm.trans hold
  | some n =>
    cases h.symm.trans hold
    obtain ⟨front, typed, after, ht, hfront, hsame⟩ := exists_of_closing? hnew
    refine ⟨_, front, typed, after, ht, ?_, hsame.size_eq, hsame, rfl⟩
    simp [hfront]
    omega

/-- What an edit yields is what the renaming makes of it. -/
theorem NameEdit.rename?_of_yields
    (h : closing? old (size e.before) e.oldName = some close) (hout : e.Yields close out) :
    rename? old new caret = some out := by
  obtain ⟨found, hold, hnew⟩ := e.closing?_both
  obtain ⟨front, typed, after, ht, hfront, htyped, -, rfl⟩ := hout
  cases found with
  | none => cases h.symm.trans hold
  | some n =>
    cases h.symm.trans hold
    have hstart : size (e.before ++ ['<']) - 1 = size e.before := by simp
    have hcut : n + size e.newName + 2 = size (front ++ ['<', '/']) := by
      rw [hfront]
      show _ = n + size e.oldName + 2 + size e.newName - size e.oldName
      omega
    have hkept : new.before? (n + size e.newName + 2) = some (front ++ ['<', '/']) :=
      before?_eq_some_iff.2 ⟨typed ++ '>' :: after, by rw [ht]; simp, hcut.symm⟩
    have hafter : new.after? (n + size e.newName + 2 + size e.oldName) = some ('>' :: after) :=
      after?_eq_some_iff.2 ⟨front ++ ['<', '/'] ++ typed, ht, by rw [size_append, hcut, htyped]⟩
    simp only [rename?, e.nameChange?_eq, Option.bind_eq_bind, Option.bind_some, hstart, hnew,
      Option.map_some, hkept, hafter]
    rfl

/-- A renaming has found a closing tag, in the old text as in the new one. -/
theorem NameEdit.exists_closing? (h : rename? old new caret = some out) :
    ∃ close, closing? old (size e.before) e.oldName = some close := by
  obtain ⟨found, hold, hnew⟩ := e.closing?_both
  have hstart : size (e.before ++ ['<']) - 1 = size e.before := by simp
  simp only [rename?, e.nameChange?_eq, Option.bind_eq_bind, Option.bind_some, hstart] at h
  obtain ⟨n, hn, -⟩ := Option.bind_eq_some_iff.1 h
  cases found with
  | none => cases hn.symm.trans hnew
  | some m => exact ⟨_, hold⟩

/-- **What an edit of a name yields** is all that the renaming makes of it. -/
theorem NameEdit.rename?_eq_some_iff :
    rename? old new caret = some out ↔
      ∃ close, closing? old (size e.before) e.oldName = some close ∧ e.Yields close out := by
  constructor
  · intro h
    obtain ⟨close, hclose⟩ := e.exists_closing? h
    obtain ⟨out', hout'⟩ := e.exists_yields hclose
    have hsame := e.rename?_of_yields hclose hout'
    rw [h, Option.some.injEq] at hsame
    exact ⟨close, hclose, hsame ▸ hout'⟩
  · rintro ⟨close, hclose, hout⟩
    exact e.rename?_of_yields hclose hout

end

end Element

namespace Buffer

/-- **An edit renames just when it changes the name in one opening tag and nothing else**, to a
name of another length, with the caret in the new name, in a tag that has been ended and was
closed before.  The result is the new text with the new name in that closing tag.  Every other
edit renames nothing, and no cut of the texts ever goes wrong. -/
theorem rename?_iff_nameEdit (old new : Text) (caret : Nat) :
    (∀ out, rename? old new caret = some (some out) ↔
      ∃ (e : Element.NameEdit old new caret) (close : Nat),
        closing? old (size e.before) e.oldName = some close ∧ e.Yields close out) ∧
    (rename? old new caret = some none ↔
      ¬ ∃ (e : Element.NameEdit old new caret) (close : Nat),
        closing? old (size e.before) e.oldName = some close) := by
  simp only [rename?_eq, closing?_eq, Option.some.injEq]
  constructor
  · intro out
    constructor
    · intro h
      obtain ⟨change, hchange, -⟩ := Option.bind_eq_some_iff.1 h
      obtain ⟨e, -⟩ := Element.exists_nameEdit hchange
      exact ⟨e, e.rename?_eq_some_iff.1 h⟩
    · rintro ⟨e, h⟩
      exact e.rename?_eq_some_iff.2 h
  · constructor
    · rintro h ⟨e, close, hclose⟩
      obtain ⟨out, hout⟩ := e.exists_yields hclose
      rw [e.rename?_eq_some_iff.2 ⟨close, hclose, hout⟩] at h
      cases h
    · intro h
      cases hr : Element.rename? old new caret with
      | none => rfl
      | some out =>
        obtain ⟨change, hchange, -⟩ := Option.bind_eq_some_iff.1 hr
        obtain ⟨e, -⟩ := Element.exists_nameEdit hchange
        obtain ⟨close, hclose, -⟩ := e.rename?_eq_some_iff.1 hr
        exact absurd ⟨e, close, hclose⟩ h

end Buffer

end MarkupPad
