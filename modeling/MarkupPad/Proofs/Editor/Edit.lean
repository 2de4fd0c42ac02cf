import MarkupPad.Caret
import MarkupPad.Proofs.Buffer.Shorthand
import MarkupPad.Suggestion.Basic

/-!
# Edits at boundaries leave selections at boundaries

An edit fits when its selection fits its text.  Every edit, motion and completion that
starts from a selection that fits is there, and fits in turn: what goes in is cut only
where it ends or at a prefix of it.

    s.Fits t → ∃ e, replace? t s ins = some e ∧ e.Fits                  (replace?_fits)
    at? t caret = some trigger → ∃ c, trigger.expand? t caret = some c ∧ c.Fits
    IsBoundary t caret → (s.accept t caret).Fits                        (accept_fits)
-/

namespace MarkupPad

open Text

namespace Text

theorem isBoundary_of_isPrefix {a t : Text} (h : a <+: t) : IsBoundary t (size a) := by
  obtain ⟨b, rfl⟩ := h
  exact isBoundary_append a b

theorem IsBoundary.append_left {t : Text} {n : Nat} (h : IsBoundary t n) (u : Text) :
    IsBoundary (t ++ u) n := by
  obtain ⟨a, b, rfl, rfl⟩ := h
  rw [List.append_assoc]
  exact isBoundary_append a (b ++ u)

theorem IsBoundary.append_right {t : Text} {n : Nat} (h : IsBoundary t n) (u : Text) :
    IsBoundary (u ++ t) (size u + n) := by
  obtain ⟨a, b, rfl, rfl⟩ := h
  rw [← size_append, ← List.append_assoc]
  exact isBoundary_append (u ++ a) b

end Text

namespace Edit

/-! ## Plain edits -/

/-- An edit whose selection fits its text. -/
def Fits (e : Edit) : Prop := e.selection.Fits e.text

variable {t : Text} {s : Selection}

theorem replace?_fits (h : s.Fits t) (insertion : Text) :
    ∃ e, replace? t s insertion = some e ∧ e.Fits := by
  obtain ⟨a, m, b, rfl, rfl⟩ := Selection.fits_iff.1 h
  refine ⟨_, replace?_append a m b insertion, Selection.collapsed_fits_iff.2 ?_⟩
  rw [← size_append]
  exact isBoundary_append _ b

/-- Backspace at a caret takes the character before it away. -/
theorem backspace?_append (a : Text) (c : Char) (b : Text) :
    backspace? (a ++ [c] ++ b) (.collapsed (size (a ++ [c]))) =
      some (some (collapsed (a ++ b) (size a))) := by
  have hpos := c.utf8Size_pos
  have h0 : size (a ++ [c]) ≠ 0 := by
    simp
    omega
  have hwidth : size (a ++ [c]) - c.utf8Size = size a := by simp
  have hreplace := replace?_append a [c] b []
  simp only [List.append_nil, size_nil, Nat.add_zero] at hreplace
  simp only [backspace?, Selection.isCollapsed, Selection.collapsed, decide_true, Bool.not_true,
    Bool.false_eq_true, if_false, if_neg h0, before?_append, List.getLast?_concat, Option.map_some,
    Option.getD_some, hwidth, hreplace, Option.bind_eq_bind, Option.bind_some]
  rfl

theorem backspace?_fits (h : s.Fits t) :
    ∃ e, backspace? t s = some e ∧ ∀ e' ∈ e, e'.Fits := by
  cases hc : s.isCollapsed with
  | false =>
    obtain ⟨e, he, hf⟩ := replace?_fits h []
    exact ⟨some e, by simp [backspace?, hc, he], by simpa using hf⟩
  | true =>
    obtain ⟨start, stop⟩ := s
    have heq : start = stop := of_decide_eq_true hc
    subst heq
    obtain ⟨a, b, rfl, rfl⟩ := h.2.1
    rcases List.eq_nil_or_concat a with rfl | ⟨a, c, rfl⟩
    · exact ⟨none, rfl, by simp⟩
    · rw [List.concat_eq_append]
      refine ⟨_, backspace?_append a c b, ?_⟩
      intro e' he'
      cases he'
      exact Selection.collapsed_fits_iff.2 (isBoundary_append a b)

/-- Delete at a caret takes the character after it away. -/
theorem delete?_append (a : Text) (c : Char) (b : Text) :
    delete? (a ++ c :: b) (.collapsed (size a)) = some (some (collapsed (a ++ b) (size a))) := by
  have hpos := c.utf8Size_pos
  have hend : ¬ size (a ++ c :: b) ≤ size a := by
    simp
    omega
  have hreplace := replace?_append a [c] b []
  simp only [List.append_nil, size_nil, Nat.add_zero, List.append_assoc, List.singleton_append,
    size_append, size_cons] at hreplace
  simp only [delete?, Selection.isCollapsed, Selection.collapsed, decide_true, Bool.not_true,
    Bool.false_eq_true, if_false, if_neg hend, after?_append, List.head?_cons, Option.map_some,
    Option.getD_some, hreplace, Option.bind_eq_bind, Option.bind_some]
  rfl

theorem delete?_fits (h : s.Fits t) : ∃ e, delete? t s = some e ∧ ∀ e' ∈ e, e'.Fits := by
  cases hc : s.isCollapsed with
  | false =>
    obtain ⟨e, he, hf⟩ := replace?_fits h []
    exact ⟨some e, by simp [delete?, hc, he], by simpa using hf⟩
  | true =>
    obtain ⟨start, stop⟩ := s
    have heq : start = stop := of_decide_eq_true hc
    subst heq
    obtain ⟨a, b, rfl, rfl⟩ := h.2.1
    cases b with
    | nil => exact ⟨none, by simp [delete?, hc], by simp⟩
    | cons c b =>
      refine ⟨_, delete?_append a c b, ?_⟩
      intro e' he'
      cases he'
      exact Selection.collapsed_fits_iff.2 (isBoundary_append a b)

theorem duplicate?_fits (h : s.Fits t) : ∃ e, duplicate? t s = some e ∧ e.Fits := by
  unfold duplicate?
  cases hc : s.isCollapsed with
  | false =>
    obtain ⟨a, m, b, rfl, rfl⟩ := Selection.fits_iff.1 h
    refine ⟨⟨a ++ m ++ m ++ b, ⟨size (a ++ m), size (a ++ m) + size m⟩⟩, ?_, ?_⟩
    · simp only [Bool.not_false, if_true, slice?_append, splitAt?_append, Option.bind_eq_bind,
        Option.bind_some]
      rfl
    · exact Selection.fits_iff.2 ⟨a ++ m, m, b, rfl, by rw [size_append (a ++ m)]⟩
  | true =>
    obtain ⟨start, stop⟩ := s
    obtain ⟨a, b, rfl, rfl⟩ := h.2.1
    have ha := splitTrailing_append (· != '\n') a
    refine ⟨.collapsed (a ++ b.takeWhile (· != '\n') ++ '\n' ::
      ((splitTrailing (· != '\n') a).2 ++ b.takeWhile (· != '\n')) ++ b.dropWhile (· != '\n'))
      (size a + size ((splitTrailing (· != '\n') a).2 ++ b.takeWhile (· != '\n')) + 1), ?_, ?_⟩
    · simp only [Bool.not_true, Bool.false_eq_true, if_false, splitAt?_append, Option.bind_eq_bind,
        Option.bind_some]
      rfl
    · -- the caret keeps its place in the line, one line further down
      refine Selection.collapsed_fits_iff.2 ⟨a ++ b.takeWhile (· != '\n') ++ '\n' ::
        (splitTrailing (· != '\n') a).2, b.takeWhile (· != '\n') ++ b.dropWhile (· != '\n'), ?_, ?_⟩
      · simp [collapsed]
      · simp
        omega

end Edit

namespace Caret

/-! ## Motions -/

theorem lineBefore_isPrefix (t : Text) : (lineBefore t).1 <+: t :=
  ⟨_, splitTrailing_append _ t⟩

theorem up_isBoundary (before : Text) : IsBoundary before (up before) := by
  unfold up
  simp only
  split
  · exact isBoundary_zero before
  · have hline := splitTrailing_append (· != '\n') (lineBefore before).1.dropLast
    rw [← size_append]
    apply isBoundary_of_isPrefix
    have hpre : (lineBefore (lineBefore before).1.dropLast).1 ++
        (lineBefore (lineBefore before).1.dropLast).2.take (lineBefore before).2.length <+:
          (lineBefore before).1.dropLast := by
      conv_rhs => rw [← hline]
      exact (List.prefix_append_right_inj _).2 (List.take_prefix _ _)
    exact hpre.trans ((List.dropLast_prefix _).trans (lineBefore_isPrefix before))

theorem down_isBoundary (before after : Text) :
    IsBoundary (before ++ after) (down before after) := by
  have hb := List.takeWhile_append_dropWhile (p := (· != '\n')) (l := after)
  unfold down
  simp only
  split
  · rw [← size_append]
    exact isBoundary_of_isPrefix ((List.prefix_append_right_inj _).2 (List.takeWhile_prefix _))
  · next c below hd =>
    have hc := List.head?_dropWhile_not (· != '\n') after
    rw [hd] at hb hc
    have hc' : c = '\n' := by simpa using hc
    subst hc'
    obtain ⟨r, hr⟩ : (below.takeWhile (· != '\n')).take (lineBefore before).2.length <+: below :=
      (List.take_prefix _ _).trans (List.takeWhile_prefix _)
    generalize (below.takeWhile (· != '\n')).take (lineBefore before).2.length = target at hr ⊢
    refine ⟨before ++ after.takeWhile (· != '\n') ++ '\n' :: target, r, ?_, ?_⟩
    · rw [List.append_assoc, List.append_assoc, List.cons_append, hr, hb]
    · simp
      omega

theorem step_isBoundary (before after : Text) (motion : Motion) :
    IsBoundary (before ++ after) (step before after motion) := by
  cases motion with
  | left => exact (isBoundary_of_isPrefix (List.dropLast_prefix before)).append_left after
  | right => exact (isBoundary_of_isPrefix (List.take_prefix 1 after)).append_right before
  | home => exact (isBoundary_of_isPrefix (lineBefore_isPrefix before)).append_left after
  | toEnd => exact (isBoundary_of_isPrefix (List.takeWhile_prefix _)).append_right before
  | up => exact (up_isBoundary before).append_left after
  | down => exact down_isBoundary before after

theorem move?_isBoundary {t : Text} {s : Selection} (h : s.Fits t) (motion : Motion) :
    ∃ n, move? t s motion = some n ∧ IsBoundary t n := by
  unfold move?
  split
  · exact ⟨s.start, rfl, h.2.1⟩
  · split
    · exact ⟨s.stop, rfl, h.2.2⟩
    · obtain ⟨a, b, rfl, hs⟩ := h.2.2
      rw [← hs, splitAt?_append]
      exact ⟨_, rfl, step_isBoundary a b motion⟩

end Caret

/-! ## Completions -/

namespace Completion

/-- A completion whose caret stands at a boundary of its text. -/
def Fits (c : Completion) : Prop := IsBoundary c.text c.caret

variable {t insertion : Text} {start stop caret : Nat}

theorem splice?_fits (hstart : IsBoundary t start) (hstop : IsBoundary t stop)
    (hcaret : IsBoundary insertion caret) :
    ∃ c, splice? t start stop insertion caret = some c ∧ c.Fits := by
  obtain ⟨a, r, rfl, rfl⟩ := hstart
  obtain ⟨h, b, ht, rfl⟩ := hstop
  have hafter : after? (a ++ r) (size h) = some b := after?_eq_some_iff.2 ⟨h, ht, rfl⟩
  refine ⟨⟨a ++ insertion ++ b, size a + caret⟩, ?_, (hcaret.append_right a).append_left b⟩
  rw [splice?, before?_append, hafter]
  rfl

theorem autoClose?_fits {s : Selection} (h : s.Fits t) (name : Text) :
    ∃ c, autoClose? t s.start s.stop name = some c ∧ c.Fits :=
  splice?_fits h.2.1 h.2.2 (isBoundary_of_isPrefix (List.prefix_append ['>'] _))

end Completion

namespace Trigger

section
variable (a after : Text)

theorem boilerplate_fits :
    ∃ c, boilerplate.expand? (a ++ ['!'] ++ after) (size (a ++ ['!'])) = some c ∧ c.Fits := by
  have hstart : size (a ++ ['!']) - 1 = size a := by
    simp
    rfl
  refine Completion.splice?_fits ?_ (isBoundary_append _ after) (isBoundary_size _)
  rw [hstart, List.append_assoc]
  exact isBoundary_append _ _

theorem comment_fits :
    ∃ c, comment.expand? (a ++ ['<', '-'] ++ after) (size (a ++ ['<', '-'])) = some c ∧ c.Fits := by
  have hstart : size (a ++ ['<', '-']) - 2 = size a := by
    simp
    rfl
  refine Completion.splice?_fits ?_ (isBoundary_append _ after) ?_
  · rw [hstart, List.append_assoc]
    exact isBoundary_append _ _
  · exact isBoundary_of_isPrefix (a := "<!-- ".toList) ⟨" -->".toList, rfl⟩

theorem shorthand_fits {before : Text} {token : Token} (h : Shorthand.token? before = some token) :
    ∃ c, (shorthand token).expand? (before ++ after) (size before) = some c ∧ c.Fits := by
  obtain ⟨a, rfl, hs⟩ := Shorthand.token?_suffix h
  refine Completion.splice?_fits ?_ ?_ (isBoundary_of_isPrefix ?_)
  · rw [hs, List.append_assoc]
    exact isBoundary_append _ _
  · rw [Token.stop, hs, ← size_append]
    exact isBoundary_append _ after
  · rw [Shorthand.element, List.append_assoc]
    exact List.prefix_append _ _

theorem betweenTags_fits :
    ∃ c, betweenTags.expand? (a ++ after) (size a) = some c ∧ c.Fits := by
  rw [expand?, Completion.betweenTags?, before?_append]
  simp only [Option.bind_eq_bind, Option.bind_some]
  have hcaret := isBoundary_append a after
  have hinner (inner : Text) : 1 + size inner = size (['\n'] ++ inner) := by simp
  refine Completion.splice?_fits hcaret hcaret ?_
  rw [hinner, List.append_assoc (['\n'] ++ _)]
  exact isBoundary_append _ _

end

/-- **What Enter expands can be expanded**, and leaves the caret at a boundary. -/
theorem expand?_fits {t : Text} {caret : Nat} {trigger : Trigger}
    (h : at? t caret = some trigger) : ∃ c, trigger.expand? t caret = some c ∧ c.Fits := by
  unfold at? at h
  split at h
  · cases h
  · next before hb =>
    obtain ⟨after, rfl, rfl⟩ := before?_eq_some_iff.1 hb
    split at h
    · next hends =>
      cases h
      obtain ⟨a, rfl⟩ := List.isSuffixOf_iff_suffix.1 hends
      exact boilerplate_fits a after
    · split at h
      · next hends =>
        cases h
        obtain ⟨a, rfl⟩ := List.isSuffixOf_iff_suffix.1 hends
        exact comment_fits a after
      · split at h
        · next token ht =>
          cases h
          exact shorthand_fits after ht
        · split at h
          · cases h
            exact betweenTags_fits before after
          · cases h

end Trigger

namespace Suggestion

theorem tagInsertion_isBoundary (name : Text) :
    IsBoundary (tagInsertion name).1 (tagInsertion name).2 := by
  have hsize : size name + 1 = size (name ++ ['>']) := by simp
  unfold tagInsertion
  split
  · rw [hsize]
    exact isBoundary_size _
  · rw [hsize]
    exact isBoundary_append _ _

theorem elementInsertion_isBoundary (name : Text) :
    IsBoundary (elementInsertion name).1 (elementInsertion name).2 := by
  have h := (tagInsertion_isBoundary name).append_right ['<']
  rw [Nat.add_comm] at h
  exact h

theorem attributeInsertion_isBoundary (name : Text) :
    IsBoundary (attributeInsertion name).1 (attributeInsertion name).2 := by
  unfold attributeInsertion
  split
  · exact isBoundary_size _
  · split
    · exact isBoundary_size _
    · have hsize : size name + 2 = size (name ++ ['=', '"']) := by
        simp
        rfl
      rw [hsize]
      exact isBoundary_of_isPrefix ⟨['"'], by simp⟩

/-- The caret of an insertion stands at a boundary of it. -/
theorem replacement?_isBoundary {s : Suggestion} {before : Text} {r : Text × Text × Nat}
    (h : s.replacement? before = some r) : IsBoundary r.2.1 r.2.2 := by
  unfold replacement? at h
  split at h
  · simp only at h
    split at h
    · cases h
      exact tagInsertion_isBoundary s.value
    · cases h
  · simp only at h
    split at h
    · cases h
    · cases h
      exact elementInsertion_isBoundary s.value
  · cases h
    exact attributeInsertion_isBoundary s.value

theorem accept_fits (s : Suggestion) {t : Text} {caret : Nat} (h : IsBoundary t caret) :
    (s.accept t caret).Fits := by
  obtain ⟨before, after, rfl, rfl⟩ := h
  rw [accept, splitAt?_append]
  simp only
  split
  · exact isBoundary_append before after
  · next head insertion inside hr =>
    exact ((replacement?_isBoundary hr).append_right head).append_left after

end Suggestion

end MarkupPad
