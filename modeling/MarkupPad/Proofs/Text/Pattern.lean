import Mathlib.Data.List.Forall2
import Mathlib.Data.List.TakeWhile
import MarkupPad.Text.Basic

/-!
# Patterns that reach to the end of a text

A pattern is a row of classes of characters, each of which stands once, at least once or any
number of times.  It is matched against a whole text by trying the longest run first, going back
to a shorter one where the rest of the pattern fails; and it is found at the end of a text by
trying one place after the other from the front.

    groups ∈ pattern.cuts t ↔ groups.flatten = t ∧ List.Forall₂ Atom.Matches pattern groups
                                                                                (mem_cuts_iff)
    pattern.first? t = some groups ↔ groups is the first cut of the longest end of t that has one
                                                                         (first?_eq_some_iff)
-/

namespace MarkupPad.Text

/-- A part of a pattern: characters of a class, as many as there are. -/
inductive Atom where
  /-- One character. -/
  | one (p : Char → Bool)
  /-- At least one character. -/
  | many (p : Char → Bool)
  /-- Any number of characters. -/
  | any (p : Char → Bool)

/-- The parts of a pattern in order. -/
abbrev Pattern := List Atom

/-! ## Algorithm -/

/-- The runs of a class at the front of a text, the longest first. -/
def runs (p : Char → Bool) : Text → List Text
  | [] => [[]]
  | c :: t => if p c then (runs p t).map (c :: ·) ++ [[]] else [[]]

/-- What a part of a pattern matches at the front of a text, the longest first. -/
def Atom.runs : Atom → Text → List Text
  | one _, [] => []
  | one p, c :: _ => if p c then [[c]] else []
  | many p, t => (Text.runs p t).filter (· ≠ [])
  | any p, t => Text.runs p t

/-- The ways in which a pattern matches the whole text, the preferred one first: what each part
of it matches. -/
def Pattern.cuts : Pattern → Text → List (List Text)
  | [], [] => [[]]
  | [], _ :: _ => []
  | atom :: pattern, t =>
    (atom.runs t).flatMap fun run => (cuts pattern (t.drop run.length)).map (run :: ·)

/-- The leftmost match of a pattern that reaches to the end of the text: what each part of it
matches. -/
def Pattern.first? (pattern : Pattern) : Text → Option (List Text)
  | [] => (pattern.cuts []).head?
  | c :: t => (pattern.cuts (c :: t)).head?.or (first? pattern t)

/-! ## Runs -/

variable {p : Char → Bool} {t run : Text}

theorem head?_runs (p : Char → Bool) (t : Text) : (runs p t).head? = some (t.takeWhile p) := by
  induction t with
  | nil => rfl
  | cons c t ih =>
    by_cases hc : p c
    · simp [runs, hc, ih]
    · simp [runs, hc]

theorem drop_length_takeWhile (p : Char → Bool) (t : Text) :
    t.drop (t.takeWhile p).length = t.dropWhile p := by
  calc t.drop (t.takeWhile p).length
      = (t.takeWhile p ++ t.dropWhile p).drop (t.takeWhile p).length := by
        rw [List.takeWhile_append_dropWhile]
    _ = t.dropWhile p := List.drop_left

theorem mem_runs_iff : run ∈ runs p t ↔ run <+: t ∧ ∀ c ∈ run, p c := by
  induction t generalizing run with
  | nil =>
    rw [runs, List.mem_singleton, List.prefix_nil]
    constructor
    · rintro rfl
      simp
    · exact And.left
  | cons c t ih =>
    cases run with
    | nil =>
      by_cases hc : p c
      · simp [runs, hc]
      · simp [runs, hc]
    | cons d run =>
      rw [List.cons_prefix_cons]
      by_cases hc : p c
      · simp only [runs, hc, if_true, List.mem_append, List.mem_map, List.cons.injEq, ih]
        constructor
        · rintro (⟨run', ⟨hfront, hall⟩, rfl, rfl⟩ | h)
          · exact ⟨⟨rfl, hfront⟩, List.forall_mem_cons.2 ⟨hc, hall⟩⟩
          · simp at h
        · rintro ⟨⟨rfl, hfront⟩, hall⟩
          exact Or.inl ⟨run, ⟨hfront, (List.forall_mem_cons.1 hall).2⟩, rfl, rfl⟩
      · simp only [runs, hc, Bool.false_eq_true, if_false, List.mem_singleton, reduceCtorEq, false_iff]
        rintro ⟨⟨rfl, -⟩, hall⟩
        exact hc (hall d List.mem_cons_self)

/-- What a part of a pattern stands for. -/
def Atom.Matches : Atom → Text → Prop
  | one p, run => ∃ c, run = [c] ∧ p c
  | many p, run => run ≠ [] ∧ ∀ c ∈ run, p c
  | any p, run => ∀ c ∈ run, p c

theorem Atom.mem_runs_iff {atom : Atom} : run ∈ atom.runs t ↔ run <+: t ∧ atom.Matches run := by
  cases atom with
  | one p =>
    cases t with
    | nil =>
      simp only [Atom.runs, List.not_mem_nil, List.prefix_nil, Atom.Matches, false_iff]
      rintro ⟨rfl, c, h, -⟩
      cases h
    | cons c t =>
      have hmem : run ∈ (one p).runs (c :: t) ↔ p c ∧ run = [c] := by
        by_cases hc : p c
        · simp [Atom.runs, hc]
        · simp [Atom.runs, hc]
      rw [hmem]
      constructor
      · rintro ⟨hc, rfl⟩
        exact ⟨List.prefix_append [c] t, c, rfl, hc⟩
      · rintro ⟨hfront, d, rfl, hd⟩
        obtain ⟨rfl, -⟩ := List.cons_prefix_cons.1 hfront
        exact ⟨hd, rfl⟩
  | many p =>
    rw [Atom.runs, List.mem_filter, Text.mem_runs_iff, Atom.Matches, decide_eq_true_eq, and_assoc]
    exact and_congr_right fun _ => and_comm
  | any p => exact Text.mem_runs_iff

namespace Pattern

variable {atom : Atom} {pattern : Pattern} {groups : List Text}

/-- **A pattern matches a text in all the ways in which the text falls into parts that match.** -/
theorem mem_cuts_iff :
    groups ∈ pattern.cuts t ↔ groups.flatten = t ∧ List.Forall₂ Atom.Matches pattern groups := by
  induction pattern generalizing t groups with
  | nil =>
    rw [List.forall₂_nil_left_iff]
    cases t with
    | nil =>
      rw [cuts, List.mem_singleton]
      constructor
      · rintro rfl
        exact ⟨rfl, rfl⟩
      · exact And.right
    | cons c t =>
      simp only [cuts, List.not_mem_nil, false_iff]
      rintro ⟨h, rfl⟩
      cases h
  | cons atom pattern ih =>
    simp only [cuts, List.mem_flatMap, List.mem_map, Atom.mem_runs_iff, ih, List.forall₂_cons_left_iff]
    constructor
    · rintro ⟨run, ⟨hfront, hrun⟩, rest, ⟨hflat, hrest⟩, rfl⟩
      refine ⟨?_, run, rest, hrun, hrest, rfl⟩
      rw [List.flatten_cons, hflat]
      exact List.prefix_iff_eq_append.1 hfront
    · rintro ⟨rfl, run, rest, hrun, hrest, rfl⟩
      refine ⟨run, ⟨List.prefix_append _ _, hrun⟩, rest, ⟨?_, hrest⟩, rfl⟩
      rw [List.flatten_cons, List.drop_left]

/-- The longest run is preferred where the rest of the pattern matches behind it. -/
theorem head?_cuts_cons {rest : List Text} (hrun : (atom.runs t).head? = some run)
    (hrest : (pattern.cuts (t.drop run.length)).head? = some rest) :
    (cuts (atom :: pattern) t).head? = some (run :: rest) := by
  obtain ⟨runs', hruns⟩ := List.head?_eq_some_iff.1 hrun
  obtain ⟨rests, hrests⟩ := List.head?_eq_some_iff.1 hrest
  rw [cuts, hruns, List.flatMap_cons, hrests]
  rfl

theorem head?_cuts_any {rest : List Text}
    (hrest : (pattern.cuts (t.dropWhile p)).head? = some rest) :
    (cuts (.any p :: pattern) t).head? = some (t.takeWhile p :: rest) := by
  refine head?_cuts_cons (head?_runs p t) ?_
  rwa [drop_length_takeWhile]

theorem head?_cuts_many {rest : List Text} (hrun : t.takeWhile p ≠ [])
    (hrest : (pattern.cuts (t.dropWhile p)).head? = some rest) :
    (cuts (.many p :: pattern) t).head? = some (t.takeWhile p :: rest) := by
  refine head?_cuts_cons ?_ (by rwa [drop_length_takeWhile])
  obtain ⟨shorter, hruns⟩ := List.head?_eq_some_iff.1 (head?_runs p t)
  rw [Atom.runs, hruns, List.filter_cons_of_pos (by simpa using hrun)]
  rfl

theorem cuts_one_of_pos {c : Char} (hc : p c) :
    cuts (.one p :: pattern) (c :: t) = (pattern.cuts t).map ([c] :: ·) := by
  simp [cuts, Atom.runs, hc]

/-- A run that reaches to the end of the text is matched as a whole. -/
theorem head?_cuts_any_of_all (h : ∀ c ∈ t, p c) : (cuts [.any p] t).head? = some [t] := by
  have hrest : (cuts [] (t.dropWhile p)).head? = some [] := by
    rw [List.dropWhile_eq_nil_iff.2 h]
    rfl
  rw [head?_cuts_any hrest, List.takeWhile_eq_self_iff.2 h]

/-! ## The leftmost match -/

/-- Where there is no match, the search goes on with the next character. -/
theorem first?_cons_of_cuts_eq_nil {c : Char} (h : pattern.cuts (c :: t) = []) :
    pattern.first? (c :: t) = pattern.first? t := by
  rw [first?, h]
  rfl

theorem first?_cons_of_cuts_eq_cons {c : Char} {cut : List Text} {cuts : List (List Text)}
    (h : pattern.cuts (c :: t) = cut :: cuts) : pattern.first? (c :: t) = some cut := by
  rw [first?, h]
  rfl

/-- **The leftmost match is the preferred one of the longest end of the text that matches.** -/
theorem first?_eq_some_iff :
    pattern.first? t = some groups ↔ ∃ tail, tail <:+ t ∧
      (pattern.cuts tail).head? = some groups ∧
      ∀ longer, longer <:+ t → tail.length < longer.length → pattern.cuts longer = [] := by
  induction t with
  | nil =>
    simp only [List.suffix_nil]
    constructor
    · intro h
      exact ⟨[], rfl, h, by rintro _ rfl hlt; simp at hlt⟩
    · rintro ⟨_, rfl, h, -⟩
      exact h
  | cons c t ih =>
    simp only [List.suffix_cons_iff]
    cases hcuts : pattern.cuts (c :: t) with
    | nil =>
      rw [first?_cons_of_cuts_eq_nil hcuts, ih]
      constructor
      · rintro ⟨tail, hsuffix, hhead, hnone⟩
        refine ⟨tail, Or.inr hsuffix, hhead, ?_⟩
        rintro longer (rfl | hlonger) hlt
        · exact hcuts
        · exact hnone longer hlonger hlt
      · rintro ⟨tail, rfl | hsuffix, hhead, hnone⟩
        · simp [hcuts] at hhead
        · exact ⟨tail, hsuffix, hhead, fun longer hlonger => hnone longer (Or.inr hlonger)⟩
    | cons cut cuts =>
      rw [first?_cons_of_cuts_eq_cons hcuts]
      constructor
      · intro h
        refine ⟨c :: t, Or.inl rfl, by rw [hcuts]; exact h, ?_⟩
        rintro longer (rfl | hlonger) hlt
        · exact absurd hlt (Nat.lt_irrefl _)
        · exact absurd hlt (Nat.not_lt.2 (Nat.le_succ_of_le hlonger.length_le))
      · rintro ⟨tail, rfl | hsuffix, hhead, hnone⟩
        · rwa [hcuts] at hhead
        · have hnil := hnone (c :: t) (Or.inl rfl) (Nat.lt_succ_of_le hsuffix.length_le)
          simp [hcuts] at hnil

/-- A match is found just when some end of the text matches. -/
theorem isSome_first?_iff :
    (pattern.first? t).isSome ↔ ∃ tail cut, tail <:+ t ∧ cut ∈ pattern.cuts tail := by
  induction t with
  | nil =>
    cases hcuts : pattern.cuts [] with
    | nil => simp [first?, hcuts]
    | cons cut cuts => simp [first?, hcuts]
  | cons c t ih =>
    simp only [List.suffix_cons_iff]
    cases hcuts : pattern.cuts (c :: t) with
    | nil =>
      rw [first?_cons_of_cuts_eq_nil hcuts, ih]
      constructor
      · rintro ⟨tail, cut, hsuffix, hcut⟩
        exact ⟨tail, cut, Or.inr hsuffix, hcut⟩
      · rintro ⟨tail, cut, rfl | hsuffix, hcut⟩
        · simp [hcuts] at hcut
        · exact ⟨tail, cut, hsuffix, hcut⟩
    | cons cut cuts =>
      rw [first?_cons_of_cuts_eq_cons hcuts]
      exact iff_of_true rfl ⟨c :: t, cut, Or.inl rfl, by simp [hcuts]⟩

end Pattern

end MarkupPad.Text
