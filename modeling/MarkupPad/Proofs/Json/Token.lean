import MarkupPad.Json.Printer
import MarkupPad.Proofs.Json.Literal
import MarkupPad.Proofs.Text.Symbols

/-!
# Tokens one by one

Every token takes at least one symbol, so that the number of symbols bounds that of the steps.
Blanks are passed over, and the tokens of a text are its first token and those of the rest.

    all? s = (all? rest).map (token :: ·)  if  first? s = some (token, rest)    (all?_of_first?)
    first? (quote t ++ rest) = some (atom (text t), rest)                        (first?_quote)
    first? (l.text ++ rest) = some (atom (number l.text), rest)                 (first?_number)
-/

namespace MarkupPad.Json

open Text

namespace Token

/-! ## Every token takes symbols -/

/-- What follows one more unit is what follows the units after it. -/
theorem exists_of_cons_units {r : Option (List Unit16 × Symbols)} {unit : Unit16}
    {units : List Unit16} {rest : Symbols}
    (h : (do let (units, rest) ← r; return (unit :: units, rest)) = some (units, rest)) :
    ∃ units', r = some (units', rest) := by
  cases r with
  | none => cases h
  | some r =>
    cases h
    exact ⟨r.1, rfl⟩

theorem length_lt_of_units? {s rest : Symbols} {units : List Unit16}
    (h : units? s = some (units, rest)) : rest.length < s.length := by
  fun_induction units? s generalizing units with
  | case1 => cases h
  | case2 rest' =>
    cases h
    exact Nat.lt_succ_self _
  | case3 a b c d rest' ih =>
    obtain ⟨code, -, h⟩ := Option.bind_eq_some_iff.1 h
    obtain ⟨units', h⟩ := exists_of_cons_units h
    have := ih h
    simp only [List.length_cons]
    omega
  | case4 letter rest' hletter ih =>
    obtain ⟨c, -, h⟩ := Option.bind_eq_some_iff.1 h
    obtain ⟨units', h⟩ := exists_of_cons_units h
    have := ih h
    simp only [List.length_cons]
    omega
  | case5 => cases h
  | case6 c rest' _ _ _ _ ih =>
    obtain ⟨units', h⟩ := exists_of_cons_units h
    exact Nat.lt_succ_of_lt (ih h)
  | case7 rest' ih =>
    obtain ⟨units', h⟩ := exists_of_cons_units h
    exact Nat.lt_succ_of_lt (ih h)

theorem length_spanOf (p : Char → Bool) (s : Symbols) :
    (spanOf p s).1.length + (spanOf p s).2.length = s.length := by
  fun_induction spanOf p s with
  | case1 c rest hc run rest' hspan ih =>
    rw [hspan] at ih
    dsimp only at ih
    simp only [List.length_cons]
    omega
  | case2 => simp
  | case3 => simp

/-- A run that is not empty takes symbols. -/
theorem length_spanOf_lt {p : Char → Bool} {s : Symbols} (h : (spanOf p s).1 ≠ []) :
    (spanOf p s).2.length < s.length := by
  have hlength := length_spanOf p s
  have hpos := List.length_pos_iff.2 h
  omega

theorem length_lt_of_first? {s rest : Symbols} {token : Token}
    (h : first? s = some (token, rest)) : rest.length < s.length := by
  unfold first? at h
  split at h
  · cases h
  · cases h
  · next c rest' =>
    split at h
    · cases h
      exact Nat.lt_succ_self _
    · split at h
      · obtain ⟨⟨units, rest''⟩, hunits, h⟩ := Option.bind_eq_some_iff.1 h
        cases h
        exact Nat.lt_succ_of_lt (length_lt_of_units? hunits)
      · split at h
        · simp only [Option.ite_none_right_eq_some, Option.some.injEq, Prod.mk.injEq] at h
          obtain ⟨hnumber, -, rfl⟩ := h
          refine length_spanOf_lt fun hempty => ?_
          rw [hempty] at hnumber
          cases hnumber
        · have hlt := length_spanOf_lt (p := Char.isAlpha) (s := some c :: rest')
          generalize spanOf Char.isAlpha (some c :: rest') = run at h hlt
          obtain ⟨value, hword, h⟩ := Option.bind_eq_some_iff.1 h
          cases h
          refine hlt fun hempty => ?_
          rw [hempty] at hword
          cases hword

/-! ## The tokens one by one -/

/-- As many steps as there are symbols are enough, and more make no difference. -/
theorem allFrom?_eq_allFrom? {fuel fuel' : Nat} {s : Symbols} (h : s.length ≤ fuel)
    (h' : s.length ≤ fuel') : allFrom? fuel s = allFrom? fuel' s := by
  induction fuel generalizing fuel' s with
  | zero =>
    rw [List.length_eq_zero_iff.1 (Nat.le_zero.1 h)]
    simp [allFrom?]
  | succ fuel ih =>
    cases s with
    | nil => simp [allFrom?]
    | cons symbol rest =>
      cases fuel' with
      | zero => cases h'
      | succ fuel' =>
        have hrest := Nat.le_of_succ_le_succ h
        have hrest' := Nat.le_of_succ_le_succ h'
        rw [allFrom?, allFrom?, ih hrest hrest']
        cases hfirst : first? (symbol :: rest) with
        | none => rfl
        | some first =>
          have hlt := Nat.le_of_lt_succ (length_lt_of_first? hfirst)
          simp only [Option.bind_eq_bind, Option.bind_some]
          rw [ih (Nat.le_trans hlt hrest) (Nat.le_trans hlt hrest')]

theorem all?_nil : all? [] = some [] := rfl

/-- A blank is passed over. -/
theorem all?_blank {c : Char} (h : isBlank c) (rest : Symbols) :
    all? (some c :: rest) = all? rest := by
  rw [all?, List.length_cons, allFrom?, Option.any_some, if_pos h, all?]

/-- No token begins with a blank. -/
theorem first?_blank {c : Char} (h : isBlank c) (rest : Symbols) :
    first? (some c :: rest) = none := by
  simp only [isBlank, Bool.or_eq_true, decide_eq_true_eq] at h
  rcases h with ((rfl | rfl) | rfl) | rfl <;> rfl

/-- A token is followed by the tokens of the rest. -/
theorem all?_of_first? {s rest : Symbols} {token : Token} (h : first? s = some (token, rest)) :
    all? s = (all? rest).map (token :: ·) := by
  cases s with
  | nil => cases h
  | cons symbol rest' =>
    have hblank : ¬ symbol.any isBlank := by
      cases symbol with
      | none => simp
      | some c =>
        intro hc
        rw [first?_blank hc] at h
        cases h
    have hlt := Nat.le_of_lt_succ (length_lt_of_first? h)
    rw [all?, List.length_cons, allFrom?, if_neg hblank, h, all?]
    simp only [Option.bind_eq_bind, Option.bind_some]
    rw [allFrom?_eq_allFrom? hlt (Nat.le_refl _)]
    cases allFrom? rest.length rest <;> rfl

/-! ## Strings -/

theorem hexCode?_of_lt {n : Nat} (h : n < 0x20) :
    hexCode? (some '0') (some '0') (some (Nat.digitChar (n / 16)))
      (some (Nat.digitChar (n % 16))) = some n := by
  decide +revert

/-- A character below any surrogate stands for itself also when it is escaped. -/
theorem characters?_escaped {c : Char} (h : c.toNat < 0xD800) (units : List Unit16) :
    characters? (.escaped c.toNat :: units) = (characters? units).map (c :: ·) := by
  have hhigh : isHigh c.toNat = false := by
    simp [isHigh]
    omega
  have hlow : isLow c.toNat = false := by
    simp [isLow]
    omega
  cases units with
  | nil => simp [characters?, hhigh, hlow, Char.ofNat_toNat]
  | cons unit units => cases unit <;> simp [characters?, hhigh, hlow, Char.ofNat_toNat]

/-- A character as it stands in a string is read as one unit, which stands for it. -/
theorem units?_escapeChar (c : Char) (s : Symbols) :
    ∃ unit, units? (.ofText (escapeChar c) ++ s) =
        (units? s).map (fun (units, rest) => (unit :: units, rest)) ∧
      ∀ units, characters? (unit :: units) = (characters? units).map (c :: ·) := by
  have hchar : ∀ units, characters? (.char c :: units) = (characters? units).map (c :: ·) :=
    fun _ => rfl
  unfold escapeChar
  split
  iterate 7
    refine ⟨_, ?_, hchar⟩
    simp only [Symbols.ofText, List.map_cons, List.map_nil, List.cons_append, List.nil_append]
    cases h : units? s <;> simp [units?, h, escape?]
  · split
    · next hcontrol =>
      refine ⟨_, ?_, characters?_escaped (by omega)⟩
      simp only [Symbols.ofText, List.map_cons, List.map_nil, List.cons_append, List.nil_append]
      rw [units?, hexCode?_of_lt hcontrol]
      cases h : units? s <;> rfl
    · refine ⟨_, ?_, hchar⟩
      cases h : units? s <;> simp_all [units?, Symbols.ofText]

/-- **A string is read up to its closing quote and gives the text back.** -/
theorem units?_quoted (t : Text) (rest : Symbols) :
    ∃ units, units? (.ofText (t.flatMap escapeChar) ++ some '"' :: rest) = some (units, rest) ∧
      characters? units = some t := by
  induction t with
  | nil => exact ⟨[], rfl, rfl⟩
  | cons c t ih =>
    obtain ⟨units, hunits, ht⟩ := ih
    obtain ⟨unit, hunit, hc⟩ :=
      units?_escapeChar c (.ofText (t.flatMap escapeChar) ++ some '"' :: rest)
    refine ⟨unit :: units, ?_, ?_⟩
    · rw [hunits] at hunit
      rw [List.flatMap_cons, Symbols.ofText_append, List.append_assoc, hunit]
      rfl
    · rw [hc, ht]
      rfl

theorem first?_quote (t : Text) (rest : Symbols) :
    first? (.ofText (quote t) ++ rest) = some (atom (text t), rest) := by
  obtain ⟨units, hunits, ht⟩ := units?_quoted t rest
  have hquote : Symbols.ofText (quote t) ++ rest =
      some '"' :: (Symbols.ofText (t.flatMap escapeChar) ++ some '"' :: rest) := by
    simp [quote, Symbols.ofText]
  rw [hquote]
  simp [first?, mark?, hunits, ht, text]

/-! ## Numbers and words -/

/-- What cannot belong to an atom before it. -/
def separates (c : Char) : Bool := !isNumberChar c && !c.isAlpha

/-- Nothing that follows belongs to an atom before it. -/
def Separated (s : Symbols) : Prop := ∀ c, s.head? = some (some c) → separates c

/-- A run ends where something begins that is not in the class. -/
theorem spanOf_ofText {p : Char → Bool} {t : Text} {rest : Symbols} (h : ∀ c ∈ t, p c)
    (hrest : ∀ c, rest.head? = some (some c) → ¬ p c) :
    spanOf p (.ofText t ++ rest) = (t, rest) := by
  induction t with
  | nil =>
    match rest with
    | [] | none :: _ => rfl
    | some c :: rest =>
      have hc : ¬ p c := hrest c rfl
      simp [Symbols.ofText, spanOf, hc]
  | cons c t ih =>
    rw [List.forall_mem_cons] at h
    have ih := ih h.2
    simp only [Symbols.ofText] at ih
    simp [Symbols.ofText, spanOf, h.1, ih]

theorem Separated.not_isNumberChar {s : Symbols} (h : Separated s) (c : Char)
    (hc : s.head? = some (some c)) : ¬ isNumberChar c := by
  have := h c hc
  simp only [separates, Bool.and_eq_true, Bool.not_eq_true'] at this
  simp [this.1]

theorem Separated.not_isAlpha {s : Symbols} (h : Separated s) (c : Char)
    (hc : s.head? = some (some c)) : ¬ c.isAlpha := by
  have := h c hc
  simp only [separates, Bool.and_eq_true, Bool.not_eq_true'] at this
  simp [this.2]

theorem mark?_of_isNumberChar {c : Char} (h : isNumberChar c) : mark? c = none := by
  unfold mark?
  split <;> first | rfl | cases h

theorem first?_number {l : Literal} (h : l.IsWritten) {rest : Symbols} (hrest : Separated rest) :
    first? (.ofText l.text ++ rest) = some (atom (.number l.text), rest) := by
  have hspan := spanOf_ofText (Literal.isNumberChar_of_mem_text h) hrest.not_isNumberChar
  have hnumber := Literal.isNumber_text h
  obtain ⟨c, t, ht, hc⟩ := Literal.exists_text_eq_cons h
  have hchar : isNumberChar c := Literal.isNumberChar_of_mem_text h c (ht ▸ List.mem_cons_self)
  have hquote : c ≠ '"' := by
    rintro rfl
    cases hchar
  rw [ht] at hspan hnumber ⊢
  simp only [Symbols.ofText, List.map_cons, List.cons_append] at hspan ⊢
  simp only [first?, mark?_of_isNumberChar hchar, if_neg hquote, if_pos hc, hspan, if_pos hnumber]

theorem word?_eq_some {word : Text} {value : Json} (h : word? word = some value) :
    word ∈ ["null".toList, "true".toList, "false".toList] := by
  unfold word? at h
  split at h
  case h_4 => cases h
  all_goals
    next hword =>
      have hlist := congrArg String.toList hword
      rw [String.toList_ofList] at hlist
      simp [hlist]

theorem first?_word (word : Text) {value : Json} (h : word? word = some value)
    {rest : Symbols} (hrest : Separated rest) :
    first? (.ofText word ++ rest) = some (atom value, rest) := by
  have hword := word?_eq_some h
  have hletters : ∀ c ∈ word, c.isAlpha := by
    simp only [List.mem_cons, List.not_mem_nil, or_false] at hword
    rcases hword with rfl | rfl | rfl <;> exact List.all_eq_true.1 (by decide)
  have hspan := spanOf_ofText hletters hrest.not_isAlpha
  simp only [List.mem_cons, List.not_mem_nil, or_false] at hword
  rcases hword with rfl | rfl | rfl <;>
  · simp only [Symbols.ofText, String.reduceToList, List.map_cons, List.map_nil,
      List.cons_append, List.nil_append] at hspan h ⊢
    simp [first?, mark?, hspan, h]

end Token

end MarkupPad.Json
