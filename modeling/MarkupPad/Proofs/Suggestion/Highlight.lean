import MarkupPad.Suggestion.Menu

/-!
# The highlight goes round in a circle

On a circle every whole number is the place of an entry, whatever number of times one has gone
around.  Down and Up go one place on and one place back, so the order in which they are taken does
not matter, only how many there are of each.

    i % n = j % n → m.highlight i = m.highlight j,  n = m.items.length        (highlight_congr)
    m.isActive → (m.highlight i).next = m.highlight (i + 1)                   (next_highlight)
    m.isActive → (m.highlight i).prev? = some (m.highlight (i - 1))           (prev?_highlight)
    m.InRange → ∃ m', m.change? c = some m' ∧ m'.InRange                      (InRange.change?)
    m.isActive →
      (m.highlight i).changeAll? (turns.map .turn) = some (m.highlight (i + Turn.placesOf turns))
                                                                    (changeAll?_turn_highlight)
-/

namespace MarkupPad.Menu

variable {m : Menu} {i j : Int}

/-- The menu with its highlight at a place of the circle. -/
def highlight (m : Menu) (i : Int) : Menu :=
  { m with index := (i % (m.items.length : Int)).toNat }

/-- One place on or one place back. -/
inductive Turn where
  | next | prev
  deriving DecidableEq

/-- How many places a turn goes on. -/
def Turn.places : Turn → Int
  | next => 1
  | prev => -1

/-- How many places turns go on, one with the other. -/
def Turn.placesOf (turns : List Turn) : Int := turns.count next - turns.count prev

/-- What can be done to a menu. -/
inductive Change where
  /-- Other suggestions take the place of those on offer. -/
  | offer (items : List Suggestion)
  | clear
  | turn (turn : Turn)
  | hover (index : Nat)

/-- The menu after a change; `none` when the index falls below zero. -/
def change? (m : Menu) : Change → Option Menu
  | .offer items => some (ofList items)
  | .clear => some empty
  | .turn .next => some m.next
  | .turn .prev => m.prev?
  | .hover index => some ((m.hover? index).getD m)

/-- The menu after changes one after the other. -/
def changeAll? (m : Menu) (changes : List Change) : Option Menu := changes.foldlM change? m

/-- The highlight is on an entry, or at 0 when there are none. -/
def InRange (m : Menu) : Prop := m.index < m.items.length ∨ m = empty

theorem length_pos_of_isActive (h : m.isActive) : 0 < m.items.length := by
  rw [List.length_pos_iff]
  intro hnil
  simp [isActive, hnil] at h

theorem highlight_congr (h : i % m.items.length = j % m.items.length) :
    m.highlight i = m.highlight j := by
  rw [highlight, h, highlight]

theorem highlight_cast (m : Menu) (index : Nat) :
    m.highlight index = { m with index := index % m.items.length } := by
  rw [highlight, ← Int.natCast_emod, Int.toNat_natCast]

/-- The index of an entry is its place. -/
theorem highlight_of_lt {index : Nat} (h : index < m.items.length) :
    m.highlight index = { m with index := index } := by
  rw [highlight_cast, Nat.mod_eq_of_lt h]

/-- The place of the highlight is its index, but for the times around. -/
theorem cast_index_highlight (h : m.isActive) (i : Int) :
    ((m.highlight i).index : Int) = i % m.items.length := by
  have hpos := length_pos_of_isActive h
  exact Int.toNat_of_nonneg (Int.emod_nonneg i (by omega))

theorem next_highlight (h : m.isActive) (i : Int) : (m.highlight i).next = m.highlight (i + 1) := by
  have hplace : (((m.highlight i).index + 1 : Nat) : Int) % m.items.length =
      (i + 1) % m.items.length := by
    rw [Int.natCast_add, cast_index_highlight h, Int.emod_add_emod]
    rfl
  rw [← highlight_congr hplace, highlight_cast, next, if_pos (show (m.highlight i).isActive from h)]
  rfl

/-- To go one place back is to go nearly once around, so the index does not fall below zero. -/
theorem prev?_highlight (h : m.isActive) (i : Int) :
    (m.highlight i).prev? = some (m.highlight (i - 1)) := by
  have hpos := length_pos_of_isActive h
  have hone : 1 ≤ (m.highlight i).index + m.items.length := by omega
  have hplace : (((m.highlight i).index + m.items.length - 1 : Nat) : Int) % m.items.length =
      (i - 1) % m.items.length := by
    rw [Int.ofNat_sub hone, Int.natCast_add, cast_index_highlight h]
    show (i % m.items.length + m.items.length - 1) % m.items.length = _
    rw [Int.sub_emod, Int.add_emod_right, Int.emod_emod, ← Int.sub_emod]
  rw [← highlight_congr hplace, highlight_cast, prev?,
    if_pos (show (m.highlight i).isActive from h), Buffer.minus?]
  show (if 1 ≤ (m.highlight i).index + m.items.length then _ else _ : Option Nat).map _ = _
  rw [if_pos hone]
  rfl

/-! ## The highlight after any changes -/

theorem isActive_of_index_lt (h : m.index < m.items.length) : m.isActive := by
  have hne : m.items ≠ [] := List.ne_nil_of_length_pos (Nat.zero_lt_of_lt h)
  simpa [isActive] using hne

theorem change?_turn_highlight (h : m.isActive) (turn : Turn) (i : Int) :
    (m.highlight i).change? (.turn turn) = some (m.highlight (i + turn.places)) := by
  cases turn with
  | next => exact congrArg some (next_highlight h i)
  | prev => exact prev?_highlight h i

theorem change?_turn_empty (turn : Turn) : empty.change? (.turn turn) = some empty := by
  cases turn with
  | next => rfl
  | prev => rfl

theorem inRange_ofList (items : List Suggestion) : (ofList items).InRange := by
  cases items with
  | nil => exact .inr rfl
  | cons item items => exact .inl (Nat.zero_lt_succ _)

theorem inRange_highlight (h : m.isActive) (i : Int) : (m.highlight i).InRange := by
  have hpos := length_pos_of_isActive h
  have hlt : ((m.highlight i).index : Int) < m.items.length := by
    rw [cast_index_highlight h]
    exact Int.emod_lt_of_pos i (by omega)
  exact .inl (Int.ofNat_lt.1 hlt)

/-- A menu in range is without entries, or at some place of the circle. -/
theorem InRange.eq_empty_or_highlight (h : m.InRange) :
    m = empty ∨ m.isActive ∧ m.highlight m.index = m := by
  rcases h with hlt | hempty
  · exact .inr ⟨isActive_of_index_lt hlt, highlight_of_lt hlt⟩
  · exact .inl hempty

/-- **One change keeps the highlight in range**, and never takes the index below zero. -/
theorem InRange.change? (h : m.InRange) (c : Change) :
    ∃ m', m.change? c = some m' ∧ m'.InRange := by
  cases c with
  | offer items => exact ⟨_, rfl, inRange_ofList items⟩
  | clear => exact ⟨_, rfl, .inr rfl⟩
  | turn turn =>
    rcases h.eq_empty_or_highlight with rfl | ⟨hactive, hself⟩
    · exact ⟨_, change?_turn_empty turn, .inr rfl⟩
    · rw [← hself]
      exact ⟨_, change?_turn_highlight hactive turn _, inRange_highlight hactive _⟩
  | hover index =>
    refine ⟨_, rfl, ?_⟩
    rw [hover?]
    split
    · next hindex => exact .inl hindex
    · exact h

theorem InRange.changeAll? (h : m.InRange) (changes : List Change) :
    ∃ m', m.changeAll? changes = some m' ∧ m'.InRange := by
  induction changes generalizing m with
  | nil => exact ⟨m, rfl, h⟩
  | cons c changes ih =>
    obtain ⟨m₁, hm₁, h₁⟩ := h.change? c
    rw [Menu.changeAll?, List.foldlM_cons, hm₁]
    exact ih h₁

theorem InRange.isSome_highlighted? (h : m.InRange) : m.highlighted?.isSome ↔ m.isActive := by
  rcases h with hlt | rfl
  · simp [highlighted?, hlt, isActive_of_index_lt hlt]
  · simp [highlighted?, empty, isActive]

/-! ## Turns -/

theorem placesOf_cons (turn : Turn) (turns : List Turn) :
    Turn.placesOf (turn :: turns) = turn.places + Turn.placesOf turns := by
  cases turn with
  | next =>
    rw [Turn.placesOf, List.count_cons_self, List.count_cons_of_ne (by decide), Turn.placesOf,
      Turn.places]
    omega
  | prev =>
    rw [Turn.placesOf, List.count_cons_self, List.count_cons_of_ne (by decide), Turn.placesOf,
      Turn.places]
    omega

/-- **Turns add up**, in whatever order they are taken. -/
theorem changeAll?_turn_highlight (h : m.isActive) (turns : List Turn) (i : Int) :
    (m.highlight i).changeAll? (turns.map .turn) =
      some (m.highlight (i + Turn.placesOf turns)) := by
  induction turns generalizing i with
  | nil => simp [Menu.changeAll?, Turn.placesOf]
  | cons turn turns ih =>
    rw [List.map_cons, placesOf_cons, ← Int.add_assoc, ← ih, Menu.changeAll?, List.foldlM_cons,
      change?_turn_highlight h]
    rfl

theorem changeAll?_turn_empty (turns : List Turn) :
    empty.changeAll? (turns.map .turn) = some empty := by
  induction turns with
  | nil => rfl
  | cons turn turns ih =>
    rw [List.map_cons, Menu.changeAll?, List.foldlM_cons, change?_turn_empty]
    exact ih

/-- Turns that go some times around come back to where they started. -/
theorem InRange.changeAll?_turn_self (h : m.InRange) (turns : List Turn)
    (haround : (m.items.length : Int) ∣ Turn.placesOf turns) :
    m.changeAll? (turns.map .turn) = some m := by
  rcases h.eq_empty_or_highlight with rfl | ⟨hactive, hself⟩
  · exact changeAll?_turn_empty turns
  · have hplace : (m.index + Turn.placesOf turns) % m.items.length =
        m.index % m.items.length := by
      obtain ⟨times, htimes⟩ := haround
      rw [htimes, Int.add_mul_emod_self_left]
    have hall := changeAll?_turn_highlight hactive turns m.index
    rwa [highlight_congr hplace, hself] at hall

/-- **The highlight goes round in a circle.**  After any changes of a new menu it is on an entry, if
there are any, and no index falls below zero on the way.  From there, turns on and back in any order
lead as many places on as there are more of the ones than of the others; so one on and one back are
inverse, as many turns as there are entries lead back to the start, and without entries a turn does
nothing. -/
theorem highlight_goes_round (changes : List Change) :
    ∃ m, empty.changeAll? changes = some m ∧
      (m.index < m.items.length ∨ m.items = [] ∧ m.index = 0) ∧
      (m.highlighted?.isSome ↔ m.isActive) ∧
      (∀ turns : List Turn, ∃ m', m.changeAll? (turns.map .turn) = some m' ∧
        m'.items = m.items ∧
        if m.isActive then
          (m'.index : Int) =
            (m.index + turns.count .next - turns.count .prev) % m.items.length
        else m' = m) ∧
      m.changeAll? [.turn .next, .turn .prev] = some m ∧
      m.changeAll? [.turn .prev, .turn .next] = some m ∧
      ∀ turn, m.changeAll? (List.replicate m.items.length (.turn turn)) = some m := by
  obtain ⟨m, hm, h⟩ := InRange.changeAll? (m := empty) (.inr rfl) changes
  refine ⟨m, hm, ?range, h.isSome_highlighted?, ?turns,
    h.changeAll?_turn_self [.next, .prev] ⟨0, rfl⟩,
    h.changeAll?_turn_self [.prev, .next] ⟨0, rfl⟩, ?around⟩
  case range =>
    rcases h with hlt | rfl
    · exact .inl hlt
    · exact .inr ⟨rfl, rfl⟩
  case turns =>
    intro turns
    rcases h.eq_empty_or_highlight with rfl | ⟨hactive, hself⟩
    · exact ⟨empty, changeAll?_turn_empty turns, rfl, rfl⟩
    · have hall := changeAll?_turn_highlight hactive turns m.index
      rw [hself] at hall
      refine ⟨_, hall, rfl, ?_⟩
      rw [if_pos hactive, cast_index_highlight hactive, Turn.placesOf, Int.add_sub_assoc]
  case around =>
    intro turn
    have haround : (m.items.length : Int) ∣
        Turn.placesOf (List.replicate m.items.length turn) := by
      cases turn with
      | next => simp [Turn.placesOf, List.count_replicate]
      | prev => simp [Turn.placesOf, List.count_replicate]
    have hself := h.changeAll?_turn_self _ haround
    rwa [List.map_replicate] at hself

end MarkupPad.Menu
