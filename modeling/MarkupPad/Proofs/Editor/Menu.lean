import MarkupPad.Proofs.Editor.Effect

/-!
# What an open menu holds

A menu opens on the words that a change of the markup offers, and the highlight moves around
among them.  Everything that leaves the markup, turns the suggestions off or rewrites the text
otherwise closes it.  So an open menu always belongs to the markup, and its entries are words of
one vocabulary in the order of the vocabulary.

    before, limit ↦ Suggestion.offer before limit is [] or what a menu offers   (offers_ofList)
    Reachable s → s.MenuFits                                         (Reachable.menuFits)
-/

namespace MarkupPad

open Text

namespace Suggestion

variable (before : Text) (limit : Nat)

theorem length_offer_le : (offer before limit).length ≤ limit := by
  unfold offer
  split
  · exact Nat.zero_le _
  · rw [List.length_map]
    exact List.length_take_le _ _

/-- What is offered are words of one vocabulary, in the order of the vocabulary. -/
theorem offer_sublist :
    ∃ kind, (∀ suggestion ∈ offer before limit, suggestion.kind = kind) ∧
      ((offer before limit).map (·.value)).Sublist (vocabulary kind) := by
  unfold offer
  split
  · refine ⟨.tag, ?_, List.nil_sublist _⟩
    intro suggestion h
    cases h
  · next context _ =>
    refine ⟨context.kind, ?_, ?_⟩
    · intro suggestion h
      obtain ⟨word, -, rfl⟩ := List.mem_map.1 h
      rfl
    · rw [List.map_map]
      show List.Sublist (List.map id _) _
      rw [List.map_id]
      exact (List.take_sublist _ _).trans List.filter_sublist

end Suggestion

namespace Menu

/-- A menu with its highlight on one of its entries.  There are no more of them than asked for,
and they are words of one vocabulary, in its order. -/
structure Offers (m : Menu) (limit : Nat) : Prop where
  index_lt : m.index < m.items.length
  length_le : m.items.length ≤ limit
  sublist : ∃ kind, (∀ suggestion ∈ m.items, suggestion.kind = kind) ∧
    (m.items.map (·.value)).Sublist (Suggestion.vocabulary kind)

variable {m m' : Menu} {limit : Nat}

theorem Offers.isActive (h : m.Offers limit) : m.isActive := isActive_of_index_lt h.index_lt

/-- The highlight may move to any entry. -/
theorem Offers.highlight (h : m.Offers limit) {index : Nat} (hindex : index < m.items.length) :
    Offers { m with index := index } limit :=
  ⟨hindex, h.length_le, h.sublist⟩

/-- A menu for the text before the caret is closed, or it offers words. -/
theorem offers_ofList (before : Text) (limit : Nat) :
    ofList (Suggestion.offer before limit) = .empty ∨
      (ofList (Suggestion.offer before limit)).Offers limit := by
  by_cases hne : Suggestion.offer before limit = []
  · left
    rw [hne]
    rfl
  · right
    exact ⟨List.length_pos_iff.2 hne, Suggestion.length_offer_le before limit,
      Suggestion.offer_sublist before limit⟩

/-- The keys of an open menu leave it with its entries, or close it. -/
theorem Offers.keyEffect (h : m.Offers limit) (hkey : m.KeyEffect m') :
    m' = .empty ∨ m'.Offers limit := by
  have hpos : 0 < m.items.length := Nat.zero_lt_of_lt h.index_lt
  cases hkey with
  | next =>
    right
    rw [next, if_pos h.isActive]
    exact h.highlight (Nat.mod_lt _ hpos)
  | prev hprev =>
    right
    rw [prev?, if_pos h.isActive, Option.map_eq_some_iff] at hprev
    obtain ⟨index, -, rfl⟩ := hprev
    exact h.highlight (Nat.mod_lt _ hpos)
  | close => exact Or.inl rfl

/-- They do nothing to a menu without entries. -/
theorem eq_empty_of_keyEffect (hkey : Menu.empty.KeyEffect m') : m' = .empty := by
  cases hkey with
  | next => rfl
  | prev hprev =>
    cases hprev
    rfl
  | close => rfl

end Menu

namespace Editor

variable {s s' : Editor}

/-- The menu is closed, or it offers words in the markup, where suggestions are on. -/
def MenuFits (s : Editor) : Prop :=
  s.menu = .empty ∨
    s.facet = .markup ∧ s.config.predictions ∧ s.menu.Offers s.config.maxSuggestions

/-! ## One operation -/

/-- Whoever leaves menu, facet and configuration alone keeps the menu fitting. -/
theorem MenuFits.congr (h : s.MenuFits) (hmenu : s'.menu = s.menu) (hfacet : s'.facet = s.facet)
    (hconfig : s'.config = s.config) : s'.MenuFits := by
  unfold MenuFits
  rw [hmenu, hfacet, hconfig]
  exact h

theorem menuFits_refresh? (h : s.refresh? = some s') : s'.MenuFits := by
  unfold refresh? at h
  split at h
  · next hmarkup =>
    simp only [Buffer.offer?_eq, Option.bind_eq_bind, Option.bind_eq_some_iff] at h
    obtain ⟨before, -, suggestions, hsuggestions, h⟩ := h
    cases hsuggestions
    cases h
    rcases Menu.offers_ofList before s.config.maxSuggestions with hclosed | hoffers
    · exact Or.inl hclosed
    · exact Or.inr ⟨hmarkup.1, hmarkup.2, hoffers⟩
  · cases h
    exact Or.inl rfl

/-- After a change the menu is the one for the new text. -/
theorem menuFits_change {t : Text} {selection : Selection} {r : Outcome × Editor}
    (h : s.change? t selection = some r) : r.2.MenuFits := by
  simp only [change?, Option.bind_eq_bind, Option.bind_eq_some_iff] at h
  obtain ⟨clamped, -, renamed, -, h⟩ := h
  split at h
  · obtain ⟨s', hs', h⟩ := Option.bind_eq_some_iff.1 h
    cases h
    exact menuFits_refresh? hs'
  · obtain ⟨s', hs', h⟩ := Option.bind_eq_some_iff.1 h
    cases h
    exact menuFits_refresh? hs'

theorem menuFits_flush (h : s.MenuFits) : s.flush.2.MenuFits := by
  obtain ⟨timer, history, hflush⟩ := flush_frame s
  rw [hflush]
  exact h.congr rfl rfl rfl

theorem menuFits_tick (h : s.MenuFits) (time : Nat) : (s.tick time).2.MenuFits := by
  obtain ⟨timer, history, htick⟩ := tick_frame s time
  rw [htick]
  exact h.congr rfl rfl rfl

theorem menuFits_undo (h : s.MenuFits) : s.undo.2.MenuFits := by
  rcases undo_cases s with ⟨-, hundo⟩ | ⟨history, -, -, hundo⟩
  · rw [hundo]
    exact menuFits_flush h
  · rw [hundo]
    exact Or.inl rfl

theorem menuFits_press {mayUndo : Prop} {r : Outcome × Editor} (h : s.MenuFits)
    (he : PressEffect s mayUndo r) : r.2.MenuFits := by
  cases he with
  | undo => exact menuFits_undo h
  | unchanged => exact h
  | menu menu hkey =>
    rcases h with hclosed | ⟨hfacet, hpredictions, hoffers⟩
    · rw [hclosed] at hkey
      exact Or.inl (Menu.eq_empty_of_keyEffect hkey)
    · rcases hoffers.keyEffect hkey with hclosed | hoffers'
      · exact Or.inl hclosed
      · exact Or.inr ⟨hfacet, hpredictions, hoffers'⟩
  | caret => exact h.congr rfl rfl rfl
  | act action => exact Or.inl rfl
  | change _ hr => exact menuFits_change hr

theorem menuFits_hover? {index : Nat} (h : s.MenuFits) (hs' : s.hover? index = some s') :
    s'.MenuFits := by
  unfold hover? Menu.hover? at hs'
  split at hs'
  · next hindex =>
    cases hs'
    rcases h with hclosed | ⟨hfacet, hpredictions, hoffers⟩
    · rw [hclosed] at hindex
      cases hindex
    · exact Or.inr ⟨hfacet, hpredictions, hoffers.highlight hindex⟩
  · cases hs'

/-- **Every operation leaves a menu that fits.** -/
theorem menuFits_perform? {operation : Operation} (h : s.MenuFits)
    (hp : s.perform? operation = some s') : s'.MenuFits := by
  cases operation with
  | press press =>
    obtain ⟨r, hr, rfl⟩ := Option.map_eq_some_iff.1 hp
    exact menuFits_press h (press?_effect hr)
  | change t selection =>
    obtain ⟨r, hr, rfl⟩ := Option.map_eq_some_iff.1 hp
    exact menuFits_change hr
  | switchTo facet =>
    cases hp
    exact Or.inl rfl
  | tick time =>
    cases hp
    exact menuFits_tick h time
  | advance delay =>
    cases hp
    exact menuFits_tick h _
  | hover index =>
    cases hp
    cases hs' : s.hover? index with
    | none => exact h
    | some s' => exact menuFits_hover? h hs'
  | click index =>
    obtain ⟨r, hr, rfl⟩ := Option.map_eq_some_iff.1 hp
    rcases click?_cases s index with hclick | ⟨edit, hclick⟩
    · rw [hclick] at hr
      cases hr
      exact h
    · rw [hclick] at hr
      cases hr
      exact Or.inl rfl
  | select start stop =>
    rw [perform?_select] at hp
    cases hp
    exact h.congr rfl rfl rfl
  | inject id =>
    rw [perform?_inject] at hp
    cases hp
    cases Template.find? id with
    | none => exact h
    | some template => exact Or.inl rfl
  | load document =>
    cases hp
    exact Or.inl rfl
  | finishRender =>
    rw [perform?_finishRender] at hp
    cases hp
    unfold withPending
    cases s.pendingSelection with
    | none => exact h
    | some pending => exact h.congr rfl rfl rfl
  | flush =>
    cases hp
    exact menuFits_flush h
  | setAutoClose on =>
    cases hp
    exact h
  | setPredictions on =>
    cases hp
    cases on with
    | false => exact Or.inl rfl
    | true =>
      rcases h with hclosed | ⟨hfacet, -, hoffers⟩
      · exact Or.inl hclosed
      · exact Or.inr ⟨hfacet, rfl, hoffers⟩

/-! ## Runs -/

/-- **In every state of an editor the menu fits.** -/
theorem Reachable.menuFits (h : Reachable s) : s.MenuFits := by
  induction h with
  | new config => exact Or.inl rfl
  | perform operation _ hp ih => exact menuFits_perform? ih hp

/-- **An open menu belongs to the markup**, where suggestions are on.  Its entries are words of
one vocabulary in the order of the vocabulary, not more than configured, with one of them
highlighted.  A closed menu has its highlight at the top and no place on the screen. -/
theorem open_menu_offers_words (h : Reachable s) :
    (s.menu.items ≠ [] →
      s.facet = .markup ∧ s.config.predictions ∧
      s.menu.items.length ≤ s.config.maxSuggestions ∧
      (∃ kind, (∀ suggestion ∈ s.menu.items, suggestion.kind = kind) ∧
        (s.menu.items.map (·.value)).Sublist (Suggestion.vocabulary kind)) ∧
      s.menu.index < s.menu.items.length) ∧
    (s.menu.items = [] → s.menu.index = 0 ∧ s.popup? = some none) := by
  rcases h.menuFits with hclosed | ⟨hfacet, hpredictions, hoffers⟩
  · constructor
    · intro hopen
      rw [hclosed] at hopen
      exact absurd rfl hopen
    · intro _
      rw [popup?, hclosed]
      exact ⟨rfl, rfl⟩
  · constructor
    · intro _
      exact ⟨hfacet, hpredictions, hoffers.length_le, hoffers.sublist, hoffers.index_lt⟩
    · intro hempty
      have hlt := hoffers.index_lt
      rw [hempty] at hlt
      cases hlt

/-- After `<th` the menu offers two elements, and Up goes from the first one to the last. -/
theorem open_menu_offers_words_after_up :
    ∃ s, Reachable s ∧ s.menu.items = [⟨"th".toList, .tag⟩, ⟨"thead".toList, .tag⟩] ∧
      s.menu.index = 1 ∧ s.facet = .markup ∧ s.config.predictions ∧
      (s.menu.items.map (·.value)).Sublist Vocabulary.tags := by
  have hth := Reachable.perform (.change "<th".toList ⟨3, 3⟩) (.new .default) rfl
  have hup := Reachable.perform (.press (.plain .up)) hth rfl
  obtain ⟨hfacet, hpredictions, -, ⟨kind, hkind, hsublist⟩, -⟩ :=
    (open_menu_offers_words hup).1 (List.cons_ne_nil _ _)
  obtain rfl : SuggestionKind.tag = kind := hkind _ List.mem_cons_self
  exact ⟨_, hup, rfl, rfl, hfacet, hpredictions, hsublist⟩

end Editor

end MarkupPad
