import Mathlib.Data.List.Forall2
import MarkupPad.Proofs.Script.Line
import MarkupPad.Proofs.Text.Case

/-!
# Keys with modifiers

The words before the last plus of a line are modifiers, in any order and as often as one likes, and
a plus behind a plus is the key itself.  Words are told from each other without regard to case, and
the first one that is no modifier is reported.

    Forall₂ IsModifierWord words held → IsKeyName name k →
      press (join ['+'] words ++ '+' :: name) = .ok ⟨k, unionAll held⟩        (press_of_words)
    IsCombination m ↔ m.bits.toNat < 16                              (isCombination_iff_bits_lt)
    IsCombination m → unionAll (m.parts.map (·.1)) = m                          (unionAll_parts)
-/

namespace MarkupPad

open Text

/-! ## Combinations of modifiers -/

namespace Modifiers

/-- The modifiers of a list together. -/
def unionAll (held : List Modifiers) : Modifiers := held.foldr union none

/-- A combination of the four modifiers; nothing else is built from them. -/
def IsCombination (m : Modifiers) : Prop :=
  ∃ held : List Modifiers, (∀ h ∈ held, h ∈ [ctrl, alt, shift, command]) ∧ unionAll held = m

/-- The modifiers held one by one, with their names. -/
def parts (m : Modifiers) : List (Modifiers × String) := named.filter fun (part, _) => m.holds part

theorem unionAll_parts_of_bits_lt {m : Modifiers} (h : m.bits.toNat < 16) :
    unionAll (m.parts.map (·.1)) = m := by
  have hall : ∀ n < 16, unionAll ((parts ⟨UInt8.ofNat n⟩).map (·.1)) = ⟨UInt8.ofNat n⟩ := by
    decide
  have hm := hall m.bits.toNat h
  rwa [UInt8.ofNat_toNat] at hm

/-- The combinations are all that four bits can say. -/
theorem isCombination_iff_bits_lt {m : Modifiers} : m.IsCombination ↔ m.bits.toNat < 16 := by
  constructor
  · rintro ⟨held, hheld, rfl⟩
    induction held with
    | nil => decide
    | cons part held ih =>
      obtain ⟨hpart, hheld⟩ := List.forall_mem_cons.1 hheld
      have hall : ∀ part ∈ [ctrl, alt, shift, command], part.bits.toNat < 16 := by decide
      have hor : ∀ a < 16, ∀ b < 16, a ||| b < 16 := by decide
      rw [unionAll, List.foldr_cons, union, UInt8.toNat_or]
      exact hor _ (hall part hpart) _ (ih hheld)
  · intro h
    refine ⟨m.parts.map (·.1), fun part hpart => ?_, unionAll_parts_of_bits_lt h⟩
    obtain ⟨p, hp, rfl⟩ := List.mem_map.1 hpart
    have hall : ∀ p ∈ named, p.1 ∈ [ctrl, alt, shift, command] := by decide
    exact hall p (List.mem_of_mem_filter hp)

/-- **A combination is made of its parts.** -/
theorem unionAll_parts {m : Modifiers} (h : m.IsCombination) :
    unionAll (m.parts.map (·.1)) = m :=
  unionAll_parts_of_bits_lt (isCombination_iff_bits_lt.1 h)

theorem label_eq {m : Modifiers} (h : m.isNone = false) :
    m.label.toList = join ['+'] (m.parts.map fun p => p.2.toList) := by
  rw [label, h]
  simp only [Bool.false_eq_true, if_false, String.toList_intercalate, List.map_map]
  rfl

end Modifiers

namespace Script

open Modifiers (unionAll IsCombination unionAll_parts label_eq)

/-! ## Names -/

/-- Some letters, at least one. -/
def IsLetters (w : Text) : Prop := w ≠ [] ∧ ∀ c ∈ w, c.isAlpha

/-- A word for a modifier, in whatever case. -/
def IsModifierWord (word : Text) (m : Modifiers) : Prop :=
  ∃ name, (name, m) ∈ modifierWords ∧ Same word name.toList

/-- What stands for a key: a character that is no blank, or a name in whatever case. -/
inductive IsKeyName : Text → Key → Prop where
  | char {c : Char} : isBlank c = false → IsKeyName [c] (.char c)
  | named {name : String} {word : Text} {k : Key} :
    (name, k) ∈ keyNames → Same word name.toList → IsKeyName word k

/-- Different names, each of two small letters or more. -/
def AreNames {α : Type} (names : List (String × α)) : Prop :=
  (names.map (·.1)).Nodup ∧
    ∀ name ∈ names.map (·.1), 2 ≤ name.toList.length ∧ name.toList.all Char.isLower

theorem areNames_modifierWords : AreNames modifierWords := by
  unfold AreNames
  decide

theorem areNames_keyNames : AreNames keyNames := by
  unfold AreNames
  decide

section
variable {α : Type} {names : List (String × α)} {name : String} {word : Text} {a : α}

theorem named?_eq_some_iff (h : (names.map (·.1)).Nodup) :
    named? names word = some a ↔ ∃ name, (name, a) ∈ names ∧ name.toList = word := by
  rw [named?, Option.map_eq_some_iff]
  constructor
  · rintro ⟨⟨name, a'⟩, hfind, rfl⟩
    exact ⟨name, List.mem_of_find?_eq_some hfind, by simpa using List.find?_some hfind⟩
  · rintro ⟨name, hmem, rfl⟩
    refine ⟨(name, a), ?_, rfl⟩
    induction names with
    | nil => cases hmem
    | cons entry names ih =>
      obtain ⟨hentry, hnodup⟩ := List.nodup_cons.1 h
      rcases List.mem_cons.1 hmem with rfl | hmem
      · exact List.find?_cons_of_pos (by simp)
      · have hne : entry.1 ≠ name := by
          rintro rfl
          exact hentry (List.mem_map.2 ⟨_, hmem, rfl⟩)
        rw [List.find?_cons_of_neg (by simpa [String.toList_inj] using hne)]
        exact ih hnodup hmem

variable (hnames : AreNames names)

include hnames

theorem AreNames.asciiLower_eq (hmem : (name, a) ∈ names) :
    asciiLower name.toList = name.toList := by
  obtain ⟨-, hlower⟩ := hnames.2 name (List.mem_map_of_mem hmem)
  exact asciiLower_of_isLower (List.all_eq_true.1 hlower)

/-- What is spelled like a name has letters only, and more than one. -/
theorem AreNames.isLetters (hmem : (name, a) ∈ names) (h : Same word name.toList) :
    2 ≤ word.length ∧ ∀ c ∈ word, c.isAlpha := by
  obtain ⟨hlength, hlower⟩ := hnames.2 name (List.mem_map_of_mem hmem)
  rw [Same, hnames.asciiLower_eq hmem] at h
  constructor
  · rw [← h, asciiLower, List.length_map] at hlength
    exact hlength
  · intro c hc
    exact isAlpha_of_isLower_toLower (List.all_eq_true.1 hlower _ (h ▸ List.mem_map_of_mem hc))

/-- A word of letters is looked up without regard to case. -/
theorem AreNames.named?_lower (hword : ∀ c ∈ word, c.isAlpha) :
    named? names (lower word) = some a ↔ ∃ name, (name, a) ∈ names ∧ Same word name.toList := by
  have hascii : ∀ c ∈ word, c.toNat < 128 := fun c hc => asciiClass_isAlpha c (hword c hc)
  rw [lower_of_ascii hascii, named?_eq_some_iff hnames.1]
  constructor
  · rintro ⟨name, hmem, h⟩
    refine ⟨name, hmem, ?_⟩
    rw [Same, hnames.asciiLower_eq hmem, h]
  · rintro ⟨name, hmem, h⟩
    rw [Same, hnames.asciiLower_eq hmem] at h
    exact ⟨name, hmem, h.symm⟩

end

/-! ## Words and keys -/

section
variable {word name : Text} {m : Modifiers} {k : Key}

theorem isBlank_of_isAlpha {c : Char} (h : c.isAlpha) : isBlank c = false := by
  by_contra hblank
  have hnone := asciiClass_isAlpha.eq_false_of_isBlank (by decide) (by simpa using hblank)
  rw [h] at hnone
  cases hnone

theorem trim_of_isAlpha (h : ∀ c ∈ word, c.isAlpha) : trim word = word :=
  trim_of_not_isBlank fun c hc => isBlank_of_isAlpha (h c hc)

theorem IsModifierWord.isLetters (h : IsModifierWord word m) : IsLetters word := by
  obtain ⟨name, hmem, hsame⟩ := h
  obtain ⟨hlength, halpha⟩ := areNames_modifierWords.isLetters hmem hsame
  refine ⟨?_, halpha⟩
  rintro rfl
  simp at hlength

theorem modifier_of_isModifierWord (h : IsModifierWord word m) : modifier word = .ok m := by
  obtain ⟨-, halpha⟩ := h.isLetters
  have hnamed := (areNames_modifierWords.named?_lower halpha).2 h
  rw [modifier, trim_of_isAlpha halpha]
  simp only [hnamed]

/-- Another word of letters is reported in small letters. -/
theorem modifier_of_not_isModifierWord (halpha : ∀ c ∈ word, c.isAlpha)
    (h : ∀ m, ¬ IsModifierWord word m) :
    modifier word = .error (.modifier (asciiLower word)) := by
  have hnamed : named? modifierWords (lower word) = none :=
    Option.eq_none_iff_forall_ne_some.2 fun m hm =>
      h m ((areNames_modifierWords.named?_lower halpha).1 hm)
  have hascii : ∀ c ∈ word, c.toNat < 128 := fun c hc => asciiClass_isAlpha c (halpha c hc)
  rw [modifier, trim_of_isAlpha halpha]
  simp only [hnamed]
  rw [lower_of_ascii hascii]

theorem modifiers_of_forall₂ {words : List Text} {held : List Modifiers}
    (h : List.Forall₂ IsModifierWord words held) : modifiers words = .ok (unionAll held) := by
  induction h with
  | nil => rfl
  | cons hword _ ih =>
    rw [modifiers, modifier_of_isModifierWord hword, ih]
    rfl

/-- The first word that is no modifier is reported. -/
theorem modifiers_of_error {words : List Text} {error : LineError}
    (hwords : ∀ w ∈ words, ∃ m, IsModifierWord w m) (h : modifier word = .error error)
    (rest : List Text) : modifiers (words ++ word :: rest) = .error error := by
  induction words with
  | nil =>
    rw [List.nil_append, modifiers, h]
    rfl
  | cons w words ih =>
    obtain ⟨⟨m, hm⟩, hwords⟩ := List.forall_mem_cons.1 hwords
    rw [List.cons_append, modifiers, modifier_of_isModifierWord hm, ih hwords]
    rfl

theorem key_of_isKeyName (h : IsKeyName name k) : key name = .ok k := by
  cases h with
  | char hc => rfl
  | named hmem hsame =>
    obtain ⟨hlength, halpha⟩ := areNames_keyNames.isLetters hmem hsame
    have hnamed := (areNames_keyNames.named?_lower halpha).2 ⟨_, hmem, hsame⟩
    unfold key
    split
    · simp at hlength
    · rw [hnamed]

theorem IsKeyName.ne_nil (h : IsKeyName name k) : name ≠ [] := by
  cases h with
  | char hc => exact List.cons_ne_nil _ _
  | named hmem hsame =>
    rintro rfl
    simpa using (areNames_keyNames.isLetters hmem hsame).1

theorem IsKeyName.not_isBlank (h : IsKeyName name k) : ∀ c ∈ name, isBlank c = false := by
  cases h with
  | char hc => simpa using hc
  | named hmem hsame =>
    exact fun c hc => isBlank_of_isAlpha ((areNames_keyNames.isLetters hmem hsame).2 c hc)

theorem IsKeyName.trim_eq (h : IsKeyName name k) : trim name = name :=
  trim_of_not_isBlank h.not_isBlank

theorem IsKeyName.eq_plus_or (h : IsKeyName name k) : name = ['+'] ∨ '+' ∉ name := by
  cases h with
  | @char c hc =>
    by_cases hplus : c = '+'
    · exact Or.inl (by rw [hplus])
    · exact Or.inr fun h => hplus (List.mem_singleton.1 h).symm
  | named hmem hsame =>
    right
    intro hplus
    cases (areNames_keyNames.isLetters hmem hsame).2 '+' hplus

end

/-! ## The last plus -/

theorem splitLast?_append {mark : Char} {name : Text} (h : mark ∉ name) (head : Text) :
    splitLast? mark (head ++ mark :: name) = some (head, name) := by
  have hlast : ∀ c, (head ++ [mark]).getLast? = some c → (c != mark) = false := by
    intro c hc
    rw [List.getLast?_concat] at hc
    cases hc
    exact bne_self_eq_false mark
  have hname : ∀ c ∈ name, (c != mark) = true := by
    intro c hc
    rw [bne_iff_ne]
    rintro rfl
    exact h hc
  rw [List.append_cons, splitLast?, splitTrailing_append_of_all _ hlast hname]
  cases head with
  | nil => rfl
  | cons c head =>
    show some ((c :: head ++ [mark]).dropLast, name) = some (c :: head, name)
    rw [List.dropLast_concat]

/-- A line ends at its last plus, or in a plus that is the key. -/
theorem splitPlus?_append {name : Text} (hne : name ≠ []) (h : name = ['+'] ∨ '+' ∉ name)
    (head : Text) : splitPlus? (head ++ '+' :: name) = some (head, name) := by
  rcases h with rfl | h
  · rw [splitPlus?, dropEnd?_eq_some_iff.2 rfl]
  · have hnone : dropEnd? ['+', '+'] (head ++ '+' :: name) = none := by
      rw [Option.eq_none_iff_forall_ne_some]
      intro rest hrest
      -- the last character of the line is one of the name
      have hlast := congrArg List.getLast? (dropEnd?_eq_some_iff.1 hrest)
      rw [List.append_cons, List.getLast?_append_of_ne_nil _ hne,
        List.getLast?_append_of_ne_nil rest (List.cons_ne_nil _ _)] at hlast
      exact h (List.mem_of_mem_getLast? hlast)
    rw [splitPlus?, hnone]
    exact splitLast?_append h head

theorem exists_last_of_mem {mark : Char} {t : Text} (h : mark ∈ t) :
    ∃ head name, t = head ++ mark :: name ∧ mark ∉ name := by
  obtain ⟨a, b, ht, ha⟩ := List.eq_append_cons_of_mem (List.mem_reverse.2 h)
  refine ⟨b.reverse, a.reverse, ?_, mt List.mem_reverse.1 ha⟩
  rw [← List.reverse_reverse t, ht]
  simp

/-- **Words with a plus behind each of them stand before the last plus of their line.** -/
theorem exists_splitPlus?_append {words : List Text} (hne : words ≠ [])
    (hwords : ∀ w ∈ words, w ≠ [] ∧ '+' ∉ w) (tail : Text) :
    ∃ head name rest, splitPlus? (join ['+'] words ++ '+' :: tail) = some (head, name) ∧
      head.splitBy (· = '+') = words ++ rest := by
  have hplus : '+' ∈ join ['+'] words ++ '+' :: tail := by simp
  have hpieces : (join ['+'] words ++ '+' :: tail).splitBy (· = '+') =
      words ++ tail.splitBy (· = '+') := by
    rw [splitBy_append_cons (by decide), splitBy_join_eq_iff.2 ⟨hne, fun w hw => (hwords w hw).2⟩]
  generalize join ['+'] words ++ '+' :: tail = line at hplus hpieces ⊢
  have hprefix {head name : Text} (hline : line = head ++ '+' :: name) (hname : '+' ∉ name) :
      words <+: head.splitBy (· = '+') := by
    have hlast : name.splitBy (· = '+') = [name] :=
      splitBy_of_not fun c hc => decide_eq_false fun heq => hname (heq ▸ hc)
    rw [hline, splitBy_append_cons (by decide), hlast] at hpieces
    have hlength := congrArg List.length hpieces
    have htail : 0 < (tail.splitBy (· = '+')).length := by
      rw [splitBy_eq_splitOnP]
      exact List.length_pos_iff.2 (List.splitOnP_ne_nil _ _)
    simp only [List.length_append, List.length_singleton] at hlength
    exact List.prefix_of_prefix_length_le ⟨_, hpieces.symm⟩ ⟨_, rfl⟩ (by omega)
  unfold splitPlus?
  cases hdrop : dropEnd? ['+', '+'] line with
  | some head =>
    -- the piece between the two pluses at the end is empty, and none of the words is
    have hline : line = (head ++ ['+']) ++ '+' :: [] := by
      rw [dropEnd?_eq_some_iff.1 hdrop, List.append_assoc]
      rfl
    have hconcat := hprefix hline List.not_mem_nil
    rw [splitBy_append_cons (by decide)] at hconcat
    rcases List.prefix_concat_iff.1 hconcat with hall | ⟨rest, hrest⟩
    · have hnil : [] ∈ words := by
        rw [hall]
        exact List.mem_append_right _ List.mem_cons_self
      exact absurd rfl (hwords [] hnil).1
    · exact ⟨head, ['+'], rest, rfl, hrest.symm⟩
  | none =>
    obtain ⟨head, name, hline, hname⟩ := exists_last_of_mem hplus
    obtain ⟨rest, hrest⟩ := hprefix hline hname
    refine ⟨head, name, rest, ?_, hrest.symm⟩
    rw [hline]
    exact splitLast?_append hname head

/-! ## Lines -/

/-- A line that begins with a word and a plus is a press. -/
theorem ofTrimmedLine_of_isLetters {w : Text} (h : IsLetters w) (rest : Text) :
    ofTrimmedLine (w ++ '+' :: rest) = do return [.press (← press (w ++ '+' :: rest))] := by
  obtain ⟨hne, halpha⟩ := h
  have hdelay : dropFront? "wait ".toList (w ++ '+' :: rest) = none := by
    rw [Option.eq_none_iff_forall_ne_some]
    intro t ht
    -- after the letters at the front of the line comes a plus, and no blank
    have hletters := congrArg (List.dropWhile Char.isAlpha) (dropFront?_eq_some_iff.1 ht)
    rw [List.dropWhile_append_of_pos halpha] at hletters
    cases hletters
  obtain ⟨c, w, rfl⟩ := List.exists_cons_of_ne_nil hne
  have hc := halpha c List.mem_cons_self
  have hquote : unquote? (c :: (w ++ '+' :: rest)) = none := by
    unfold unquote?
    split
    · next h =>
      cases (List.cons.inj h).1
      cases hc
    · rfl
  rw [List.cons_append] at hdelay ⊢
  unfold ofTrimmedLine
  split
  · next h => cases h
  · next h =>
    cases (List.cons.inj h).1
    cases hc
  · next h =>
    cases (List.cons.inj h).1
    cases hc
  · next h => simp at h
  · rw [hdelay, hquote]

section
variable {words : List Text} {held : List Modifiers} {name : Text} {k : Key}

theorem exists_front (hne : words ≠ []) (tail : Text) :
    ∃ w ∈ words, ∃ rest, join ['+'] words ++ '+' :: tail = w ++ '+' :: rest := by
  obtain ⟨w, ws, rfl⟩ := List.exists_cons_of_ne_nil hne
  refine ⟨w, List.mem_cons_self, ?_⟩
  cases ws with
  | nil => exact ⟨tail, by rw [join_singleton]⟩
  | cons v ws => exact ⟨join ['+'] (v :: ws) ++ '+' :: tail, by simp⟩

section
variable (hne : words ≠ []) (hwords : ∀ w ∈ words, IsLetters w)
include hne hwords

theorem isBlank_head?_words (tail : Text) :
    ∀ c ∈ (join ['+'] words ++ '+' :: tail).head?, isBlank c = false := by
  obtain ⟨w, hw, rest, hfront⟩ := exists_front hne tail
  obtain ⟨hwne, halpha⟩ := hwords w hw
  obtain ⟨d, w, rfl⟩ := List.exists_cons_of_ne_nil hwne
  rw [hfront]
  rintro c ⟨⟩
  exact isBlank_of_isAlpha (halpha d List.mem_cons_self)

omit hne in
theorem not_mem_newline_words : '\n' ∉ join ['+'] words := by
  intro hmem
  rcases mem_join hmem with h | ⟨w, hw, h⟩
  · cases List.mem_singleton.1 h
  · cases (hwords w hw).2 '\n' h

/-- A line that begins with words and a plus is the press that stands there without the blanks. -/
theorem ofLine_of_words {tail tail' : Text}
    (htrim : trim (join ['+'] words ++ '+' :: tail) = join ['+'] words ++ '+' :: tail') :
    ofLine (join ['+'] words ++ '+' :: tail) =
      do return [.press (← press (join ['+'] words ++ '+' :: tail'))] := by
  obtain ⟨w, hw, rest, hfront⟩ := exists_front hne tail'
  rw [ofLine, htrim, hfront]
  exact ofTrimmedLine_of_isLetters (hwords w hw) rest

end

theorem not_mem_plus_of_isLetters {w : Text} (h : IsLetters w) : w ≠ [] ∧ '+' ∉ w := by
  refine ⟨h.1, fun hplus => ?_⟩
  cases h.2 '+' hplus

theorem isLetters_of_forall₂ (h : List.Forall₂ IsModifierWord words held) :
    ∀ w ∈ words, IsLetters w := by
  have hboth := h.imp fun w m (hw : IsModifierWord w m) => And.intro hw.isLetters hw
  exact ((List.forall₂_and_left _ _).1 hboth).1

/-- **Modifiers and a key are read off their line.** -/
theorem press_of_words (hne : words ≠ []) (hwords : List.Forall₂ IsModifierWord words held)
    (hname : IsKeyName name k) :
    press (join ['+'] words ++ '+' :: name) = .ok ⟨k, unionAll held⟩ := by
  have hletters := isLetters_of_forall₂ hwords
  have hsplit : (join ['+'] words).splitBy (· = '+') = words :=
    splitBy_join_eq_iff.2 ⟨hne, fun w hw => (not_mem_plus_of_isLetters (hletters w hw)).2⟩
  rw [press, splitPlus?_append hname.ne_nil hname.eq_plus_or]
  simp only [hsplit, modifiers_of_forall₂ hwords, hname.trim_eq, key_of_isKeyName hname]
  rfl

theorem ofText_of_words (hne : words ≠ []) (hwords : List.Forall₂ IsModifierWord words held)
    (hname : IsKeyName name k) :
    ofText (join ['+'] (words ++ [name])) = .ok [.press ⟨k, unionAll held⟩] := by
  have hletters := isLetters_of_forall₂ hwords
  have hline : join ['+'] (words ++ [name]) = join ['+'] words ++ '+' :: name := by
    rw [join_append ['+'] hne (List.cons_ne_nil _ _), join_singleton, List.append_assoc]
    rfl
  have hnewline : '\n' ∉ join ['+'] words ++ '+' :: name := by
    simp only [List.mem_append, List.mem_cons, not_or]
    refine ⟨not_mem_newline_words hletters, by decide, fun hmem => ?_⟩
    cases hname.not_isBlank '\n' hmem
  have htrim : trim (join ['+'] words ++ '+' :: name) = join ['+'] words ++ '+' :: name := by
    refine trimBy_eq_self (isBlank_head?_words hne hletters name) ?_
    rw [List.append_cons, List.getLast?_append_of_ne_nil _ hname.ne_nil]
    exact fun c hc => hname.not_isBlank c (List.mem_of_mem_getLast? hc)
  rw [hline]
  refine ofText_of_line hnewline ?_ (List.cons_ne_nil _ _)
  rw [ofLine_of_words hne hletters htrim, press_of_words hne hwords hname]
  rfl

section
variable {word : Text} (hwords : ∀ w ∈ words, ∃ m, IsModifierWord w m) (hword : IsLetters word)
include hwords hword

theorem isLetters_concat : ∀ w ∈ words ++ [word], IsLetters w := by
  intro w hw
  rcases List.mem_append.1 hw with hw | hw
  · obtain ⟨m, hm⟩ := hwords w hw
    exact hm.isLetters
  · rwa [List.mem_singleton.1 hw]

/-- **Another word among the modifiers is reported,** whatever comes after it. -/
theorem ofLine_of_not_isModifierWord (hnot : ∀ m, ¬ IsModifierWord word m) (tail : Text) :
    ofLine (join ['+'] (words ++ [word]) ++ '+' :: tail) =
      .error (.modifier (asciiLower word)) := by
  have hne : words ++ [word] ≠ [] := by simp
  have hletters := isLetters_concat hwords hword
  have hfront : ∀ c ∈ (join ['+'] (words ++ [word]) ++ ['+']).head?, isBlank c = false :=
    isBlank_head?_words hne hletters []
  obtain ⟨tail', htrim⟩ := exists_trimBy_append_cons hfront (by decide) tail
  obtain ⟨head, name, rest, hsplit, hpieces⟩ :=
    exists_splitPlus?_append hne (fun w hw => not_mem_plus_of_isLetters (hletters w hw)) tail'
  have hreported := modifiers_of_error hwords (modifier_of_not_isModifierWord hword.2 hnot) rest
  rw [ofLine_of_words hne hletters htrim, press, hsplit]
  simp only [hpieces, List.append_assoc, List.singleton_append, hreported]
  rfl

end

end

/-! ## Scripts -/

/-- The parts of a combination are named by their words. -/
theorem isModifierWord_parts (m : Modifiers) :
    List.Forall₂ IsModifierWord (m.parts.map fun p => p.2.toList) (m.parts.map (·.1)) := by
  have hnamed : ∀ p ∈ Modifiers.named, IsModifierWord p.2.toList p.1 := by
    simp only [Modifiers.named, List.forall_mem_cons]
    refine ⟨⟨"ctrl", by decide⟩, ⟨"alt", by decide⟩, ⟨"shift", by decide⟩, ⟨"meta", by decide⟩, ?_⟩
    simp
  rw [List.forall₂_map_left_iff, List.forall₂_map_right_iff, List.forall₂_same]
  exact fun p hp => hnamed p (List.mem_of_mem_filter hp)

/-- **Lines with modifiers are read as they are written.**  Words for modifiers, as many and in
whatever order and case, and the name of a key, with a plus between them, are a script of one press
of that key with all these modifiers; so is what a combination of modifiers is called, with a plus
and the name of a key behind it.  Another word of letters that stands among the modifiers of a line
is reported with the number of the line, if the lines before can be read. -/
theorem modifier_lines_are_read_as_written :
    (∀ words held name k, words ≠ [] → List.Forall₂ IsModifierWord words held → IsKeyName name k →
      ofText (join ['+'] (words ++ [name])) = .ok [.press ⟨k, unionAll held⟩]) ∧
    (∀ m name k, IsCombination m → m.isNone = false → IsKeyName name k →
      ofText (m.label.toList ++ '+' :: name) = .ok [.press ⟨k, m⟩]) ∧
    ∀ before words word tail after, (∀ l ∈ before, '\n' ∉ l ∧ ∃ inputs, ofLine l = .ok inputs) →
      (∀ w ∈ words, ∃ m, IsModifierWord w m) → IsLetters word → (∀ m, ¬ IsModifierWord word m) →
      '\n' ∉ tail → (∀ l ∈ after, '\n' ∉ l) →
      ofText (join ['\n']
          (before ++ (join ['+'] (words ++ [word]) ++ '+' :: tail) :: after)) =
        .error (.line (before.length + 1) (.modifier (asciiLower word))) := by
  refine ⟨fun words held name k => ofText_of_words, ?label, ?reported⟩
  case label =>
    intro m name k hm hsome hname
    have hparts := unionAll_parts hm
    have hne : (m.parts.map fun p => p.2.toList) ≠ [] := by
      intro hnil
      rw [List.map_eq_nil_iff.1 hnil] at hparts
      rw [← hparts] at hsome
      cases hsome
    have hread := ofText_of_words hne (isModifierWord_parts m) hname
    rw [join_append ['+'] hne (List.cons_ne_nil _ _), join_singleton, hparts] at hread
    rw [label_eq hsome]
    simpa using hread
  case reported =>
    intro before words word tail after hbefore hwords hword hnot htail hafter
    have hline := ofLine_of_not_isModifierWord hwords hword hnot tail
    refine ofText_join_of_error ?_ (fun l hl => (hbefore l hl).2) hline
    intro l hl
    rcases List.mem_append.1 hl with hl | hl
    · exact (hbefore l hl).1
    · rcases List.mem_cons.1 hl with rfl | hl
      · have hletters := isLetters_concat hwords hword
        simp only [List.mem_append, List.mem_cons, not_or]
        exact ⟨not_mem_newline_words hletters, by decide, htail⟩
      · exact hafter l hl

/-- Ctrl twice and Alt with the key plus; Shift and Meta with a key that begins comments; and on the
second line a word that is no modifier. -/
theorem modifier_lines_are_read_as_written_with_plus :
    List.Forall₂ IsModifierWord ["cTRL".toList, "Option".toList, "control".toList]
        [.ctrl, .alt, .ctrl] ∧
      IsKeyName ['+'] (.char '+') ∧ IsKeyName ['#'] (.char '#') ∧
      ofText "cTRL+Option+control++".toList =
        .ok [.press ⟨.char '+', .union .ctrl .alt⟩] ∧
      IsCombination (.union .shift .command) ∧
      ofText "Shift+Meta+#".toList = .ok [.press ⟨.char '#', .union .shift .command⟩] ∧
      IsLetters "Hyper".toList ∧ (∀ m, ¬ IsModifierWord "Hyper".toList m) ∧
      ofText "Enter\nAlt+Hyper+a\n".toList = .error (.line 2 (.modifier "hyper".toList)) := by
  have hwords : List.Forall₂ IsModifierWord ["cTRL".toList, "Option".toList, "control".toList]
      [.ctrl, .alt, .ctrl] :=
    .cons ⟨"ctrl", by decide⟩ (.cons ⟨"option", by decide⟩ (.cons ⟨"control", by decide⟩ .nil))
  have hplus : IsKeyName ['+'] (.char '+') := .char (by decide)
  have hcomment : IsKeyName ['#'] (.char '#') := .char (by decide)
  have hm : IsCombination (.union .shift .command) := ⟨[.shift, .command], by decide, rfl⟩
  have hletters : IsLetters "Hyper".toList := ⟨by decide, List.all_eq_true.1 (by decide)⟩
  have hnone : named? modifierWords (lower "Hyper".toList) = none := by decide
  have hnot : ∀ m, ¬ IsModifierWord "Hyper".toList m := by
    intro m hm
    have hsome := (areNames_modifierWords.named?_lower hletters.2).2 hm
    rw [hnone] at hsome
    cases hsome
  have halt : ∀ w ∈ ["Alt".toList], ∃ m, IsModifierWord w m := by
    intro w hw
    obtain rfl := List.mem_singleton.1 hw
    exact ⟨.alt, "alt", by decide⟩
  have hbefore : ∀ l ∈ ["Enter".toList], '\n' ∉ l ∧ ∃ inputs, ofLine l = .ok inputs := by
    intro l hl
    obtain rfl := List.mem_singleton.1 hl
    exact ⟨by decide, [plain .enter], rfl⟩
  obtain ⟨hread, hlabel, hreported⟩ := modifier_lines_are_read_as_written
  exact ⟨hwords, hplus, hcomment, hread _ _ _ _ (by decide) hwords hplus, hm,
    hlabel _ _ _ hm (by decide) hcomment, hletters, hnot,
    hreported ["Enter".toList] ["Alt".toList] "Hyper".toList ['a'] [[]] hbefore halt hletters hnot
      (by decide) (by decide)⟩

end Script

end MarkupPad
