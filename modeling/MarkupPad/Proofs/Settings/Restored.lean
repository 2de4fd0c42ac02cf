import MarkupPad.Proofs.Json.Float
import MarkupPad.Proofs.Settings.Editor
import MarkupPad.Proofs.Settings.Saved

/-!
# Overrides are saved and restored

Saving keeps all overrides but floats.  A float that is no finite number makes the whole file
unreadable, and a finite one may become a float next to it, since its digits are read with two
roundings or more.  It does not when there are few digits.

    value is reread as itself ↔ value is no float, or a float x with IsKept x
                                                                         (reread?_eq_self_iff)
    file of r is readable ↔ all floats among the overrides are finite      (exists_ofBytes_iff)
    Survives r ↔ IsKept x for all floats x among the overrides                   (survives_iff)
-/

namespace MarkupPad

namespace SavedSettings

open Json

/-! ## Floats -/

/-- The float is finite, and its size is read as it is written. -/
def IsKept (x : Float) : Prop := x.isFinite ∧ rereadSize? x = some x.abs

variable {x : Float}

theorem reread?_eq_none (hx : ¬ x.isFinite) : reread? (.float x) = none := by
  have hnull : valueJson (.float x) = .null := if_neg hx
  rw [reread?, hnull]
  rfl

theorem reread?_float {isNegative : Bool} {m : ℕ} {q : ℤ}
    (h : FloatParts.ofFloat x = .finite isNegative m q) :
    ∃ y, rereadSize? x = some y ∧
      reread? (.float x) = some (.float (if isNegative then -y else y)) := by
  obtain ⟨y, hy⟩ := Option.isSome_iff_exists.1 (isSome_rereadSize? h)
  have hnumeral := numeral?_float h
  rw [hy] at hnumeral
  refine ⟨y, hy, ?_⟩
  rw [reread?, valueJson]
  rw [float_eq h] at hnumeral ⊢
  simp only [value?, hnumeral]

/-- **A float is lost just when it is no finite number.** -/
theorem isSome_reread?_float : (reread? (.float x)).isSome ↔ x.isFinite := by
  by_cases hx : x.isFinite
  · obtain ⟨isNegative, m, q, h⟩ := FloatParts.isFinite_iff.1 hx
    obtain ⟨y, -, hreread⟩ := reread?_float h
    simp [hreread, hx]
  · simp [reread?_eq_none hx, hx]

theorem reread?_float_eq_iff : reread? (.float x) = some (.float x) ↔ IsKept x := by
  by_cases hx : x.isFinite
  · obtain ⟨isNegative, m, q, h⟩ := FloatParts.isFinite_iff.1 hx
    obtain ⟨y, hy, hreread⟩ := reread?_float h
    rw [IsKept, hreread, hy, Option.some_inj, Option.some_inj, SettingValue.float.injEq]
    exact (real_eq_iff h y).trans (and_iff_right hx).symm
  · simp [reread?_eq_none hx, IsKept, hx]

/-! ## Values -/

/-- Whole numbers are words of 63 bits and a sign. -/
def IsWord (value : SettingValue) : Prop :=
  ∀ n, value = .integer n → -(Word.signedLimit : ℤ) ≤ n ∧ n < (Word.signedLimit : ℤ)

variable {value value' : SettingValue}

theorem isExact_or_float (h : IsWord value) : IsExact value ∨ ∃ x, value = .float x := by
  cases value with
  | boolean value => exact .inl (.boolean value)
  | integer n => exact .inl (.integer (h n rfl).1 (h n rfl).2)
  | float x => exact .inr ⟨x, rfl⟩
  | string value => exact .inl (.string value)

/-- **Every value is written as JSON.** -/
theorem isWritten_valueJson (value : SettingValue) : (valueJson value).IsWritten := by
  cases value with
  | boolean value => exact .bool value
  | integer n => exact isWritten_int n
  | float x => exact isWritten_float x
  | string value => exact .text value

/-- A value that is read again is the same, or a float again. -/
def IsReread (value value' : SettingValue) : Prop :=
  value' = value ∨ ∃ x y, value = .float x ∧ value' = .float y

theorem isReread (h : IsWord value) (hreread : reread? value = some value') :
    IsReread value value' := by
  rcases isExact_or_float h with hexact | ⟨x, rfl⟩
  · rw [hexact.reread?_eq] at hreread
    cases hreread
    exact .inl rfl
  · by_cases hx : x.isFinite
    · obtain ⟨isNegative, m, q, h⟩ := FloatParts.isFinite_iff.1 hx
      obtain ⟨y, -, hy⟩ := reread?_float h
      rw [hy] at hreread
      cases hreread
      exact .inr ⟨x, _, rfl, rfl⟩
    · rw [reread?_eq_none hx] at hreread
      cases hreread

theorem IsReread.type_eq (h : IsReread value value') : value'.type = value.type := by
  rcases h with rfl | ⟨x, y, rfl, rfl⟩ <;> rfl

theorem isSome_reread?_iff (h : IsWord value) :
    (reread? value).isSome ↔ ∀ x, value = .float x → x.isFinite := by
  rcases isExact_or_float h with hexact | ⟨x, rfl⟩
  · rw [hexact.reread?_eq]
    refine iff_of_true rfl fun x hx => ?_
    rw [hx] at hexact
    cases hexact
  · simp [isSome_reread?_float]

theorem reread?_eq_self_iff (h : IsWord value) :
    reread? value = some value ↔ ∀ x, value = .float x → IsKept x := by
  rcases isExact_or_float h with hexact | ⟨x, rfl⟩
  · refine iff_of_true hexact.reread?_eq fun x hx => ?_
    rw [hx] at hexact
    cases hexact
  · simp [reread?_float_eq_iff]

/-! ## Entries -/

variable {entries entries' : List (Text × SettingValue)}

theorem rereadEntries?_cons (entry : Text × SettingValue) :
    rereadEntries? (entry :: entries) = (reread? entry.2).bind fun value =>
      (rereadEntries? entries).map ((entry.1, value) :: ·) := by
  rw [rereadEntries?, List.mapM_cons, ← rereadEntries?]
  cases reread? entry.2 with
  | none => rfl
  | some value => cases rereadEntries? entries <;> rfl

/-- The entries are read one by one, with their keys. -/
theorem rereadEntries?_eq_some_iff :
    rereadEntries? entries = some entries' ↔
      List.Forall₂ (fun entry entry' => entry'.1 = entry.1 ∧ reread? entry.2 = some entry'.2)
        entries entries' := by
  induction entries generalizing entries' with
  | nil =>
    rw [List.forall₂_nil_left_iff]
    exact Option.some_inj.trans eq_comm
  | cons entry entries ih =>
    rw [rereadEntries?_cons]
    constructor
    · intro h
      obtain ⟨value, hvalue, h⟩ := Option.bind_eq_some_iff.1 h
      obtain ⟨rest, hrest, rfl⟩ := Option.map_eq_some_iff.1 h
      exact .cons ⟨rfl, hvalue⟩ (ih.1 hrest)
    · rintro (_ | ⟨⟨hkey, hvalue⟩, hrest⟩)
      rw [hvalue, ih.2 hrest, ← hkey]
      rfl

theorem isSome_rereadEntries?_iff :
    (rereadEntries? entries).isSome ↔ ∀ entry ∈ entries, (reread? entry.2).isSome := by
  induction entries with
  | nil => exact iff_of_true rfl (List.forall_mem_nil _)
  | cons entry entries ih =>
    rw [rereadEntries?_cons, List.forall_mem_cons, ← ih]
    cases reread? entry.2 <;> cases rereadEntries? entries <;> simp

theorem rereadEntries?_eq_self_iff :
    rereadEntries? entries = some entries ↔ ∀ entry ∈ entries, reread? entry.2 = some entry.2 := by
  rw [rereadEntries?_eq_some_iff, List.forall₂_same]
  simp

/-- The keys stay in their order. -/
theorem map_fst_of_rereadEntries? (h : rereadEntries? entries = some entries') :
    entries'.map (·.1) = entries.map (·.1) := by
  have hentries := rereadEntries?_eq_some_iff.1 h
  clear h
  induction hentries with
  | nil => rfl
  | cons hentry _ ih => rw [List.map_cons, List.map_cons, hentry.1, ih]

theorem entries_of_rereadEntries? {t : Table SettingValue}
    (h : rereadEntries? t.entries = some entries') : (Table.ofList entries').entries = entries' := by
  have hkeys : (t.entries.map (·.1)).Pairwise (· < ·) := List.pairwise_map.2 t.sorted
  rw [← map_fst_of_rereadEntries? h] at hkeys
  exact Table.entries_ofList (List.pairwise_map.1 hkeys)

theorem exists_of_mem_rereadEntries? (h : rereadEntries? entries = some entries')
    {entry' : Text × SettingValue} (hmem : entry' ∈ entries') :
    ∃ entry ∈ entries, entry'.1 = entry.1 ∧ reread? entry.2 = some entry'.2 := by
  have hentries := rereadEntries?_eq_some_iff.1 h
  clear h
  induction hentries with
  | nil => cases hmem
  | cons hentry _ ih =>
    rcases List.mem_cons.1 hmem with rfl | hmem
    · exact ⟨_, List.mem_cons_self, hentry⟩
    · obtain ⟨entry, hold, heq⟩ := ih hmem
      exact ⟨entry, List.mem_cons_of_mem _ hold, heq⟩

end SavedSettings

namespace Registry

open SavedSettings

/-- The values that a change may put into a registry. -/
def Change.values : Change → List SettingValue
  | .set _ value => [value]
  | .unset _ | .clear => []
  | .apply overrides => overrides.entries.map (·.2)
  | .restore saved => saved.overrides.entries.map (·.2)

/-- All overrides are values of some kind. -/
def IsStored (P : SettingValue → Prop) (r : Registry) : Prop :=
  ∀ entry ∈ r.overrides.entries, P entry.2

variable {P : SettingValue → Prop} {r r' : Registry} {key : Text} {value : SettingValue}

/-! ## Changes -/

theorem isStored_set (h : r.IsStored P) (hvalue : P value) (hset : r.set key value = .ok r') :
    r'.IsStored P := by
  unfold set at hset
  split at hset
  · cases hset
  · cases hset
    intro entry hentry
    rcases Table.mem_insertEntry hentry with rfl | hold
    · exact hvalue
    · exact h entry hold

theorem isStored_setAll (h : r.IsStored P) (overrides : List (Text × SettingValue))
    (hvalues : ∀ value ∈ overrides.map (·.2), P value) : (r.setAll overrides).2.IsStored P := by
  induction overrides generalizing r with
  | nil => exact h
  | cons entry overrides ih =>
    rw [List.map_cons, List.forall_mem_cons] at hvalues
    unfold setAll
    split
    · exact h
    · exact ih (isStored_set h hvalues.1 ‹_›) hvalues.2

theorem isStored_change (h : r.IsStored P) (change : Change)
    (hvalues : ∀ value ∈ change.values, P value) : (r.change change).IsStored P := by
  cases change with
  | set key value =>
    unfold Registry.change
    simp only
    split
    · exact h
    · exact isStored_set h (List.forall_mem_singleton.1 hvalues) ‹_›
  | unset key =>
    exact fun entry hentry => h entry (List.mem_filter.1 hentry).1
  | clear => exact fun _ hentry => nomatch hentry
  | apply overrides => exact isStored_setAll h overrides.entries hvalues
  | restore saved => exact isStored_setAll h saved.overrides.entries hvalues

theorem isStored_changeAll (h : r.IsStored P) (changes : List Change)
    (hvalues : ∀ change ∈ changes, ∀ value ∈ change.values, P value) :
    (r.changeAll changes).IsStored P := by
  induction changes generalizing r with
  | nil => exact h
  | cons change changes ih =>
    rw [List.forall_mem_cons] at hvalues
    exact ih (isStored_change h change hvalues.1) hvalues.2

/-! ## Overrides applied to defaults -/

/-- Overrides that fit their defaults are all set. -/
theorem setAll_of_fits {overrides : List (Text × SettingValue)}
    (h : ∀ entry ∈ overrides, ∃ default, r.defaults.find? entry.1 = some default ∧
      SettingValue.Fits entry.2.type default.type) :
    r.setAll overrides = (none, { r with overrides := r.overrides.insertAll overrides }) := by
  induction overrides generalizing r with
  | nil => rfl
  | cons entry overrides ih =>
    rw [List.forall_mem_cons] at h
    have hrefusal := refusal?_eq_none_iff.2 h.1
    have hset : r.set entry.1 entry.2 =
        .ok { r with overrides := r.overrides.insert entry.1 entry.2 } := by
      rw [set, hrefusal]
    rw [setAll, hset]
    exact ih h.2

/-- **Overrides that fit are restored as they are.** -/
theorem apply_of_fits {overrides : Table SettingValue} (hempty : r.overrides = .empty)
    (h : ∀ entry ∈ overrides.entries, ∃ default, r.defaults.find? entry.1 = some default ∧
      SettingValue.Fits entry.2.type default.type) :
    r.apply overrides = (none, { r with overrides := overrides }) := by
  rw [apply, setAll_of_fits h, hempty]
  exact congrArg (fun t => (none, { r with overrides := t })) (Table.ofList_entries overrides)

end Registry

namespace SavedSettings

open Json Registry

/-! ## Registries -/

variable {r : Registry}

theorem ofBytes_ofRegistry (r : Registry) :
    ofBytes (ofRegistry r).toBytes =
      match rereadEntries? r.overrides.entries with
      | none => .error .unreadable
      | some entries => .ok ⟨currentVersion, .ofList entries⟩ :=
  ofBytes_toBytes rfl fun entry _ => isWritten_valueJson entry.2

/-- The file of a registry is readable just when its values are. -/
theorem exists_ofBytes_iff (h : r.IsStored IsWord) :
    (∃ s, ofBytes (ofRegistry r).toBytes = .ok s) ↔
      ∀ entry ∈ r.overrides.entries, ∀ x, entry.2 = .float x → x.isFinite := by
  have hvalues : (∀ entry ∈ r.overrides.entries, ∀ x, entry.2 = .float x → x.isFinite) ↔
      (rereadEntries? r.overrides.entries).isSome := by
    rw [isSome_rereadEntries?_iff]
    exact forall₂_congr fun entry hentry => (isSome_reread?_iff (h entry hentry)).symm
  rw [hvalues, ofBytes_ofRegistry]
  cases rereadEntries? r.overrides.entries <;> simp

/-- What is read is accepted by a registry without overrides. -/
theorem apply_registry (h : r.IsStored IsWord) (htyped : r.Typed Settings.registry.defaults)
    {entries : List (Text × SettingValue)}
    (hread : rereadEntries? r.overrides.entries = some entries) :
    Settings.registry.apply (.ofList entries) =
      (none, { Settings.registry with overrides := .ofList entries }) := by
  refine apply_of_fits rfl fun entry' hentry' => ?_
  rw [entries_of_rereadEntries? hread] at hentry'
  obtain ⟨entry, hentry, hkey, hvalue⟩ := exists_of_mem_rereadEntries? hread hentry'
  rw [hkey, (isReread (h entry hentry) hvalue).type_eq]
  exact htyped.fits entry hentry

/-- The overrides survive: their file is read, all that is read is accepted by the registry
without overrides, and it makes the same overrides. -/
def Survives (r : Registry) : Prop :=
  ∃ s r', ofBytes (ofRegistry r).toBytes = .ok s ∧
    Settings.registry.apply s.overrides = (none, r') ∧ r'.overrides = r.overrides

theorem survives_iff (h : r.IsStored IsWord) (htyped : r.Typed Settings.registry.defaults) :
    Survives r ↔ ∀ entry ∈ r.overrides.entries, ∀ x, entry.2 = .float x → IsKept x := by
  have hvalues : (∀ entry ∈ r.overrides.entries, ∀ x, entry.2 = .float x → IsKept x) ↔
      rereadEntries? r.overrides.entries = some r.overrides.entries := by
    rw [rereadEntries?_eq_self_iff]
    exact forall₂_congr fun entry hentry => (reread?_eq_self_iff (h entry hentry)).symm
  rw [hvalues, Survives, ofBytes_ofRegistry]
  constructor
  · rintro ⟨s, r', hs, happly, heq⟩
    cases hread : rereadEntries? r.overrides.entries with
    | none =>
      rw [hread] at hs
      cases hs
    | some entries =>
      rw [hread] at hs
      cases hs
      cases (apply_registry h htyped hread).symm.trans happly
      rw [← heq, entries_of_rereadEntries? hread]
  · intro hread
    rw [hread]
    exact ⟨_, _, rfl, apply_registry h htyped hread, Table.ofList_entries _⟩

/-- The digits are few enough for the float to be read without rounding twice. -/
structure HasFewDigits (x : Float) : Prop where
  isFinite : x.isFinite
  coefficient_lt : (FloatParts.ofFloat x).decimal.written.coefficient < 2 ^ 53
  natAbs_le : (FloatParts.ofFloat x).decimal.written.exponent.natAbs ≤ 22

theorem isKept_of_hasFewDigits {x : Float} (h : HasFewDigits x) : IsKept x := by
  obtain ⟨isNegative, m, q, hparts⟩ := FloatParts.isFinite_iff.1 h.isFinite
  exact ⟨h.isFinite, rereadSize?_of_few_digits hparts h.coefficient_lt h.natAbs_le⟩

theorem isStored_registry (P : SettingValue → Prop) : Settings.registry.IsStored P := by
  have hnone : Settings.registry.overrides = .empty := rfl
  intro entry hentry
  rw [hnone] at hentry
  cases hentry

/-- **Only floats are lost, or shifted, by saving.**  After any changes the file is readable just
when the floats are finite.  Then it is accepted with the same keys and the same values but for
floats, and the overrides survive just when every float is read as it is written, as those of few
digits are. -/
theorem overrides_survive_iff (changes : List Change)
    (hwords : ∀ change ∈ changes, ∀ value ∈ change.values, IsWord value) :
    let r := Settings.registry.changeAll changes
    ((∃ s, ofBytes (ofRegistry r).toBytes = .ok s) ↔
      ∀ entry ∈ r.overrides.entries, ∀ x, entry.2 = .float x → x.isFinite) ∧
    (∀ s, ofBytes (ofRegistry r).toBytes = .ok s →
      Settings.registry.apply s.overrides =
        (none, { Settings.registry with overrides := s.overrides }) ∧
      List.Forall₂ (fun entry entry' => entry'.1 = entry.1 ∧ IsReread entry.2 entry'.2)
        r.overrides.entries s.overrides.entries) ∧
    (Survives r ↔ ∀ entry ∈ r.overrides.entries, ∀ x, entry.2 = .float x → IsKept x) ∧
    ((∀ entry ∈ r.overrides.entries, ∀ x, entry.2 = .float x → HasFewDigits x) → Survives r) := by
  intro r
  have h : r.IsStored IsWord := isStored_changeAll (isStored_registry IsWord) changes hwords
  have htyped : r.Typed Settings.registry.defaults :=
    typed_changeAll Settings.typed_registry changes
  have hsurvives := survives_iff h htyped
  refine ⟨exists_ofBytes_iff h, fun s hs => ?_, hsurvives, fun hfew => ?_⟩
  · rw [ofBytes_ofRegistry] at hs
    cases hread : rereadEntries? r.overrides.entries with
    | none =>
      rw [hread] at hs
      cases hs
    | some entries =>
      rw [hread] at hs
      cases hs
      have hvalues := (List.forall₂_and_left _ _).2 ⟨h, rereadEntries?_eq_some_iff.1 hread⟩
      refine ⟨apply_registry h htyped hread, ?_⟩
      rw [entries_of_rereadEntries? hread]
      exact hvalues.imp fun _ _ hentry => ⟨hentry.2.1, isReread hentry.1 hentry.2.2⟩
  · exact hsurvives.2 fun entry hentry x hx => isKept_of_hasFewDigits (hfew entry hentry x hx)

/-! ## One float -/

/-- The defaults with one float overridden. -/
def oneFloat (key : Text) (x : Float) : Registry :=
  { Settings.registry with overrides := Table.empty.insert key (.float x) }

theorem entries_oneFloat (key : Text) (x : Float) :
    (oneFloat key x).overrides.entries = [(key, .float x)] := rfl

/-- Every float is accepted for a setting that is a float. -/
theorem set_float {key : Text} {default : Float}
    (hkey : (key, .float default) ∈ Settings.ofConfig .default) (x : Float) :
    Settings.registry.set key (.float x) = .ok (oneFloat key x) := by
  have hrefusal : Settings.registry.refusal? key (.float x) = none :=
    refusal?_eq_none_iff.2 ⟨.float default, Settings.find?_registry hkey, .inl rfl⟩
  rw [Registry.set, hrefusal]
  rfl

theorem changeAll_float {key : Text} {default : Float}
    (hkey : (key, .float default) ∈ Settings.ofConfig .default) (x : Float) :
    Settings.registry.changeAll [.set key (.float x)] = oneFloat key x := by
  change Settings.registry.change (.set key (.float x)) = _
  rw [Registry.change, set_float hkey]

theorem isWord_of_set_float {key : Text} {x : Float} :
    ∀ change ∈ [Change.set key (.float x)], ∀ value ∈ change.values, IsWord value := by
  simp [Change.values, IsWord]

/-- Of the settings, one that is a float. -/
theorem charWidth_mem : (Settings.charWidth, .float Config.default.popup.charWidth) ∈
    Settings.ofConfig .default := by
  simp [Settings.ofConfig]

/-- **A single float survives just when it is read as it is written.** -/
theorem survives_oneFloat_iff {key : Text} {default : Float}
    (hkey : (key, .float default) ∈ Settings.ofConfig .default) (x : Float) :
    Survives (oneFloat key x) ↔ IsKept x := by
  have h := isStored_changeAll (isStored_registry IsWord) [.set key (.float x)] isWord_of_set_float
  have htyped := typed_changeAll Settings.typed_registry [.set key (.float x)]
  rw [changeAll_float hkey] at h htyped
  rw [survives_iff h htyped, entries_oneFloat]
  simp

/-- The width of a character is set to seven and a half. -/
theorem overrides_survive_with_short_float :
    Survives (Settings.registry.changeAll
      [.set Settings.charWidth (.float (.ofBits 0x401E000000000000))]) := by
  refine (overrides_survive_iff _ isWord_of_set_float).2.2.2 fun entry hentry x hx => ?_
  rw [changeAll_float charWidth_mem] at hentry
  obtain rfl : entry = _ := List.mem_singleton.1 hentry
  cases hx
  exact ⟨by decide +kernel, by decide +kernel, by decide +kernel⟩

/-- What is not a number makes the file unreadable, and 9.500000000000005 becomes the float below
it. -/
theorem not_all_overrides_survive :
    (∃ r, Settings.registry.set Settings.charWidth (.float (.ofBits 0x7FF8000000000000)) = .ok r ∧
      ¬ Survives r) ∧
    ∃ r, Settings.registry.set Settings.charWidth (.float (.ofBits 0x4023000000000003)) = .ok r ∧
      ¬ Survives r := by
  refine ⟨⟨_, set_float charWidth_mem _, ?_⟩, ⟨_, set_float charWidth_mem _, ?_⟩⟩
  · rw [survives_oneFloat_iff charWidth_mem, IsKept, not_and_or]
    exact .inl (by decide +kernel)
  · rw [survives_oneFloat_iff charWidth_mem, IsKept, not_and_or]
    refine .inr ?_
    have hdigits : (FloatParts.ofFloat (.ofBits 0x4023000000000003)).decimal.written =
        ⟨9500000000000005, -15⟩ := by decide +kernel
    rw [rereadSize?, hdigits, Decimal.scaled?, scale?_of_neg _ (by decide) (by decide)]
    decide +kernel

end SavedSettings
end MarkupPad
