import MarkupPad.Proofs.Json.Number
import MarkupPad.Proofs.Settings.Table
import MarkupPad.Proofs.Text.Symbols
import MarkupPad.Settings.Saved

/-!
# Saved settings are read again

A file that is written has the entries of the overrides in their order, with the keys as they
are.  So what is read is known once it is known of every single value.

    ofBytes s.toBytes  is s with every value reread, or unreadable when one is    (ofBytes_toBytes)
    reread? value = some value   for truth values, texts and whole numbers  (IsExact.reread?_eq)
-/

namespace MarkupPad.SavedSettings

open Json

/-- What is left of a value when it is saved and read again. -/
def reread? (value : SettingValue) : Option SettingValue := value? (valueJson value)

/-! ## Values -/

theorem value?_nat {n : Nat} (hn : n < Word.signedLimit) :
    value? (.nat n) = some (.integer n) := by
  have hlimit : n < Word.limit := Nat.lt_trans hn (by decide)
  have hnumeral := numeral?_nat hlimit
  rw [nat] at hnumeral ⊢
  simp [value?, hnumeral, hn]

theorem value?_int {n : Int} (hlow : -(Word.signedLimit : Int) ≤ n)
    (hhigh : n < (Word.signedLimit : Int)) : value? (.int n) = some (.integer n) := by
  by_cases hn : n < 0
  · have hnumeral := numeral?_int_of_neg hn hlow
    have habs : -(n.natAbs : Int) = n := by omega
    rw [int] at hnumeral ⊢
    simp only [value?, hnumeral, habs]
  · have hvalue := value?_nat (n := n.toNat) (by omega)
    rwa [← int_of_nonneg (by omega), Int.toNat_of_nonneg (by omega)] at hvalue

/-! ## The fields -/

/-- An object with these fields. -/
def ofFields (fields : List (Text × Json)) : Json :=
  .object (fields.map fun (key, value) => (some key, value))

theorem entries?_ofFields (fields : List (Text × Json)) :
    (ofFields fields).entries? = some fields := by
  rw [ofFields, entries?]
  induction fields with
  | nil => rfl
  | cons field fields ih =>
    rw [List.map_cons, List.mapM_cons, ih]
    rfl

/-- Fields of two names are told apart. -/
theorem fields?_pair (name name' : String) (hne : name ≠ name') (value value' : Json) :
    (ofFields [(name.toList, value), (name'.toList, value')]).fields? [name, name'] =
      some [some value, some value'] := by
  have hkeys : name.toList ≠ name'.toList := fun h => hne (String.toList_inj.1 h)
  have hfirst : only? [(name.toList, value), (name'.toList, value')] name.toList =
      some (some value) := by
    simp [only?, hkeys.symm]
  have hsecond : only? [(name.toList, value), (name'.toList, value')] name'.toList =
      some (some value') := by
    simp [only?, hkeys]
  have hentries := entries?_ofFields [(name.toList, value), (name'.toList, value')]
  rw [ofFields] at hentries ⊢
  simp only [fields?, hentries, Option.bind_eq_bind, Option.bind_some, List.mapM_cons, hfirst,
    hsecond, List.mapM_nil]
  rfl

/-- What is left of overrides when they are saved and read again. -/
def rereadEntries? (entries : List (Text × SettingValue)) : Option (List (Text × SettingValue)) :=
  entries.mapM fun entry => (reread? entry.2).map (entry.1, ·)

/-- Overrides in JSON. -/
def overridesJson (entries : List (Text × SettingValue)) : Json :=
  ofFields (entries.map fun (key, value) => (key, valueJson value))

theorem overrides?_overridesJson (entries : List (Text × SettingValue)) :
    overrides? (overridesJson entries) = (rereadEntries? entries).map .ofList := by
  rw [overrides?, overridesJson, entries?_ofFields]
  simp only [Option.bind_eq_bind, Option.bind_some, List.mapM_map]
  exact Option.map_eq_bind.symm

variable {s : SavedSettings}

theorem toJson_eq :
    s.toJson = ofFields [("version".toList, .nat s.version),
      ("overrides".toList, overridesJson s.overrides.entries)] := by
  simp only [toJson, record, overridesJson, ofFields, List.map_map, List.map_cons, List.map_nil]
  rfl

theorem ofJson?_toJson (hversion : s.version < Word.limit32) :
    ofJson? s.toJson =
      (rereadEntries? s.overrides.entries).map fun entries => ⟨s.version, .ofList entries⟩ := by
  have hfields := fields?_pair "version" "overrides" (by decide) (.nat s.version)
    (overridesJson s.overrides.entries)
  rw [ofJson?, toJson_eq, hfields]
  simp only [Option.bind_eq_bind, Option.bind_some, nat?_nat hversion (by decide),
    overrides?_overridesJson]
  cases rereadEntries? s.overrides.entries <;> rfl

/-! ## Files -/

theorem isWritten_toJson (h : ∀ entry ∈ s.overrides.entries, (valueJson entry.2).IsWritten) :
    s.toJson.IsWritten := by
  have hfields (fields : List (Text × Json)) (h : ∀ field ∈ fields, field.2.IsWritten) :
      (ofFields fields).IsWritten := by
    refine .object ?_ ?_
    · intro field hfield
      obtain ⟨_, -, rfl⟩ := List.mem_map.1 hfield
      rfl
    · intro field hfield
      obtain ⟨field, hmem, rfl⟩ := List.mem_map.1 hfield
      exact h field hmem
  have hoverrides : (overridesJson s.overrides.entries).IsWritten := by
    refine hfields _ fun field hfield => ?_
    obtain ⟨entry, hmem, rfl⟩ := List.mem_map.1 hfield
    exact h entry hmem
  rw [toJson_eq]
  refine hfields _ (List.forall_mem_cons.2 ⟨isWritten_nat _, ?_⟩)
  exact List.forall_mem_singleton.2 hoverrides

/-- **A file of the current version is read value by value.** -/
theorem ofBytes_toBytes (hversion : s.version = currentVersion)
    (h : ∀ entry ∈ s.overrides.entries, (valueJson entry.2).IsWritten) :
    ofBytes s.toBytes =
      match rereadEntries? s.overrides.entries with
      | none => .error .unreadable
      | some entries => .ok ⟨s.version, .ofList entries⟩ := by
  have hlimit : s.version < Word.limit32 := by
    rw [hversion]
    decide
  have hparse := parse?_pretty (isWritten_toJson h)
  rw [ofBytes, toBytes, Symbols.ofBytes_bytes, ofSymbols, toText, hparse, Option.bind_some,
    ofJson?_toJson hlimit]
  cases rereadEntries? s.overrides.entries with
  | none => rfl
  | some entries => exact if_pos hversion

/-! ## Values that are not changed -/

/-- Truth values, texts and whole numbers of 63 bits and a sign. -/
inductive IsExact : SettingValue → Prop
  | boolean (value : Bool) : IsExact (.boolean value)
  | integer {value : Int} (hlow : -(Word.signedLimit : Int) ≤ value)
      (hhigh : value < (Word.signedLimit : Int)) : IsExact (.integer value)
  | string (value : Text) : IsExact (.string value)

theorem IsExact.isWritten {value : SettingValue} (h : IsExact value) :
    (valueJson value).IsWritten := by
  cases h with
  | boolean value => exact .bool value
  | integer => exact isWritten_int _
  | string value => exact .text value

theorem IsExact.reread?_eq {value : SettingValue} (h : IsExact value) :
    reread? value = some value := by
  cases h with
  | boolean value => rfl
  | integer hlow hhigh => exact value?_int hlow hhigh
  | string value => rfl

theorem rereadEntries?_of_reread? {entries : List (Text × SettingValue)}
    (h : ∀ entry ∈ entries, reread? entry.2 = some entry.2) :
    rereadEntries? entries = some entries := by
  rw [rereadEntries?]
  induction entries with
  | nil => rfl
  | cons entry entries ih =>
    rw [List.forall_mem_cons] at h
    rw [List.mapM_cons, h.1, ih h.2]
    rfl

/-- **Settings without floats are saved and read again unchanged.** -/
theorem exact_values_are_kept (s : SavedSettings) (hversion : s.version = currentVersion)
    (hexact : ∀ entry ∈ s.overrides.entries, IsExact entry.2) : ofBytes s.toBytes = .ok s := by
  have hreread := rereadEntries?_of_reread? fun entry hentry => (hexact entry hentry).reread?_eq
  have hbytes := ofBytes_toBytes hversion fun entry hentry => (hexact entry hentry).isWritten
  rw [hreread] at hbytes
  simpa [Table.ofList_entries] using hbytes

/-- A key that has to be escaped, the least whole number, and texts that look like other
values. -/
theorem exact_values_of_each_kind_are_kept :
    let s : SavedSettings := ⟨1, ⟨[
      (['\n', '"', '\\'], .integer (-9223372036854775808)),
      (['a'], .string ['n', 'u', 'l', 'l']),
      (['b'], .boolean true),
      (['é'], .string ['-', '1'])], by decide⟩⟩
    ofBytes s.toBytes = .ok s := by
  intro s
  refine exact_values_are_kept s rfl ?_
  simp only [s, List.forall_mem_cons]
  exact ⟨.integer (by decide) (by decide), .string _, .boolean _, .string _,
    List.forall_mem_nil _⟩

end MarkupPad.SavedSettings
