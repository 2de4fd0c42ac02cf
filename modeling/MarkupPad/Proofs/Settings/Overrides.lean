import MarkupPad.Settings.Saved

/-!
# Overrides fit their defaults

Whatever is done to the overrides of a registry, and whether it is refused or not, the defaults
stay and every override is one of a setting whose default it fits.  So whoever reads a setting by
the type of its default is never told that it is missing or has another type.

    r.Typed defaults → (r.change change).Typed defaults                          (typed_change)
    r.Typed defaults → defaults.find? key = some default → default.type = .integer →
      (r.count key fails just when the number in effect is negative)          (Typed.count_eq)
-/

namespace MarkupPad

namespace Table

variable {α : Type} {key : Text} {value : α} {entries : List (Text × α)}

theorem mem_of_findEntry? (h : findEntry? key entries = some value) : (key, value) ∈ entries := by
  induction entries with
  | nil => cases h
  | cons first entries ih =>
    unfold findEntry? at h
    split at h
    · cases h
      subst key
      exact List.mem_cons_self
    · exact List.mem_cons_of_mem _ (ih h)

end Table

namespace SettingValue

variable (value : SettingValue)

/-! ## What fits a type is what is read by it -/

theorem boolean?_isSome_iff : value.boolean?.isSome ↔ Fits value.type .boolean := by
  cases value <;> simp [boolean?, Fits, type]

theorem integer?_isSome_iff : value.integer?.isSome ↔ Fits value.type .integer := by
  cases value <;> simp [integer?, Fits, type]

/-- A whole number fits a float, and is read as one. -/
theorem float?_isSome_iff : value.float?.isSome ↔ Fits value.type .float := by
  cases value <;> simp [float?, Fits, type]

end SettingValue

namespace Registry

/-- What can be done to the overrides of a registry. -/
inductive Change where
  | set (key : Text) (value : SettingValue)
  | unset (key : Text)
  | clear
  | apply (overrides : Table SettingValue)
  /-- Saved overrides are applied. -/
  | restore (saved : SavedSettings)

/-- The registry after a change.  An override that is refused changes nothing, and of several
overrides the ones before it stay. -/
def change (r : Registry) : Change → Registry
  | .set key value =>
    match r.set key value with
    | .error _ => r
    | .ok r => r
  | .unset key => r.unset key
  | .clear => r.clear
  | .apply overrides => (r.apply overrides).2
  | .restore saved => (r.apply saved.overrides).2

/-- The registry after changes one after the other. -/
def changeAll (r : Registry) (changes : List Change) : Registry := changes.foldl change r

/-- A registry of these defaults whose overrides all fit them. -/
structure Typed (defaults : Table SettingValue) (r : Registry) : Prop where
  defaults_eq : r.defaults = defaults
  fits : ∀ entry ∈ r.overrides.entries, ∃ default, defaults.find? entry.1 = some default ∧
    SettingValue.Fits entry.2.type default.type

variable {defaults : Table SettingValue} {r r' : Registry} {key : Text} {value : SettingValue}

/-! ## Writing -/

/-- An override is accepted just when it fits the default. -/
theorem refusal?_eq_none_iff :
    r.refusal? key value = none ↔
      ∃ default, r.defaults.find? key = some default ∧
        SettingValue.Fits value.type default.type := by
  unfold refusal?
  cases r.defaults.find? key with
  | none => simp
  | some default => simp

theorem typed_set (h : r.Typed defaults) (hset : r.set key value = .ok r') :
    r'.Typed defaults := by
  unfold set at hset
  split at hset
  · cases hset
  · cases hset
    refine ⟨h.defaults_eq, fun entry hmem => ?_⟩
    rcases Table.mem_insertEntry hmem with rfl | hold
    · rw [← h.defaults_eq]
      exact refusal?_eq_none_iff.1 ‹_›
    · exact h.fits entry hold

theorem typed_unset (h : r.Typed defaults) (key : Text) : (r.unset key).Typed defaults :=
  ⟨h.defaults_eq, fun entry hmem => h.fits entry (List.mem_filter.1 hmem).1⟩

theorem typed_clear (h : r.Typed defaults) : r.clear.Typed defaults :=
  ⟨h.defaults_eq, fun _ hmem => nomatch hmem⟩

/-- Also the overrides before one that is refused fit. -/
theorem typed_setAll (h : r.Typed defaults) (overrides : List (Text × SettingValue)) :
    (r.setAll overrides).2.Typed defaults := by
  induction overrides generalizing r with
  | nil => exact h
  | cons entry overrides ih =>
    unfold setAll
    split
    · exact h
    · exact ih (typed_set h ‹_›)

theorem typed_change (h : r.Typed defaults) (change : Change) :
    (r.change change).Typed defaults := by
  cases change with
  | set key value =>
    unfold Registry.change
    simp only
    split
    · exact h
    · exact typed_set h ‹_›
  | unset key => exact typed_unset h key
  | clear => exact typed_clear h
  | apply overrides => exact typed_setAll h overrides.entries
  | restore saved => exact typed_setAll h saved.overrides.entries

/-- **Overrides that fit their defaults do so after any changes.** -/
theorem typed_changeAll (h : r.Typed defaults) (changes : List Change) :
    (r.changeAll changes).Typed defaults := by
  induction changes generalizing r with
  | nil => exact h
  | cons change changes ih => exact ih (typed_change h change)

/-! ## Reading -/

variable {default : SettingValue}

/-- The value in effect fits the default: it is an override, or the default itself. -/
theorem Typed.get?_fits (h : r.Typed defaults) (hdefault : defaults.find? key = some default) :
    ∃ value, r.get? key = some value ∧ SettingValue.Fits value.type default.type := by
  unfold get?
  cases hoverride : r.overrides.find? key with
  | none =>
    rw [h.defaults_eq, hdefault]
    exact ⟨default, rfl, .inl rfl⟩
  | some value =>
    obtain ⟨default', hdefault', hfits⟩ := h.fits _ (Table.mem_of_findEntry? hoverride)
    cases hdefault.symm.trans hdefault'
    exact ⟨value, rfl, hfits⟩

/-- A reader of all that fits a type reads every setting whose default has the type. -/
theorem Typed.requireAs_eq {α : Type} {read? : SettingValue → Option α} {expected : SettingType}
    (hread : ∀ value, (read? value).isSome ↔ SettingValue.Fits value.type expected)
    (h : r.Typed defaults) (hdefault : defaults.find? key = some default)
    (htype : default.type = expected) :
    ∃ value x, r.get? key = some value ∧ read? value = some x ∧
      r.requireAs expected read? key = .ok x := by
  obtain ⟨value, hvalue, hfits⟩ := h.get?_fits hdefault
  obtain ⟨x, hx⟩ := Option.isSome_iff_exists.1 ((hread value).2 (htype ▸ hfits))
  refine ⟨value, x, hvalue, hx, ?_⟩
  unfold requireAs require
  rw [hvalue]
  simp only [Except.bind, bind, hx]
  rfl

theorem Typed.boolean_eq (h : r.Typed defaults) (hdefault : defaults.find? key = some default)
    (htype : default.type = .boolean) : ∃ value, r.boolean key = .ok value := by
  obtain ⟨-, value, -, -, hread⟩ :=
    h.requireAs_eq SettingValue.boolean?_isSome_iff hdefault htype
  exact ⟨value, hread⟩

theorem Typed.float_eq (h : r.Typed defaults) (hdefault : defaults.find? key = some default)
    (htype : default.type = .float) : ∃ value, r.float key = .ok value := by
  obtain ⟨-, value, -, -, hread⟩ :=
    h.requireAs_eq SettingValue.float?_isSome_iff hdefault htype
  exact ⟨value, hread⟩

/-- **A count is refused for being negative only.** -/
theorem Typed.count_eq (h : r.Typed defaults) (hdefault : defaults.find? key = some default)
    (htype : default.type = .integer) :
    ∃ n, r.get? key = some (.integer n) ∧
      r.count key =
        if n < 0 then .error (.outOfRange key (SettingValue.intText n)) else .ok n.toNat := by
  obtain ⟨value, n, hvalue, hn, hread⟩ :=
    h.requireAs_eq SettingValue.integer?_isSome_iff hdefault htype
  have hinteger : value = .integer n := by
    cases value with
    | integer m =>
      cases hn
      rfl
    | _ => cases hn
  refine ⟨n, hinteger ▸ hvalue, ?_⟩
  rw [count, hread]
  rfl

end Registry

end MarkupPad
