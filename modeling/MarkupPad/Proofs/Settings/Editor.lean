import MarkupPad.Proofs.Settings.Overrides
import MarkupPad.Settings.Editor

/-!
# The settings of the editor stay usable

The eleven settings of the editor have their defaults, and whatever is overridden keeps their
types.  So the configuration only fails where a count is negative, and says which is the first.

    r.Typed registry.defaults →
      (config r).map (fun _ => ()) = (counts.mapM r.count).map (fun _ => ())      (config_map)
-/

namespace MarkupPad.Settings

/-! ## Defaults -/

theorem find?_register_of_ne {settings : List (Text × SettingValue)} {key : Text} {r : Registry}
    (h : key ∉ settings.map (·.1)) :
    (settings.foldl (fun r (key, value) => r.register key value) r).defaults.find? key =
      r.defaults.find? key := by
  induction settings generalizing r with
  | nil => rfl
  | cons setting settings ih =>
    rw [List.map_cons, List.mem_cons, not_or] at h
    rw [List.foldl_cons, ih h.2]
    exact (Table.find?_insert ..).trans (if_neg h.1)

/-- **Settings with keys of their own are registered with their values.** -/
theorem find?_register {settings : List (Text × SettingValue)}
    (hnodup : (settings.map (·.1)).Nodup) (r : Registry) {setting : Text × SettingValue}
    (h : setting ∈ settings) :
    (settings.foldl (fun r (key, value) => r.register key value) r).defaults.find? setting.1 =
      some setting.2 := by
  induction settings generalizing r with
  | nil => cases h
  | cons first settings ih =>
    rw [List.map_cons, List.nodup_cons] at hnodup
    rw [List.foldl_cons]
    rcases List.mem_cons.1 h with rfl | h
    · rw [find?_register_of_ne hnodup.1]
      exact (Table.find?_insert ..).trans (if_pos rfl)
    · exact ih hnodup.2 _ h

theorem nodup_keys : ((ofConfig .default).map (·.1)).Nodup := by decide

theorem find?_registry {key : Text} {value : SettingValue}
    (h : (key, value) ∈ ofConfig .default) : registry.defaults.find? key = some value :=
  find?_register nodup_keys .empty h

/-- Nothing is overridden at first. -/
theorem typed_registry : registry.Typed registry.defaults := by
  refine ⟨rfl, fun entry hmem => ?_⟩
  have hnone : registry.overrides.entries = [] := rfl
  rw [hnone] at hmem
  cases hmem

/-! ## Counts -/

/-- The settings that must not be negative, in the order in which they are read. -/
def counts : List Text := [historyCapacity, commitDelay, maxSuggestions]

variable {r : Registry}

/-- A negative number is in effect. -/
def IsNegative (r : Registry) (key : Text) (n : Int) : Prop :=
  r.get? key = some (.integer n) ∧ n < 0

/-- A count is refused just when it is negative. -/
theorem count_cases (h : r.Typed registry.defaults) {key : Text} (hkey : key ∈ counts) :
    (∃ n, r.count key = .ok n ∧ ∀ n, ¬ IsNegative r key n) ∨
    ∃ n, r.count key = .error (.outOfRange key (SettingValue.intText n)) ∧ IsNegative r key n := by
  have hinteger : ∃ n : Nat, (key, .integer n) ∈ ofConfig .default := by
    simp only [counts, List.mem_cons, List.not_mem_nil, or_false] at hkey
    rcases hkey with rfl | rfl | rfl
    · exact ⟨Config.default.historyCapacity, by simp [ofConfig]⟩
    · exact ⟨Config.default.commitDelay, by simp [ofConfig]⟩
    · exact ⟨Config.default.maxSuggestions, by simp [ofConfig]⟩
  obtain ⟨default, hdefault⟩ := hinteger
  obtain ⟨n, hn, hcount⟩ := h.count_eq (find?_registry hdefault) rfl
  by_cases hnegative : n < 0
  · rw [if_pos hnegative] at hcount
    exact .inr ⟨n, hcount, hn, hnegative⟩
  · rw [if_neg hnegative] at hcount
    refine .inl ⟨n.toNat, hcount, fun m hm => ?_⟩
    cases hn.symm.trans hm.1
    exact hnegative hm.2

/-- Of several counts the first that is negative is refused. -/
theorem mapM_count_cases (h : r.Typed registry.defaults) {keys : List Text}
    (hkeys : ∀ key ∈ keys, key ∈ counts) :
    (∃ ns, keys.mapM r.count = .ok ns ∧ ∀ key ∈ keys, ∀ n, ¬ IsNegative r key n) ∨
    ∃ before key after n, keys = before ++ key :: after ∧
      (∀ key ∈ before, ∀ n, ¬ IsNegative r key n) ∧ IsNegative r key n ∧
      keys.mapM r.count = .error (.outOfRange key (SettingValue.intText n)) := by
  induction keys with
  | nil => exact .inl ⟨[], rfl, List.forall_mem_nil _⟩
  | cons key keys ih =>
    rw [List.forall_mem_cons] at hkeys
    rcases count_cases h hkeys.1 with ⟨n, hcount, hkey⟩ | ⟨n, hcount, hkey⟩
    · rcases ih hkeys.2 with ⟨ns, hns, hrest⟩ | ⟨before, key', after, m, rfl, hbefore, hkey', hm⟩
      · refine .inl ⟨n :: ns, ?_, List.forall_mem_cons.2 ⟨hkey, hrest⟩⟩
        rw [List.mapM_cons, hcount, hns]
        rfl
      · refine .inr ⟨key :: before, key', after, m, rfl,
          List.forall_mem_cons.2 ⟨hkey, hbefore⟩, hkey', ?_⟩
        rw [List.mapM_cons, hcount, hm]
        rfl
    · refine .inr ⟨[], key, keys, n, rfl, List.forall_mem_nil _, hkey, ?_⟩
      rw [List.mapM_cons, hcount]
      rfl

/-! ## The configuration -/

theorem boolean_eq (h : r.Typed registry.defaults) (key : Text) (value : Bool)
    (hdefault : (key, .boolean value) ∈ ofConfig .default) : ∃ value, r.boolean key = .ok value :=
  h.boolean_eq (find?_registry hdefault) rfl

theorem float_eq (h : r.Typed registry.defaults) (key : Text) (value : Float)
    (hdefault : (key, .float value) ∈ ofConfig .default) : ∃ value, r.float key = .ok value :=
  h.float_eq (find?_registry hdefault) rfl

/-- **Only the counts decide whether there is a configuration**, and about the error. -/
theorem config_map (h : r.Typed registry.defaults) :
    (config r).map (fun _ => ()) = (counts.mapM r.count).map fun _ => () := by
  let c := Config.default
  obtain ⟨_, hautoClose⟩ := boolean_eq h autoClose c.autoClose (by simp [ofConfig, c])
  obtain ⟨_, hpredictions⟩ := boolean_eq h predictions c.predictions (by simp [ofConfig, c])
  obtain ⟨_, hlineHeight⟩ := float_eq h lineHeight c.popup.lineHeight (by simp [ofConfig, c])
  obtain ⟨_, hcharWidth⟩ := float_eq h charWidth c.popup.charWidth (by simp [ofConfig, c])
  obtain ⟨_, htopOffset⟩ := float_eq h topOffset c.popup.topOffset (by simp [ofConfig, c])
  obtain ⟨_, hleftOffset⟩ := float_eq h leftOffset c.popup.leftOffset (by simp [ofConfig, c])
  obtain ⟨_, hviewportWidth⟩ :=
    float_eq h viewportWidth c.popup.viewportWidth (by simp [ofConfig, c])
  obtain ⟨_, hviewportHeight⟩ :=
    float_eq h viewportHeight c.popup.viewportHeight (by simp [ofConfig, c])
  simp only [config, counts, List.mapM_cons, List.mapM_nil, hautoClose, hpredictions, hlineHeight,
    hcharWidth, htopOffset, hleftOffset, hviewportWidth, hviewportHeight]
  cases r.count historyCapacity with
  | error error => rfl
  | ok capacity =>
    cases r.count commitDelay with
    | error error => rfl
    | ok delay =>
      cases r.count maxSuggestions with
      | error error => rfl
      | ok limit => rfl

/-- There is a configuration, or the first of the negative counts is reported. -/
theorem config_cases (h : r.Typed registry.defaults) :
    (∃ c, config r = .ok c ∧ ∀ key ∈ counts, ∀ n, ¬ IsNegative r key n) ∨
    ∃ before key after n, counts = before ++ key :: after ∧
      (∀ key ∈ before, ∀ n, ¬ IsNegative r key n) ∧ IsNegative r key n ∧
      config r = .error (.outOfRange key (SettingValue.intText n)) := by
  have hmap := config_map h
  rcases mapM_count_cases h (fun _ hkey => hkey) with
    ⟨ns, hns, hcounts⟩ | ⟨before, key, after, n, hkeys, hbefore, hkey, hn⟩
  · rw [hns] at hmap
    cases hconfig : config r with
    | error error =>
      rw [hconfig] at hmap
      cases hmap
    | ok c => exact .inl ⟨c, rfl, hcounts⟩
  · rw [hn] at hmap
    cases hconfig : config r with
    | error error =>
      rw [hconfig] at hmap
      cases hmap
      exact .inr ⟨before, key, after, n, hkeys, hbefore, hkey, rfl⟩
    | ok c =>
      rw [hconfig] at hmap
      cases hmap

/-- **Settings stay usable whatever is done to them.**  All overrides are of settings whose
defaults they fit, so that the configuration fails just when a count is negative, and then for
the first one that is. -/
theorem overrides_stay_typed (changes : List Registry.Change) :
    let r := registry.changeAll changes
    r.Typed registry.defaults ∧
    ((∃ error, config r = .error error) ↔ ∃ key ∈ counts, ∃ n, IsNegative r key n) ∧
    ∀ error, config r = .error error →
      ∃ before key after n, counts = before ++ key :: after ∧
        (∀ key ∈ before, ∀ n, ¬ IsNegative r key n) ∧ IsNegative r key n ∧
        error = .outOfRange key (SettingValue.intText n) := by
  intro r
  have htyped : r.Typed registry.defaults := Registry.typed_changeAll typed_registry changes
  refine ⟨htyped, ?_⟩
  rcases config_cases htyped with
    ⟨c, hconfig, hcounts⟩ | ⟨before, key, after, n, hkeys, hbefore, hkey, hconfig⟩
  · constructor
    · constructor
      · rintro ⟨error, herror⟩
        cases hconfig.symm.trans herror
      · rintro ⟨key, hkey, n, hn⟩
        exact absurd hn (hcounts key hkey n)
    · intro error herror
      cases hconfig.symm.trans herror
  · constructor
    · have hmem : key ∈ counts := by
        rw [hkeys]
        exact List.mem_append_right _ List.mem_cons_self
      exact iff_of_true ⟨_, hconfig⟩ ⟨key, hmem, n, hkey⟩
    · intro error herror
      cases hconfig.symm.trans herror
      exact ⟨before, key, after, n, hkeys, hbefore, hkey, rfl⟩

/-- Of two negative counts the first is reported; a text in place of a truth value is refused. -/
example :
    config (registry.changeAll [
      .set commitDelay (.integer (-2)),
      .set historyCapacity (.integer (-1)),
      .set autoClose (.string "yes".toList)]) =
      .error (.outOfRange historyCapacity "-1".toList) := by
  rfl

end MarkupPad.Settings
