import MarkupPad.Proofs.Settings.Restored
import MarkupPad.Proofs.Text.Order

/-!
# Overrides are applied up to the first that is refused

The overrides of a table are set in the order of their keys, which is the order of their bytes.
They are all set if the registry accepts them all; else those before the first one that it refuses
are set, and the error is the one of setting that one alone.

    t.find? key = some value ↔ (key, value) ∈ t.entries                    (find?_eq_some_iff)
    r.setAll entries = the first refusal, and r with the entries before it              (setAll_eq)
    (r.apply m).1 = none ↔ r accepts all values of m                        (apply_fst_eq_none_iff)
-/

namespace MarkupPad

open Text

namespace Table

variable {α : Type} {t : Table α} {entries a b : List (Text × α)} {key : Text} {value : α}

/-! ## Entries in order -/

theorem findEntry?_append (key : Text) (a b : List (Text × α)) :
    findEntry? key (a ++ b) = (Table.findEntry? key a <|> Table.findEntry? key b) := by
  induction a with
  | nil => rfl
  | cons entry a ih =>
    rw [List.cons_append, findEntry?, findEntry?, ih]
    split <;> rfl

theorem findEntry?_eq_none (h : ∀ entry ∈ entries, entry.1 ≠ key) :
    findEntry? key entries = none := by
  induction entries with
  | nil => rfl
  | cons entry entries ih =>
    rw [List.forall_mem_cons] at h
    unfold findEntry?
    rw [if_neg h.1, ih h.2]

/-- **The values of a table are those of its entries.** -/
theorem find?_eq_some_iff : t.find? key = some value ↔ (key, value) ∈ t.entries := by
  refine ⟨fun hfind => mem_of_findEntry? hfind, fun hmem => ?_⟩
  obtain ⟨before, after, hentries⟩ := List.append_of_mem hmem
  have h := t.sorted
  rw [hentries, List.pairwise_append] at h
  have hbefore : ∀ entry ∈ before, entry.1 ≠ key := by
    intro entry hentry heq
    have hlt : entry.1 < key := h.2.2 entry hentry _ List.mem_cons_self
    exact List.lt_irrefl key (heq ▸ hlt)
  rw [find?, hentries, findEntry?_append, findEntry?_eq_none hbefore, findEntry?, if_pos rfl]
  rfl

/-- Entries in order that are inserted stand in place of those with the same keys. -/
theorem find?_insertAll (h : entries.Pairwise fun a b => a.1 < b.1) (t : Table α) (key : Text) :
    (t.insertAll entries).find? key = (Table.findEntry? key entries <|> t.find? key) := by
  induction entries generalizing t with
  | nil => rfl
  | cons entry entries ih =>
    obtain ⟨hfirst, hrest⟩ := List.pairwise_cons.1 h
    show ((t.insert entry.1 entry.2).insertAll entries).find? key = _
    rw [ih hrest, find?_insert, findEntry?]
    by_cases hkey : entry.1 = key
    · have hnone : findEntry? key entries = none := by
        refine findEntry?_eq_none fun other hother heq => ?_
        have hlt : entry.1 < other.1 := hfirst other hother
        rw [hkey, heq] at hlt
        exact List.lt_irrefl key hlt
      rw [hnone, if_pos hkey.symm, if_pos hkey]
      rfl
    · rw [if_neg (Ne.symm hkey), if_neg hkey]

/-- Of entries in order, those before one are the ones with smaller keys. -/
theorem findEntry?_before (h : (a ++ (key, value) :: b).Pairwise fun a b => a.1 < b.1)
    (other : Text) :
    findEntry? other a =
      if utf8 other < utf8 key then findEntry? other (a ++ (key, value) :: b) else none := by
  obtain ⟨-, hb, hab⟩ := List.pairwise_append.1 h
  by_cases hlt : other < key
  · have hnone : findEntry? other ((key, value) :: b) = none := by
      refine findEntry?_eq_none fun entry hentry heq => ?_
      rw [← heq] at hlt
      rcases List.mem_cons.1 hentry with rfl | hentry
      · exact List.lt_irrefl _ hlt
      · have hgt : key < entry.1 := (List.pairwise_cons.1 hb).1 entry hentry
        exact List.lt_asymm hgt hlt
    rw [if_pos (utf8_lt_iff.2 hlt), findEntry?_append, hnone, Option.orElse_eq_orElse,
      Option.orElse_eq_or, Option.or_none]
  · rw [if_neg fun hbytes => hlt (utf8_lt_iff.1 hbytes)]
    refine findEntry?_eq_none fun entry hentry heq => hlt ?_
    rw [← heq]
    exact hab entry hentry _ List.mem_cons_self

end Table

namespace Registry

variable {r r' : Registry} {key : Text} {value : SettingValue} {error : SettingsError}

/-- A value is accepted for a setting: it is registered, and the value fits its default. -/
def Accepts (r : Registry) (key : Text) (value : SettingValue) : Prop :=
  ∃ default, r.defaults.find? key = some default ∧ SettingValue.Fits value.type default.type

/-- A registry is another one with some values written over its overrides. -/
structure Overwrites (values : Text → Option SettingValue) (r r' : Registry) : Prop where
  defaults_eq : r'.defaults = r.defaults
  find?_eq : ∀ key, r'.overrides.find? key = (values key <|> r.overrides.find? key)

/-! ## One override after the other -/

theorem set_eq_error_iff : r.set key value = .error error ↔ r.refusal? key value = some error := by
  rw [set]
  cases r.refusal? key value with
  | none => simp
  | some refusal => simp

/-- **Overrides are set up to the first that is refused,** and its error is returned.  The overrides
that are set on the way do not count for what is refused, as only the defaults do. -/
theorem setAll_eq (r : Registry) (entries : List (Text × SettingValue)) :
    r.setAll entries = (entries.findSome? fun entry => r.refusal? entry.1 entry.2, { r with
      overrides := r.overrides.insertAll
        (entries.takeWhile fun entry => (r.refusal? entry.1 entry.2).isNone) }) := by
  induction entries generalizing r with
  | nil => rfl
  | cons entry entries ih =>
    rw [setAll, set, List.findSome?_cons, List.takeWhile_cons]
    cases r.refusal? entry.1 entry.2 with
    | none => exact ih _
    | some error => rfl

theorem overwrites_insertAll {entries : List (Text × SettingValue)}
    (h : entries.Pairwise fun a b => a.1 < b.1) (r : Registry) :
    r.Overwrites (Table.findEntry? · entries)
      { r with overrides := r.overrides.insertAll entries } where
  defaults_eq := rfl
  find?_eq := Table.find?_insertAll h r.overrides

/-! ## Overrides of a table -/

variable {m : Table SettingValue}

/-- Nothing is refused just when all values are accepted. -/
theorem apply_fst_eq_none_iff :
    (r.apply m).1 = none ↔ ∀ key value, m.find? key = some value → r.Accepts key value := by
  rw [apply, setAll_eq, List.findSome?_eq_none_iff]
  constructor
  · intro h key value hvalue
    exact refusal?_eq_none_iff.1 (h (key, value) (Table.find?_eq_some_iff.1 hvalue))
  · intro h entry hentry
    exact refusal?_eq_none_iff.2 (h entry.1 entry.2 (Table.find?_eq_some_iff.2 hentry))

theorem overwrites_of_none (h : (r.apply m).1 = none) :
    r.Overwrites m.find? (r.apply m).2 := by
  rw [apply, setAll_eq] at h ⊢
  have hall : (m.entries.takeWhile fun entry => (r.refusal? entry.1 entry.2).isNone) =
      m.entries := by
    rw [List.takeWhile_eq_self_iff]
    intro entry hentry
    rw [List.findSome?_eq_none_iff.1 h entry hentry]
    rfl
  rw [hall]
  exact overwrites_insertAll m.sorted r

/-- An error is that of the first override that is refused, and those before it are set. -/
theorem exists_refused_of_apply (h : (r.apply m).1 = some error) :
    ∃ before key value after, m.entries = before ++ (key, value) :: after ∧
      r.refusal? key value = some error ∧
      (∀ entry ∈ before, r.refusal? entry.1 entry.2 = none) ∧
      (r.apply m).2 = { r with overrides := r.overrides.insertAll before } := by
  rw [apply, setAll_eq] at h ⊢
  obtain ⟨before, entry, after, hentries, herror, hbefore⟩ := List.findSome?_eq_some_iff.1 h
  have hnone : ∀ entry ∈ before, (r.refusal? entry.1 entry.2).isNone := by
    intro entry hentry
    rw [hbefore entry hentry]
    rfl
  refine ⟨before, entry.1, entry.2, after, hentries, herror, hbefore, ?_⟩
  rw [hentries, List.takeWhile_append_of_pos hnone, List.takeWhile_cons_of_neg (by simp [herror]),
    List.append_nil]

theorem overwrites_of_some (h : (r.apply m).1 = some error) :
    ∃ key value, m.find? key = some value ∧ r.set key value = .error error ∧
      (∀ other v, m.find? other = some v → utf8 other < utf8 key → r.Accepts other v) ∧
      r.Overwrites (fun other => if utf8 other < utf8 key then m.find? other else none)
        (r.apply m).2 := by
  obtain ⟨before, key, value, after, hentries, herror, hbefore, hafter⟩ := exists_refused_of_apply h
  have hsorted : (before ++ (key, value) :: after).Pairwise fun a b => a.1 < b.1 :=
    hentries ▸ m.sorted
  have hvalues : (Table.findEntry? · before) =
      fun other => if utf8 other < utf8 key then m.find? other else none := by
    funext other
    rw [Table.findEntry?_before hsorted, ← hentries]
    rfl
  refine ⟨key, value, ?_, set_eq_error_iff.2 herror, ?_, ?_⟩
  · rw [Table.find?_eq_some_iff, hentries]
    exact List.mem_append_right _ List.mem_cons_self
  · intro other v hv hlt
    have hfind : Table.findEntry? other before = some v := by
      rw [congrFun hvalues other, if_pos hlt, hv]
    exact refusal?_eq_none_iff.1 (hbefore (other, v) (Table.mem_of_findEntry? hfind))
  · rw [hafter, ← hvalues]
    exact overwrites_insertAll (List.pairwise_append.1 hsorted).1 r

/-- **Overrides of a table are applied up to the first that is refused.**  None is refused just when
all keys are registered and all values fit their defaults, and then all of them are written over
the overrides.  Otherwise the error is the one of setting the refused one with the least key, in the
order of bytes, and just the values of smaller keys are written over the overrides.  The defaults
stay, and setting one override that is refused changes nothing. -/
theorem apply_stops_at_first_refused (r : Registry) (m : Table SettingValue) :
    ((r.apply m).1 = none ↔ ∀ key value, m.find? key = some value → r.Accepts key value) ∧
    ((r.apply m).1 = none → r.Overwrites m.find? (r.apply m).2) ∧
    (∀ error, (r.apply m).1 = some error →
      ∃ key value, m.find? key = some value ∧ r.set key value = .error error ∧
        (∀ other v, m.find? other = some v → utf8 other < utf8 key → r.Accepts other v) ∧
        r.Overwrites (fun other => if utf8 other < utf8 key then m.find? other else none)
          (r.apply m).2) ∧
    ∀ key value error, r.set key value = .error error →
      r.change (.set key value) = r ∧ r.apply (Table.empty.insert key value) = (some error, r) := by
  refine ⟨apply_fst_eq_none_iff, overwrites_of_none, fun error => overwrites_of_some, ?_⟩
  intro key value error h
  constructor
  · rw [change, h]
  · show r.setAll [(key, value)] = _
    rw [setAll, h]

/-- A text is refused for the capacity of the history, after a truth value that is accepted and
before a float that would be. -/
theorem apply_stops_at_text_for_count :
    let m := Table.ofList [
      (Settings.charWidth, .integer 8), (Settings.historyCapacity, .string "many".toList),
      (Settings.autoClose, .boolean false)]
    let r' := (Settings.registry.apply m).2
    (Settings.registry.apply m).1 =
        some (.typeMismatch Settings.historyCapacity .integer .string) ∧
      r'.overrides.find? Settings.autoClose = some (.boolean false) ∧
      r'.overrides.find? Settings.historyCapacity = none ∧
      r'.overrides.find? Settings.charWidth = none := by
  intro m r'
  have herror : (Settings.registry.apply m).1 =
      some (.typeMismatch Settings.historyCapacity .integer .string) := rfl
  obtain ⟨key, value, hvalue, hset, -, hover⟩ :=
    (apply_stops_at_first_refused Settings.registry m).2.2.1 _ herror
  obtain rfl : key = Settings.historyCapacity := by
    rw [set_eq_error_iff, refusal?] at hset
    split at hset
    · cases hset
    · split at hset
      · cases hset
      · exact (SettingsError.typeMismatch.inj (Option.some.inj hset)).1
  refine ⟨herror, ?_, ?_, ?_⟩
  · rw [hover.find?_eq, if_pos (utf8_lt_iff.2 (by decide))]
    rfl
  · rw [hover.find?_eq, if_neg (List.lt_irrefl _)]
    rfl
  · rw [hover.find?_eq, if_neg fun hlt => absurd (utf8_lt_iff.1 hlt) (by decide)]
    rfl

end Registry

end MarkupPad
