import MarkupPad.Proofs.Library.Custom

/-!
# The libraries of a project are an ordered set

A library is only added where its id is missing: by a toggle, which removes it otherwise, or under
an id that was made for it.  So a change that does anything takes away all that has an id that is
there, or puts one library with an id that is not there at the end.  Hence no id comes twice, and
the libraries stand in the order in which they were last added.  What an address is does not
matter to this, so it is left to any reader.

    s.IsFresh c → s.perform reader c erases an id of s, pushes a new one, or changes nothing
                                                                                  (perform_cases)
    s.FreshRun reader changes → s.ids.Nodup → (s.changeAll reader changes).ids.Nodup
                                                                                (nodup_changeAll)
    empty.FreshRun reader changes →
      ∃ time, InOrder reader changes time (empty.changeAll reader changes)       (exists_inOrder)
-/

namespace MarkupPad.LibrarySet

/-- What can be done to a set. -/
inductive Change where
  | toggle (library : Library)
  | toggleCatalog (id : Text)
  /-- Add the library at an address under an id that was made for it. -/
  | addCustom (id name url : Text) (kind : LibraryKind)
  | remove (id : Text)

/-- The answer to a change, and the set after it.  A library at an address is always added, if it is
an address. -/
def perform (reader : Url.Reader) (s : LibrarySet) :
    Change → Except LibraryError Bool × LibrarySet
  | .toggle library => (.ok (s.toggle library).1, (s.toggle library).2)
  | .toggleCatalog id =>
    match s.toggleCatalog id with
    | .error error => (.error error, s)
    | .ok (isNew, s') => (.ok isNew, s')
  | .addCustom id name url kind =>
    match s.addCustom id name url kind reader with
    | .error error => (.error error, s)
    | .ok (_, s') => (.ok true, s')
  | .remove id => (.ok (s.remove id).1, (s.remove id).2)

/-- The set after changes one after the other. -/
def changeAll (reader : Url.Reader) (s : LibrarySet) (changes : List Change) : LibrarySet :=
  changes.foldl (fun s c => (s.perform reader c).2) s

/-- An id that is made for a library is not in use. -/
def IsFresh (s : LibrarySet) : Change → Prop
  | .addCustom id _ _ _ => ¬ s.Contains id
  | _ => True

/-- All ids that are made on the way are not in use by then. -/
def FreshRun (reader : Url.Reader) (s : LibrarySet) : List Change → Prop
  | [] => True
  | c :: changes => s.IsFresh c ∧ FreshRun reader (s.perform reader c).2 changes

/-- Why a change fails: there is no such library in the catalog, or the reader knows no such address
as one that will do for a library. -/
inductive Fails (reader : Url.Reader) : Change → LibraryError → Prop where
  | unknown {id : Text} :
      (∀ library ∈ Library.catalog, library.id ≠ id) →
        Fails reader (.toggleCatalog id) (.unknown id)
  | invalidUrl {id name url : Text} {kind : LibraryKind} :
      (∀ address, reader (Text.trim url) = some address → ¬ address.IsForLibrary) →
        Fails reader (.addCustom id name url kind) (.invalidUrl url)

/-- The sets differ in libraries of this id only, and all others are in the same order. -/
def AgreeBesides (id : Text) (s s' : LibrarySet) : Prop := s'.erase id = s.erase id

variable {reader : Url.Reader} {s : LibrarySet} {library : Library} {id : Text}

/-! ## One change -/

theorem erase_of_not_contains (h : ¬ s.Contains id) : s.erase id = s := by
  have hall : ∀ l ∈ s.libraries, decide (l.id ≠ id) = true := by
    intro l hl
    rw [decide_eq_true_eq]
    rintro rfl
    exact h (List.mem_map_of_mem hl)
  rw [erase, List.filter_eq_self.2 hall]

theorem agreeBesides_erase (s : LibrarySet) (id : Text) : s.AgreeBesides id (s.erase id) := by
  simp [AgreeBesides, erase]

theorem agreeBesides_push (s : LibrarySet) (library : Library) :
    s.AgreeBesides library.id (s.push library) := by
  simp [AgreeBesides, erase, push]

theorem toggle_cases (s : LibrarySet) (library : Library) :
    s.Contains library.id ∧ s.toggle library = (false, s.erase library.id) ∨
      ¬ s.Contains library.id ∧ s.toggle library = (true, s.push library) := by
  by_cases h : s.Contains library.id
  · exact .inl ⟨h, if_pos h⟩
  · exact .inr ⟨h, if_neg h⟩

/-- A toggle makes the library come or go, and tells which. -/
theorem toggle_spec (s : LibrarySet) (library : Library) :
    ((s.toggle library).1 = true ↔ ¬ s.Contains library.id) ∧
      ((s.toggle library).2.Contains library.id ↔ ¬ s.Contains library.id) ∧
      (library ∈ (s.toggle library).2.libraries ↔ ¬ s.Contains library.id) ∧
      s.AgreeBesides library.id (s.toggle library).2 := by
  refine ⟨toggle_fst, ?_⟩
  rcases toggle_cases s library with ⟨h, htoggle⟩ | ⟨h, htoggle⟩
  · rw [htoggle]
    exact ⟨by simp [contains_erase, h], by simp [erase, h], agreeBesides_erase s library.id⟩
  · rw [htoggle]
    exact ⟨by simp [contains_push, h], by simp [push, h], agreeBesides_push s library⟩

/-- A library of the catalog is toggled; other ids are unknown. -/
theorem toggleCatalog_cases (s : LibrarySet) (id : Text) :
    (∃ library ∈ Library.catalog, library.id = id ∧ s.toggleCatalog id = .ok (s.toggle library)) ∨
      (∀ library ∈ Library.catalog, library.id ≠ id) ∧
        s.toggleCatalog id = .error (.unknown id) := by
  unfold toggleCatalog Library.ofCatalog
  cases hfind : Library.catalog.find? (·.id = id) with
  | none => exact .inr ⟨by simpa using hfind, rfl⟩
  | some library =>
    have hid : library.id = id := by simpa using List.find?_some hfind
    exact .inl ⟨library, List.mem_of_find?_eq_some hfind, hid, rfl⟩

theorem toggleCatalog_of_mem (h : library ∈ Library.catalog) (s : LibrarySet) :
    s.toggleCatalog library.id = .ok (s.toggle library) := by
  have hcatalog : ∀ l ∈ Library.catalog, Library.ofCatalog l.id = .ok l := by decide
  rw [toggleCatalog, hcatalog library h]
  rfl

/-- A library is added at the end; what is no address is refused. -/
theorem addCustom_cases (reader : Url.Reader) (s : LibrarySet) (id name url : Text)
    (kind : LibraryKind) :
    (∃ library, library.id = id ∧
      s.addCustom id name url kind reader = .ok (library, s.push library)) ∨
      (∀ address, reader (Text.trim url) = some address → ¬ address.IsForLibrary) ∧
        s.addCustom id name url kind reader = .error (.invalidUrl url) := by
  cases hread : Library.readUrl url reader with
  | ok address =>
    refine .inl ⟨⟨id, name, address.toText, kind⟩, rfl, ?_⟩
    exact addCustom_eq_ok_iff.2 ⟨address, hread, rfl, rfl⟩
  | error error =>
    obtain ⟨hurl, rfl⟩ := Library.readUrl_eq_error_iff.1 hread
    refine .inr ⟨hurl, ?_⟩
    rw [addCustom, Library.custom, hread]
    rfl

/-- **A change erases an id that is there, pushes a library whose id is not there, or changes
nothing.** -/
theorem perform_cases (reader : Url.Reader) {c : Change} (hfresh : s.IsFresh c) :
    (s.perform reader c).2 = s ∨ (∃ id, s.Contains id ∧ (s.perform reader c).2 = s.erase id) ∨
      ∃ library, ¬ s.Contains library.id ∧ (s.perform reader c).2 = s.push library := by
  have htoggle (library : Library) :
      (∃ id, s.Contains id ∧ (s.toggle library).2 = s.erase id) ∨
        ∃ library', ¬ s.Contains library'.id ∧ (s.toggle library).2 = s.push library' := by
    rcases toggle_cases s library with ⟨h, htoggle⟩ | ⟨h, htoggle⟩
    · exact .inl ⟨library.id, h, by rw [htoggle]⟩
    · exact .inr ⟨library, h, by rw [htoggle]⟩
  cases c with
  | toggle library => exact .inr (htoggle library)
  | toggleCatalog id =>
    rcases toggleCatalog_cases s id with ⟨library, -, -, h⟩ | ⟨-, h⟩
    · simp only [perform, h]
      exact .inr (htoggle library)
    · simp only [perform, h]
      exact .inl trivial
  | addCustom id name url kind =>
    rcases addCustom_cases reader s id name url kind with ⟨library, rfl, h⟩ | ⟨-, h⟩
    · simp only [perform, h]
      exact .inr (.inr ⟨library, hfresh, rfl⟩)
    · simp only [perform, h]
      exact .inl trivial
  | remove id =>
    by_cases h : s.Contains id
    · exact .inr (.inl ⟨id, h, rfl⟩)
    · exact .inl (erase_of_not_contains h)

/-- **A change that fails changes nothing.** -/
theorem perform_of_fails {c : Change} {error : LibraryError} (h : Fails reader c error)
    (s : LibrarySet) :
    s.perform reader c = (.error error, s) := by
  cases h with
  | @unknown id hid =>
    rcases toggleCatalog_cases s id with ⟨library, hmem, heq, -⟩ | ⟨-, hcall⟩
    · exact absurd heq (hid library hmem)
    · simp only [perform, hcall]
  | @invalidUrl id name url kind hurl =>
    rcases addCustom_cases reader s id name url kind with ⟨library, -, hcall⟩ | ⟨-, hcall⟩
    · obtain ⟨address, hread, -⟩ := addCustom_eq_ok_iff.1 hcall
      obtain ⟨haddress, hfits⟩ := Library.readUrl_eq_ok_iff.1 hread
      exact absurd hfits (hurl address haddress)
    · simp only [perform, hcall]

theorem fails_of_perform {c : Change} {error : LibraryError}
    (h : (s.perform reader c).1 = .error error) : Fails reader c error := by
  cases c with
  | toggle library => cases h
  | toggleCatalog id =>
    rcases toggleCatalog_cases s id with ⟨library, -, -, hcall⟩ | ⟨hid, hcall⟩
    · simp only [perform, hcall] at h
      cases h
    · simp only [perform, hcall] at h
      cases h
      exact .unknown hid
  | addCustom id name url kind =>
    rcases addCustom_cases reader s id name url kind with ⟨library, -, hcall⟩ | ⟨hurl, hcall⟩
    · simp only [perform, hcall] at h
      cases h
    · simp only [perform, hcall] at h
      cases h
      exact .invalidUrl hurl
  | remove id => cases h

/-! ## Distinct ids -/

theorem nodup_erase (h : s.ids.Nodup) (id : Text) : (s.erase id).ids.Nodup :=
  h.sublist (List.filter_sublist.map Library.id)

theorem nodup_push (h : s.ids.Nodup) (hlibrary : ¬ s.Contains library.id) :
    (s.push library).ids.Nodup := by
  have hids : (s.push library).ids = s.ids ++ [library.id] := by simp [ids, push]
  rw [hids, List.nodup_append]
  refine ⟨h, by simp, fun a ha b hb hab => hlibrary ?_⟩
  rwa [← List.mem_singleton.1 hb, ← hab]

/-- Just one library goes with an id. -/
theorem size_erase (h : s.ids.Nodup) (id : Text) :
    (s.erase id).size + (if s.Contains id then 1 else 0) = s.size := by
  have hcount : s.ids.count id = if s.Contains id then 1 else 0 := h.count
  rw [← hcount, size, size, erase, ids, List.count, List.countP_map, ← List.countP_eq_length_filter,
    List.length_eq_countP_add_countP (fun l => l.id == id), Nat.add_comm]
  simp [Function.comp_def]

/-! ## Runs -/

theorem changeAll_append (reader : Url.Reader) (s : LibrarySet) (a b : List Change) :
    s.changeAll reader (a ++ b) = (s.changeAll reader a).changeAll reader b := List.foldl_append

theorem changeAll_concat (reader : Url.Reader) (s : LibrarySet) (changes : List Change)
    (c : Change) :
    s.changeAll reader (changes ++ [c]) = ((s.changeAll reader changes).perform reader c).2 :=
  changeAll_append reader s changes [c]

theorem freshRun_append {a b : List Change} :
    s.FreshRun reader (a ++ b) ↔
      s.FreshRun reader a ∧ (s.changeAll reader a).FreshRun reader b := by
  induction a generalizing s with
  | nil => exact (and_iff_right trivial).symm
  | cons c a ih => exact (and_congr_right fun _ => ih).trans and_assoc.symm

theorem nodup_perform {c : Change} (h : s.ids.Nodup) (hfresh : s.IsFresh c) :
    (s.perform reader c).2.ids.Nodup := by
  rcases perform_cases reader hfresh with hsame | ⟨id, -, hgone⟩ | ⟨library, hlibrary, hnew⟩
  · rwa [hsame]
  · rw [hgone]
    exact nodup_erase h id
  · rw [hnew]
    exact nodup_push h hlibrary

/-- **No id comes twice,** however long the run. -/
theorem nodup_changeAll {changes : List Change} (h : s.ids.Nodup)
    (hfresh : s.FreshRun reader changes) :
    (s.changeAll reader changes).ids.Nodup := by
  induction changes generalizing s with
  | nil => exact h
  | cons c changes ih => exact ih (nodup_perform h hfresh.1) hfresh.2

/-! ## The time of the last insertion -/

/-- The set before the change of this number. -/
def setAt (reader : Url.Reader) (changes : List Change) (time : Nat) : LibrarySet :=
  empty.changeAll reader (changes.take time)

/-- The change of this number was the last one to add the library: its id was not there before, and
the library has been there ever since. -/
structure LastAdded (reader : Url.Reader) (changes : List Change) (time : Nat)
    (library : Library) : Prop where
  lt : time < changes.length
  absent : ¬ (setAt reader changes time).Contains library.id
  present : ∀ later, time < later → later ≤ changes.length →
    library ∈ (setAt reader changes later).libraries

/-- The libraries stand in the order of the times at which they were last added. -/
structure InOrder (reader : Url.Reader) (changes : List Change) (time : Library → Nat)
    (s : LibrarySet) : Prop where
  lastAdded : ∀ library ∈ s.libraries, LastAdded reader changes (time library) library
  pairwise : s.libraries.Pairwise fun a b => time a < time b

variable {changes : List Change} {c : Change} {time later : Nat}

theorem setAt_length (reader : Url.Reader) (changes : List Change) :
    setAt reader changes changes.length = empty.changeAll reader changes := by
  rw [setAt, List.take_length]

theorem setAt_concat (h : time ≤ changes.length) (c : Change) :
    setAt reader (changes ++ [c]) time = setAt reader changes time := by
  rw [setAt, setAt, List.take_append_of_le_length h]

/-- After all changes but the last comes only the end. -/
theorem setAt_of_length_lt (hlt : changes.length < later) (hle : later ≤ (changes ++ [c]).length) :
    setAt reader (changes ++ [c]) later = empty.changeAll reader (changes ++ [c]) := by
  have hlater : later = (changes ++ [c]).length := by
    rw [List.length_append, List.length_singleton] at hle ⊢
    omega
  rw [hlater, setAt_length]

/-- A library that stays was last added when it was before. -/
theorem LastAdded.concat (h : LastAdded reader changes time library)
    (hstays : library ∈ (empty.changeAll reader (changes ++ [c])).libraries) :
    LastAdded reader (changes ++ [c]) time library where
  lt := by
    have := h.lt
    rw [List.length_append]
    omega
  absent := by
    rw [setAt_concat (Nat.le_of_lt h.lt)]
    exact h.absent
  present := by
    intro later hlt hle
    by_cases hlast : later ≤ changes.length
    · rw [setAt_concat hlast]
      exact h.present later hlt hlast
    · rw [setAt_of_length_lt (Nat.lt_of_not_le hlast) hle]
      exact hstays

/-- A library that was not there was added by the last change. -/
theorem lastAdded_concat (hnew : ¬ (empty.changeAll reader changes).Contains library.id)
    (h : library ∈ (empty.changeAll reader (changes ++ [c])).libraries) :
    LastAdded reader (changes ++ [c]) changes.length library where
  lt := by
    rw [List.length_append, List.length_singleton]
    omega
  absent := by
    rw [setAt_concat (Nat.le_refl _), setAt_length]
    exact hnew
  present := by
    intro later hlt hle
    rw [setAt_of_length_lt hlt hle]
    exact h

/-- Libraries that stay keep their times and their order. -/
theorem InOrder.concat_of_sublist {time : Library → Nat}
    (h : InOrder reader changes time (empty.changeAll reader changes))
    (hsub : (empty.changeAll reader (changes ++ [c])).libraries.Sublist
      (empty.changeAll reader changes).libraries) :
    InOrder reader (changes ++ [c]) time (empty.changeAll reader (changes ++ [c])) where
  lastAdded l hl := (h.lastAdded l (hsub.subset hl)).concat hl
  pairwise := h.pairwise.sublist hsub

/-- A library that is added comes last, at the time of the change. -/
theorem InOrder.concat_push {time : Library → Nat}
    (h : InOrder reader changes time (empty.changeAll reader changes))
    (hlibrary : ¬ (empty.changeAll reader changes).Contains library.id)
    (hafter : empty.changeAll reader (changes ++ [c]) =
      (empty.changeAll reader changes).push library) :
    InOrder reader (changes ++ [c]) (Function.update time library changes.length)
      (empty.changeAll reader (changes ++ [c])) := by
  have hold : ∀ l ∈ (empty.changeAll reader changes).libraries,
      Function.update time library changes.length l = time l := by
    intro l hl
    refine Function.update_of_ne ?_ _ _
    rintro rfl
    exact hlibrary (List.mem_map_of_mem hl)
  constructor
  · intro l hl
    have hl' := hl
    rw [hafter, push, List.mem_append, List.mem_singleton] at hl'
    rcases hl' with hl' | rfl
    · rw [hold l hl']
      exact (h.lastAdded l hl').concat hl
    · rw [Function.update_self]
      exact lastAdded_concat hlibrary hl
  · rw [hafter, push, List.pairwise_append]
    refine ⟨?_, List.pairwise_singleton _ _, ?_⟩
    · exact h.pairwise.imp_of_mem fun ha hb hlt => by rwa [hold _ ha, hold _ hb]
    · intro a ha b hb
      rw [List.mem_singleton.1 hb, hold a ha, Function.update_self]
      exact (h.lastAdded a ha).lt

/-- **The libraries stand in the order in which they were last added,** however long the run. -/
theorem exists_inOrder (hfresh : empty.FreshRun reader changes) :
    ∃ time, InOrder reader changes time (empty.changeAll reader changes) := by
  induction changes using List.reverseRecOn with
  | nil => exact ⟨fun _ => 0, List.forall_mem_nil _, List.Pairwise.nil⟩
  | append_singleton changes c ih =>
    obtain ⟨hrun, hc, -⟩ := freshRun_append.1 hfresh
    obtain ⟨time, htime⟩ := ih hrun
    have hafter := changeAll_concat reader empty changes c
    rcases perform_cases reader hc with hsame | ⟨id, -, hgone⟩ | ⟨library, hlibrary, hnew⟩
    · refine ⟨time, htime.concat_of_sublist ?_⟩
      simp only [hafter, hsame, List.Sublist.refl]
    · refine ⟨time, htime.concat_of_sublist ?_⟩
      rw [hafter, hgone]
      exact List.filter_sublist
    · exact ⟨_, htime.concat_push hlibrary (hafter.trans hnew)⟩

/-! ## The ordered set -/

/-- The answer to a removal tells whether the set got smaller, and by no more than one library. -/
theorem remove_spec (h : s.ids.Nodup) (id : Text) :
    ((s.remove id).1 = true ↔ s.Contains id) ∧
      (s.remove id).2.size + (if s.Contains id then 1 else 0) = s.size ∧
      ¬ (s.remove id).2.Contains id ∧ s.AgreeBesides id (s.remove id).2 := by
  refine ⟨remove_fst, size_erase h id, ?_, agreeBesides_erase s id⟩
  intro hid
  exact (contains_erase.1 hid).1 rfl

theorem perform_eq_error_iff {error : LibraryError} :
    (s.perform reader c).1 = .error error ↔ Fails reader c error := by
  refine ⟨fails_of_perform, fun h => ?_⟩
  rw [perform_of_fails h]

/-- Each library is listed under its own kind only, in the order of the set. -/
theorem ofKind_partition (s : LibrarySet) :
    (∀ kind, (s.ofKind kind).Sublist s.libraries ∧
      ∀ library ∈ s.libraries, (library ∈ s.ofKind kind ↔ library.kind = kind)) ∧
      (s.ofKind .css ++ s.ofKind .js).Perm s.libraries := by
  refine ⟨fun kind => ⟨List.filter_sublist, fun library h => by simp [ofKind, h]⟩, ?_⟩
  have hjs : s.ofKind .js = s.libraries.filter fun library => !decide (library.kind = .css) := by
    refine List.filter_congr fun library _ => ?_
    cases library.kind with
    | css => rfl
    | js => rfl
  rw [hjs]
  exact List.filter_append_perm _ s.libraries

/-- **The libraries are an ordered set after every run**, and so after every step of it, if the ids
that are made are not in use.  No id comes twice, the libraries stand in the order in which they
were last added, and each is listed under its kind.  What a toggle and a removal answer tells what
they do, and a change that fails does nothing. -/
theorem changeAll_is_ordered_set (hfresh : empty.FreshRun reader changes) :
    let s := empty.changeAll reader changes
    s.ids.Nodup ∧ (∃ time, InOrder reader changes time s) ∧
      (∀ library, ((s.toggle library).1 = true ↔ ¬ s.Contains library.id) ∧
        ((s.toggle library).2.Contains library.id ↔ ¬ s.Contains library.id) ∧
        (library ∈ (s.toggle library).2.libraries ↔ ¬ s.Contains library.id) ∧
        s.AgreeBesides library.id (s.toggle library).2) ∧
      (∀ library ∈ Library.catalog, s.toggleCatalog library.id = .ok (s.toggle library)) ∧
      (∀ id, ((s.remove id).1 = true ↔ s.Contains id) ∧
        (s.remove id).2.size + (if s.Contains id then 1 else 0) = s.size ∧
        ¬ (s.remove id).2.Contains id ∧ s.AgreeBesides id (s.remove id).2) ∧
      (∀ c error, ((s.perform reader c).1 = .error error ↔ Fails reader c error) ∧
        (Fails reader c error → (s.perform reader c).2 = s)) ∧
      (∀ kind, (s.ofKind kind).Sublist s.libraries ∧
        ∀ library ∈ s.libraries, (library ∈ s.ofKind kind ↔ library.kind = kind)) ∧
      (s.ofKind .css ++ s.ofKind .js).Perm s.libraries := by
  intro s
  have hnodup : s.ids.Nodup := nodup_changeAll List.nodup_nil hfresh
  refine ⟨hnodup, exists_inOrder hfresh, toggle_spec s, ?_, remove_spec hnodup, ?_,
    ofKind_partition s⟩
  · exact fun library hlibrary => toggleCatalog_of_mem hlibrary s
  · intro c error
    refine ⟨perform_eq_error_iff, fun h => ?_⟩
    rw [perform_of_fails h]

/-- A library that is turned off and on again comes after one that was added in the meantime. -/
theorem changeAll_is_ordered_set_after_toggles :
    let changes : List Change := [.toggleCatalog "gsap".toList, .toggleCatalog "tailwind".toList,
      .addCustom ['1'] ['N'] "https://a.org/x.js".toList .js, .toggleCatalog "jquery".toList,
      .toggleCatalog "gsap".toList, .toggleCatalog "gsap".toList]
    empty.FreshRun Url.standard changes ∧ (empty.changeAll Url.standard changes).ids.Nodup ∧
      (∃ time, InOrder Url.standard changes time (empty.changeAll Url.standard changes)) ∧
      (empty.changeAll Url.standard changes).ids = ["tailwind".toList, ['1'], "gsap".toList] := by
  intro changes
  have hfresh : empty.FreshRun Url.standard changes :=
    ⟨trivial, trivial, show ¬ Contains _ _ by decide, trivial, trivial, trivial, trivial⟩
  obtain ⟨hnodup, horder, -⟩ := changeAll_is_ordered_set hfresh
  exact ⟨hfresh, hnodup, horder, rfl⟩

end MarkupPad.LibrarySet
