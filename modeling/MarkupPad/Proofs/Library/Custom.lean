import MarkupPad.Page
import MarkupPad.Proofs.Url.Character

/-!
# The tags of custom libraries

A page writes the address of a library between double quotes as it is stored, and the address
that a user gives is stored in its normal form.  All parts of that form are encoded but the
host, so the tag keeps its shape unless the host has a quotation mark.

    splitBy (· = '"') (tag library) = tagParts library ↔ '"' ∉ library.url       (splitBy_tag_iff)
    s.addCustom id name t kind = .ok (library, s') → Url.ofText? (trim t) = some u →
      (IsAttributeValue library.url ↔ '"' ∉ u.host.toText)     (custom_url_isAttributeValue_iff)
-/

namespace MarkupPad

open Text

namespace Page

/-! ## Tags -/

/-- A text that may stand between double quotes in a tag. -/
def IsAttributeValue (t : Text) : Prop :=
  ∀ c ∈ t, c ≠ '"' ∧ c ≠ '<' ∧ c ≠ '>' ∧ ¬ isAsciiBlank c ∧ ¬ Url.isControl c

instance (t : Text) : Decidable (IsAttributeValue t) := inferInstanceAs (Decidable (∀ c ∈ t, _))

/-- The tag by which a page loads a library. -/
def tag (library : Library) : Text :=
  match library.kind with
  | .css => styleLink library
  | .js => scriptLink library

/-- What stands before, between and after the double quotes of a tag. -/
def tagParts (library : Library) : List Text :=
  match library.kind with
  | .css => ["  <link rel=".toList, "stylesheet".toList, " href=".toList, library.url, ">".toList]
  | .js => ["  <script src=".toList, library.url, "></script>".toList]

theorem styleLink_eq_join (library : Library) :
    styleLink library = join ['"']
      ["  <link rel=".toList, "stylesheet".toList, " href=".toList, library.url, ">".toList] := by
  unfold styleLink
  simp only [join_cons_cons, join_singleton]
  simp

theorem scriptLink_eq_join (library : Library) :
    scriptLink library = join ['"']
      ["  <script src=".toList, library.url, "></script>".toList] := by
  unfold scriptLink
  simp only [join_cons_cons, join_singleton]
  simp

theorem tag_eq_join (library : Library) : tag library = join ['"'] (tagParts library) := by
  unfold tag tagParts
  cases library.kind with
  | css => exact styleLink_eq_join library
  | js => exact scriptLink_eq_join library

/-- **A tag has the address as one value just when the address has no quotation mark.** -/
theorem splitBy_tag_iff {library : Library} :
    splitBy (· = '"') (tag library) = tagParts library ↔ '"' ∉ library.url := by
  rw [tag_eq_join, splitBy_join_eq_iff]
  unfold tagParts
  cases library.kind with
  | css => simp
  | js => simp

theorem mem_contents_of_mem_head {d : Document} {s : LibrarySet} {reader : Url.Reader}
    {line : Text} (h : line ∈ head d s reader) : line ∈ contents d s reader :=
  List.mem_append_left _ (List.mem_append_left _ (List.mem_append_left _ (List.mem_append_right _ h)))

theorem mem_contents_of_mem_body {d : Document} {s : LibrarySet} {line : Text}
    (h : line ∈ body d s) (reader : Url.Reader) : line ∈ contents d s reader :=
  List.mem_append_left _ (List.mem_append_right _ h)

/-- The page of a project has the tags of all its libraries. -/
theorem tag_mem_contents {s : LibrarySet} {library : Library} (h : library ∈ s.libraries)
    (d : Document) (reader : Url.Reader) : tag library ∈ contents d s reader := by
  have hkind : library ∈ s.ofKind library.kind := List.mem_filter.2 ⟨h, by simp⟩
  unfold tag
  cases hk : library.kind with
  | css =>
    rw [hk] at hkind
    have hlink : styleLink library ∈ (s.ofKind .css).map styleLink := List.mem_map_of_mem hkind
    exact mem_contents_of_mem_head (List.mem_append_left _ (List.mem_append_right _ hlink))
  | js =>
    rw [hk] at hkind
    have hlink : scriptLink library ∈ (s.ofKind .js).map scriptLink := List.mem_map_of_mem hkind
    exact mem_contents_of_mem_body (List.mem_append_left _ (List.mem_cons_of_mem _ hlink)) reader

theorem isAttributeValue_iff {t : Text} (h : ∀ c ∈ t, Url.isPlain c ∨ c = '"') :
    IsAttributeValue t ↔ '"' ∉ t := by
  constructor
  · intro ht hquote
    exact (ht _ hquote).1 rfl
  · intro hquote c hc
    have hplain : Url.isPlain c := (h c hc).resolve_right fun he => hquote (he ▸ hc)
    have hblank : isAsciiBlank c → Url.isControl c ∨ c = ' ' := by
      intro hb
      simp only [isAsciiBlank, Bool.or_eq_true, decide_eq_true_eq] at hb
      rcases hb with (((rfl | rfl) | rfl) | rfl) | rfl <;> decide
    simp only [Url.isPlain, Bool.not_eq_true', Bool.or_eq_false_iff, decide_eq_false_iff_not]
      at hplain
    obtain ⟨⟨⟨⟨hcontrol, hspace⟩, hq⟩, hopen⟩, hclose⟩ := hplain
    refine ⟨hq, hopen, hclose, fun hb => ?_, by simp [hcontrol]⟩
    rcases hblank hb with hc | hc
    · simp [hcontrol] at hc
    · exact hspace hc

end Page

namespace LibrarySet

/-! ## Custom libraries -/

/-- A custom library is stored under the normal form of its address, at the end of the set. -/
theorem addCustom_eq_ok_iff {s s' : LibrarySet} {id name t : Text} {kind : LibraryKind}
    {reader : Url.Reader} {library : Library} :
    s.addCustom id name t kind reader = .ok (library, s') ↔
      ∃ address, Library.readUrl t reader = .ok address ∧
        library = ⟨id, name, address.toText, kind⟩ ∧ s' = s.push library := by
  unfold addCustom Library.custom
  cases Library.readUrl t reader with
  | error error => exact iff_of_false nofun nofun
  | ok address =>
    constructor
    · intro h
      cases h
      exact ⟨address, rfl, rfl, rfl⟩
    · rintro ⟨_, ⟨⟩, rfl, rfl⟩
      rfl

/-- **The address of a custom library is one attribute value of its tag just when the host has no
quotation mark**: all other characters of it are encoded or were refused. -/
theorem custom_url_isAttributeValue_iff {s s' : LibrarySet} {id name t : Text}
    {kind : LibraryKind} {library : Library}
    (h : s.addCustom id name t kind = .ok (library, s')) :
    ∃ u, Url.ofText? (trim t) = some u ∧ library.url = u.toText ∧
      (∀ c ∈ library.url, Url.isPlain c ∨ c = '"' ∧ c ∈ u.host.toText) ∧
      (Page.IsAttributeValue library.url ↔ '"' ∉ u.host.toText) ∧
      ∀ d, Page.tag library ∈ Page.contents d s' ∧
        (splitBy (· = '"') (Page.tag library) = Page.tagParts library ↔ '"' ∉ u.host.toText) := by
  obtain ⟨address, haddress, rfl, rfl⟩ := addCustom_eq_ok_iff.1 h
  obtain ⟨u, hu, rfl⟩ := Option.map_eq_some_iff.1 (Library.readUrl_eq_ok_iff.1 haddress).1
  have hplain : ∀ c ∈ u.toText, Url.isPlain c ∨ c = '"' ∧ c ∈ u.host.toText :=
    fun c => (Url.isEncoded_of_ofText? hu).isPlain_of_mem_toText
  have hquote : '"' ∈ u.toText ↔ '"' ∈ u.host.toText := by
    constructor
    · intro hq
      exact ((hplain _ hq).resolve_left (by decide)).2
    · exact Url.mem_toText_of_mem_host
  refine ⟨u, hu, rfl, hplain, ?_, fun d => ⟨?_, ?_⟩⟩
  · show Page.IsAttributeValue u.toText ↔ _
    rw [Page.isAttributeValue_iff fun c hc => (hplain c hc).imp_right And.left, hquote]
  · exact Page.tag_mem_contents (by simp [push]) d _
  · rw [Page.splitBy_tag_iff]
    exact not_congr hquote

/-- The blank and the quotation mark of a path are encoded. -/
theorem custom_url_isAttributeValue_with_quote_in_path :
    let library : Library := ⟨['1'], ['N'], "https://a.org/x%20y%22.js".toList, .js⟩
    empty.addCustom ['1'] ['N'] "https://a.org/x y\".js".toList .js = .ok (library, ⟨[library]⟩) ∧
      Page.IsAttributeValue library.url ∧
      splitBy (· = '"') (Page.tag library) = Page.tagParts library := by
  intro library
  have h : empty.addCustom ['1'] ['N'] "https://a.org/x y\".js".toList .js =
      .ok (library, ⟨[library]⟩) := rfl
  obtain ⟨u, hu, -, -, hvalue, htag⟩ := custom_url_isAttributeValue_iff h
  have hread : Url.ofText? (trim "https://a.org/x y\".js".toList) =
      some ⟨.https, [], none, .domain "a.org".toList, none, "/x%20y%22.js".toList, none, none⟩ :=
    rfl
  have hhost : '"' ∉ u.host.toText := by
    rw [hread] at hu
    cases hu
    decide
  exact ⟨h, hvalue.2 hhost, (htag .empty).2.2 hhost⟩

/-- The quotation mark of a host is kept, and ends the attribute. -/
theorem not_all_custom_urls_isAttributeValue :
    ¬ ∀ (s s' : LibrarySet) (id name t : Text) (kind : LibraryKind) (library : Library),
        s.addCustom id name t kind = .ok (library, s') → Page.IsAttributeValue library.url := by
  intro h
  let library : Library := ⟨['1'], ['N'], "https://a\"b.org/x.js".toList, .js⟩
  have hvalue := h empty ⟨[library]⟩ ['1'] ['N'] "https://a\"b.org/x.js".toList .js library rfl
  exact (hvalue '"' (by decide)).1 rfl

end LibrarySet

end MarkupPad
