import MarkupPad.Proofs.Library.Custom
import MarkupPad.Proofs.Text.Words

/-!
# The security policy keeps its structure

A policy is read at its semicolons, and each piece at its blanks.  What a page writes is read back
as the five directives with their sources, unless a source holds a semicolon.  The sources that
are not fixed are the origins of libraries, and in an origin only the host can hold a semicolon or
a quotation mark.

    (splitBy (· = ';') policy).map words = directives and nothing ↔ no host holds a semicolon
    '"' ∉ policy ↔ no host holds a quotation mark
-/

namespace MarkupPad

open Text

namespace Directive

/-- The words of a directive: its name and its sources. -/
def words (d : Directive) : List Text := d.name :: d.sources

end Directive

namespace Policy

/-! ## Reading a policy -/

/-- The words of a policy, piece by piece. -/
def pieces (policy : Text) : List (List Text) := (splitBy (· = ';') policy).map Text.words

/-- The blank between two directives belongs to no word of the second one. -/
theorem pieces_cons_blank (t : Text) : pieces (' ' :: t) = pieces t := by
  unfold pieces
  rw [splitBy, if_neg (by decide)]
  cases hsplit : splitBy (· = ';') t with
  | nil =>
    rw [splitBy_eq_splitOnP] at hsplit
    exact absurd hsplit (List.splitOnP_ne_nil _ t)
  | cons piece rest =>
    show Text.words (' ' :: piece) :: rest.map Text.words = _
    rw [words_cons (by decide)]
    rfl

/-- The directive at the front of a policy, if none of its words holds a semicolon. -/
theorem pieces_directive {d : Directive} (hword : ∀ w ∈ d.words, IsWord w)
    (h : ∀ w ∈ d.words, ';' ∉ w) (t : Text) :
    pieces (join [' '] d.words ++ ';' :: t) = d.words :: pieces t := by
  have hnot : ∀ c ∈ join [' '] d.words, decide (c = ';') = false := by
    intro c hc
    rw [decide_eq_false_iff_not]
    rintro rfl
    rcases mem_join hc with hblank | ⟨w, hw, hc⟩
    · exact absurd hblank (by decide)
    · exact h w hw hc
  unfold pieces
  rw [splitBy_append_cons (by decide), splitBy_of_not hnot, List.singleton_append, List.map_cons,
    words_join hword]

/-- Directives are read back as they were written if none of their words holds a semicolon. -/
theorem pieces_join {ds : List Directive} (hword : ∀ d ∈ ds, ∀ w ∈ d.words, IsWord w)
    (h : ∀ d ∈ ds, ∀ w ∈ d.words, ';' ∉ w) :
    pieces (join [' '] (ds.map Directive.toText)) = ds.map Directive.words ++ [[]] := by
  induction ds with
  | nil => rfl
  | cons d ds ih =>
    rw [List.forall_mem_cons] at hword h
    have hrest := ih hword.2 h.2
    have hd (t : Text) : pieces (d.toText ++ t) = d.words :: pieces t := by
      have htext : d.toText ++ t = join [' '] d.words ++ ';' :: t := by
        simp [Directive.toText, Directive.words]
      rw [htext, pieces_directive hword.1 h.1]
    cases ds with
    | nil =>
      rw [List.map_singleton, join_singleton, ← List.append_nil d.toText, hd]
      rfl
    | cons e ds =>
      rw [List.map_cons, List.map_cons, join_cons_cons, List.append_assoc, List.singleton_append, hd,
        pieces_cons_blank, ← List.map_cons, hrest]
      rfl

/-- **Directives are read back as they were written just when no word holds a semicolon.** -/
theorem pieces_join_eq_iff {ds : List Directive} (hword : ∀ d ∈ ds, ∀ w ∈ d.words, IsWord w) :
    pieces (join [' '] (ds.map Directive.toText)) = ds.map Directive.words ++ [[]] ↔
      ∀ d ∈ ds, ∀ w ∈ d.words, ';' ∉ w := by
  refine ⟨?_, pieces_join hword⟩
  -- no piece of a split holds the mark, so neither does any word that is read from a piece
  intro h d hd w hw hmark
  have hmem : d.words ∈ pieces (join [' '] (ds.map Directive.toText)) := by
    rw [h]
    exact List.mem_append_left _ (List.mem_map_of_mem hd)
  obtain ⟨piece, hpiece, heq⟩ := List.mem_map.1 hmem
  rw [← heq] at hw
  simpa using not_of_mem_splitBy hpiece (mem_of_mem_words hw hmark)

/-! ## The words of a policy -/

theorem mem_foldl_addSource {added trusted : List Text} {x : Text} :
    x ∈ added.foldl addSource trusted ↔ x ∈ trusted ∨ x ∈ added := by
  induction added generalizing trusted with
  | nil => simp
  | cons source added ih =>
    rw [List.foldl_cons, ih, mem_addSource, List.mem_cons, or_assoc]

/-- The sources of a kind are the trusted ones and the origins of the libraries of that kind. -/
theorem mem_sources {trusted : List Text} {s : LibrarySet} {kind : LibraryKind}
    {reader : Url.Reader} {x : Text} :
    x ∈ sources trusted s kind reader ↔
      x ∈ trusted ∨
        ∃ library ∈ s.libraries, library.kind = kind ∧ library.origin? reader = some x := by
  rw [sources, mem_foldl_addSource, List.mem_filterMap]
  simp only [LibrarySet.ofKind, List.mem_filter, decide_eq_true_eq, and_assoc]

/-- All words of the policy of a page. -/
def words (s : LibrarySet) : List Text := (directives s).flatMap Directive.words

/-- A directive with the origins of libraries has them as its last words. -/
theorem mem_words_directive {name w : Text} {fixed trusted : List Text} {s : LibrarySet}
    {kind : LibraryKind} :
    w ∈ Directive.words ⟨name, fixed ++ sources trusted s kind⟩ ↔
      w ∈ Directive.words ⟨name, fixed ++ trusted⟩ ∨
        ∃ library ∈ s.libraries, library.kind = kind ∧ library.origin? = some w := by
  simp only [Directive.words, List.mem_cons, List.mem_append, mem_sources, or_assoc]

/-- **Beyond the fixed words a policy has the origins of the libraries.** -/
theorem mem_words {s : LibrarySet} {w : Text} :
    w ∈ words s ↔ w ∈ words .empty ∨ ∃ library ∈ s.libraries, library.origin? = some w := by
  have hkind : (∃ library ∈ s.libraries, library.origin? = some w) ↔
      (∃ library ∈ s.libraries, library.kind = .js ∧ library.origin? = some w) ∨
        ∃ library ∈ s.libraries, library.kind = .css ∧ library.origin? = some w := by
    constructor
    · rintro ⟨library, hl, ho⟩
      cases hk : library.kind with
      | css => exact Or.inr ⟨library, hl, hk, ho⟩
      | js => exact Or.inl ⟨library, hl, hk, ho⟩
    · rintro (⟨library, hl, -, ho⟩ | ⟨library, hl, -, ho⟩)
      · exact ⟨library, hl, ho⟩
      · exact ⟨library, hl, ho⟩
  have hempty (trusted : List Text) (kind : LibraryKind) : sources trusted .empty kind = trusted :=
    rfl
  simp only [words, directives, List.flatMap_cons, List.flatMap_nil, List.append_nil,
    List.mem_append, mem_words_directive, hempty, hkind]
  grind only

end Policy

namespace LibrarySet

/-- No library has an address whose host holds this character. -/
def HostsAvoid (s : LibrarySet) (c : Char) : Prop :=
  ∀ library ∈ s.libraries, ∀ address, Library.readUrl library.url = .ok address →
    ∀ host ∈ address.host, c ∉ host

end LibrarySet

namespace Policy

theorem isWord_origin {u : Url} (hu : u.IsEncoded) : IsWord u.origin := by
  constructor
  · unfold Url.origin Url.schemePart
    cases u.scheme <;> simp [Scheme.name]
  · intro c hc
    rcases hu.isPlain_of_mem_origin hc with hplain | ⟨rfl, -⟩
    · exact Url.isBlank_of_isPlain hplain
    · rfl

/-- Everything in a policy is a word: no origin is empty or holds a blank. -/
theorem isWord_of_mem_words {s : LibrarySet} {w : Text} (h : w ∈ words s) : IsWord w := by
  rcases mem_words.1 h with h | ⟨library, -, ho⟩
  · have hfixed : (words .empty).all fun w => w ≠ [] && w.all (!isBlank ·) := by decide
    simpa [IsWord] using List.all_eq_true.1 hfixed w h
  · obtain ⟨address, haddress, rfl⟩ := Library.origin?_eq_some_iff.1 ho
    obtain ⟨u, hu, rfl⟩ := Option.map_eq_some_iff.1 (Library.readUrl_eq_ok_iff.1 haddress).1
    exact isWord_origin (Url.isEncoded_of_ofText? hu)

/-- A character that no fixed word and no scheme has is in no word of a policy just when it is in
no host. -/
theorem not_mem_words_iff {s : LibrarySet} {c : Char} (hfixed : ∀ w ∈ words .empty, c ∉ w)
    (hscheme : c ∉ "htps/".toList) (haddressChars : c ∉ Host.addressChars) :
    (∀ w ∈ words s, c ∉ w) ↔ s.HostsAvoid c := by
  constructor
  · intro h library hl address haddress host hhost hc
    obtain ⟨u, -, rfl⟩ := Option.map_eq_some_iff.1 (Library.readUrl_eq_ok_iff.1 haddress).1
    cases hhost
    have horigin : u.origin ∈ words s :=
      mem_words.2 (.inr ⟨library, hl, Library.origin?_eq_some_iff.2 ⟨_, haddress, rfl⟩⟩)
    exact h u.origin horigin (Url.mem_origin_of_mem_host hc)
  · intro h w hw hc
    rcases mem_words.1 hw with hw | ⟨library, hl, ho⟩
    · exact hfixed w hw hc
    · obtain ⟨address, haddress, rfl⟩ := Library.origin?_eq_some_iff.1 ho
      obtain ⟨u, -, rfl⟩ := Option.map_eq_some_iff.1 (Library.readUrl_eq_ok_iff.1 haddress).1
      exact h library hl _ haddress _ rfl (Url.mem_host_of_mem_origin hscheme haddressChars hc)

theorem forall_mem_words {s : LibrarySet} {P : Text → Prop} :
    (∀ w ∈ words s, P w) ↔ ∀ d ∈ directives s, ∀ w ∈ d.words, P w := by
  simp only [words, List.mem_flatMap, forall_exists_index, and_imp]
  exact forall_comm.trans (forall_congr' fun d => forall_comm)

/-- **The policy of a page is read back as its five directives just when no host holds a
semicolon.** -/
theorem pieces_ofLibraries_eq_iff {s : LibrarySet} :
    pieces (ofLibraries s) = (directives s).map Directive.words ++ [[]] ↔ s.HostsAvoid ';' := by
  have hword := forall_mem_words.1 fun w hw => isWord_of_mem_words (s := s) hw
  rw [ofLibraries, pieces_join_eq_iff hword, ← forall_mem_words]
  exact not_mem_words_iff (by decide) (by decide) (by decide)

/-- A policy has the characters of its words besides blanks and semicolons. -/
theorem mem_ofLibraries_iff {s : LibrarySet} {c : Char} (hblank : c ≠ ' ') (hmark : c ≠ ';') :
    c ∈ ofLibraries s ↔ ∃ w ∈ words s, c ∈ w := by
  constructor
  · intro h
    rcases mem_join h with h | ⟨t, ht, hc⟩
    · exact absurd (List.mem_singleton.1 h) hblank
    · obtain ⟨d, hd, rfl⟩ := List.mem_map.1 ht
      rcases List.mem_append.1 hc with hc | hc
      · rcases mem_join hc with hc | ⟨w, hw, hc⟩
        · exact absurd (List.mem_singleton.1 hc) hblank
        · exact ⟨w, List.mem_flatMap.2 ⟨d, hd, hw⟩, hc⟩
      · exact absurd (List.mem_singleton.1 hc) hmark
  · rintro ⟨w, hw, hc⟩
    obtain ⟨d, hd, hw⟩ := List.mem_flatMap.1 hw
    refine mem_join_of_mem (List.mem_map_of_mem hd) ?_
    exact List.mem_append_left _ (mem_join_of_mem hw hc)

/-- **The policy of a page has no quotation mark just when no host holds one.** -/
theorem not_mem_ofLibraries_iff {s : LibrarySet} : '"' ∉ ofLibraries s ↔ s.HostsAvoid '"' := by
  rw [mem_ofLibraries_iff (by decide) (by decide), ← not_mem_words_iff (by decide) (by decide)
    (by decide)]
  push Not
  rfl

end Policy

namespace Page

/-! ## The tag of the policy -/

/-- What stands before, between and after the double quotes of the tag of a policy. -/
def policyTagParts (s : LibrarySet) : List Text :=
  ["  <meta http-equiv=".toList, "Content-Security-Policy".toList, " content=".toList,
    Policy.ofLibraries s, ">".toList]

/-- **The tag has the policy as one value just when the policy has no quotation mark.** -/
theorem splitBy_policyTag_iff {s : LibrarySet} :
    splitBy (· = '"') (policyTag s) = policyTagParts s ↔ '"' ∉ Policy.ofLibraries s := by
  have hjoin : policyTag s = join ['"'] (policyTagParts s) := by
    unfold policyTag policyTagParts
    simp only [join_cons_cons, join_singleton]
    simp
  rw [hjoin, splitBy_join_eq_iff]
  simp [policyTagParts]

theorem policyTag_mem_contents (d : Document) (s : LibrarySet) :
    policyTag s ∈ contents d s := by
  apply mem_contents_of_mem_head
  simp [head]

end Page

namespace LibrarySet

/-! ## The sets of a project -/

/-- The sets that a user puts together from the catalog and from addresses. -/
inductive Built : LibrarySet → Prop where
  | empty : Built .empty
  | toggle {s s' : LibrarySet} {id : Text} {isNew : Bool} :
      Built s → s.toggleCatalog id = .ok (isNew, s') → Built s'
  | add {s s' : LibrarySet} {id name url : Text} {kind : LibraryKind} {library : Library} :
      Built s → s.addCustom id name url kind = .ok (library, s') → Built s'
  | remove {s : LibrarySet} (id : Text) : Built s → Built (s.remove id).2

/-- **The policy of a page keeps its structure just when no host holds a semicolon or a quotation
mark.**  Split at its semicolons it is the five directives with their sources, in order, and
nothing; and it is one value of its tag. -/
theorem policy_keeps_structure_iff (s : LibrarySet) :
    (Policy.directives s).map Directive.name =
        ["default-src".toList, "script-src".toList, "style-src".toList, "font-src".toList,
          "img-src".toList] ∧
      ((splitBy (· = ';') (Policy.ofLibraries s)).map Text.words =
          (Policy.directives s).map Directive.words ++ [[]] ↔ s.HostsAvoid ';') ∧
      ('"' ∉ Policy.ofLibraries s ↔ s.HostsAvoid '"') ∧
      ∀ d, Page.policyTag s ∈ Page.contents d s ∧
        (splitBy (· = '"') (Page.policyTag s) = Page.policyTagParts s ↔ s.HostsAvoid '"') := by
  refine ⟨rfl, Policy.pieces_ofLibraries_eq_iff, Policy.not_mem_ofLibraries_iff, fun d => ⟨?_, ?_⟩⟩
  · exact Page.policyTag_mem_contents d s
  · rw [Page.splitBy_policyTag_iff, Policy.not_mem_ofLibraries_iff]

/-- The semicolon of a host is kept, and what follows it is read as a directive. -/
theorem not_all_policies_keep_structure :
    ¬ ∀ s, Built s →
      (splitBy (· = ';') (Policy.ofLibraries s)).map Text.words =
          (Policy.directives s).map Directive.words ++ [[]] ∧
        '"' ∉ Policy.ofLibraries s := by
  intro hall
  let library : Library := ⟨['1'], ['N'], "https://a;b.org/x.js".toList, .js⟩
  have hadd : empty.addCustom ['1'] ['N'] "https://a;b.org/x.js".toList .js =
      .ok (library, ⟨[library]⟩) := rfl
  have havoid := Policy.pieces_ofLibraries_eq_iff.1 (hall _ (.add .empty hadd)).1
  have hread : Library.readUrl library.url = .ok (Url.address
      ⟨.https, [], none, .domain "a;b.org".toList, none, "/x.js".toList, none, none⟩) := rfl
  exact havoid library (by simp) _ hread _ rfl (by decide)

end LibrarySet

end MarkupPad
