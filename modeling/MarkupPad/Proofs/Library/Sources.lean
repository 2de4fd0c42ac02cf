import Mathlib.Data.List.Basic
import MarkupPad.Proofs.Library.Policy

/-!
# A policy admits just the origins that are needed

The sources of a kind start with the trusted origins, and a pass over the libraries of that kind
adds each origin that is not there yet.  So what is added is determined by the origins alone, and
what is admitted by the libraries, in whatever order they come.  Which origins the libraries have is
left to any reader of addresses, as long as the origin of a web address begins with its scheme.

    texts.foldl addSource listed = listed ++ added        where AreNew listed texts added
                                                                            (foldl_addSource)
    x ∈ admitted reader s kind ↔ x ∈ trusted kind ∨ a library of s supplies x  (mem_admitted)
-/

namespace MarkupPad

open Text

/-- The library is of the kind, and its address has the origin. -/
def Library.Supplies (library : Library) (reader : Url.Reader) (kind : LibraryKind)
    (origin : Text) : Prop :=
  library.kind = kind ∧ library.origin? reader = some origin

namespace Url

/-- The origin of an address of the web begins with its scheme, a colon and two slashes. -/
def Reader.WritesOrigins (reader : Reader) : Prop :=
  ∀ t address, reader t = some address → address.scheme ∈ ["http".toList, "https".toList] →
    address.scheme ++ "://".toList <+: address.origin

theorem writesOrigins_standard : Reader.WritesOrigins standard := by
  intro t address h _
  obtain ⟨u, -, rfl⟩ := Option.map_eq_some_iff.1 h
  exact List.prefix_append _ _

end Url

/-- The origin of a library starts with the first letter of its scheme. -/
theorem Library.head?_of_origin? {reader : Url.Reader} (hreader : reader.WritesOrigins)
    {library : Library} {x : Text} (h : library.origin? reader = some x) : x.head? = some 'h' := by
  obtain ⟨address, haddress, rfl⟩ := origin?_eq_some_iff.1 h
  obtain ⟨hread, hscheme, -⟩ := readUrl_eq_ok_iff.1 haddress
  obtain ⟨rest, horigin⟩ := hreader _ _ hread hscheme
  rw [← horigin]
  rcases List.mem_cons.1 hscheme with hhttp | hhttps
  · rw [hhttp]
    rfl
  · rw [List.mem_singleton.1 hhttps]
    rfl

namespace Policy

/-! ## What a pass adds -/

/-- These are the texts that are not listed, each once, in the order in which they first occur. -/
structure AreNew (listed texts added : List Text) : Prop where
  mem_iff : ∀ x, x ∈ added ↔ x ∈ texts ∧ x ∉ listed
  order : added.Pairwise fun x y => texts.idxOf x < texts.idxOf y

namespace AreNew

variable {listed texts added : List Text} {t : Text}

theorem nodup (h : AreNew listed texts added) (hlisted : listed.Nodup) :
    (listed ++ added).Nodup := by
  have hadded : added.Nodup := h.order.imp fun hlt heq => by
    rw [heq] at hlt
    exact Nat.lt_irrefl _ hlt
  refine List.nodup_append.2 ⟨hlisted, hadded, fun a ha b hb hab => ?_⟩
  exact ((h.mem_iff b).1 hb).2 (hab ▸ ha)

/-- Another text at the end changes no first occurrence. -/
theorem order_concat (h : AreNew listed texts added) (t : Text) :
    added.Pairwise fun x y => (texts ++ [t]).idxOf x < (texts ++ [t]).idxOf y := by
  refine h.order.imp_of_mem fun hx hy hlt => ?_
  rwa [List.idxOf_append_of_mem ((h.mem_iff _).1 hx).1,
    List.idxOf_append_of_mem ((h.mem_iff _).1 hy).1]

theorem concat_old (h : AreNew listed texts added) (ht : t ∈ listed ++ added) :
    AreNew listed (texts ++ [t]) added where
  mem_iff := by
    intro x
    rw [h.mem_iff, List.mem_append, List.mem_singleton]
    refine and_congr_left fun hx => ⟨Or.inl, ?_⟩
    rintro (hmem | rfl)
    · exact hmem
    · exact ((h.mem_iff x).1 ((List.mem_append.1 ht).resolve_left hx)).1
  order := h.order_concat t

theorem concat_new (h : AreNew listed texts added) (ht : t ∉ listed ++ added) :
    AreNew listed (texts ++ [t]) (added ++ [t]) := by
  rw [List.mem_append, not_or] at ht
  obtain ⟨hlisted, hadded⟩ := ht
  have htexts : t ∉ texts := fun hmem => hadded ((h.mem_iff t).2 ⟨hmem, hlisted⟩)
  constructor
  · intro x
    rw [List.mem_append, List.mem_append, List.mem_singleton, h.mem_iff, or_and_right]
    refine or_congr_right ⟨?_, And.left⟩
    rintro rfl
    exact ⟨rfl, hlisted⟩
  · rw [List.pairwise_append]
    refine ⟨h.order_concat t, List.pairwise_singleton _ _, fun x hx y hy => ?_⟩
    have hmem : x ∈ texts := ((h.mem_iff x).1 hx).1
    rw [List.mem_singleton.1 hy, List.idxOf_append_of_mem hmem, List.idxOf_append_of_notMem htexts]
    exact Nat.lt_of_lt_of_le (List.idxOf_lt_length_of_mem hmem) (Nat.le_add_right _ _)

end AreNew

/-- **A pass lists what is new, in the order in which it first occurs.** -/
theorem foldl_addSource (listed texts : List Text) :
    ∃ added, texts.foldl addSource listed = listed ++ added ∧ AreNew listed texts added := by
  induction texts using List.reverseRecOn with
  | nil => exact ⟨[], (List.append_nil _).symm, by simp, List.Pairwise.nil⟩
  | append_singleton texts t ih =>
    obtain ⟨added, hadded, hnew⟩ := ih
    rw [List.foldl_append, hadded, List.foldl_cons, List.foldl_nil, addSource]
    by_cases ht : t ∈ listed ++ added
    · rw [if_pos ht]
      exact ⟨added, rfl, hnew.concat_old ht⟩
    · rw [if_neg ht]
      exact ⟨added ++ [t], List.append_assoc _ _ _, hnew.concat_new ht⟩

/-! ## The sources of a kind -/

/-- The sources of a kind that are no origins. -/
def keywords : LibraryKind → List Text
  | .css => ["'self'".toList, "'unsafe-inline'".toList]
  | .js => ["'self'".toList, "'unsafe-inline'".toList, "'unsafe-eval'".toList]

/-- The origins of a kind that every page trusts. -/
def trusted : LibraryKind → List Text
  | .css => trustedStyles
  | .js => trustedScripts

/-- The origins of the libraries of a kind, in the order of the set. -/
def origins (reader : Url.Reader) (s : LibrarySet) (kind : LibraryKind) : List Text :=
  (s.ofKind kind).filterMap (·.origin? reader)

/-- The origins that a page admits for a kind. -/
def admitted (reader : Url.Reader) (s : LibrarySet) (kind : LibraryKind) : List Text :=
  sources (trusted kind) s kind reader

variable {reader : Url.Reader} {s s' : LibrarySet} {kind : LibraryKind} {x : Text}

/-- The policy is that of a page without libraries, with the admitted origins put in. -/
theorem ofLibraries_eq (reader : Url.Reader) (s : LibrarySet) :
    ofLibraries s reader =
      "default-src 'self' data: blob:; script-src ".toList ++
        join [' '] (keywords .js ++ admitted reader s .js) ++
        "; style-src ".toList ++ join [' '] (keywords .css ++ admitted reader s .css) ++
        "; font-src 'self' https://fonts.gstatic.com; img-src 'self' data: https:;".toList := by
  unfold ofLibraries directives keywords admitted trusted Directive.toText
  simp only [List.map_cons, List.map_nil, List.cons_append, join_cons_cons, join_singleton]
  simp

theorem mem_admitted :
    x ∈ admitted reader s kind ↔
      x ∈ trusted kind ∨ ∃ library ∈ s.libraries, library.Supplies reader kind x :=
  mem_sources

theorem nodup_trusted (kind : LibraryKind) : (trusted kind).Nodup := by
  cases kind with
  | css => decide
  | js => decide

theorem exists_admitted_eq (reader : Url.Reader) (s : LibrarySet) (kind : LibraryKind) :
    ∃ added, admitted reader s kind = trusted kind ++ added ∧
      AreNew (trusted kind) (origins reader s kind) added :=
  foldl_addSource (trusted kind) (origins reader s kind)

theorem nodup_admitted (reader : Url.Reader) (s : LibrarySet) (kind : LibraryKind) :
    (admitted reader s kind).Nodup := by
  obtain ⟨added, hadded, hnew⟩ := exists_admitted_eq reader s kind
  rw [hadded]
  exact hnew.nodup (nodup_trusted kind)

/-- All that is admitted is an origin, so no keyword comes again. -/
theorem head?_of_mem_admitted (hreader : reader.WritesOrigins) (h : x ∈ admitted reader s kind) :
    x.head? = some 'h' := by
  have htrusted : ∀ y ∈ trusted kind, y.head? = some 'h' := by
    cases kind with
    | css => decide
    | js => decide
  rcases mem_admitted.1 h with h | ⟨library, -, -, horigin⟩
  · exact htrusted x h
  · exact Library.head?_of_origin? hreader horigin

theorem nodup_sources (hreader : reader.WritesOrigins) (s : LibrarySet) (kind : LibraryKind) :
    (keywords kind ++ admitted reader s kind).Nodup := by
  have hkeywords : (keywords kind).Nodup ∧ ∀ y ∈ keywords kind, y.head? ≠ some 'h' := by
    cases kind with
    | css => decide
    | js => decide
  refine List.nodup_append.2 ⟨hkeywords.1, nodup_admitted reader s kind, fun a ha b hb hab => ?_⟩
  exact hkeywords.2 a ha (hab ▸ head?_of_mem_admitted hreader hb)

/-- The order of the libraries does not matter. -/
theorem admitted_perm (h : s.libraries.Perm s'.libraries) (kind : LibraryKind) :
    (admitted reader s kind).Perm (admitted reader s' kind) := by
  have hnodup (s : LibrarySet) := nodup_admitted reader s kind
  refine (List.perm_ext_iff_of_nodup (hnodup s) (hnodup s')).2 fun x => ?_
  simp only [mem_admitted, h.mem_iff]

/-- A library of the other kind does not matter. -/
theorem admitted_of_kind_ne {library : Library} (h : library.kind ≠ kind)
    (before after : List Library) :
    admitted reader ⟨before ++ library :: after⟩ kind = admitted reader ⟨before ++ after⟩ kind := by
  have hkind : LibrarySet.ofKind ⟨before ++ library :: after⟩ kind =
      LibrarySet.ofKind ⟨before ++ after⟩ kind := by
    simp [LibrarySet.ofKind, h]
  rw [admitted, admitted, sources, sources, hkind]

/-- What is admitted when all libraries of an id are gone. -/
theorem mem_admitted_remove {id : Text} :
    x ∈ admitted reader (s.remove id).2 kind ↔
      x ∈ trusted kind ∨ ∃ other ∈ s.libraries, other.id ≠ id ∧ other.Supplies reader kind x := by
  rw [mem_admitted]
  simp only [LibrarySet.remove, LibrarySet.erase, List.mem_filter, decide_eq_true_eq, and_assoc]

/-- **A policy admits just the origins that are needed.**  The sources of a kind are its keywords,
its trusted origins and the new origins of the libraries of that kind in the order in which they
first occur.  So a library that a page loads is admitted, no source comes twice, and neither the
order of the libraries nor one of the other kind matters; an origin goes with a library unless it
is trusted or supplied by another one. -/
theorem ofLibraries_admits_needed_origins {reader : Url.Reader} (hreader : reader.WritesOrigins)
    (s : LibrarySet) :
    ofLibraries s reader =
        "default-src 'self' data: blob:; script-src ".toList ++
          join [' '] (keywords .js ++ admitted reader s .js) ++
          "; style-src ".toList ++ join [' '] (keywords .css ++ admitted reader s .css) ++
          "; font-src 'self' https://fonts.gstatic.com; img-src 'self' data: https:;".toList ∧
      (∀ library ∈ s.libraries, (∀ d, Page.tag library ∈ Page.contents d s reader) ∧
        ∀ x, library.origin? reader = some x → x ∈ admitted reader s library.kind) ∧
      ∀ kind,
        (∃ added, admitted reader s kind = trusted kind ++ added ∧
          AreNew (trusted kind) (origins reader s kind) added) ∧
        (keywords kind ++ admitted reader s kind).Nodup ∧
        (∀ before library after, s.libraries = before ++ library :: after → library.kind ≠ kind →
          admitted reader ⟨before ++ after⟩ kind = admitted reader s kind) ∧
        (∀ s', s.libraries.Perm s'.libraries →
          (admitted reader s kind).Perm (admitted reader s' kind)) ∧
        (∀ before library after, s.libraries = before ++ library :: after →
          ∀ x, x ∈ admitted reader ⟨before ++ after⟩ kind ↔ x ∈ admitted reader s kind ∧
            (library.Supplies reader kind x →
              x ∈ trusted kind ∨ ∃ other ∈ before ++ after, other.Supplies reader kind x)) ∧
        ∀ id x, x ∈ admitted reader (s.remove id).2 kind ↔
          x ∈ trusted kind ∨
            ∃ other ∈ s.libraries, other.id ≠ id ∧ other.Supplies reader kind x := by
  refine ⟨ofLibraries_eq reader s,
    fun library hl => ⟨fun d => Page.tag_mem_contents hl d reader, fun x hx => ?_⟩,
    fun kind => ⟨exists_admitted_eq reader s kind, nodup_sources hreader s kind, ?_,
      fun s' h => admitted_perm h kind, ?_, fun id x => mem_admitted_remove⟩⟩
  · exact mem_admitted.2 (.inr ⟨library, hl, rfl, hx⟩)
  · intro before library after hs hkind
    obtain ⟨libraries⟩ := s
    subst hs
    exact (admitted_of_kind_ne hkind before after).symm
  · intro before library after hs x
    simp only [mem_admitted, hs, List.mem_append, List.mem_cons]
    grind only

/-- Two libraries of one origin, one of an origin that is trusted, and one without an origin. -/
theorem ofLibraries_admits_needed_origins_of_four :
    let s : LibrarySet := ⟨[
      ⟨['1'], [], "https://a.org/x.js".toList, .js⟩,
      ⟨['2'], [], "https://a.org/y.js".toList, .js⟩,
      ⟨['3'], [], "https://cdn.tailwindcss.com".toList, .js⟩,
      ⟨['4'], [], "https://user@b.org/z.js".toList, .js⟩]⟩
    Url.standard.WritesOrigins ∧ "https://a.org".toList ∈ admitted Url.standard s .js ∧
      (keywords .js ++ admitted Url.standard s .js).Nodup ∧
      admitted Url.standard s .js = trustedScripts ++ ["https://a.org".toList] := by
  intro s
  obtain ⟨-, hadmitted, hkinds⟩ :=
    ofLibraries_admits_needed_origins Url.writesOrigins_standard s
  have horigin := (hadmitted ⟨['1'], [], "https://a.org/x.js".toList, .js⟩ (by simp [s])).2
  exact ⟨Url.writesOrigins_standard, horigin _ rfl, (hkinds .js).2.1, rfl⟩

end Policy

end MarkupPad
