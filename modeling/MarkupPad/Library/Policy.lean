import MarkupPad.Library.Set

/-!
# The security policy of a page

A page may load scripts and style sheets from trusted origins and from the origins of its
own libraries, each kind from its own list.

    sources trusted s kind = trusted ++ the new ones of (s.ofKind kind).filterMap (·.origin?)
-/

namespace MarkupPad

/-- What one kind of content may be loaded from. -/
structure Directive where
  name : Text
  sources : List Text
  deriving Repr, DecidableEq

namespace Directive

/-- A directive written out. -/
def toText (d : Directive) : Text := Text.join [' '] (d.name :: d.sources) ++ [';']

end Directive

namespace Policy

/-! ## Algorithm -/

/-- Origins of scripts that every page trusts. -/
def trustedScripts : List Text :=
  ["https://cdn.tailwindcss.com".toList, "https://cdnjs.cloudflare.com".toList]

/-- Origins of style sheets that every page trusts. -/
def trustedStyles : List Text :=
  ["https://cdnjs.cloudflare.com".toList, "https://fonts.googleapis.com".toList]

/-- One more source, unless it is there already. -/
def addSource (sources : List Text) (source : Text) : List Text :=
  if source ∈ sources then sources else sources ++ [source]

/-- The trusted sources and the origins of the libraries of a kind. -/
def sources (trusted : List Text) (s : LibrarySet) (kind : LibraryKind)
    (reader : Url.Reader := Url.standard) : List Text :=
  ((s.ofKind kind).filterMap (·.origin? reader)).foldl addSource trusted

/-- The directives of a page with these libraries. -/
def directives (s : LibrarySet) (reader : Url.Reader := Url.standard) : List Directive := [
  ⟨"default-src".toList, ["'self'".toList, "data:".toList, "blob:".toList]⟩,
  ⟨"script-src".toList,
    ["'self'".toList, "'unsafe-inline'".toList, "'unsafe-eval'".toList] ++
      sources trustedScripts s .js reader⟩,
  ⟨"style-src".toList,
    ["'self'".toList, "'unsafe-inline'".toList] ++ sources trustedStyles s .css reader⟩,
  ⟨"font-src".toList, ["'self'".toList, "https://fonts.gstatic.com".toList]⟩,
  ⟨"img-src".toList, ["'self'".toList, "data:".toList, "https:".toList]⟩]

/-- The policy of a page with these libraries. -/
def ofLibraries (s : LibrarySet) (reader : Url.Reader := Url.standard) : Text :=
  Text.join [' '] ((directives s reader).map Directive.toText)

/-! ## Lemmas -/

theorem mem_addSource {sources : List Text} {source x : Text} :
    x ∈ addSource sources source ↔ x ∈ sources ∨ x = source := by
  unfold addSource
  split
  · constructor
    · exact Or.inl
    · rintro (h | rfl) <;> assumption
  · simp

end Policy

end MarkupPad
