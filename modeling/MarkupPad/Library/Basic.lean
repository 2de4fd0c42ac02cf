import MarkupPad.Record
import MarkupPad.Text.Blank
import MarkupPad.Url.Reader

/-!
# Libraries

A library is a style sheet or a script at a web address.  The catalog holds the built-in
ones; a user may add others.  What an address is, a reader tells; which addresses will do for
a library is checked here.

    Library.readUrl t reader = .ok address ↔ reader (trim t) = some address ∧ address.IsForLibrary
-/

namespace MarkupPad

/-- How a page uses a library. -/
inductive LibraryKind where
  /-- As a style sheet in the head. -/
  | css
  /-- As a script at the end of the body. -/
  | js
  deriving Repr, DecidableEq

namespace LibraryKind

/-- Both kinds. -/
def all : List LibraryKind := [css, js]

/-- The name of a kind. -/
def name : LibraryKind → String
  | css => "css"
  | js => "js"

/-- The kind with a name. -/
def ofName? (name : Text) : Option LibraryKind := all.find? (·.name.toList = name)

end LibraryKind

/-- An external style sheet or script.  The address is kept as it was given, so it need not
be one. -/
structure Library where
  id : Text
  name : Text
  url : Text
  kind : LibraryKind
  deriving Repr, DecidableEq

/-- Why a library cannot be added. -/
inductive LibraryError where
  /-- The catalog has no library of this id. -/
  | unknown (id : Text)
  /-- The text is no web address. -/
  | invalidUrl (url : Text)
  deriving Repr, DecidableEq

/-- An address will do for a library: it is of the web, has a host, and has no credentials. -/
def Address.IsForLibrary (a : Address) : Prop :=
  a.scheme ∈ ["http".toList, "https".toList] ∧ a.host.getD [] ≠ [] ∧ a.username = [] ∧
    a.password = none

instance (a : Address) : Decidable a.IsForLibrary :=
  inferInstanceAs (Decidable (_ ∧ _ ∧ _ ∧ _))

/-- The wording of an error. -/
def LibraryError.message : LibraryError → Text
  | unknown id => "Unknown library: ".toList ++ id
  | invalidUrl url => "Invalid library URL: ".toList ++ url

namespace Library

/-! ## Algorithm -/

/-- The built-in libraries. -/
def catalog : List Library := [
  { id := "tailwind".toList
    name := "Tailwind CSS".toList
    url := "https://cdn.tailwindcss.com".toList
    kind := .js },
  { id := "animate-css".toList
    name := "Animate.css".toList
    url := "https://cdnjs.cloudflare.com/ajax/libs/animate.css/4.1.1/animate.min.css".toList
    kind := .css },
  { id := "gsap".toList
    name := "GSAP".toList
    url := "https://cdnjs.cloudflare.com/ajax/libs/gsap/3.12.2/gsap.min.js".toList
    kind := .js }]

/-- The built-in library of an id. -/
def ofCatalog (id : Text) : Except LibraryError Library :=
  match catalog.find? (·.id = id) with
  | none => .error (.unknown id)
  | some library => .ok library

/-- The address of a library that a text stands for. -/
def readUrl (t : Text) (reader : Url.Reader := Url.standard) : Except LibraryError Address :=
  match reader (Text.trim t) with
  | none => .error (.invalidUrl t)
  | some address => if address.IsForLibrary then .ok address else .error (.invalidUrl t)

/-- The library at the address that a user gives, which is kept in its normal form. -/
def custom (id name url : Text) (kind : LibraryKind) (reader : Url.Reader := Url.standard) :
    Except LibraryError Library := do
  return { id, name, url := (← readUrl url reader).toText, kind }

/-- The origin of a library, if its address will do for one. -/
def origin? (library : Library) (reader : Url.Reader := Url.standard) : Option Text :=
  match readUrl library.url reader with
  | .error _ => none
  | .ok address => some address.origin

/-! ## Records -/

def toJson (library : Library) : Json :=
  .record [("id", .text library.id), ("name", .text library.name), ("url", .text library.url),
    ("kind", .name library.kind.name)]

def ofJson? (json : Json) : Option Library := do
  match ← json.allFields? ["id", "name", "url", "kind"] with
  | [id, name, url, kind] =>
    return {
      id := ← id.text?
      name := ← name.text?
      url := ← url.text?
      kind := ← kind.choice? (LibraryKind.all.map fun kind => (kind.name, kind)) }
  | _ => none

/-! ## Lemmas -/

variable {library : Library} {t : Text} {reader : Url.Reader} {address : Address}

/-- **A text stands for an address of a library just when the reader knows it as one that will
do.** -/
theorem readUrl_eq_ok_iff :
    readUrl t reader = .ok address ↔
      reader (Text.trim t) = some address ∧ address.IsForLibrary := by
  unfold readUrl
  cases reader (Text.trim t) with
  | none => simp
  | some a =>
    by_cases ha : a.IsForLibrary
    · simp only [if_pos ha, Except.ok.injEq, Option.some.injEq]
      refine ⟨?_, And.left⟩
      rintro rfl
      exact ⟨rfl, ha⟩
    · simp only [if_neg ha, Option.some.injEq]
      refine iff_of_false nofun ?_
      rintro ⟨rfl, h⟩
      exact ha h

/-- What stands for none is refused, and named as it was given. -/
theorem readUrl_eq_error_iff {error : LibraryError} :
    readUrl t reader = .error error ↔
      (∀ address, reader (Text.trim t) = some address → ¬ address.IsForLibrary) ∧
        error = .invalidUrl t := by
  unfold readUrl
  cases reader (Text.trim t) with
  | none => simp [eq_comm]
  | some a =>
    by_cases ha : a.IsForLibrary
    · simp [ha]
    · simp [ha, eq_comm]

theorem origin?_eq_some_iff {x : Text} :
    library.origin? reader = some x ↔
      ∃ address, readUrl library.url reader = .ok address ∧ address.origin = x := by
  unfold origin?
  cases readUrl library.url reader with
  | error error => simp
  | ok address => simp

end Library

end MarkupPad
