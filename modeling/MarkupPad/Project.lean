import MarkupPad.Text.Ascii

/-!
# Projects: three facets of one page

A document has three buffers: the markup, its style sheet and its script.
-/

namespace MarkupPad

/-- One of the three buffers of a document. -/
inductive Facet where
  | markup | style | script
  deriving Repr, DecidableEq

/-- The three buffers of a project. -/
structure Document where
  markup : Text
  style : Text
  script : Text
  deriving Repr, DecidableEq

namespace Facet

/-- All facets in order. -/
def all : List Facet := [markup, style, script]

/-- The name of a facet. -/
def name : Facet → String
  | markup => "markup"
  | style => "style"
  | script => "script"

/-- The facet of a name, in any ASCII case; the names of the three languages will do. -/
def ofName? (name : Text) : Option Facet :=
  match String.ofList (Text.asciiLower name) with
  | "markup" | "html" => some markup
  | "style" | "css" => some style
  | "script" | "js" => some script
  | _ => none

end Facet

namespace Document

/-- The document without any text. -/
def empty : Document := ⟨[], [], []⟩

/-- The buffer of a facet. -/
def get (d : Document) : Facet → Text
  | .markup => d.markup
  | .style => d.style
  | .script => d.script

/-- The document with another text in one buffer. -/
def set (d : Document) (facet : Facet) (t : Text) : Document :=
  match facet with
  | .markup => { d with markup := t }
  | .style => { d with style := t }
  | .script => { d with script := t }

/-- Is there no text in any buffer? -/
def isEmpty (d : Document) : Bool := Facet.all.all fun facet => (d.get facet).isEmpty

@[simp] theorem get_set_self (d : Document) (facet : Facet) (t : Text) :
    (d.set facet t).get facet = t := by
  cases facet <;> rfl

theorem get_set_of_ne {d : Document} {f g : Facet} {t : Text} (h : g ≠ f) :
    (d.set f t).get g = d.get g := by
  cases f <;> cases g <;> first | rfl | exact absurd rfl h

end Document

end MarkupPad
