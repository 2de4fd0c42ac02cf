import MarkupPad.Page
import MarkupPad.Text.Affix

/-!
# Paths

A path is a text of names with slashes between them.  Empty names and single dots stand
for nothing, except a slash or a dot at the very front.

    target isDirectory out name         where the page of a project goes
-/

namespace MarkupPad.Path

open Text

/-! ## Algorithm -/

/-- The slash or the single dot at the front of a path, and what follows it. -/
def splitFront : Text → Text × Text
  | '/' :: t => (['/'], t)
  | ['.'] => (['.'], [])
  | '.' :: '/' :: t => (['.'], '/' :: t)
  | t => ([], t)

/-- Does a part of a path stand for nothing? -/
def isIdle (part : Text) : Bool := part = [] || part = ['.']

/-- The parts of a path behind its front, without idle ones at the end, in reverse order. -/
def partsReversed (t : Text) : List Text := (splitBy (· = '/') t).reverse.dropWhile isIdle

/-- The last name of a path; two dots are none. -/
def fileName? (path : Text) : Option Text :=
  match partsReversed (splitFront path).2 with
  | [] => none
  | last :: _ => if last = ['.', '.'] then none else some last

/-- The path without its last name. -/
def parent (path : Text) : Text :=
  let (front, t) := splitFront path
  match partsReversed t with
  | [] => []
  | _ :: parts => front ++ Text.join ['/'] (parts.dropWhile isIdle).reverse

/-- A path seen from another one.  A path from the root stays as it is. -/
def append (base path : Text) : Text :=
  if path.head? = some '/' ∨ base = [] then path
  else if base.getLast? = some '/' then base ++ path
  else base ++ '/' :: path

/-- The file that a page is written to: in a directory it is named for the project, else
the path names it. -/
def target (isDirectory : Bool) (out project : Text) : Text :=
  if isDirectory then append out (Page.fileName project)
  else append (parent out) (Page.fileName ((fileName? out).getD project))

end MarkupPad.Path
