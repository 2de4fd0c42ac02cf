import MarkupPad.File.System
import MarkupPad.Text.Basic

/-!
# Files in memory

A tree of files that lives in a state, with a working directory.  A path is walked name by
name: only directories are walked through, and two dots lead back.
-/

namespace MarkupPad

/-- A place in the tree: the names on the way from the root, the last one first. -/
abbrev Place := List Text

/-- What stands at a place: a directory, or a file with its bytes. -/
inductive FileNode where
  | directory
  | file (bytes : ByteArray)

/-- The places in use and the working directory.  The root is always there. -/
structure FileTree where
  nodes : List (Place × FileNode)
  workingDirectory : Place

namespace FileTree

open Text

/-! ## Algorithm -/

/-- What stands at a place. -/
def find? (tree : FileTree) (place : Place) : Option FileNode :=
  if place = [] then some .directory else tree.nodes.lookup place

/-- Something else at a place. -/
def put (tree : FileTree) (place : Place) (node : FileNode) : FileTree :=
  { tree with nodes := (place, node) :: tree.nodes.filter (·.1 ≠ place) }

/-- The place that a name leads to from another one. -/
def step (place : Place) (name : Text) : Except FileError Place :=
  if name = [] ∨ name = ['.'] then .ok place
  else if name = ['.', '.'] then .ok place.tail
  else if 255 < size name then .error .nameTooLong
  else .ok (name :: place)

/-- The place that names lead to.  Every place before the last one must be a directory. -/
def walk (tree : FileTree) (place : Place) : List Text → Except FileError Place
  | [] => .ok place
  | name :: names =>
    match tree.find? place with
    | none => .error .missing
    | some (.file _) => .error .notDirectory
    | some .directory => do tree.walk (← step place name) names

/-- The place of a path. -/
def locate (tree : FileTree) (path : Text) : Except FileError Place :=
  let names := splitBy (· = '/') path
  match path with
  | [] => .error .missing
  | '/' :: _ => tree.walk [] names
  | _ => tree.walk tree.workingDirectory names

/-- The bytes of the file at a path. -/
def read (tree : FileTree) (path : Text) : Except FileError ByteArray := do
  match tree.find? (← tree.locate path) with
  | none => .error .missing
  | some .directory => .error .isDirectory
  | some (.file bytes) => .ok bytes

/-- Is there a directory at a path? -/
def isDirectory (tree : FileTree) (path : Text) : Bool :=
  match tree.locate path with
  | .error _ => false
  | .ok place =>
    match tree.find? place with
    | some .directory => true
    | _ => false

/-- The tree with a file at a path. -/
def write (tree : FileTree) (path : Text) (bytes : ByteArray) : Except FileError FileTree := do
  let place ← tree.locate path
  match tree.find? place with
  | some .directory => .error .isDirectory
  | _ => .ok (tree.put place (.file bytes))

/-- A tree in a state as a system of files. -/
def system : FileSystem (StateM FileTree) where
  read path := return (← get).read path
  isDirectory path := return (← get).isDirectory path
  write path bytes := do
    match (← get).write path bytes with
    | .error error => return some error
    | .ok tree =>
      set tree
      return none

end FileTree

end MarkupPad
