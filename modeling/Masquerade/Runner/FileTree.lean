import Masquerade.Error

/-!
# File trees

What a path leads to. A path is a row of names between slashes: it starts at the root if a slash
comes first and at the folder of the reader otherwise, an empty name or a single dot stays where it
is, and two dots lead one folder up, which from the root is the root.
-/

namespace Masquerade

/-- The texts of files by their paths. -/
abbrev Files := String → Except FileError String

/-- Files and further folders by the names on the way to them from the root. -/
structure FileTree where
  files : List (List String × String)
  folders : List (List String) := []

namespace FileTree

/-- What a path leads to. -/
inductive Place where
  | folder (way : List String)
  | file (text : String)

/-- The length in bytes of the longest name. -/
def longestName : Nat := 255

/-- The length in bytes of the longest path. -/
def longestPath : Nat := 4095

/-- Whether a way from the root leads to a folder: the root is one, and so is all that lies on the way
to a file or a folder. -/
def hasFolder (t : FileTree) (way : List String) : Bool :=
  way.isEmpty || t.folders.any way.isPrefixOf ||
    t.files.any fun f => way.isPrefixOf f.1.dropLast

/-- The place at the end of a way from the root. -/
def place? (t : FileTree) (way : List String) : Option Place :=
  match t.files.lookup way with
  | some text => some (.file text)
  | none => if t.hasFolder way then some (.folder way) else none

/-- The place that a name leads to from a folder. -/
def enter (t : FileTree) (way : List String) (name : String) : Except FileError Place :=
  if longestName < name.utf8ByteSize then
    .error .nameTooLong
  else if name = "" ∨ name = "." then
    .ok (.folder way)
  else if name = ".." then
    .ok (.folder way.dropLast)
  else
    (t.place? (way ++ [name])).elim (.error .missing) .ok

/-- The text of the file that names lead to from a place. A name leads on from a folder only, and
only a file can be read. -/
def follow (t : FileTree) : Place → List String → Except FileError String
  | .file text, [] => .ok text
  | .file _, _ :: _ => .error .notDirectory
  | .folder _, [] => .error .isDirectory
  | .folder way, name :: rest =>
    match t.enter way name with
    | .error e => .error e
    | .ok p => t.follow p rest

/-- The files of a tree as a reader in the folder `home` finds them. -/
def read (t : FileTree) (home : List String) : Files := fun path =>
  if longestPath < path.utf8ByteSize then
    .error .nameTooLong
  else if path = "" then
    .error .missing
  else
    t.follow (.folder (if path.startsWith "/" then [] else home)) (path.splitOn "/")

end FileTree

end Masquerade
