import ChainProfile.Settings
import ChainProfile.Text

/-!
# File trees

A tree of files as a value, and what a path names in it.  A path is a list of names
between slashes.  An empty name and a single point stay in the directory that has
been reached, two points lead back to the one above, and no name leads on from a
file, not even an empty one.  Above the root is the root.
-/

namespace ChainProfile

/-- A file with its bytes, or a directory with what stands under its names. -/
inductive FileTree where
  | file (bytes : Bytes)
  | directory (entries : List (String × FileTree))

namespace FileTree

/-- Paths with this many bytes or more name nothing. -/
def pathLimit : Nat := 4096

/-- Follows names from a place, which the directories above it lead to, the nearest first. -/
def follow (above : List FileTree) (place : FileTree) : List String → Option FileTree
  | [] => some place
  | name :: names =>
      match place with
      | .file _ => none
      | .directory entries =>
          if name = "" ∨ name = "." then follow above place names
          else if name = ".." then
            match above with
            | parent :: farther => follow farther parent names
            | [] => follow [] place names
          else
            match entries.lookup name with
            | some next => follow (place :: above) next names
            | none => none

/-- The names on a path. -/
def names (path : String) : List String := (Text.parts '/' path.toList).map String.ofList

/-- What a path names.  A path that does not begin at the root begins at the current directory. -/
def find? (root : FileTree) (current path : String) : Option FileTree :=
  if path = "" ∨ pathLimit ≤ path.utf8ByteSize then none
  else if path.toList.head? = some '/' then follow [] root (names path)
  else follow [] root (names current ++ names path)

/-- What is found at the place of a file.  A directory cannot be read as a file. -/
def stateAt (root : FileTree) (current path : String) : FileState :=
  match find? root current path with
  | none => .missing
  | some (.file bytes) => .content bytes
  | some (.directory _) => .unreadable

end FileTree

end ChainProfile
