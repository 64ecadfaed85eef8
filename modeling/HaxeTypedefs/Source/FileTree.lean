/-
A tree of files and directories, and what reading a path in it gives.

A tree is the list of its entries, each at the names that lead to it from the
root.  `FileTree.bytesAt` follows a path as a system call does: name by name,
each to be looked up in a directory, `.` and empty names staying and `..` going
up.  So a name behind a file is an error even where it would lead back.
-/
import HaxeTypedefs.Source.Fetch

namespace HaxeTypedefs

/-- The names that lead from the root to an entry. -/
abbrev Trail := List String

inductive FileNode where
  | file (bytes : ByteArray)
  | directory

structure FileTree where
  entries : List (Trail × FileNode)

namespace FileTree

/-- What stands at the end of a trail.  The root is a directory, and so is everything on the
way to an entry. -/
def node? (t : FileTree) (trail : Trail) : Option FileNode :=
  match t.entries.lookup trail with
  | some node => some node
  | none =>
    if trail = [] ∨ t.entries.any fun entry => trail.isPrefixOf entry.1 then some .directory
    else none

/-- No single name may have more bytes. -/
def longestName : Nat := 255

/-- No path may have as many bytes. -/
def pathLimit : Nat := 4096

/-- Follows the names from an entry of the tree. -/
def follow (t : FileTree) : Trail → FileNode → List String → Except ReadError FileNode
  | _, node, [] => .ok node
  | _, .file _, _ :: _ => .error .notADirectory
  | trail, .directory, name :: names =>
    if name = "" ∨ name = "." then t.follow trail .directory names
    else if name = ".." then t.follow trail.dropLast .directory names
    else if name.utf8ByteSize > longestName then .error .nameTooLong
    else match t.node? (trail ++ [name]) with
      | some node => t.follow (trail ++ [name]) node names
      | none => .error .notFound

/-- The bytes of the file at a path; a path that does not begin with `/` begins at the
working directory. -/
def bytesAt (t : FileTree) (workingDirectory : Trail) (path : String) :
    Except ReadError ByteArray :=
  if path.contains '\x00' then .error .nulInPath
  else if path = "" then .error .notFound
  else if path.utf8ByteSize ≥ pathLimit then .error .nameTooLong
  else
    let first := if "/".toList.isPrefixOf path.toList then [] else workingDirectory
    match t.follow first .directory (path.splitOn "/") with
    | .ok (.file bytes) => .ok bytes
    | .ok .directory => .error .isADirectory
    | .error reason => .error reason

end FileTree

end HaxeTypedefs
