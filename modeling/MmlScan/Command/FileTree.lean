import MmlScan.Command.Files

/-!
# File trees

Files held in memory, each under the names that lead to it from the working directory.
-/

namespace MmlScan

/-- Files by the names that lead to them; a directory without files stands for itself. -/
structure FileTree where
  /-- The files with their content, and the empty directories without. -/
  entries : List (List Text × Option ByteArray)

namespace FileTree

/-- The names between the slashes of a path. -/
def namesOf (path : Text) : List Text :=
  path.foldr
    (fun c names =>
      if c = '/' then [] :: names
      else
        match names with
        | name :: names => (c :: name) :: names
        | [] => [[c]])
    [[]]

/-- The names lead to a directory: the working directory, or one that an entry needs. -/
def isDirectory (tree : FileTree) (names : List Text) : Bool :=
  names.isEmpty || tree.entries.any fun (entry, content) =>
    names.isPrefixOf entry && (entry.length ≠ names.length || content.isNone)

/-- The content of the file that the names lead to. -/
def file? (tree : FileTree) (names : List Text) : Option ByteArray :=
  (tree.entries.find? fun (entry, content) => entry = names && content.isSome).bind (·.2)

/-- Follows the names of a path from a directory.  An empty name and a dot stay where they are,
two dots lead to the directory around; nothing leads on from a file, or out of the working
directory. -/
def follow? (tree : FileTree) (place : List Text) : List Text → Option (List Text)
  | [] => some place
  | name :: names =>
      if !tree.isDirectory place then none
      else if name = [] ∨ name = ['.'] then follow? tree place names
      else if name = ['.', '.'] then
        if place = [] then none else follow? tree place.dropLast names
      else follow? tree (place ++ [name]) names

/-- The names that a path stands for.  A path from the root is outside the tree. -/
def resolve? (tree : FileTree) (path : Text) : Option (List Text) :=
  if path.head? = some '/' then none else tree.follow? [] (namesOf path)

/-- What a path leads to. -/
def look (tree : FileTree) (path : Text) : Place :=
  match tree.resolve? path with
  | none => .missing
  | some names =>
      if (tree.file? names).isSome then .file
      else if tree.isDirectory names then
        let files := tree.entries.filter fun (entry, content) =>
          content.isSome && names.isPrefixOf entry
        .directory (files.map fun (entry, _) => entry.drop names.length)
      else .missing

/-- The files of the tree. -/
def fileSystem (tree : FileTree) : FileSystem Id :=
  ⟨tree.look, fun path => (tree.resolve? path).bind tree.file?⟩

end FileTree

end MmlScan
