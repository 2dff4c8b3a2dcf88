import MmlScan.Command

/-!
# Files

What a command has to know about files: what a path leads to, and the content of a file.  Below a
directory a file is known by the names that lead to it.
-/

namespace MmlScan

/-- What a path leads to. -/
inductive Place where
  | missing
  | file
  /-- A directory, with all files below it. -/
  | directory (files : List (List Text))
  deriving DecidableEq, Repr

/-- How files are reached. -/
structure FileSystem (m : Type → Type) where
  look : Text → m Place
  read : Text → m (Option ByteArray)

namespace Place

/-- What stands behind the last dot of a name; a dot that begins the name does not count. -/
def extension? (name : Text) : Option Text :=
  let reversed := name.reverse
  match reversed.dropWhile (· ≠ '.') with
  | [] => none
  | [_] => none
  | _ :: _ :: _ => some (reversed.takeWhile (· ≠ '.')).reverse

/-- The extensions of source files. -/
def sourceExtensions : List Text :=
  ["txt".toList, "mml".toList]

/-- The name is that of a source file, letters in either case. -/
def isSourceName (name : Text) : Bool :=
  (extension? name).any fun extension => sourceExtensions.any (· = extension.map Char.toLower)

/-- The names on the left lead to a file that comes first, or they are the same names.  Names are
compared one by one. -/
def comesFirst : List Text → List Text → Bool
  | [], _ => true
  | _ :: _, [] => false
  | left :: lefts, right :: rights => if left = right then comesFirst lefts rights else left < right

/-- The path of a file below a directory, given by the names that lead to it. -/
def below (directory : Text) (names : List Text) : Text :=
  let separator := if directory.getLast? = some '/' then [] else ['/']
  directory ++ separator ++ Text.joinWith ['/'] names

/-- The report that a path leads nowhere. -/
def cannotWalk (path : Text) : Diagnostic :=
  .plain .file ("cannot walk " ++ String.ofList path)

/-- The report that there are no source files below a path. -/
def noSources (path : Text) : Diagnostic :=
  .plain .file ("no MML files found under " ++ String.ofList path)

/-- The paths of the source files that a path leads to: the path itself if it leads to a file, and
else the source files below it, in the order of the names that lead to them. -/
def sources (path : Text) : Place → Except Diagnostic (List Text)
  | .missing => .error (cannotWalk path)
  | .file => .ok [path]
  | .directory files =>
      let found := files.filter fun names => names.getLast?.any isSourceName
      match found.mergeSort comesFirst with
      | [] => .error (noSources path)
      | sorted => .ok (sorted.map (below path))

end Place

/-- The report that a file has no text. -/
def Diagnostic.cannotRead (path : Text) : Diagnostic :=
  .plain .file ("cannot read " ++ String.ofList path)

namespace FileSystem

/-- The text of a file.  Its bytes have to be valid UTF-8. -/
def readText {m : Type → Type} [Monad m] (files : FileSystem m) (path : Text) :
    m (Except Diagnostic Text) := do
  match (← files.read path).bind String.fromUTF8? with
  | some text => return .ok text.toList
  | none => return .error (.cannotRead path)

end FileSystem

end MmlScan
