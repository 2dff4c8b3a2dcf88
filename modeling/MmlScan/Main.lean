import MmlScan.Command.Run

/-!
# The program

Reads the command line, reaches the files, and writes what a run leaves behind.
-/

namespace MmlScan
namespace Main

/-- The files below a directory, by the names that lead to them.  Links are not followed. -/
partial def filesBelow (names : List Text) (entries : Array IO.FS.DirEntry) :
    IO (List (List Text)) := do
  let found ← entries.toList.mapM fun entry => do
    let names := names ++ [entry.fileName.toList]
    match (← entry.path.symlinkMetadata).type with
    | .file => return [names]
    | .dir => filesBelow names (← entry.path.readDir)
    | _ => return []
  return found.flatten

/-- What a path leads to in the working directory. -/
def look (path : Text) : IO Place := do
  try
    let place := (← IO.currentDir) / String.ofList path
    match (← place.metadata).type with
    | .dir => return .directory (← filesBelow [] (← place.readDir))
    | _ => return .file
  catch _ => return .missing

/-- The content of a file in the working directory. -/
def read (path : Text) : IO (Option ByteArray) := do
  try return some (← IO.FS.readBinFile (String.ofList path))
  catch _ => return none

/-- The files of the working directory. -/
def workingFiles : FileSystem IO :=
  ⟨look, read⟩

end Main
end MmlScan

open MmlScan in
/-- Runs the program. -/
def main (words : List String) : IO UInt32 := do
  let outcome ← Command.run Main.workingFiles (words.map String.toList)
  IO.print (String.ofList outcome.output)
  for report in outcome.reports do
    IO.eprintln (report.code ++ ": " ++ report.text)
  return outcome.exitCode.toUInt32
