import MmlScan.Command.Arguments
import MmlScan.Command.Files
import MmlScan.Json
import MmlScan.Token.Scan

/-!
# Running commands

What a command writes, what it reports, and the code it exits with.  Checking judges every file on
its own: a file that fails does not keep the others from being checked.
-/

namespace MmlScan

/-- What a run of the program leaves behind. -/
structure Outcome where
  /-- What is written. -/
  output : Text
  reports : List Diagnostic
  exitCode : Nat
  deriving DecidableEq, Repr

namespace Outcome

/-- Nothing but one failure. -/
def failure (report : Diagnostic) : Outcome :=
  ⟨[], [report], 1⟩

end Outcome

/-! ## Token lists -/

namespace Token

/-- The decimal form of a number. -/
def numberText (number : Nat) : Text :=
  (toString number).toList

/-- The line for a token. -/
def toLine (token : Token) : Text :=
  numberText token.line ++ ':' :: numberText token.depth ++ '\t' :: token.text ++ ['\n']

/-- A token as a JSON object inside a list, a line for each member. -/
def toJson (token : Token) : Text :=
  let member (name : String) (value : Text) : Text :=
    "    ".toList ++ Json.quote name.toList ++ ": ".toList ++ value
  let members :=
    [member "text" (Json.quote token.text), member "line" (numberText token.line),
     member "offset" (numberText token.offset), member "depth" (numberText token.depth)]
  "  \x7b\n".toList ++ Text.joinWith ",\n".toList members ++ "\n  \x7d".toList

/-- A list of tokens as JSON. -/
def listToJson : List Token → Text
  | [] => "[]".toList
  | tokens => "[\n".toList ++ Text.joinWith ",\n".toList (tokens.map toJson) ++ "\n]".toList

end Token

/-! ## Verdicts -/

/-- The result of checking a file. -/
inductive Verdict where
  | ok (count : Nat)
  | diverged (position : Nat)
  | failed (report : Diagnostic)
  deriving DecidableEq, Repr

namespace Verdict

/-- The word for the verdict. -/
def word : Verdict → Text
  | .ok _ => "ok".toList
  | .diverged _ => "diverged".toList
  | .failed _ => "error".toList

/-- What there is to say about the verdict. -/
def detail : Verdict → Text
  | .ok count => Token.numberText count ++ " tokens".toList
  | .diverged position => "second pass differs at token ".toList ++ Token.numberText position
  | .failed report => report.text.toList

/-- The line for the verdict on a file.  The words of all verdicts take eight columns. -/
def toLine (path : Text) (verdict : Verdict) : Text :=
  verdict.word.rightpad 8 ' ' ++ ' ' :: path ++ " (".toList ++ verdict.detail ++ ")\n".toList

/-- The failure to be reported. -/
def report? : Verdict → Option Diagnostic
  | .failed report => some report
  | _ => none

/-- The file has passed. -/
def isOk : Verdict → Bool
  | .ok _ => true
  | _ => false

/-- The verdict on a replay. -/
def ofReplay (replay : Replay) : Verdict :=
  match replay.firstDivergence? with
  | none => .ok replay.first.length
  | some position => .diverged position

end Verdict

namespace Command

/-- A scanner of a text with the macros that are defined beforehand. -/
def scannerOf (definitions : List (Text × Text)) (text : Text) : Scanner :=
  (Scanner.ofText text).defineAll definitions

/-- Lists the tokens of a file. -/
def listTokens (path : Text) (definitions : List (Text × Text)) (json : Bool)
    (content : Except Diagnostic Text) : Outcome :=
  match content with
  | .error report => .failure report
  | .ok text =>
      match (scannerOf definitions text).scanTokens.1 with
      | .error report => .failure (report.withSourceName (String.ofList path))
      | .ok found =>
          let output := if json then Token.listToJson found ++ ['\n'] else found.flatMap Token.toLine
          ⟨output, [], 0⟩

/-- The verdict on a file. -/
def judge (path : Text) (definitions : List (Text × Text)) (content : Except Diagnostic Text) :
    Verdict :=
  match content with
  | .error report => .failed report
  | .ok text =>
      match (scannerOf definitions text).scanTwice.1 with
      | .error report => .failed (report.withSourceName (String.ofList path))
      | .ok replay => .ofReplay replay

/-- The outcome of checking files. -/
def summary (verdicts : List (Text × Verdict)) : Outcome :=
  { output := verdicts.flatMap fun (path, verdict) => verdict.toLine path
    reports := verdicts.filterMap fun (_, verdict) => verdict.report?
    exitCode := if verdicts.all fun (_, verdict) => verdict.isOk then 0 else 1 }

/-- Executes a command. -/
def execute {m : Type → Type} [Monad m] (files : FileSystem m) : Command → m Outcome
  | .tokens path definitions json => do
      return listTokens path definitions json (← files.readText path)
  | .check path definitions => do
      match (← files.look path).sources path with
      | .error report => return .failure report
      | .ok sources =>
          let verdicts ← sources.mapM fun source => do
            return (source, judge source definitions (← files.readText source))
          return summary verdicts

/-- The name and the version of the program. -/
def versionLine : Text :=
  "amkscan 0.1.0\n".toList

/-- How the program is called. -/
def usage : Text :=
  ("usage: amkscan [-v] tokens [--json] [-D KEY=VALUE]... FILE\n" ++
    "       amkscan [-v] check [-D KEY=VALUE]... [PATH]\n").toList

/-- The outcome of a command line that leads to no command. -/
def refuse (error : UsageError) : Outcome :=
  let output := match error with
    | .help => usage
    | .version => versionLine
    | _ => []
  ⟨output, [], error.exitCode⟩

/-- Runs the program with the words of a command line. -/
def run {m : Type → Type} [Monad m] (files : FileSystem m) (words : List Text) : m Outcome :=
  match read words with
  | .error error => return refuse error
  | .ok invocation => execute files invocation.command

end Command

end MmlScan
