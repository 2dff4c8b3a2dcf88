import MmlScan.Diagnostic

/-!
# Commands

What the program can be asked for, and what can be wrong with the words it is asked with.
-/

namespace MmlScan

/-- What the program does. -/
inductive Command where
  | tokens (path : Text) (definitions : List (Text × Text)) (json : Bool)
  | check (path : Text) (definitions : List (Text × Text))
  deriving DecidableEq, Repr

/-- A command, and whether to report what goes on. -/
structure Invocation where
  verbose : Bool
  command : Command
  deriving DecidableEq, Repr

/-- Why the words on a command line do not lead to a command. -/
inductive UsageError where
  | nothingGiven
  | missingCommand
  | unknownCommand
  | missingFile
  | unknownArgument
  | repeatedFlag
  | badDefinition (problem : SourceProblem)
  | missingValue
  | surplusValue
  | help
  | version
  deriving DecidableEq, Repr

namespace UsageError

/-- Name of the error. -/
def name : UsageError → String
  | .nothingGiven => "DisplayHelpOnMissingArgumentOrSubcommand"
  | .missingCommand => "MissingSubcommand"
  | .unknownCommand => "InvalidSubcommand"
  | .missingFile => "MissingRequiredArgument"
  | .unknownArgument => "UnknownArgument"
  | .repeatedFlag => "ArgumentConflict"
  | .badDefinition _ => "ValueValidation"
  | .missingValue => "InvalidValue"
  | .surplusValue => "TooManyValues"
  | .help => "DisplayHelp"
  | .version => "DisplayVersion"

/-- What is wrong with a value. -/
def detail? : UsageError → Option String
  | .badDefinition problem => some problem.message
  | _ => none

/-- The code that the program exits with: only a wish for help or for the version is no failure. -/
def exitCode : UsageError → Nat
  | .help => 0
  | .version => 0
  | _ => 2

end UsageError

end MmlScan
