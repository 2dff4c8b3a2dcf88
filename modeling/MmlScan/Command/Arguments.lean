import MmlScan.Command
import MmlScan.Directive

/-!
# Reading command lines

A command line is read word by word, first up to the name of the command and then behind it.  A
value that has been read is looked at when the next option or path is met, or at the end; until
then an unknown option is reported first.
-/

namespace MmlScan
namespace Command

/-- The commands that can be named. -/
inductive Name where
  | tokens
  | check
  deriving DecidableEq, Repr

/-- The options of a command line. -/
inductive Switch where
  | verbose
  | help
  | version
  | json
  | define
  deriving DecidableEq, Repr

/-- The options in front of the command, or behind its name. -/
def switches : Option Name → List Switch
  | none => [.verbose, .help, .version]
  | some .tokens => [.verbose, .help, .json, .define]
  | some .check => [.verbose, .help, .define]

/-- The long name of an option. -/
def Switch.long : Switch → Text
  | .verbose => "verbose".toList
  | .help => "help".toList
  | .version => "version".toList
  | .json => "json".toList
  | .define => "define".toList

/-- The letter of an option. -/
def Switch.letter? : Switch → Option Char
  | .verbose => some 'v'
  | .help => some 'h'
  | .version => some 'V'
  | .json => none
  | .define => some 'D'

/-- The value that has been read but not been looked at. -/
inductive Pending where
  | none
  /-- A definition, or only the option that announces one. -/
  | definition (value : Option Text)
  | path (value : Text)
  deriving DecidableEq, Repr

/-- What has been read of one part of the command line. -/
structure Arguments where
  name : Option Name
  verbose : Bool
  json : Bool
  /-- The definitions in their order. -/
  definitions : List (Text × Text)
  path : Option Text
  /-- The value that has not been looked at. -/
  pending : Pending
  /-- Two hyphens stand there, and no options come behind them. -/
  optionsEnded : Bool
  deriving DecidableEq, Repr

namespace Arguments

/-- Nothing has been read. -/
def start (name : Option Name) : Arguments :=
  ⟨name, false, false, [], none, .none, false⟩

/-- Adds a definition. -/
def define (arguments : Arguments) (value : Text) : Except UsageError Arguments :=
  match Directive.split value with
  | .ok definition => .ok { arguments with definitions := arguments.definitions ++ [definition] }
  | .error problem => .error (.badDefinition problem)

/-- Looks at the value that has been read. -/
def settle (arguments : Arguments) : Except UsageError Arguments :=
  let settled := { arguments with pending := .none }
  match arguments.pending with
  | .none => .ok settled
  | .definition none => .error .missingValue
  | .definition (some value) => settled.define value
  | .path [] => .error .missingValue
  | .path value => .ok { settled with path := some value }

/-- Reads an option without a value. -/
def takeFlag (arguments : Arguments) (switch : Switch) : Except UsageError Arguments := do
  let arguments ← arguments.settle
  match switch with
  | .verbose =>
      if arguments.verbose then .error .repeatedFlag else .ok { arguments with verbose := true }
  | .json => if arguments.json then .error .repeatedFlag else .ok { arguments with json := true }
  | .help => .error .help
  | .version => .error .version
  | .define => .ok { arguments with pending := .definition none }

/-- Reads an option that has a value attached. -/
def takeAttached (arguments : Arguments) (switch : Switch) (value : Text) :
    Except UsageError Arguments :=
  match switch with
  | .define => do (← arguments.settle).define value
  | _ => .error .surplusValue

/-- Reads an option by its long name, with what stands behind an equals sign as its value. -/
def takeLong (arguments : Arguments) (word : Text) : Except UsageError Arguments :=
  let name := word.takeWhile (· ≠ '=')
  match (switches arguments.name).find? (·.long = name) with
  | none => .error .unknownArgument
  | some switch =>
      match word.dropWhile (· ≠ '=') with
      | [] => arguments.takeFlag switch
      | _ :: value => arguments.takeAttached switch value

/-- Reads a row of letters.  The letter of an option with a value takes the rest of the row, less
one equals sign, if anything is left. -/
def takeLetters (arguments : Arguments) : Text → Except UsageError Arguments
  | [] => .ok arguments
  | letter :: rest =>
      match (switches arguments.name).find? (·.letter? = some letter) with
      | none => .error .unknownArgument
      | some .define =>
          match rest with
          | [] => arguments.takeFlag .define
          | '=' :: value => arguments.takeAttached .define value
          | value => arguments.takeAttached .define value
      | some switch => do (← arguments.takeFlag switch).takeLetters rest

/-- A path has been read. -/
def hasPath (arguments : Arguments) : Bool :=
  arguments.path.isSome || arguments.pending matches .path _

/-- Reads a word that is no option as the path. -/
def takePath (arguments : Arguments) (word : Text) : Except UsageError Arguments :=
  if arguments.hasPath then .error .unknownArgument
  else do
    let arguments ← arguments.settle
    .ok { arguments with pending := .path word }

/-- Reads a word behind the name of a command.  A word that begins with a hyphen is an option,
unless it is the hyphen alone. -/
def take (arguments : Arguments) (word : Text) : Except UsageError Arguments :=
  if arguments.optionsEnded then arguments.takePath word
  else
    match word with
    | ['-', '-'] => .ok { arguments with optionsEnded := true }
    | '-' :: '-' :: word => arguments.takeLong word
    | '-' :: letter :: letters => arguments.takeLetters (letter :: letters)
    | word =>
        if arguments.pending = .definition none then
          .ok { arguments with pending := .definition (some word) }
        else
          arguments.takePath word

/-- The command that has been read. -/
def finish (arguments : Arguments) (name : Name) : Except UsageError Command := do
  let arguments ← arguments.settle
  match name, arguments.path with
  | .tokens, some path => .ok (.tokens path arguments.definitions arguments.json)
  | .tokens, none => .error .missingFile
  | .check, path => .ok (.check (path.getD ['.']) arguments.definitions)

end Arguments

/-- The command of a name. -/
def Name.ofText? (word : Text) : Option Name :=
  if word = "tokens".toList then some .tokens
  else if word = "check".toList then some .check
  else none

/-- The name under which help is asked for like a command. -/
def helpWord : Text :=
  "help".toList

/-- Reads what stands behind the wish for help: at most the name of one command. -/
def readHelp (words : List Text) : UsageError :=
  match words with
  | [] => .help
  | [word] => if (Name.ofText? word).isSome || word = helpWord then .help else .unknownCommand
  | _ => .unknownCommand

/-- Reads the words up to the name of the command, and those behind it. -/
def readFrom (arguments : Arguments) : List Text → Except UsageError Invocation
  | [] => .error (if arguments.verbose then .missingCommand else .nothingGiven)
  | word :: words =>
      let name := Name.ofText? word
      if arguments.optionsEnded then
        .error (if name.isSome || word = helpWord then .unknownArgument else .unknownCommand)
      else if word = helpWord then .error (readHelp words)
      else
        match name, word with
        | some name, _ => do
            let behind ← words.foldlM Arguments.take (.start (some name))
            let command ← behind.finish name
            .ok ⟨arguments.verbose || behind.verbose, command⟩
        | none, '-' :: _ :: _ => do readFrom (← arguments.take word) words
        | none, _ => .error .unknownCommand

/-- Reads a command line without the name of the program. -/
def read (words : List Text) : Except UsageError Invocation :=
  readFrom (.start none) words

end Command
end MmlScan
