import MmlScan.Command.Arguments
import MmlScan.Proofs.RoundTrip

/-!
# Spellings of a command

A command can be spelled by many command lines: a definition has several forms, flags can stand in
several places, and behind the name of the command the order is free.  A spelling is a command line
in parts, where each part is one option with all its words, or the path.
-/

namespace MmlScan
namespace Command

/-! ## What a command says -/

/-- The name of a command. -/
def name : Command → Name
  | .tokens .. => .tokens
  | .check .. => .check

/-- The path that a command is about. -/
def path : Command → Text
  | .tokens path _ _ | .check path _ => path

/-- The definitions of a command. -/
def definitions : Command → List (Text × Text)
  | .tokens _ definitions _ | .check _ definitions => definitions

/-- The command asks for JSON. -/
def json : Command → Bool
  | .tokens _ _ json => json
  | .check .. => false

/-! ## Spellings -/

/-- How an option is named. -/
inductive Form where
  | letter
  | full
  deriving DecidableEq, Repr

/-- One option behind the name of a command with all its words, or the path. -/
inductive Part where
  | verbose (form : Form)
  | json
  /-- A definition in one word with its letter, behind the letter for more messages if it is
  clustered, and with an equals sign in between if it is set off. -/
  | attached (clustered setOff : Bool) (key value : Text)
  /-- A definition in one word with the full name of its option. -/
  | assigned (key value : Text)
  /-- A definition in a word of its own. -/
  | apart (form : Form) (key value : Text)
  | path (text : Text)
  deriving DecidableEq, Repr

/-- The word that asks for more messages. -/
def Form.verboseWord : Form → Text
  | .letter => "-v".toList
  | .full => "--verbose".toList

/-- The word that announces a definition. -/
def Form.defineWord : Form → Text
  | .letter => "-D".toList
  | .full => "--define".toList

/-- A definition as it is written. -/
def written (key value : Text) : Text :=
  key ++ '=' :: value

namespace Part

/-- The words of a part. -/
def words : Part → List Text
  | .verbose form => [form.verboseWord]
  | .json => ["--json".toList]
  | .attached clustered setOff key value =>
      ['-' :: ((if clustered then ['v'] else []) ++
        'D' :: ((if setOff then ['='] else []) ++ written key value))]
  | .assigned key value => ["--define=".toList ++ written key value]
  | .apart form key value => [form.defineWord, written key value]
  | .path text => [text]

/-- The part can be written: keys are those that a definition can have, and what stands in a word of
its own does not look like an option. -/
def Valid : Part → Prop
  | .verbose _ | .json => True
  | .attached _ _ key _ | .assigned key _ => key.IsHygienic
  | .apart _ key _ => key.IsHygienic ∧ key.head? ≠ some '-'
  | .path text => text ≠ [] ∧ text.head? ≠ some '-'

/-- What the part defines. -/
def definition? : Part → Option (Text × Text)
  | .attached _ _ key value | .assigned key value | .apart _ key value => some (key, value)
  | .verbose _ | .json | .path _ => none

/-- The path that is given. -/
def path? : Part → Option Text
  | .path text => some text
  | _ => none

/-- The part asks for more messages. -/
def asksVerbose : Part → Bool
  | .verbose _ => true
  | .attached clustered _ _ _ => clustered
  | _ => false

/-- The part asks for JSON. -/
def asksJson : Part → Bool
  | .json => true
  | _ => false

end Part

/-- The word for a command. -/
def Name.word : Name → Text
  | .tokens => "tokens".toList
  | .check => "check".toList

/-- A command line, part by part. -/
structure Spelling where
  /-- A flag in front of the name of the command. -/
  front : Option Form
  name : Name
  /-- What stands behind the name. -/
  parts : List Part
  deriving DecidableEq, Repr

namespace Spelling

/-- The words of a command line. -/
def words (spelling : Spelling) : List Text :=
  spelling.front.toList.map Form.verboseWord ++
    spelling.name.word :: spelling.parts.flatMap Part.words

/-- The definitions in the order in which they are written. -/
def definitions (spelling : Spelling) : List (Text × Text) :=
  spelling.parts.filterMap Part.definition?

/-- The paths that are written. -/
def paths (spelling : Spelling) : List Text :=
  spelling.parts.filterMap Part.path?

/-- How often more messages are asked for. -/
def verboseCount (spelling : Spelling) : Nat :=
  spelling.front.toList.length + spelling.parts.countP Part.asksVerbose

/-- How often JSON is asked for. -/
def jsonCount (spelling : Spelling) : Nat :=
  spelling.parts.countP Part.asksJson

/-- The command line spells an invocation.  A flag that is set is written once, and one that is not
set is not written. -/
structure Spells (spelling : Spelling) (invocation : Invocation) : Prop where
  valid : ∀ part ∈ spelling.parts, part.Valid
  name : spelling.name = invocation.command.name
  verbose : spelling.verboseCount = invocation.verbose.toNat
  json : spelling.jsonCount = invocation.command.json.toNat
  definitions : spelling.definitions = invocation.command.definitions
  /-- Only a check can do without a path. -/
  paths : spelling.paths = [invocation.command.path] ∨
    spelling.paths = [] ∧ invocation.command.name = .check ∧
      invocation.command.path = ".".toList

/-! ## Every command can be spelled -/

/-- Definitions as they are written with the full name of their option. -/
def assignAll (definitions : List (Text × Text)) : List Part :=
  definitions.map fun definition => .assigned definition.1 definition.2

/-- One spelling of an invocation. -/
def plain (invocation : Invocation) : Spelling where
  front := if invocation.verbose then some Form.full else none
  name := invocation.command.name
  parts := assignAll invocation.command.definitions ++
    .path invocation.command.path :: if invocation.command.json then [.json] else []

theorem filterMap_definition?_assignAll (definitions : List (Text × Text)) :
    (assignAll definitions).filterMap Part.definition? = definitions := by
  rw [assignAll, List.filterMap_map]
  exact List.filterMap_some

theorem filterMap_path?_assignAll (definitions : List (Text × Text)) :
    (assignAll definitions).filterMap Part.path? = [] := by
  simp [assignAll, Part.path?]

theorem countP_assignAll {asks : Part → Bool}
    (silent : ∀ key value, asks (.assigned key value) = false) (definitions : List (Text × Text)) :
    (assignAll definitions).countP asks = 0 := by
  simp [assignAll, List.countP_eq_zero, silent]

theorem valid_assignAll {definitions : List (Text × Text)}
    (hygienic : ∀ definition ∈ definitions, definition.1.IsHygienic) :
    ∀ part ∈ assignAll definitions, part.Valid := by
  intro part member
  obtain ⟨definition, defined, rfl⟩ := List.mem_map.mp member
  exact hygienic definition defined

/-- Nothing but its keys and its path can keep a command from being written. -/
theorem spells_plain {invocation : Invocation}
    (hygienic : ∀ definition ∈ invocation.command.definitions, definition.1.IsHygienic)
    (path_valid : (Part.path invocation.command.path).Valid) :
    (plain invocation).Spells invocation where
  valid := by
    refine List.forall_mem_append.mpr ⟨valid_assignAll hygienic, ?_⟩
    refine List.forall_mem_cons.mpr ⟨path_valid, ?_⟩
    cases invocation.command.json <;> simp [Part.Valid]
  name := rfl
  verbose := by
    rw [verboseCount, plain, List.countP_append, countP_assignAll fun _ _ => rfl]
    cases invocation.verbose <;> cases invocation.command.json <;> rfl
  json := by
    rw [jsonCount, plain, List.countP_append, countP_assignAll fun _ _ => rfl]
    cases invocation.command.json <;> rfl
  definitions := by
    rw [Spelling.definitions, plain, List.filterMap_append, filterMap_definition?_assignAll]
    cases invocation.command.json <;> exact List.append_nil _
  paths := by
    rw [Spelling.paths, plain, List.filterMap_append, filterMap_path?_assignAll]
    cases invocation.command.json <;> exact .inl rfl

end Spelling

end Command
end MmlScan
