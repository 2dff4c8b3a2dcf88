import MmlScan.Pattern
import MmlScan.Text.Character

/-!
# Written symbols of patterns

The written form of a pattern is a row of symbols: characters, character sets, conditions, groups,
bars and repetitions.  `symbols?` cuts a text into its symbols and refuses a text that holds a
malformed one.  Whether the symbols fit together, such as a repetition and what it repeats, is not
looked at here.

A set in brackets is read as a whole.  An operator between sets is a character written twice, so
the same character alone, or escaped, is a member like any other.
-/

namespace MmlScan
namespace Pattern

/-- A property of matching that a pattern can switch on and off. -/
inductive Flag where
  | ignoreCase
  | multiLine
  | dotNewline
  /-- Repetitions ask for as few copies as possible, unless a question mark follows. -/
  | swapGreed
  /-- A carriage return ends a line too. -/
  | carriageReturn
  /-- Characters are those of Unicode, which they always are. -/
  | unicode
  /-- Blanks stand for nothing, which they never do. -/
  | spaced
  deriving DecidableEq, Repr

/-- The flag can be given the value. -/
def Flag.admits : Flag → Bool → Bool
  | .unicode, value => value
  | .spaced, value => !value
  | _, _ => true

/-- What a group is for. -/
inductive GroupKind where
  | plain
  /-- The match of the group can be referred to, by its name if it has one. -/
  | numbered (name : Option Text)
  deriving DecidableEq, Repr

/-- A set that has been read, and how deeply its parts are nested. -/
structure NestedSet where
  set : CharSet
  depth : Nat
  deriving DecidableEq, Repr

/-- A symbol of a written pattern. -/
inductive Symbol where
  | char (c : Char)
  | dot
  | named (kind : CharKind) (negated : Bool)
  /-- A bracketed set, with its foldings marked. -/
  | bracket (set : NestedSet)
  /-- The mark of a start, which depends on the flags. -/
  | caret
  /-- The mark of an end, which depends on the flags. -/
  | dollar
  /-- A condition that does not depend on the flags. -/
  | look (condition : Look)
  | bar
  /-- The start of a group, with the flags it changes. -/
  | openGroup (kind : GroupKind) (changes : List (Flag × Bool))
  | closeGroup
  /-- A change of flags up to the end of the group around it. -/
  | flags (changes : List (Flag × Bool))
  | copies (greedy : Bool) (least : Nat) (most : Option Nat)
  deriving DecidableEq, Repr

/-- The characters with a meaning of their own in some place of a pattern. -/
def metaChars : List Char :=
  ['\\', '.', '+', '*', '?', '(', ')', '|', '[', ']', '\x7b', '\x7d', '^', '$', '#', '&', '-', '~']

/-! ## Escapes -/

/-- The character with the code point written by hexadecimal digits. -/
def charOfHex? (digits : Text) : Option Char :=
  let code := Text.numeral 16 digits
  if digits ≠ [] ∧ digits.all (Text.digitValue? · |>.isSome) ∧ code.isValidChar then
    some (Char.ofNat code)
  else
    none

/-- Reads a code point: braces around any number of digits, or exactly `width` digits. -/
def codePoint? (width : Nat) : Text → Option (Symbol × Text)
  | '\x7b' :: rest =>
      match rest.span (· ≠ '\x7d') with
      | (digits, _ :: rest) => (charOfHex? digits).map (.char ·, rest)
      | (_, []) => none
  | rest =>
      if rest.length < width then none
      else (charOfHex? (rest.take width)).map (.char ·, rest.drop width)

/-- Letters after a backslash that stand for one control character. -/
def controlEscapes : List (Char × Char) :=
  [('a', '\x07'), ('f', '\x0c'), ('t', '\t'), ('n', '\n'), ('r', '\r'), ('v', '\x0b')]

/-- Characters after a backslash that stand for a kind of characters or for a condition. -/
def specialEscapes : List (Char × Symbol) :=
  [('d', .named .decimal false), ('D', .named .decimal true),
   ('s', .named .blank false), ('S', .named .blank true),
   ('w', .named .word false), ('W', .named .word true),
   ('A', .look .textStart), ('z', .look .textEnd),
   ('b', .look .wordBoundary), ('B', .look .noWordBoundary),
   ('<', .look .wordStart), ('>', .look .wordEnd)]

/-- Characters that a backslash leaves as they are: ASCII, but neither letters nor digits nor
angle brackets. -/
def isPlainEscape (c : Char) : Bool :=
  c.toNat < 128 && !c.isAlphanum && c ≠ '<' && c ≠ '>'

/-- Letters and the hyphen, of which the names of conditions consist. -/
def isConditionChar (c : Char) : Bool :=
  c = '-' || c.isAlpha

/-- The conditions that have a name. -/
def namedConditions : List (String × Look) :=
  [("start", .wordStart), ("end", .wordEnd), ("start-half", .noWordBefore),
   ("end-half", .noWordAfter)]

/-- Reads the name of a condition behind its opening brace, up to and with the closing one. -/
def namedCondition? (text : Text) : Option (Symbol × Text) :=
  match text.span isConditionChar with
  | (name, '\x7d' :: rest) => (namedConditions.lookup (String.ofList name)).map (.look ·, rest)
  | _ => none

/-- Reads what follows a backslash.  A brace behind the mark of a word boundary begins the name of
a condition if what follows can belong to one, else a repetition. -/
def escape? : Text → Option (Symbol × Text)
  | [] => none
  | 'x' :: rest => codePoint? 2 rest
  | 'u' :: rest => codePoint? 4 rest
  | 'U' :: rest => codePoint? 8 rest
  | 'b' :: '\x7b' :: c :: rest =>
      if isConditionChar c then namedCondition? (c :: rest)
      else some (.look .wordBoundary, '\x7b' :: c :: rest)
  | c :: rest =>
      if isPlainEscape c then some (.char c, rest)
      else
        match controlEscapes.lookup c with
        | some control => some (.char control, rest)
        | none => (specialEscapes.lookup c).map (·, rest)

/-! ## Bracketed sets -/

/-- The ASCII sets that have a name inside brackets. -/
def asciiSets : List (String × List (Char × Char)) :=
  [("alnum", [('0', '9'), ('A', 'Z'), ('a', 'z')]),
   ("alpha", [('A', 'Z'), ('a', 'z')]),
   ("ascii", [('\x00', '\x7f')]),
   ("blank", [('\t', '\t'), (' ', ' ')]),
   ("cntrl", [('\x00', '\x1f'), ('\x7f', '\x7f')]),
   ("digit", [('0', '9')]),
   ("graph", [('!', '~')]),
   ("lower", [('a', 'z')]),
   ("print", [(' ', '~')]),
   ("punct", [('!', '/'), (':', '@'), ('[', '\x60'), ('\x7b', '~')]),
   ("space", [('\t', '\r'), (' ', ' ')]),
   ("upper", [('A', 'Z')]),
   ("word", [('0', '9'), ('A', 'Z'), ('_', '_'), ('a', 'z')]),
   ("xdigit", [('0', '9'), ('A', 'F'), ('a', 'f')])]

/-- A set of ranges with its folding marked, or its complement. -/
def asciiSet (negated : Bool) (ranges : List (Char × Char)) : CharSet :=
  .complementIf negated (.folded (.ofList (ranges.map fun range => .range range.1 range.2)))

/-- Reads a named ASCII set behind its opening bracket, up to and with its closing one. -/
def asciiSet? : Text → Option (CharSet × Text)
  | ':' :: rest =>
      let (negated, rest) := match rest with
        | '^' :: rest => (true, rest)
        | rest => (false, rest)
      match rest.span (· ≠ ':') with
      | (name, ':' :: ']' :: rest) =>
          (asciiSets.lookup (String.ofList name)).map (asciiSet negated ·, rest)
      | _ => none
  | _ => none

/-- A bracketed set whose closing bracket has not been read. -/
structure OpenBracket where
  negated : Bool
  /-- The latest operator, with the set on its left. -/
  pending : Option (SetOperation × NestedSet)
  /-- The members that have been read behind it. -/
  members : List CharSet
  /-- How deeply these are nested. -/
  depth : Nat

namespace OpenBracket

/-- Adds a member. -/
def add (bracket : OpenBracket) (member : NestedSet) : OpenBracket :=
  { bracket with
      members := bracket.members ++ [member.set]
      depth := max bracket.depth member.depth }

/-- The members behind the latest operator as one set.  A row of several is nested in it. -/
def row (bracket : OpenBracket) : NestedSet :=
  ⟨.ofList bracket.members,
    if bracket.members.length < 2 then bracket.depth else bracket.depth + 1⟩

/-- What has been read as one set.  An operation is on sets whose foldings are done. -/
def content (bracket : OpenBracket) : NestedSet :=
  match bracket.pending with
  | none => bracket.row
  | some (operation, left) =>
      ⟨.combined operation (.folded left.set) (.folded bracket.row.set),
        max left.depth bracket.row.depth + 1⟩

/-- An operator takes all that stands in front of it as its left side. -/
def operate (bracket : OpenBracket) (operation : SetOperation) : OpenBracket :=
  ⟨bracket.negated, some (operation, bracket.content), [], 0⟩

/-- The set that is written, at its closing bracket. -/
def close (bracket : OpenBracket) : NestedSet :=
  ⟨.complementIf bracket.negated (.folded bracket.content.set), bracket.content.depth + 1⟩

/-- Reads what may stand right behind an opening bracket: the sign of negation, hyphens, and if
there are none a closing bracket, which all stand for themselves. -/
def start (text : Text) : OpenBracket × Text :=
  let (negated, text) := match text with
    | '^' :: rest => (true, rest)
    | text => (false, text)
  let hyphens := text.takeWhile (· = '-')
  match hyphens, text.dropWhile (· = '-') with
  | [], ']' :: rest => (⟨negated, none, [.single ']'], 0⟩, rest)
  | hyphens, rest => (⟨negated, none, hyphens.map .single, 0⟩, rest)

end OpenBracket

/-- The characters that are an operator between sets when they are written twice. -/
def setOperators : List (Char × SetOperation) :=
  [('&', .intersection), ('-', .difference), ('~', .symmetricDifference)]

/-- The operator between sets that a text begins with. -/
def operator? : Text → Option SetOperation
  | first :: second :: _ => if first = second then setOperators.lookup first else none
  | _ => none

/-- Reads one symbol of a bracketed set: an escape or a character that stands for itself. -/
def memberSymbol? : Text → Option (Symbol × Text)
  | [] => none
  | '\\' :: rest => escape? rest
  | c :: rest => some (.char c, rest)

/-- Reads one member of a bracketed set: a range, a character or a named kind. -/
def member? (text : Text) : Option (CharSet × Text) := do
  let (first, rest) ← memberSymbol? text
  let alone : Option (CharSet × Text) := match first with
    | .char c => some (.single c, rest)
    | .named kind negated => some (.complementIf negated (.named kind), rest)
    | _ => none
  match rest with
  | '-' :: ']' :: _ => alone
  | '-' :: '-' :: _ => alone
  | '-' :: rest =>
      match first, ← memberSymbol? rest with
      | .char first, (.char last, rest) =>
          if first ≤ last then some (.range first last, rest) else none
      | _, _ => none
  | _ => alone

/-- Reads the members of nested brackets and the operators between them up to the last closing
bracket, after passing over `skip` characters that have been read. -/
def bracketFrom (skip : Nat) (bracket : OpenBracket) (outer : List OpenBracket) :
    Text → Option (Symbol × Text)
  | [] => none
  | c :: rest =>
      match skip with
      | skip + 1 => bracketFrom skip bracket outer rest
      | 0 =>
          if c = ']' then
            match outer with
            | [] => some (.bracket bracket.close, rest)
            | enclosing :: outer => bracketFrom 0 (enclosing.add bracket.close) outer rest
          else if c = '[' then
            match asciiSet? rest with
            | some (set, after) =>
                bracketFrom (rest.length - after.length) (bracket.add ⟨set, 0⟩) outer rest
            | none =>
                let (inner, after) := OpenBracket.start rest
                bracketFrom (rest.length - after.length) inner (bracket :: outer) rest
          else
            match operator? (c :: rest) with
            | some operation => bracketFrom 1 (bracket.operate operation) outer rest
            | none =>
                match member? (c :: rest) with
                | some (set, after) =>
                    bracketFrom (rest.length - after.length) (bracket.add ⟨set, 0⟩) outer rest
                | none => none

/-- Reads a bracketed set behind its opening bracket. -/
def bracket? (text : Text) : Option (Symbol × Text) :=
  let (bracket, rest) := OpenBracket.start text
  bracketFrom 0 bracket [] rest

example : bracket? "0-9&&[^4]]+".toList =
    some (.bracket ⟨.folded (.combined .intersection (.folded (.range '0' '9'))
      (.folded (.complement (.folded (.single '4'))))), 3⟩, ['+']) := by
  decide

/-! ## Groups and flags -/

/-- The letters of the flags. -/
def flagLetters : List (Char × Flag) :=
  [('i', .ignoreCase), ('m', .multiLine), ('s', .dotNewline), ('U', .swapGreed),
   ('R', .carriageReturn), ('u', .unicode), ('x', .spaced)]

/-- Reads flags up to a colon or a closing parenthesis, and answers which of the two it was.
Letters behind a hyphen are switched off.  No letter may be repeated, there is at most one hyphen,
and a letter follows it. -/
def flagsFrom (changes : List (Flag × Bool)) (hyphen : Bool) (dangling : Bool) :
    Text → Option (List (Flag × Bool) × Char × Text)
  | [] => none
  | c :: rest =>
      if c = ':' ∨ c = ')' then
        if dangling then none else some (changes, c, rest)
      else if c = '-' then
        if hyphen then none else flagsFrom changes true true rest
      else
        match flagLetters.lookup c with
        | some flag =>
            if changes.any (·.1 = flag) || !flag.admits (!hyphen) then none
            else flagsFrom (changes ++ [(flag, !hyphen)]) hyphen false rest
        | none => none

/-- The text can name a group. -/
def isGroupName : Text → Bool
  | [] => false
  | c :: rest =>
      (c = '_' || Text.isAlphabetic c) &&
        rest.all fun c => c ∈ ['_', '.', '[', ']'] || Text.isAlphanumeric c

/-- Reads the name of a group up to and with the closing angle bracket. -/
def groupName? (text : Text) : Option (Symbol × Text) :=
  match text.span (· ≠ '>') with
  | (name, _ :: rest) =>
      if isGroupName name then some (.openGroup (.numbered (some name)) [], rest) else none
  | (_, []) => none

/-- Reads what follows an opening parenthesis and belongs to it. -/
def group? : Text → Option (Symbol × Text)
  | '?' :: 'P' :: '<' :: rest => groupName? rest
  | '?' :: '<' :: rest => groupName? rest
  | '?' :: rest =>
      match flagsFrom [] false false rest with
      | some (changes, ':', rest) => some (.openGroup .plain changes, rest)
      | some (changes, _, rest) => if changes = [] then none else some (.flags changes, rest)
      | none => none
  | rest => some (.openGroup (.numbered none) [], rest)

/-! ## Repetitions -/

/-- A number of copies with its bounds; a question mark behind it asks for as few as possible. -/
def copies? (least : Nat) (most : Option Nat) : Text → Symbol × Text
  | '?' :: rest => (.copies false least most, rest)
  | rest => (.copies true least most, rest)

/-- Reads a decimal number within 32 bits, with blanks on either side. -/
def count? (text : Text) : Option (Nat × Text) :=
  let text := Text.trimStart text
  let digits := text.takeWhile Char.isDigit
  let value := Text.numeral 10 digits
  if digits = [] ∨ 4294967295 < value then none
  else some (value, Text.trimStart (text.dropWhile Char.isDigit))

/-- Reads the counts of a repetition behind its opening brace. -/
def counted? (text : Text) : Option (Symbol × Text) := do
  match ← count? text with
  | (least, '\x7d' :: rest) => some (copies? least (some least) rest)
  | (least, ',' :: '\x7d' :: rest) => some (copies? least none rest)
  | (least, ',' :: rest) =>
      match ← count? rest with
      | (most, '\x7d' :: rest) =>
          if least ≤ most then some (copies? least (some most) rest) else none
      | _ => none
  | _ => none

/-! ## Whole patterns -/

/-- Reads the first symbol. -/
def symbol? : Text → Option (Symbol × Text)
  | [] => none
  | '\\' :: rest => escape? rest
  | '[' :: rest => bracket? rest
  | '(' :: rest => group? rest
  | '\x7b' :: rest => counted? rest
  | ')' :: rest => some (.closeGroup, rest)
  | '|' :: rest => some (.bar, rest)
  | '?' :: rest => some (copies? 0 (some 1) rest)
  | '*' :: rest => some (copies? 0 none rest)
  | '+' :: rest => some (copies? 1 none rest)
  | '.' :: rest => some (.dot, rest)
  | '^' :: rest => some (.caret, rest)
  | '$' :: rest => some (.dollar, rest)
  | c :: rest => some (.char c, rest)

/-- Reads all symbols, after passing over `skip` characters that have been read. -/
def symbolsFrom (skip : Nat) : Text → Option (List Symbol)
  | [] => some []
  | c :: rest =>
      match skip with
      | skip + 1 => symbolsFrom skip rest
      | 0 =>
          match symbol? (c :: rest) with
          | some (symbol, after) =>
              (symbolsFrom (rest.length - after.length) rest).map (symbol :: ·)
          | none => none

/-- The symbols of a written pattern. -/
def symbols? (text : Text) : Option (List Symbol) :=
  symbolsFrom 0 text

end Pattern
end MmlScan
