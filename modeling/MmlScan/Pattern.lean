import MmlScan.Pattern.CharSet

/-!
# Patterns

A pattern describes texts that a reader may take from the cursor.  Alternatives are ordered: an
earlier one is preferred.  Counted repetitions are written out with the constructors below, so
`more` is the only one that repeats.

The places where matching chooses or reads a character are numbered.  Two places with one number
are the same place, met on two ways into a repetition; what is left to match behind them is the
same too.
-/

namespace MmlScan

/-- A condition on a position, seen from the characters on both sides of it. -/
inductive Look where
  | textStart
  | textEnd
  | lineStart
  | lineEnd
  /-- The start of a line, where a line may also end with a carriage return, alone or in front of a
  newline. -/
  | returnStart
  /-- The end of such a line. -/
  | returnEnd
  /-- A word character stands on exactly one side. -/
  | wordBoundary
  /-- Word characters stand on both sides or on neither. -/
  | noWordBoundary
  | wordStart
  | wordEnd
  | noWordBefore
  | noWordAfter
  deriving DecidableEq, Repr

/-- A word character stands on this side of a position. -/
def Look.wordAt (side : Option Char) : Bool :=
  side.any Text.isWordChar

/-- The condition holds between the two given characters. -/
def Look.holds (before after : Option Char) : Look → Bool
  | .textStart => before.isNone
  | .textEnd => after.isNone
  | .lineStart => before.all (· == '\n')
  | .lineEnd => after.all (· == '\n')
  | .returnStart => before.all fun c => c == '\n' || c == '\r' && after != some '\n'
  | .returnEnd => after.all fun c => c == '\r' || c == '\n' && before != some '\r'
  | .wordBoundary => wordAt before != wordAt after
  | .noWordBoundary => wordAt before == wordAt after
  | .wordStart => !wordAt before && wordAt after
  | .wordEnd => wordAt before && !wordAt after
  | .noWordBefore => !wordAt before
  | .noWordAfter => !wordAt after

/-- A pattern. -/
inductive Pattern where
  | empty
  | char (place : Nat) (set : CharSet)
  | look (condition : Look)
  | seq (first second : Pattern)
  | alt (place : Nat) (first second : Pattern)
  /-- Further copies of a pattern, none included; as many as possible if greedy, else as few. -/
  | more (place : Nat) (greedy : Bool) (body : Pattern)
  deriving DecidableEq, Repr

namespace Pattern

/-! ## Building patterns

A copy of a pattern is built by a function of the next free number, so that every copy has places
of its own. -/

/-- Takes a number for a place. -/
def newPlace : StateM Nat Nat :=
  modifyGet fun place => (place, place + 1)

/-- One copy or none. -/
def optional (greedy : Bool) (body : Pattern) : StateM Nat Pattern := do
  let place ← newPlace
  return if greedy then .alt place body .empty else .alt place .empty body

/-- A number of copies, followed by another pattern. -/
def copiesThen (copy next : StateM Nat Pattern) : Nat → StateM Nat Pattern
  | 0 => next
  | count + 1 => do
      let first ← copy
      return .seq first (← copiesThen copy next count)

/-- Up to a number of copies. -/
def upTo (greedy : Bool) (copy : StateM Nat Pattern) : Nat → StateM Nat Pattern
  | 0 => return .empty
  | count + 1 => do
      let body ← copy
      optional greedy (.seq body (← upTo greedy copy count))

/-- One copy and any number of further ones.  Every copy is the same place of the pattern. -/
def oneOrMore (greedy : Bool) (copy : StateM Nat Pattern) : StateM Nat Pattern := do
  let body ← copy
  return .seq body (.more (← newPlace) greedy body)

end Pattern

end MmlScan
