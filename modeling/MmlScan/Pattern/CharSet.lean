import MmlScan.Text.CaseFold
import MmlScan.Text.WordChar

/-!
# Character sets

The sets of characters that a pattern can ask for at one position.  A set is an expression;
`contains` evaluates it at a character.  Case is ignored where the expression says `folded`, so a
complement is taken before or after folding as it is written.

Different expressions can be the same set.  Membership is constant between the `bounds` of an
expression, so `agrees` needs to look at few characters to tell.
-/

namespace MmlScan

/-- The three named kinds of characters. -/
inductive CharKind where
  | decimal
  | word
  | blank
  deriving DecidableEq, Repr

/-- The character is of the kind. -/
def CharKind.contains : CharKind → Char → Bool
  | .decimal, c => Text.isDecimal c
  | .word, c => Text.isWordChar c
  | .blank, c => Text.isBlank c

/-- The characters of the kind by their code points. -/
def CharKind.ranges : CharKind → List (Nat × Nat)
  | .decimal => Text.decimalRanges
  | .word =>
      Text.alphabeticRanges ++ Text.decimalRanges ++ Text.plainMarkRanges ++ Text.connectorRanges ++
        Text.joinControlRanges
  | .blank => Text.blankRanges

/-- An operation on two sets. -/
inductive SetOperation where
  | intersection
  | difference
  | symmetricDifference
  deriving DecidableEq, Repr

/-- What membership in two sets makes of membership in the set of the operation. -/
def SetOperation.combine : SetOperation → Bool → Bool → Bool
  | .intersection, left, right => left && right
  | .difference, left, right => left && !right
  | .symmetricDifference, left, right => left != right

/-- An expression for a set of characters. -/
inductive CharSet where
  | empty
  /-- The characters between two bounds, both included. -/
  | range (first last : Char)
  | named (kind : CharKind)
  /-- The characters of either set. -/
  | union (left right : CharSet)
  | combined (operation : SetOperation) (left right : CharSet)
  | complement (set : CharSet)
  /-- The characters that agree up to simple case folding with one of a set. -/
  | folded (set : CharSet)
  deriving DecidableEq, Repr

namespace CharSet

/-- Membership of a character. -/
def contains : CharSet → Char → Bool
  | .empty, _ => false
  | .range first last, c => first ≤ c && c ≤ last
  | .named kind, c => kind.contains c
  | .union left right, c => left.contains c || right.contains c
  | .combined operation left right, c => operation.combine (left.contains c) (right.contains c)
  | .complement set, c => !set.contains c
  | .folded set, c => (Text.caseVariants c).any set.contains

/-- The set of one character. -/
def single (c : Char) : CharSet :=
  range c c

/-- The set with every folding dropped. -/
def exactCase : CharSet → CharSet
  | .union left right => .union left.exactCase right.exactCase
  | .combined operation left right => .combined operation left.exactCase right.exactCase
  | .complement set => .complement set.exactCase
  | .folded set => set.exactCase
  | set => set

/-- The union of a list of sets. -/
def ofList : List CharSet → CharSet
  | [] => empty
  | [set] => set
  | set :: sets => union set (ofList sets)

/-- The complement, if asked for. -/
def complementIf (negated : Bool) (set : CharSet) : CharSet :=
  if negated then complement set else set

/-- The code points where membership can differ from that of the code point before. -/
def bounds : CharSet → List Nat
  | .empty => []
  | .range first last => Text.rangeBounds [(first.toNat, last.toNat)]
  | .named kind => Text.rangeBounds kind.ranges
  | .union left right => left.bounds ++ right.bounds
  | .combined _ left right => left.bounds ++ right.bounds
  | .complement set => set.bounds
  | .folded set => set.bounds ++ Text.foldBounds

/-- The code points that tell two sets apart: where one of them can change, and where a row of
characters begins, which is at the first one and behind the surrogates. -/
def samples (left right : CharSet) : List Nat :=
  0 :: 0xE000 :: (left.bounds ++ right.bounds)

/-- Both sets hold the same characters.  No look is needed at two that are written alike. -/
def agrees (left right : CharSet) : Bool :=
  left = right || (samples left right).all fun code =>
    left.contains (Char.ofNat code) == right.contains (Char.ofNat code)

end CharSet

end MmlScan
