import MmlScan.Pattern

/-!
# Pattern expressions

An expression is what a written pattern says: counted repetitions and groups stand in it as they
are written.  The functions that put expressions together keep them in a form in which a row does
not contain rows, a choice does not contain choices, and what is empty is left out.

A choice between alternatives that all begin with the same parts matches these parts once, before
it chooses.  That is part of the meaning: where the parts can match in several ways, the first way
with which any of the alternatives goes on is preferred.  Parts are the same if they say the same,
so it does not matter in which way their sets are written.
-/

namespace MmlScan

/-- What a written pattern says. -/
inductive Expression where
  | empty
  | char (set : CharSet)
  | look (condition : Look)
  /-- A group whose match can be referred to by a number. -/
  | group (number : Nat) (body : Expression)
  /-- Copies of an expression, as many as possible if greedy, else as few. -/
  | copies (greedy : Bool) (least : Nat) (most : Option Nat) (body : Expression)
  | seq (first second : Expression)
  | alt (first second : Expression)
  deriving DecidableEq, Repr

namespace Expression

/-! ## Width -/

/-- Every match is empty. -/
def isZeroWidth : Expression → Bool
  | .empty => true
  | .char _ => false
  | .look _ => true
  | .group _ body => body.isZeroWidth
  | .copies _ _ _ body => body.isZeroWidth
  | .seq first second => first.isZeroWidth && second.isZeroWidth
  | .alt first second => first.isZeroWidth && second.isZeroWidth

/-- No match is empty. -/
def isNonempty : Expression → Bool
  | .empty => false
  | .char _ => true
  | .look _ => false
  | .group _ body => body.isNonempty
  | .copies _ least _ body => 0 < least && body.isNonempty
  | .seq first second => first.isNonempty || second.isNonempty
  | .alt first second => first.isNonempty && second.isNonempty

/-! ## Rows -/

/-- The parts of a row. -/
def parts : Expression → List Expression
  | .empty => []
  | .seq first second => first.parts ++ second.parts
  | expression => [expression]

/-- The row of the given parts. -/
def ofParts : List Expression → Expression
  | [] => .empty
  | [part] => part
  | part :: others => .seq part (ofParts others)

/-- A list of expressions, one after the other. -/
def sequence (expressions : List Expression) : Expression :=
  ofParts (expressions.flatMap parts)

/-! ## Choices -/

/-- The alternatives of a choice. -/
def alternatives : Expression → List Expression
  | .alt first second => first.alternatives ++ second.alternatives
  | expression => [expression]

/-- The choice between the given alternatives. -/
def ofAlternatives : List Expression → Expression
  | [] => .empty
  | [alternative] => alternative
  | alternative :: others => .alt alternative (ofAlternatives others)

/-- The set that an expression asks for, if it asks for one character. -/
def set? : Expression → Option CharSet
  | .char set => some set
  | _ => none

/-- A choice between expressions, as one set if all of them are sets. -/
def plainChoice (expressions : List Expression) : Expression :=
  let branches := expressions.flatMap alternatives
  match branches.mapM set? with
  | some sets => .char (.ofList sets)
  | none => ofAlternatives branches

/-- Both say the same, in the form that the functions here keep.  Sets may be written in different
ways. -/
def agrees : Expression → Expression → Bool
  | .empty, .empty => true
  | .char left, .char right => left.agrees right
  | .look left, .look right => left = right
  | .group left leftBody, .group right rightBody => left = right && leftBody.agrees rightBody
  | .copies greedy least most body, .copies otherGreedy otherLeast otherMost otherBody =>
      greedy = otherGreedy && least = otherLeast && most = otherMost && body.agrees otherBody
  | .seq first second, .seq otherFirst otherSecond =>
      first.agrees otherFirst && second.agrees otherSecond
  | .alt first second, .alt otherFirst otherSecond =>
      first.agrees otherFirst && second.agrees otherSecond
  | _, _ => false

/-- The parts that both rows begin with. -/
def commonFront : List Expression → List Expression → List Expression
  | left :: lefts, right :: rights =>
      if left.agrees right then left :: commonFront lefts rights else []
  | _, _ => []

/-- The parts that all rows begin with. -/
def sharedFront : List (List Expression) → List Expression
  | [] => []
  | row :: rows => rows.foldl commonFront row

/-- A list of alternatives, the preferred ones first.  What all of them begin with is matched
before the choice, if each of them has more than one part. -/
def choice (expressions : List Expression) : Expression :=
  match expressions with
  | [expression] => expression
  | expressions =>
      let rows := (expressions.flatMap alternatives).map parts
      let front := sharedFront rows
      if front.isEmpty || rows.any (·.length < 2) then plainChoice expressions
      else sequence (front ++ [plainChoice (rows.map fun row => ofParts (row.drop front.length))])

/-! ## Repetitions -/

/-- At least `least` copies, and at most `most` if there is such a bound.  More than one copy of
what is always empty adds nothing. -/
def repeated (greedy : Bool) (least : Nat) (most : Option Nat) (body : Expression) : Expression :=
  let least := if body.isZeroWidth then min least 1 else least
  let most := if body.isZeroWidth then some (min (most.getD 1) 1) else most
  if most = some 0 then .empty
  else if least = 1 ∧ most = some 1 then body
  else .copies greedy least most body

/-! ## Patterns -/

/-- Builds a copy of the pattern for an expression.  Where no copy is empty, `more` alone stands
for any number of them; else an empty copy has to end the repetition, so the first copy is set
apart from the further ones. -/
def build : Expression → StateM Nat Pattern
  | .empty => return .empty
  | .char set => return .char (← Pattern.newPlace) set
  | .look condition => return .look condition
  | .group _ body => body.build
  | .copies greedy least (some most) body =>
      Pattern.copiesThen body.build (Pattern.upTo greedy body.build (most - least)) least
  | .copies greedy 0 none body => do
      if body.isNonempty then
        let place ← Pattern.newPlace
        return .more place greedy (← body.build)
      else
        Pattern.optional greedy (← Pattern.oneOrMore greedy body.build)
  | .copies greedy (least + 1) none body =>
      Pattern.copiesThen body.build (Pattern.oneOrMore greedy body.build) least
  | .seq first second => do
      let front ← first.build
      return .seq front (← second.build)
  | .alt first second => do
      let place ← Pattern.newPlace
      let left ← first.build
      return .alt place left (← second.build)

/-- The pattern for an expression. -/
def toPattern (expression : Expression) : Pattern :=
  (expression.build.run 0).1

end Expression

end MmlScan
