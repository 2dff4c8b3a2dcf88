import MmlScan.Directive
import MmlScan.Scanner.Gate

/-!
# Tokens

A token is a run of digits or any other single character, with the place it was read from.  One
round of scanning goes to the next token and takes it, or takes a replacement directive instead.
-/

namespace MmlScan

/-- A token and the place it was read from. -/
structure Token where
  text : Text
  /-- The line in its buffer, counting from one. -/
  line : Nat
  /-- The byte offset in its buffer. -/
  offset : Nat
  /-- Number of macros that were being expanded. -/
  depth : Nat
  deriving DecidableEq, Repr

/-- The written pattern of tokens. -/
def Token.pattern : Text :=
  "[0-9]+|\\S".toList

namespace Scanner

/-- How a round of scanning ends. -/
inductive Round where
  | failed (diagnostic : Diagnostic) (scanner : Scanner)
  | finished (scanner : Scanner)
  | advanced (token : Option Token) (scanner : Scanner)

/-- Takes the token at the cursor. -/
def takeToken (scanner : Scanner) : Round :=
  let offset := scanner.offset
  match scanner.trim Token.pattern false with
  | (.error diagnostic, after) => .failed diagnostic after
  | (.ok none, after) =>
      .failed (after.malformed SourceProblem.unrecognized.message offset offset) after
  | (.ok (some text), after) =>
      .advanced (some ⟨text, scanner.line, offset, scanner.depth⟩) after

/-- Goes to the next token and takes it, or the directive in its place. -/
def round (scanner : Scanner) : Round :=
  match scanner.reachToken with
  | (.error diagnostic, after) => .failed diagnostic after
  | (.ok false, after) => .finished after
  | (.ok true, reached) =>
      match reached.readDirective with
      | (.error diagnostic, after) => .failed diagnostic after
      | (.ok true, after) => .advanced none after
      | (.ok false, after) => after.takeToken

end Scanner

end MmlScan
