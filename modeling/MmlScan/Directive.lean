import MmlScan.Scanner.Reader
import MmlScan.Text.Character

/-!
# Replacement directives

A replacement directive is a quoted string with a key and its replacement, separated by the first
equals sign.  The key stands without the blanks around it; the replacement is kept as it is
written, so that a macro can expand into blanks.
-/

namespace MmlScan
namespace Directive

/-- Splits the body of a directive into key and replacement. -/
def split (body : Text) : Except SourceProblem (Text × Text) :=
  match body.dropWhile (· ≠ '=') with
  | [] => .error .missingEquals
  | _ :: replacement =>
      let key := Text.trim (body.takeWhile (· ≠ '='))
      if key = [] then .error .emptyKey else .ok (key, replacement)

end Directive

/-- Takes a replacement directive at the cursor and defines its macro; answers whether there was
a string at the cursor.  A string that is no directive is taken too, and the report points at it. -/
def Scanner.readDirective (scanner : Scanner) : Except Diagnostic Bool × Scanner :=
  match scanner.readString with
  | (.error diagnostic, scanner) => (.error diagnostic, scanner)
  | (.ok none, scanner) => (.ok false, scanner)
  | (.ok (some body), after) =>
      match Directive.split body with
      | .ok (key, replacement) => (.ok true, after.define key replacement)
      | .error problem => (.error (after.malformed problem.message scanner.offset after.offset), after)

end MmlScan
