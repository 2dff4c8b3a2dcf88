import MmlScan.Scanner
import MmlScan.Text.Character

/-!
# Readers

The shapes that almost every command of the language needs: directive words, numbers, identifiers
and quoted strings.  A reader that finds nothing of its shape at the cursor answers `none` and
leaves the cursor where it is.
-/

namespace MmlScan
namespace Scanner

/-- Takes a word at the cursor, letters in either case. -/
def readWord (scanner : Scanner) (word : Text) : Except Diagnostic Bool × Scanner :=
  let (taken, scanner) := scanner.trim (Pattern.escape word) true
  (taken.map (·.isSome), scanner)

/-! ## Numbers -/

/-- How a kind of number is written, and which values it has. -/
structure NumberKind where
  /-- The written pattern of its digits, with the sign if there can be one. -/
  pattern : Text
  radix : Nat
  least : Int
  greatest : Int

/-- Decimal numbers without a sign, within 32 signed bits. -/
def NumberKind.unsigned : NumberKind :=
  ⟨"[0-9]+".toList, 10, -2147483648, 2147483647⟩

/-- Decimal numbers that may have a minus sign, within 32 signed bits. -/
def NumberKind.signed : NumberKind :=
  ⟨"-?[0-9]+".toList, 10, -2147483648, 2147483647⟩

/-- Hexadecimal numbers within 32 bits. -/
def NumberKind.hex : NumberKind :=
  ⟨"[0-9A-Fa-f]+".toList, 16, 0, 4294967295⟩

/-- Exactly two hexadecimal digits. -/
def NumberKind.hexByte : NumberKind :=
  ⟨"[0-9A-Fa-f]\x7b2\x7d".toList, 16, 0, 255⟩

/-- Value of a number in its written form. -/
def NumberKind.value (kind : NumberKind) : Text → Int
  | '-' :: digits => -Text.numeral kind.radix digits
  | digits => Text.numeral kind.radix digits

/-- The report on a number out of range, right behind its digits. -/
def outOfRange (scanner : Scanner) (digits : Text) (cause : String) : Diagnostic :=
  let stop := scanner.offset
  (scanner.malformed SourceProblem.numberTooLarge.message (stop - Text.size digits) stop).withCause
    cause

/-- Takes a number at the cursor.  The digits of a number out of range are taken too, and the
report points at them. -/
def readNumber (scanner : Scanner) (kind : NumberKind) : Except Diagnostic (Option Int) × Scanner :=
  match scanner.trim kind.pattern false with
  | (.error diagnostic, scanner) => (.error diagnostic, scanner)
  | (.ok none, scanner) => (.ok none, scanner)
  | (.ok (some digits), scanner) =>
      let value := kind.value digits
      if value < kind.least then
        (.error (scanner.outOfRange digits "number too small to fit in target type"), scanner)
      else if kind.greatest < value then
        (.error (scanner.outOfRange digits "number too large to fit in target type"), scanner)
      else
        (.ok (some value), scanner)

/-- Whatever the value, the digits are taken as any text of their pattern. -/
theorem readNumber_snd (scanner : Scanner) (kind : NumberKind) :
    (scanner.readNumber kind).2 = (scanner.trim kind.pattern false).2 := by
  rw [readNumber]
  split
  · next taken => rw [taken]
  · next taken => rw [taken]
  · next taken =>
      rw [taken]
      dsimp only
      split
      · rfl
      · split <;> rfl

/-! ## Identifiers and strings -/

/-- The written pattern of identifiers. -/
def identifierPattern : Text :=
  "[A-Za-z_][A-Za-z0-9_]*".toList

/-- Takes an identifier at the cursor. -/
def readIdentifier (scanner : Scanner) : Except Diagnostic (Option Text) × Scanner :=
  scanner.trim identifierPattern false

/-- Reads the body of a quoted string up to and with the closing quote.  A backslash makes the
next character stand for itself.  Answers the body and the text behind the string. -/
def unquote? : Text → Option (Text × Text)
  | [] => none
  | '"' :: rest => some ([], rest)
  | ['\\'] => none
  | '\\' :: c :: rest => (unquote? rest).map fun (body, rest) => (c :: body, rest)
  | c :: rest => (unquote? rest).map fun (body, rest) => (c :: body, rest)

theorem unquote_escaped (c : Char) (rest : Text) :
    unquote? ('\\' :: c :: rest) =
      (unquote? rest).map fun (body, behind) => (c :: body, behind) := rfl

theorem unquote_plain {c : Char} (no_quote : c ≠ '"') (no_escape : c ≠ '\\') (rest : Text) :
    unquote? (c :: rest) = (unquote? rest).map fun (body, behind) => (c :: body, behind) := by
  rw [unquote?]
  · exact no_quote
  · exact fun escape _ => no_escape escape
  · exact fun _ _ escape _ => no_escape escape

/-- Takes a quoted string at the cursor and answers its body.  The cursor stays in front of a
string that is not closed, and the report points at all of the buffer from there. -/
def readString (scanner : Scanner) : Except Diagnostic (Option Text) × Scanner :=
  match scanner.rest with
  | '"' :: text =>
      match unquote? text with
      | some (body, after) =>
          (.ok (some body),
            scanner.withView (scanner.view.consume (text.length + 1 - after.length)))
      | none =>
          let report := scanner.malformed SourceProblem.unterminatedString.message scanner.offset
            (Text.size scanner.buffer)
          (.error report, scanner)
  | _ => (.ok none, scanner)

end Scanner
end MmlScan
