import MmlScan.Text

/-!
# JSON texts

How texts are written in JSON: quote, backslash and the control characters below the blank are
escaped, five of them by a letter and the others by their code point, and every other character
stands for itself.
-/

namespace MmlScan
namespace Json

/-- Lower-case hexadecimal digit of a value below sixteen. -/
def hexDigit (value : Nat) : Char :=
  if value < 10 then Char.ofNat ('0'.toNat + value) else Char.ofNat ('a'.toNat + (value - 10))

/-- Letters that stand for a character behind a backslash. -/
def letterEscapes : List (Char × Char) :=
  [('"', '"'), ('\\', '\\'), ('\x08', 'b'), ('\t', 't'), ('\n', 'n'), ('\x0c', 'f'), ('\r', 'r')]

/-- The written form of a character inside a string. -/
def escapeChar (c : Char) : Text :=
  match letterEscapes.lookup c with
  | some letter => ['\\', letter]
  | none =>
      if c.toNat < 0x20 then
        ['\\', 'u', '0', '0', hexDigit (c.toNat / 16), hexDigit (c.toNat % 16)]
      else
        [c]

/-- The written form of a text. -/
def quote (text : Text) : Text :=
  '"' :: text.flatMap escapeChar ++ ['"']

end Json
end MmlScan
