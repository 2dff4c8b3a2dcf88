import MmlScan.Text

/-!
# Characters

A property of characters is tabulated as a list of inclusive code point ranges.  Two properties are
small enough to stand here: the digits with their values, in a radix up to sixteen, and the blanks,
which are the characters with the Unicode property White_Space.  The zero-width characters and the
byte-order mark are not among these.
-/

namespace MmlScan
namespace Text

/-! ## Ranges of code points -/

/-- The code point of the character lies in one of the inclusive ranges. -/
def inRanges (ranges : List (Nat × Nat)) (c : Char) : Bool :=
  ranges.any (fun range => range.1 ≤ c.toNat && c.toNat ≤ range.2)

/-- The code points where one of the ranges begins, or has just ended. -/
def rangeBounds (ranges : List (Nat × Nat)) : List Nat :=
  ranges.flatMap fun range => [range.1, range.2 + 1]

/-- Away from the bounds, a code point is in the ranges if the one before it is. -/
theorem inRanges_eq_of_succ {ranges : List (Nat × Nat)} {c d : Char} (next : c.toNat = d.toNat + 1)
    (inside : c.toNat ∉ rangeBounds ranges) : inRanges ranges c = inRanges ranges d := by
  rw [inRanges, inRanges, Bool.eq_iff_iff, List.any_eq_true, List.any_eq_true]
  refine exists_congr fun range => and_congr_right fun member => ?_
  have away : c.toNat ≠ range.1 ∧ c.toNat ≠ range.2 + 1 := by
    constructor <;> rintro same <;>
      exact inside (List.mem_flatMap.mpr ⟨range, member, by simp [same]⟩)
  simp only [Bool.and_eq_true, decide_eq_true_eq]
  omega

/-! ## Digits -/

/-- Value of a hexadecimal digit; letters count in either case. -/
def digitValue? (c : Char) : Option Nat :=
  if '0' ≤ c ∧ c ≤ '9' then some (c.toNat - '0'.toNat)
  else if 'a' ≤ c ∧ c ≤ 'f' then some (c.toNat - 'a'.toNat + 10)
  else if 'A' ≤ c ∧ c ≤ 'F' then some (c.toNat - 'A'.toNat + 10)
  else none

/-- Value of a row of digits, the most significant first. -/
def numeral (radix : Nat) (digits : Text) : Nat :=
  digits.foldl (fun value c => radix * value + (digitValue? c).getD 0) 0

/-! ## Blanks -/

/-- Code points with the property White_Space, in ascending order. -/
def blankRanges : List (Nat × Nat) :=
  [(0x9, 0xD), (0x20, 0x20), (0x85, 0x85), (0xA0, 0xA0), (0x1680, 0x1680), (0x2000, 0x200A),
   (0x2028, 0x2029), (0x202F, 0x202F), (0x205F, 0x205F), (0x3000, 0x3000)]

/-- The character is a blank. -/
def isBlank (c : Char) : Bool :=
  inRanges blankRanges c

/-- The text without its leading blanks. -/
def trimStart (text : Text) : Text :=
  text.dropWhile isBlank

/-- The text without its leading and trailing blanks. -/
def trim (text : Text) : Text :=
  (trimStart (trimStart text).reverse).reverse

end Text
end MmlScan
