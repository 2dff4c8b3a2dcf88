import Mathlib.Data.Nat.Digits.Defs
import Mathlib.Tactic.IntervalCases
import MmlScan.Text.Character

/-!
# Numerals

The value of a row of digits is the sum of the digits times the powers of the radix, however long
the row is.  A number that is written out in a radix up to sixteen, with small letters or with
capitals, is the value of its digits.
-/

namespace MmlScan
namespace Text

/-- The character is a digit in a radix up to sixteen. -/
def isDigitIn (radix : Nat) (c : Char) : Bool :=
  (digitValue? c).any (· < radix)

theorem isDigitIn_ten (c : Char) : isDigitIn 10 c = ('0' ≤ c && c ≤ '9') := by
  rw [isDigitIn, digitValue?]
  split
  · next digit =>
      have bound : c.toNat ≤ 57 := digit.2
      simp [digit]
      omega
  · next no_digit =>
      have outside : ('0' ≤ c && c ≤ '9') = false := by simpa using no_digit
      rw [outside]
      split
      · simp
      · split <;> simp

theorem isDigitIn_sixteen (c : Char) :
    isDigitIn 16 c = ('0' ≤ c && c ≤ '9' || ('A' ≤ c && c ≤ 'F' || 'a' ≤ c && c ≤ 'f')) := by
  rw [isDigitIn, digitValue?]
  split
  · next digit =>
      have bound : c.toNat ≤ 57 := digit.2
      simp [digit]
      omega
  · split
    · next small =>
        have bound : c.toNat ≤ 102 := small.2
        simp [small]
        omega
    · split
      · next capital =>
          have bound : c.toNat ≤ 70 := capital.2
          simp [capital]
          omega
      · simp_all

/-- The digits of a row times the powers of the radix. -/
def positional (radix : Nat) (digits : Text) : Nat :=
  Nat.ofDigits radix (digits.reverse.map fun c => (digitValue? c).getD 0)

theorem numeral_eq_positional (radix : Nat) (digits : Text) :
    numeral radix digits = positional radix digits := by
  rw [positional, Nat.ofDigits_eq_foldr, List.foldr_map, List.foldr_reverse, numeral]
  congr 1
  funext value c
  exact Nat.add_comm _ _

theorem numeral_append_digit (radix : Nat) (digits : Text) (c : Char) :
    numeral radix (digits ++ [c]) = radix * numeral radix digits + (digitValue? c).getD 0 := by
  rw [numeral, List.foldl_append]
  rfl

theorem digitValue_lt {radix : Nat} {c : Char} (digit : isDigitIn radix c = true) :
    (digitValue? c).getD 0 < radix := by
  obtain ⟨value, value_eq, value_lt⟩ := (Option.any_eq_true _ _).mp digit
  rw [value_eq]
  exact of_decide_eq_true value_lt

/-- A row of digits stands for less than the power of the radix that it leaves no place for. -/
theorem positional_lt {radix : Nat} (two_le : 2 ≤ radix) {digits : Text}
    (all_digits : ∀ c ∈ digits, isDigitIn radix c = true) :
    positional radix digits < radix ^ digits.length := by
  have small : ∀ value ∈ digits.reverse.map fun c => (digitValue? c).getD 0, value < radix := by
    intro value member
    obtain ⟨c, c_mem, rfl⟩ := List.mem_map.mp member
    exact digitValue_lt (all_digits c (List.mem_reverse.mp c_mem))
  have bound := Nat.ofDigits_lt_base_pow_length two_le small
  rwa [List.length_map, List.length_reverse] at bound

/-- A digit is one byte long. -/
theorem utf8Size_of_isDigitIn {radix : Nat} {c : Char} (digit : isDigitIn radix c = true) :
    c.utf8Size = 1 := by
  obtain ⟨value, value_eq, _⟩ := (Option.any_eq_true _ _).mp digit
  have ascii : c.toNat ≤ 127 := by
    rw [digitValue?] at value_eq
    split at value_eq
    · next between => exact Nat.le_trans between.2 (by decide)
    · split at value_eq
      · next between => exact Nat.le_trans between.2 (by decide)
      · split at value_eq
        · next between => exact Nat.le_trans between.2 (by decide)
        · cases value_eq
  exact Char.utf8Size_eq_one_iff.mpr ascii

/-! ## Numbers at the front of a text -/

/-- The text begins with a digit. -/
def StartsWithDigit (radix : Nat) (text : Text) : Prop :=
  ∃ c ∈ text.head?, isDigitIn radix c = true

theorem takeWhile_of_not_starts {radix : Nat} {text : Text}
    (nothing : ¬ StartsWithDigit radix text) : text.takeWhile (isDigitIn radix) = [] := by
  cases text with
  | nil => rfl
  | cons c rest =>
      apply List.takeWhile_cons_of_neg
      exact fun digit => nothing ⟨c, rfl, digit⟩

theorem dropWhile_of_not_starts {radix : Nat} {text : Text}
    (nothing : ¬ StartsWithDigit radix text) : text.dropWhile (isDigitIn radix) = text := by
  have parts := List.takeWhile_append_dropWhile (p := isDigitIn radix) (l := text)
  rwa [takeWhile_of_not_starts nothing] at parts

/-- The written sign of a number. -/
def sign (negative : Bool) : Text :=
  if negative then ['-'] else []

/-- The value of a number with a sign. -/
def signedValue (negative : Bool) (magnitude : Nat) : Int :=
  if negative then -magnitude else magnitude

/-- A text begins with a number: with a minus sign, if there can be one, and a digit.  The digits
begin the text behind the sign. -/
structure ShowsNumber (signed : Bool) (radix : Nat) (whole : Text) (negative : Bool) (text : Text) :
    Prop where
  whole_eq : whole = sign negative ++ text
  allowed : negative = true → signed = true
  starts : StartsWithDigit radix text

theorem ne_sign_of_isDigitIn {radix : Nat} {c : Char} (digit : isDigitIn radix c = true) :
    c ≠ '-' := by
  rintro rfl
  cases digit

/-! ## Written numbers -/

/-- A way to write letters that keeps their values as digits. -/
def KeepsDigits (shape : Char → Char) : Prop :=
  ∀ digit < 16, digitValue? (shape digit.digitChar) = some digit

theorem keepsDigits_id : KeepsDigits id := by
  intro digit small
  interval_cases digit <;> rfl

/-- Capitals have the values of small letters. -/
theorem keepsDigits_toUpper : KeepsDigits Char.toUpper := by
  intro digit small
  interval_cases digit <;> rfl

section Writing

variable {radix : Nat} {shape : Char → Char}

/-- Reading gives back the number that is written. -/
theorem numeral_toDigits (two_le : 2 ≤ radix) (le_sixteen : radix ≤ 16) (keeps : KeepsDigits shape)
    (number : Nat) : numeral radix ((Nat.toDigits radix number).map shape) = number := by
  induction number using Nat.strongRecOn with
  | ind number ih =>
      rw [Nat.toDigits_eq_if two_le]
      split
      · next small =>
          have digit_eq := keeps number (by omega)
          simp [numeral, digit_eq]
      · next large =>
          have smaller : number / radix < number := Nat.div_lt_self (by omega) two_le
          have last_lt : number % radix < radix := Nat.mod_lt _ (by omega)
          have digit_eq := keeps (number % radix) (by omega)
          rw [List.map_append, List.map_singleton, numeral_append_digit, ih _ smaller, digit_eq,
            Option.getD_some, Nat.div_add_mod]

/-- A number is written in digits of the radix. -/
theorem isDigitIn_of_mem_toDigits (two_le : 2 ≤ radix) (le_sixteen : radix ≤ 16)
    (keeps : KeepsDigits shape) (number : Nat) :
    ∀ c ∈ (Nat.toDigits radix number).map shape, isDigitIn radix c = true := by
  have written {digit : Nat} (small : digit < radix) :
      isDigitIn radix (shape digit.digitChar) = true := by
    rw [isDigitIn, keeps digit (by omega)]
    simpa using small
  induction number using Nat.strongRecOn with
  | ind number ih =>
      rw [Nat.toDigits_eq_if two_le]
      split
      · next small => simpa using written small
      · next large =>
          have smaller : number / radix < number := Nat.div_lt_self (by omega) two_le
          intro c member
          rw [List.map_append, List.mem_append] at member
          rcases member with front | last
          · exact ih _ smaller c front
          · rw [List.map_singleton, List.mem_singleton] at last
            rw [last]
            exact written (Nat.mod_lt _ (by omega))

end Writing

/-- An integer is written with its sign and its decimal digits. -/
theorem toList_toString (number : Int) : (toString number).toList =
    sign (decide (number < 0)) ++ (Nat.toDigits 10 number.natAbs).map id := by
  rw [List.map_id, sign]
  cases number with
  | ofNat n =>
      rw [Int.toString_eq_repr, Int.repr, Nat.repr_eq_ofList_toDigits]
      simp
  | negSucc n =>
      rw [Int.toString_eq_repr, Int.repr, Nat.repr_eq_ofList_toDigits]
      simp [Int.negSucc_lt_zero]

theorem signedValue_natAbs (number : Int) :
    signedValue (decide (number < 0)) number.natAbs = number := by
  by_cases negative : number < 0
  · simp only [signedValue, negative, decide_true, if_true]
    omega
  · simp only [signedValue, negative, decide_false, Bool.false_eq_true, if_false]
    omega

end Text
end MmlScan
