/-!
# Sets of places

The places of a pattern are numbered from zero without large gaps, so a set of them is kept as the
bits of one number.
-/

namespace MmlScan

/-- A set of places. -/
structure Places where
  bits : Nat
  deriving DecidableEq, Repr

namespace Places

/-- No place. -/
def empty : Places :=
  ⟨0⟩

/-- The place is in the set. -/
def contains (places : Places) (place : Nat) : Bool :=
  places.bits.testBit place

/-- Adds a place. -/
def insert (places : Places) (place : Nat) : Places :=
  ⟨places.bits ||| (1 <<< place)⟩

@[simp]
theorem contains_empty (place : Nat) : empty.contains place = false := by
  simp [empty, contains]

@[simp]
theorem contains_insert (places : Places) (place other : Nat) :
    (places.insert place).contains other = (places.contains other || decide (place = other)) := by
  by_cases same : place = other
  · simp [contains, insert, same]
  · simp only [contains, insert, Nat.testBit_or, Nat.testBit_shiftLeft, same, decide_false]
    by_cases beyond : place ≤ other
    · have distance : other - place ≠ 0 := by omega
      obtain ⟨count, counted⟩ := Nat.exists_eq_succ_of_ne_zero distance
      simp [counted, Nat.testBit_succ]
    · simp [beyond]

end Places

end MmlScan
