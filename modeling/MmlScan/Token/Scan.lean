import MmlScan.Token.Progress

/-!
# Scanning a source

A source is scanned round by round until nothing is left or a round fails.  A replay is the result
of scanning one source twice; the second pass knows the macros that the first has defined.
-/

namespace MmlScan
namespace Scanner

/-- Scans what is left, behind the tokens taken so far, of which the latest is first. -/
def scanFrom (taken : List Token) (scanner : Scanner) :
    Except Diagnostic (List Token) × Scanner :=
  match _ : scanner.round with
  | .failed diagnostic after => (.error diagnostic, after)
  | .finished after => (.ok taken.reverse, after)
  | .advanced token after => scanFrom (token.toList ++ taken) after
termination_by scanner
decreasing_by exact ⟨_, ‹_›⟩

/-- Scans what is left and answers its tokens. -/
def scanTokens (scanner : Scanner) : Except Diagnostic (List Token) × Scanner :=
  scanFrom [] scanner

end Scanner

/-- The tokens of two passes over one source. -/
structure Replay where
  first : List Token
  second : List Token
  deriving DecidableEq, Repr

namespace Replay

/-- Position of the first difference between two lists; a list that ends differs from one that
goes on. -/
def divergence? : List Token → List Token → Option Nat
  | [], [] => none
  | left :: lefts, right :: rights =>
      if left = right then (divergence? lefts rights).map (· + 1) else some 0
  | _, _ => some 0

theorem divergence?_eq_none_iff {left right : List Token} :
    divergence? left right = none ↔ left = right := by
  fun_induction divergence? left right with
  | case1 => simp
  | case2 token lefts rights ih => simp [ih]
  | case3 left lefts right rights different => simp [different]
  | case4 left right not_both_empty not_both_cons =>
      simp only [reduceCtorEq, false_iff]
      rintro rfl
      cases left with
      | nil => exact not_both_empty rfl rfl
      | cons token rest => exact not_both_cons token rest token rest rfl rfl

/-- In front of the position the lists are the same, and there they are not. -/
theorem divergence?_eq_some_iff {left right : List Token} {position : Nat} :
    divergence? left right = some position ↔
      left.take position = right.take position ∧ left[position]? ≠ right[position]? := by
  fun_induction divergence? left right generalizing position with
  | case1 => simp
  | case2 token lefts rights ih => cases position <;> simp [ih]
  | case3 left lefts right rights different => cases position <;> simp [different]
  | case4 left right not_both_empty not_both_cons =>
      cases left with
      | nil => cases right with
        | nil => exact absurd rfl (not_both_empty rfl)
        | cons other rest => cases position <;> simp
      | cons token lefts => cases right with
        | nil => cases position <;> simp
        | cons other rights => exact absurd rfl (not_both_cons token lefts other rights rfl)

/-- Position of the first token that differs between the passes. -/
def firstDivergence? (replay : Replay) : Option Nat :=
  divergence? replay.first replay.second

/-- Both passes have the same tokens. -/
def isIdentical (replay : Replay) : Bool :=
  replay.first = replay.second

end Replay

/-- Scans what is left, and then the source once more from its start. -/
def Scanner.scanTwice (scanner : Scanner) : Except Diagnostic Replay × Scanner :=
  match scanner.scanTokens with
  | (.error diagnostic, after) => (.error diagnostic, after)
  | (.ok first, between) =>
      match (between.resetToSource 0).scanTokens with
      | (.error diagnostic, after) => (.error diagnostic, after)
      | (.ok second, after) => (.ok ⟨first, second⟩, after)

end MmlScan
