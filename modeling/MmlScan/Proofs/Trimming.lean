import MmlScan.Proofs.Anchoring
import MmlScan.Proofs.Pending
import MmlScan.Proofs.Table

/-!
# Trimming

To trim a pattern is to match it against the text behind the cursor, and nothing else: neither what
is in front of the cursor nor the macros have a part in it.  A pattern that matches at the cursor is
also the first match behind it, so both ways of trimming then go on from the same place.
-/

namespace MmlScan

/-! ## Matches in bytes -/

namespace CompiledPattern

variable {compiled : CompiledPattern} {text taken : Text}

end CompiledPattern

/-! ## Views -/

namespace View

variable (view : View) (pattern : Pattern)

theorem trim_fst : (view.trim pattern).1 = (pattern.matchFront? view.rest).map view.rest.take := by
  rw [trim]
  split <;> simp [*]

theorem rest_trim :
    (view.trim pattern).2.rest = view.rest.drop ((pattern.matchFront? view.rest).getD 0) := by
  rw [trim]
  split <;> simp [*, archive]

end View

/-! ## Scanners -/

namespace Scanner

section Answers

variable (scanner : Scanner) {text : Text} {ignoreCase : Bool} {pattern : Pattern}
  (parsed : Pattern.parse? ignoreCase text = some pattern)

include parsed

theorem trim_answer : (scanner.trim text ignoreCase).1 =
    .ok ((pattern.matchFront? scanner.rest).map scanner.rest.take) := by
  obtain ⟨patterns, trims⟩ := scanner.trim_of_parse parsed
  rw [trims, View.trim_fst]
  rfl

theorem rest_trim : (scanner.trim text ignoreCase).2.rest =
    scanner.rest.drop ((pattern.matchFront? scanner.rest).getD 0) := by
  obtain ⟨patterns, trims⟩ := scanner.trim_of_parse parsed
  rw [trims]
  exact View.rest_trim _ _

theorem onlyMoved_trim : scanner.OnlyMoved (scanner.trim text ignoreCase).2 := by
  obtain ⟨patterns, trims⟩ := scanner.trim_of_parse parsed
  rw [trims]
  exact ⟨rfl, View.buffer_trim _ _, rfl, rfl⟩

end Answers

end Scanner
end MmlScan
