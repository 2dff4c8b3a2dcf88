import MmlScan.Scanner

/-!
# Reaching the next token

Before every token the scanner passes over blanks, expands the macros at the cursor, and passes
over blanks again.  Passing over blanks leaves every expansion that is exhausted; expanding goes
on until no key begins the remaining text, so it ends after at most as many steps as there are
keys that are not being expanded.
-/

namespace MmlScan
namespace Scanner

/-- Number of keys that are defined and not being expanded. -/
def idleKeys (scanner : Scanner) : Nat :=
  (scanner.macros.keys.filter fun key => !scanner.expansions.isActive key).length

theorem length_filter_lt {α : Type} {property weaker : α → Bool} {values : List α} (value : α)
    (implied : ∀ x, property x = true → weaker x = true) (found : value ∈ values)
    (holds : weaker value = true) (fails : property value = false) :
    (values.filter property).length < (values.filter weaker).length := by
  induction values with
  | nil => cases found
  | cons head tail ih =>
      have tail_le : (tail.filter property).length ≤ (tail.filter weaker).length := by
        rw [← List.countP_eq_length_filter, ← List.countP_eq_length_filter]
        exact List.countP_mono_left fun x _ => implied x
      rcases List.mem_cons.mp found with rfl | found
      · rw [List.filter_cons_of_pos holds, List.filter_cons_of_neg (by simp [fails])]
        exact Nat.lt_succ_of_le tail_le
      · have tail_lt := ih found
        by_cases head_holds : property head = true
        · rw [List.filter_cons_of_pos head_holds, List.filter_cons_of_pos (implied head head_holds)]
          exact Nat.succ_lt_succ tail_lt
        · rw [List.filter_cons_of_neg head_holds, List.filter_cons]
          split
          · exact Nat.lt_succ_of_lt tail_lt
          · exact tail_lt

/-- Entering a defined macro leaves one key less to enter. -/
theorem idleKeys_enter {scanner inner : Scanner} {key replacement : Text}
    (defined : key ∈ scanner.macros.keys) (entered : scanner.enter? key replacement = some inner) :
    inner.idleKeys < scanner.idleKeys := by
  obtain ⟨fresh, _, macros_eq, _, _, frames_eq⟩ := enter_eq_some entered
  have active_eq (other : Text) : inner.expansions.isActive other =
      (decide (key = other) || scanner.expansions.isActive other) := by
    rw [Expansions.isActive, Expansions.isActive, frames_eq, List.any_cons]
  have inactive : scanner.expansions.isActive key = false := by
    rw [← Bool.not_eq_true, Expansions.isActive_iff]
    exact fresh
  rw [idleKeys, idleKeys, macros_eq]
  apply length_filter_lt key _ defined
  · simp [inactive]
  · simp [active_eq]
  · intro other idle
    rw [active_eq] at idle
    simp_all

/-- Expands the macros at the cursor; `entered` expansions have been begun before. -/
def expandFrom (entered : Nat) (scanner : Scanner) : Except MacroCycle Nat × Scanner :=
  match _ : scanner.macros.longestMatch? scanner.rest with
  | none => (.ok entered, scanner)
  | some definition =>
      match _ : scanner.enter? definition.key definition.replacement with
      | none => (.error ⟨definition.key, scanner.expansions.keys⟩, scanner)
      | some inner => expandFrom (entered + 1) inner
termination_by scanner.idleKeys
decreasing_by
  exact idleKeys_enter (List.mem_map_of_mem (MacroTable.mem_of_longestMatch ‹_›)) ‹_›

/-- Expands the macros at the cursor until no key begins the remaining text, and answers how many
were entered.  A key that would be expanded into itself ends it. -/
def expand (scanner : Scanner) : Except MacroCycle Nat × Scanner :=
  expandFrom 0 scanner

theorem depth_exit {scanner outer : Scanner} (left : scanner.exit? = some outer) :
    outer.depth < scanner.depth := by
  obtain ⟨frame, frames, shape, frames_eq, _⟩ := exit_eq_some left
  simp [depth, Expansions.depth, shape, frames_eq]

/-- Passes over the blanks at the cursor of the buffer. -/
def skipBlanks (scanner : Scanner) : Bool × Scanner :=
  let (blanks, view) := scanner.view.trimWhile Text.isBlank
  (!blanks.isEmpty, scanner.withView view)

/-- Passes over blanks and leaves exhausted expansions; `skipped` tells whether blanks have been
passed over before. -/
def skipFrom (skipped : Bool) (scanner : Scanner) : Bool × Scanner :=
  let run := scanner.skipBlanks
  let consumed := skipped || run.1
  let after := run.2
  if after.isExhausted then
    match _ : after.exit? with
    | some outer => skipFrom consumed outer
    | none => (consumed, after)
  else
    (consumed, after)
termination_by scanner.depth
decreasing_by exact depth_exit ‹_›

/-- Passes over blanks, leaving every expansion that is exhausted, and answers whether there were
blanks. -/
def skip (scanner : Scanner) : Bool × Scanner :=
  skipFrom false scanner

/-- Goes to the next token, through blanks and into macros, and answers whether there is one. -/
def reachToken (scanner : Scanner) : Except Diagnostic Bool × Scanner :=
  match scanner.skip.2.expand with
  | (.error cycle, stuck) => (.error (stuck.cycleReport cycle), stuck)
  | (.ok _, expanded) =>
      let reached := expanded.skip.2
      (.ok !reached.isExhausted, reached)

end Scanner
end MmlScan
