import MmlScan.Proofs.Pending

/-!
# Safe positions

The cursor and the mark of a scanner are boundaries of the buffer that is being read, also when
the mark was left in another buffer or an expansion was entered where its key does not stand.  So
no operation reads beyond the buffer or cuts a character.
-/

namespace MmlScan
namespace Scanner

variable {scanner before after inner : Scanner} {key replacement : Text}

theorem marked_enter (entered : scanner.enter? key replacement = some inner) :
    inner.view.Marked := by
  obtain ⟨_, _, _, _, view_eq, _⟩ := enter_eq_some entered
  rw [view_eq]
  exact View.marked_ofText replacement

theorem Move.marked (move : Move before after) (marked : before.view.Marked) :
    after.view.Marked := by
  cases move with
  | look looks => exact looks.marked marked
  | keep | define => exact marked
  | expand found begun => exact marked_enter begun
  | leave left =>
      obtain ⟨_, _, _, _, view_eq, _⟩ := exit_eq_some left
      rw [view_eq]
      exact View.marked_reposition _ _
  | reset offset => exact View.marked_reposition _ _

theorem Reachable.marked (reachable : scanner.Reachable) : scanner.view.Marked := by
  refine Reachable.invariant (fun text patterns => ?_) Move.marked (fun entered _ => ?_) reachable
  · exact View.marked_ofText _
  · exact marked_enter entered

/-- What a scanner reads lies between boundaries of its buffer. -/
structure Safe (scanner : Scanner) : Prop where
  /-- Its positions are safe, and so is what is taken from them. -/
  view : scanner.view.Safe
  /-- A quoted string goes from the cursor to where the cursor goes. -/
  string {body : Text} {after : Scanner}
    (success : scanner.readString = (.ok (some body), after)) :
    ∃ string, unquote? string = some (body, []) ∧
      scanner.buffer.HasAt scanner.offset ('"' :: string) ∧
      after.offset = scanner.offset + Text.size ('"' :: string)
  /-- A string that is not closed goes from the cursor to the end of the buffer. -/
  unterminated {diagnostic : Diagnostic} {after : Scanner}
    (failure : scanner.readString = (.error diagnostic, after)) :
    after = scanner ∧ scanner.rest.head? = some '"' ∧
      diagnostic.span = some ⟨scanner.offset, scanner.offset + Text.size scanner.rest⟩

theorem span_readString {diagnostic : Diagnostic}
    (failure : scanner.readString = (.error diagnostic, after)) :
    scanner.rest.head? = some '"' ∧
      diagnostic.span = some ⟨scanner.offset, Text.size scanner.buffer⟩ := by
  rw [readString] at failure
  split at failure
  · next text opened =>
      split at failure
      · cases failure
      · cases failure
        rw [opened]
        exact ⟨rfl, rfl⟩
  · cases failure

theorem Reachable.safe (reachable : scanner.Reachable) : scanner.Safe where
  view := reachable.marked.safe
  string {body after} success := by
    obtain ⟨string, closed, takes, _⟩ := takes_readString success
    exact ⟨string, closed, scanner.view.hasAt_of_rest takes.rest_eq, takes.offset_eq⟩
  unterminated {diagnostic after} failure := by
    obtain ⟨quoted, span_eq⟩ := span_readString failure
    refine ⟨readString_eq_error failure, quoted, ?_⟩
    rw [span_eq, offset, rest, scanner.view.offset_add_size_rest]
    rfl

/-- After any operations on a view, and after any operations on a scanner, positions are
boundaries of the buffer and everything read lies between them. -/
theorem safe_after_operations :
    (∀ text operations, (View.Operation.runAll operations (.ofText text)).Safe) ∧
      ∀ text patterns operations,
        (Operation.runAll operations (withPatterns text patterns)).Safe := by
  constructor
  · intro text operations
    exact (View.Operation.marked_runAll operations (View.marked_ofText text)).safe
  · intro text patterns operations
    exact ((Reachable.fresh text patterns).runAll operations).safe

end Scanner
end MmlScan
