import MmlScan.Proofs.Bracket
import MmlScan.Proofs.Literal

/-!
# Backtracking

Every reader remembers where it began, once and before it moves the cursor, and it does so as well
where it finds nothing or reports a failure.  So going back right after it leads to where it began.
Where the position of the cursor is set instead, or another buffer takes the place of the one that
was read, there is nothing to go back to, and going back changes nothing.
-/

namespace MmlScan

/-! ## Views -/

namespace View

/-- A view is changed within its buffer, and it remembers where the cursor was. -/
structure Remembers (before after : View) : Prop where
  buffer_eq : after.buffer = before.buffer
  mark_eq : after.mark = before.offset

section Remembering

variable (view : View)

theorem remembers_archive : view.Remembers view.archive :=
  ⟨rfl, rfl⟩

theorem remembers_consume (count : Nat) : view.Remembers (view.consume count) :=
  ⟨buffer_consume view count, rfl⟩

theorem remembers_trim (pattern : Pattern) : view.Remembers (view.trim pattern).2 := by
  rw [trim]
  split
  · exact view.remembers_consume _
  · exact view.remembers_archive

theorem remembers_trimUntil (pattern : Pattern) : view.Remembers (view.trimUntil pattern).2 := by
  rw [trimUntil]
  split
  · exact view.remembers_consume _
  · exact view.remembers_archive

theorem remembers_trimChar (expected : Char) : view.Remembers (view.trimChar expected).2 := by
  rw [trimChar]
  split
  · exact view.remembers_consume 1
  · exact view.remembers_archive

theorem remembers_seek (offset : Nat) : view.Remembers (view.seek offset) :=
  ⟨buffer_seek view offset, view.archive.mark_moveTo offset⟩

end Remembering

variable {before after view : View}

/-- Going back leads to the remembered position, and the cursor and the mark are both there. -/
theorem Remembers.undo_eq (remembers : before.Remembers after) : after.undo = before.archive := by
  have stays : before.archive.moveTo before.offset = before.archive := before.archive.moveTo_offset
  rw [moveTo_eq, buffer_archive] at stays
  rw [undo, moveTo_eq, remembers.buffer_eq, remembers.mark_eq]
  exact stays

/-- There is nothing to go back to where the mark is at the cursor. -/
theorem undo_of_mark_eq (mark_eq : view.mark = view.offset) : view.undo = view := by
  rw [undo, mark_eq, moveTo_offset]

theorem undo_ofText (text : Text) : (ofText text).undo = ofText text :=
  undo_of_mark_eq rfl

theorem undo_reposition (view : View) (offset : Nat) :
    (view.reposition offset).undo = view.reposition offset :=
  undo_of_mark_eq rfl

end View

/-! ## Scanners -/

namespace Scanner

variable {scanner before after : Scanner}

/-- The same expansions go on, and in their buffer the scanner remembers where the cursor was. -/
structure Remembers (before after : Scanner) : Prop where
  view : before.view.Remembers after.view
  expansions_eq : after.expansions = before.expansions

/-- Going back leads to where the cursor was before, in the same buffer and within the same
expansions, and going back once more changes nothing. -/
structure Returns (before after : Scanner) : Prop where
  offset_eq : after.undo.offset = before.offset
  rest_eq : after.undo.rest = before.rest
  buffer_eq : after.undo.buffer = before.buffer
  expansions_eq : after.undo.expansions = before.expansions
  again : after.undo.undo = after.undo

theorem undo_of_view (stays : scanner.view.undo = scanner.view) : scanner.undo = scanner := by
  rw [undo, stays]
  rfl

theorem Remembers.returns (remembers : Remembers before after) : Returns before after := by
  have view_eq : after.undo.view = before.view.archive := remembers.view.undo_eq
  constructor
  · rw [offset, view_eq]
    rfl
  · rw [rest, view_eq]
    rfl
  · rw [buffer, view_eq]
    rfl
  · exact remembers.expansions_eq
  · apply undo_of_view
    rw [view_eq]
    exact View.undo_of_mark_eq rfl

section Readers

variable (scanner : Scanner)

theorem remembers_trim {pattern : Text} {ignoreCase : Bool}
    (valid : (Pattern.parse? ignoreCase pattern).isSome = true) :
    scanner.Remembers (scanner.trim pattern ignoreCase).2 := by
  obtain ⟨compiled, parsed⟩ := Option.isSome_iff_exists.mp valid
  obtain ⟨patterns, trims⟩ := scanner.trim_of_parse parsed
  rw [trims]
  exact ⟨scanner.view.remembers_trim compiled, rfl⟩

theorem remembers_trimUntil {pattern : Text} {ignoreCase : Bool}
    (valid : (Pattern.parse? ignoreCase pattern).isSome = true) :
    scanner.Remembers (scanner.trimUntil pattern ignoreCase).2 := by
  obtain ⟨compiled, parsed⟩ := Option.isSome_iff_exists.mp valid
  obtain ⟨patterns, trims⟩ := scanner.trimUntil_of_parse parsed
  rw [trims]
  exact ⟨scanner.view.remembers_trimUntil compiled, rfl⟩

/-- A directive word is escaped, so whatever it contains it is a pattern. -/
theorem remembers_readWord (word : Text) : scanner.Remembers (scanner.readWord word).2 := by
  apply remembers_trim
  rw [Pattern.parse_escape]
  rfl

theorem remembers_readNumber {kind : NumberKind}
    (known : kind ∈ [NumberKind.unsigned, .signed, .hex, .hexByte]) :
    scanner.Remembers (scanner.readNumber kind).2 := by
  rw [readNumber_snd]
  apply remembers_trim
  simp only [List.mem_cons, List.not_mem_nil, or_false] at known
  rcases known with rfl | rfl | rfl | rfl <;> rfl

/-- A string that is not complete is not remembered: nothing has been read. -/
theorem remembers_readString {body : Text} (complete : scanner.readString.1 = .ok (some body)) :
    scanner.Remembers scanner.readString.2 := by
  rw [readString] at complete ⊢
  split at complete
  · split at complete
    · exact ⟨scanner.view.remembers_consume _, rfl⟩
    · cases complete
  · cases complete

theorem view_readDirective : scanner.readDirective.2.view = scanner.readString.2.view := by
  rw [readDirective]
  split
  · next read => rw [read]
  · next read => rw [read]
  · next read =>
      rw [read]
      split <;> rfl

/-- Also where the body of a complete string is no directive. -/
theorem remembers_readDirective {body : Text} (complete : scanner.readString.1 = .ok (some body)) :
    scanner.Remembers scanner.readDirective.2 where
  view := by
    rw [view_readDirective]
    exact (scanner.remembers_readString complete).view
  expansions_eq := scanner.expansions_readDirective

end Readers

/-! ## Operations -/

/-- The operations that can be taken back: those that look for something at the cursor, or move it
but remember where it was.  Strings and directives are taken back where there is a complete string
at the cursor. -/
inductive CanReturn (scanner : Scanner) : Operation → Prop
  | trim {pattern : Text} {ignoreCase : Bool}
      (valid : (Pattern.parse? ignoreCase pattern).isSome = true) :
      CanReturn scanner (.trim pattern ignoreCase)
  | trimUntil {pattern : Text} {ignoreCase : Bool}
      (valid : (Pattern.parse? ignoreCase pattern).isSome = true) :
      CanReturn scanner (.trimUntil pattern ignoreCase)
  | trimChar (expected : Char) : CanReturn scanner (.trimChar expected)
  | seek (offset : Nat) : CanReturn scanner (.seek offset)
  | readWord (word : Text) : CanReturn scanner (.readWord word)
  | readNumber {kind : NumberKind}
      (known : kind ∈ [NumberKind.unsigned, .signed, .hex, .hexByte]) :
      CanReturn scanner (.readNumber kind)
  | readIdentifier : CanReturn scanner .readIdentifier
  | readString {body : Text} (complete : scanner.readString.1 = .ok (some body)) :
      CanReturn scanner .readString
  | readDirective {body : Text} (complete : scanner.readString.1 = .ok (some body)) :
      CanReturn scanner .readDirective

theorem CanReturn.remembers {operation : Operation} (can : scanner.CanReturn operation) :
    scanner.Remembers (operation.run scanner) := by
  cases can with
  | trim valid => exact scanner.remembers_trim valid
  | trimUntil valid => exact scanner.remembers_trimUntil valid
  | trimChar expected => exact ⟨scanner.view.remembers_trimChar expected, rfl⟩
  | seek offset => exact ⟨scanner.view.remembers_seek offset, rfl⟩
  | readWord word => exact scanner.remembers_readWord word
  | readNumber known => exact scanner.remembers_readNumber known
  | readIdentifier => exact scanner.remembers_trim rfl
  | readString complete => exact scanner.remembers_readString complete
  | readDirective complete => exact scanner.remembers_readDirective complete

/-- Going back takes back one reading operation, and nothing else. -/
structure Backtracks (scanner : Scanner) : Prop where
  /-- Whatever a reading operation has found, going back leads to where it began. -/
  returns {operation : Operation} (can : scanner.CanReturn operation) :
    scanner.Returns (operation.run scanner)
  /-- Nothing goes back into another buffer. -/
  entered {key replacement : Text} {inner : Scanner}
    (begun : scanner.enter? key replacement = some inner) : inner.undo = inner
  left {outer : Scanner} (ended : scanner.exit? = some outer) : outer.undo = outer
  /-- Nothing goes back from a position that has been set. -/
  reposition (offset : Nat) : (scanner.reposition offset).undo = scanner.reposition offset
  resetToSource (offset : Nat) :
    (scanner.resetToSource offset).undo = scanner.resetToSource offset
  drain : scanner.drain.undo = scanner.drain
  /-- To go back, in any state, only moves the cursor. -/
  undo_keeps :
    scanner.undo.buffer = scanner.buffer ∧ scanner.undo.expansions = scanner.expansions ∧
      scanner.undo.macros = scanner.macros

/-- Every scanner goes back by exactly one reading operation. -/
theorem undo_takes_back_one (scanner : Scanner) : scanner.Backtracks where
  returns can := can.remembers.returns
  entered begun := by
    obtain ⟨_, _, _, _, view_eq, _⟩ := enter_eq_some begun
    apply undo_of_view
    rw [view_eq, View.undo_ofText]
  left ended := by
    obtain ⟨_, _, _, _, view_eq, _⟩ := exit_eq_some ended
    apply undo_of_view
    rw [view_eq, View.undo_reposition]
  reposition offset := undo_of_view (View.undo_reposition _ _)
  resetToSource offset := undo_of_view (View.undo_reposition _ _)
  drain := undo_of_view (View.undo_reposition _ _)
  undo_keeps := ⟨View.buffer_undo _, rfl, rfl⟩

end Scanner
end MmlScan
