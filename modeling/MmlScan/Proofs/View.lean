import MmlScan.Proofs.Matching
import MmlScan.View

/-!
# Places in a buffer

The cursor of a view lies between two characters of its buffer by construction.  The mark does
not: it is a number that some earlier operation has left, and going back to it would be cut off
if it lay beyond the buffer or inside a character.  But every operation leaves the mark where the
cursor was or is, and a new buffer sets it to the start, so it is a boundary of the buffer that is
read.  Then whatever is read lies between two boundaries.
-/

namespace MmlScan

namespace Text

/-- The offset lies between two characters of the text, or at one of its ends. -/
def IsBoundary (text : Text) (offset : Nat) : Prop :=
  ∃ front behind, text = front ++ behind ∧ size front = offset

/-- The part stands in the text from an offset on. -/
def HasAt (text : Text) (offset : Nat) (part : Text) : Prop :=
  ∃ front behind, text = front ++ (part ++ behind) ∧ size front = offset

variable {text : Text} {offset : Nat}

theorem isBoundary_zero (text : Text) : text.IsBoundary 0 :=
  ⟨[], text, rfl, rfl⟩

theorem IsBoundary.le_size (boundary : text.IsBoundary offset) : offset ≤ size text := by
  obtain ⟨front, behind, rfl, rfl⟩ := boundary
  rw [size_append]
  exact Nat.le_add_right _ _

/-- Nothing has to be cut off to reach a boundary. -/
theorem size_splitAt (boundary : text.IsBoundary offset) : size (splitAt text offset).1 = offset := by
  obtain ⟨front, behind, rfl, rfl⟩ := boundary
  rw [splitAt_size]

end Text

namespace View

variable {before after view : View}

theorem isBoundary_offset (view : View) : view.buffer.IsBoundary view.offset := by
  refine ⟨view.past.reverse, view.rest, rfl, ?_⟩
  rw [Text.size_reverse, ← view.offset_eq]

theorem hasAt_of_rest {part behind : Text} (rest_eq : view.rest = part ++ behind) :
    view.buffer.HasAt view.offset part := by
  refine ⟨view.past.reverse, behind, ?_, ?_⟩
  · rw [buffer, rest_eq]
  · rw [Text.size_reverse, ← view.offset_eq]

theorem offset_add_size_rest (view : View) :
    view.offset + Text.size view.rest = Text.size view.buffer := by
  rw [buffer, Text.size_append, Text.size_reverse, ← view.offset_eq]

/-! ## What operations do to a view -/

/-- A view is changed within its buffer: its mark stays, or goes to where the cursor was or is. -/
structure Looks (before after : View) : Prop where
  buffer_eq : after.buffer = before.buffer
  mark_eq : after.mark = before.mark ∨ after.mark = before.offset ∨ after.mark = after.offset

theorem looks_archive (view : View) : view.Looks view.archive :=
  ⟨buffer_archive view, .inr (.inl rfl)⟩

theorem looks_consume (view : View) (count : Nat) : view.Looks (view.consume count) :=
  ⟨buffer_consume view count, .inr (.inl rfl)⟩

theorem looks_trim (view : View) (pattern : Pattern) : view.Looks (view.trim pattern).2 := by
  rw [trim]
  split
  · exact view.looks_consume _
  · exact view.looks_archive

theorem looks_trimUntil (view : View) (pattern : Pattern) :
    view.Looks (view.trimUntil pattern).2 := by
  rw [trimUntil]
  split
  · exact view.looks_consume _
  · exact view.looks_archive

theorem looks_trimChar (view : View) (expected : Char) :
    view.Looks (view.trimChar expected).2 := by
  rw [trimChar]
  split
  · exact view.looks_consume 1
  · exact view.looks_archive

theorem looks_trimWhile (view : View) (property : Char → Bool) :
    view.Looks (view.trimWhile property).2 :=
  view.looks_consume _

theorem mark_moveTo (view : View) (target : Nat) : (view.moveTo target).mark = view.mark := by
  rw [moveTo_eq]
  rfl

/-- Moving the cursor to where it is changes nothing. -/
theorem moveTo_offset (view : View) : view.moveTo view.offset = view := by
  have cut : Text.splitAt view.buffer view.offset = (view.past.reverse, view.rest) := by
    rw [buffer, view.offset_eq, ← Text.size_reverse, Text.splitAt_size]
  rw [moveTo_eq, cut]
  exact (eq_between view).symm

theorem looks_undo (view : View) : view.Looks view.undo :=
  ⟨buffer_undo view, .inl (view.mark_moveTo view.mark)⟩

theorem looks_reposition (view : View) (offset : Nat) : view.Looks (view.reposition offset) :=
  ⟨buffer_reposition view offset, .inr (.inr rfl)⟩

theorem looks_seek (view : View) (offset : Nat) : view.Looks (view.seek offset) :=
  ⟨buffer_seek view offset, .inr (.inl (view.archive.mark_moveTo offset))⟩

/-- The mark is a boundary of the buffer. -/
def Marked (view : View) : Prop :=
  view.buffer.IsBoundary view.mark

theorem marked_ofText (text : Text) : (ofText text).Marked :=
  Text.isBoundary_zero text

theorem marked_reposition (view : View) (offset : Nat) : (view.reposition offset).Marked :=
  (view.reposition offset).isBoundary_offset

theorem Looks.marked (looks : before.Looks after) (marked : before.Marked) : after.Marked := by
  rcases looks.mark_eq with stays | was | is
  · rw [Marked, stays, looks.buffer_eq]
    exact marked
  · rw [Marked, was, looks.buffer_eq]
    exact before.isBoundary_offset
  · rw [Marked, is]
    exact after.isBoundary_offset

/-! ## Runs of operations -/

/-- What can be asked of a view. -/
inductive Operation where
  | trim (pattern : Pattern)
  | trimUntil (pattern : Pattern)
  | trimChar (expected : Char)
  | trimWhile (property : Char → Bool)
  | undo
  | reposition (offset : Nat)
  | seek (offset : Nat)
  | replaceBuffer (text : Text)

/-- The view that an operation leaves, whether it succeeds or fails. -/
def Operation.run : Operation → View → View
  | .trim pattern, view => (view.trim pattern).2
  | .trimUntil pattern, view => (view.trimUntil pattern).2
  | .trimChar expected, view => (view.trimChar expected).2
  | .trimWhile property, view => (view.trimWhile property).2
  | .undo, view => view.undo
  | .reposition offset, view => view.reposition offset
  | .seek offset, view => view.seek offset
  | .replaceBuffer text, view => (view.replaceBuffer text).2

/-- The view that operations leave, one after the other. -/
def Operation.runAll (operations : List Operation) (view : View) : View :=
  operations.foldl (fun view operation => operation.run view) view

theorem Operation.marked (operation : Operation) (marked : view.Marked) :
    (operation.run view).Marked := by
  cases operation with
  | trim pattern => exact (view.looks_trim pattern).marked marked
  | trimUntil pattern => exact (view.looks_trimUntil pattern).marked marked
  | trimChar expected => exact (view.looks_trimChar expected).marked marked
  | trimWhile property => exact (view.looks_trimWhile property).marked marked
  | undo => exact view.looks_undo.marked marked
  | reposition offset => exact view.marked_reposition offset
  | seek offset => exact (view.looks_seek offset).marked marked
  | replaceBuffer text => exact marked_ofText text

theorem Operation.marked_runAll (operations : List Operation) (marked : view.Marked) :
    (runAll operations view).Marked := by
  induction operations generalizing view with
  | nil => exact marked
  | cons operation operations ih => exact ih (operation.marked marked)

/-! ## What is read of a buffer -/

/-- What is in front of the first match of a pattern is taken, and the match with it. -/
theorem trimUntil_split {pattern : Pattern} {front : Text}
    (success : view.trimUntil pattern = (some front, after)) :
    ∃ matched behind, pattern.find? view.rest = some (front.length, front.length + matched.length) ∧
      view.rest = front ++ matched ++ behind ∧
      after = view.consume (front.length + matched.length) := by
  obtain ⟨start, stop, found, rfl, rfl⟩ := trimUntil_eq_some success
  obtain ⟨start_le, stop_le⟩ := Pattern.find_ordered found
  have start_eq : (view.rest.take start).length = start := by
    rw [List.length_take]
    exact Nat.min_eq_left (Nat.le_trans start_le stop_le)
  have matched_eq : ((view.rest.take stop).drop start).length = stop - start := by
    rw [List.length_drop, List.length_take, Nat.min_eq_left stop_le]
  have taken_eq : view.rest.take start ++ (view.rest.take stop).drop start =
      view.rest.take stop := by
    have parts := List.take_append_drop start (view.rest.take stop)
    rwa [List.take_take, Nat.min_eq_left start_le] at parts
  refine ⟨(view.rest.take stop).drop start, view.rest.drop stop, ?_, ?_, ?_⟩
  · rw [start_eq, matched_eq, Nat.add_sub_cancel' start_le]
    exact found
  · rw [taken_eq, List.take_append_drop]
  · rw [start_eq, matched_eq, Nat.add_sub_cancel' start_le]

/-- The cursor goes forward by what it passes. -/
theorem offset_consume {taken behind : Text} (rest_eq : view.rest = taken ++ behind) :
    (view.consume taken.length).offset = view.offset + Text.size taken := by
  have passed_eq : view.rest.take taken.length = taken := by rw [rest_eq, List.take_left]
  change view.offset + Text.size (view.rest.take taken.length) = _
  rw [passed_eq]

/-- Positions are boundaries of the buffer, and what is read of the buffer lies between them. -/
structure Safe (view : View) : Prop where
  /-- The cursor is a boundary within the buffer. -/
  cursor : view.buffer.IsBoundary view.offset ∧ view.offset ≤ Text.size view.buffer
  /-- So is the mark. -/
  mark : view.buffer.IsBoundary view.mark ∧ view.mark ≤ Text.size view.buffer
  /-- Going back leads to the mark itself. -/
  undo : view.undo.offset = view.mark ∧ view.undo.buffer = view.buffer
  /-- What remains goes from the cursor to the end of the buffer. -/
  rest : view.buffer.HasAt view.offset view.rest ∧
    view.offset + Text.size view.rest = Text.size view.buffer
  /-- The line is counted from the start of the buffer to the cursor. -/
  line : ∃ front, view.buffer.HasAt 0 front ∧ Text.size front = view.offset ∧
    view.line = Text.lineAfter front
  /-- Nothing remains exactly at the end of the buffer. -/
  exhausted_iff : view.isExhausted = true ↔ Text.size view.buffer ≤ view.offset
  /-- There is a character at the cursor unless nothing remains. -/
  peek_eq_none_iff : view.peek? = none ↔ view.isExhausted = true
  /-- The match of a pattern lies within what remains, and the cursor goes to its end. -/
  trim {pattern : Pattern} {taken : Text} {after : View}
    (success : view.trim pattern = (some taken, after)) :
    pattern.matchFront? view.rest = some taken.length ∧ view.buffer.HasAt view.offset taken ∧
      after.offset = view.offset + Text.size taken
  /-- The first match of a pattern lies within what remains, behind the text that is answered. -/
  trimUntil {pattern : Pattern} {front : Text} {after : View}
    (success : view.trimUntil pattern = (some front, after)) :
    ∃ matched, pattern.find? view.rest = some (front.length, front.length + matched.length) ∧
      view.buffer.HasAt view.offset (front ++ matched) ∧
      after.offset = view.offset + Text.size (front ++ matched)
  /-- An expected character is the one at the cursor. -/
  trimChar {expected : Char} {after : View} (success : view.trimChar expected = (true, after)) :
    view.buffer.HasAt view.offset [expected] ∧ after.offset = view.offset + expected.utf8Size
  /-- A run of characters goes from the cursor to where the cursor goes. -/
  trimWhile (property : Char → Bool) :
    view.buffer.HasAt view.offset (view.trimWhile property).1 ∧
      (view.trimWhile property).2.offset =
        view.offset + Text.size (view.trimWhile property).1

theorem Marked.offset_undo (marked : view.Marked) : view.undo.offset = view.mark := by
  rw [undo, moveTo_eq]
  exact Text.size_splitAt marked

theorem isExhausted_iff (view : View) :
    view.isExhausted = true ↔ Text.size view.buffer ≤ view.offset := by
  rw [← offset_add_size_rest, isExhausted, List.isEmpty_iff, ← Text.size_eq_zero_iff]
  omega

/-- If the mark is a boundary, everything read is safe. -/
theorem Marked.safe (marked : view.Marked) : view.Safe where
  cursor := ⟨view.isBoundary_offset, view.isBoundary_offset.le_size⟩
  mark := ⟨marked, marked.le_size⟩
  undo := ⟨marked.offset_undo, buffer_undo view⟩
  rest := ⟨view.hasAt_of_rest (List.append_nil _).symm, view.offset_add_size_rest⟩
  line := by
    refine ⟨view.past.reverse, ⟨[], view.rest, rfl, rfl⟩, ?_, ?_⟩
    · rw [Text.size_reverse, ← view.offset_eq]
    · rw [Text.lineAfter_reverse, ← view.line_eq]
  exhausted_iff := view.isExhausted_iff
  peek_eq_none_iff := by
    rw [peek?, List.head?_eq_none_iff, isExhausted, List.isEmpty_iff]
  trim {pattern taken after} success := by
    obtain ⟨length, found, rfl, rfl⟩ := trim_eq_some success
    have length_eq : (view.rest.take length).length = length := by
      rw [List.length_take]
      exact Nat.min_eq_left (Pattern.matchFront_le found)
    refine ⟨length_eq.symm ▸ found, ?_, rfl⟩
    exact view.hasAt_of_rest (List.take_append_drop length view.rest).symm
  trimUntil {pattern front after} success := by
    obtain ⟨matched, behind, found, rest_eq, rfl⟩ := trimUntil_split success
    refine ⟨matched, found, view.hasAt_of_rest rest_eq, ?_⟩
    rw [← List.length_append]
    exact view.offset_consume rest_eq
  trimChar {expected after} success := by
    obtain ⟨found, rfl⟩ := trimChar_eq_true success
    obtain ⟨behind, rest_eq⟩ := List.head?_eq_some_iff.mp found
    have rest_eq : view.rest = [expected] ++ behind := rest_eq
    refine ⟨view.hasAt_of_rest rest_eq, ?_⟩
    have offset_eq := view.offset_consume rest_eq
    simpa using offset_eq
  trimWhile property := by
    have rest_eq := (List.takeWhile_append_dropWhile (p := property) (l := view.rest)).symm
    exact ⟨view.hasAt_of_rest rest_eq, view.offset_consume rest_eq⟩

end View
end MmlScan
