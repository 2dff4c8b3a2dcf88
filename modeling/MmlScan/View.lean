import MmlScan.Pattern.Match

/-!
# Views

A view is a buffer with a cursor in it and one remembered position.  The buffer is held as the
part that has been consumed and the part that remains, so the cursor is always between two
characters, and the position of the cursor is kept along.  Every consuming operation first
remembers the position of the cursor, whether or not it goes on to consume anything, and `undo`
returns there.
-/

namespace MmlScan

/-- A buffer with a cursor and a remembered position. -/
structure View where
  /-- The text in front of the cursor, latest character first. -/
  past : Text
  rest : Text
  /-- The remembered position, as a byte offset. -/
  mark : Nat
  /-- The position of the cursor, as a byte offset. -/
  offset : Nat
  /-- The line of the cursor, counting from one. -/
  line : Nat
  /-- The offset counts the bytes in front of the cursor. -/
  offset_eq : offset = Text.size past
  /-- The line counts the newlines in front of the cursor. -/
  line_eq : line = Text.lineAfter past
  deriving DecidableEq, Repr

namespace View

/-- The view with the cursor between two parts of its buffer. -/
def between (front rest : Text) (mark : Nat) : View :=
  ⟨front.reverse, rest, mark, Text.size front, Text.lineAfter front, by simp, by simp⟩

/-- A view of a text from its start. -/
def ofText (text : Text) : View :=
  between [] text 0

/-- The whole text. -/
def buffer (view : View) : Text :=
  view.past.reverse ++ view.rest

/-- The character behind the cursor. -/
def peek? (view : View) : Option Char :=
  view.rest.head?

/-- Nothing remains. -/
def isExhausted (view : View) : Bool :=
  view.rest.isEmpty

/-- Remembers the position of the cursor. -/
def archive (view : View) : View :=
  { view with mark := view.offset }

/-- Moves the cursor forward over a number of characters. -/
def forward (view : View) (count : Nat) : View :=
  let passed := view.rest.take count
  { past := passed.reverse ++ view.past
    rest := view.rest.drop count
    mark := view.mark
    offset := view.offset + Text.size passed
    line := view.line + passed.count '\n'
    offset_eq := by rw [view.offset_eq, Text.size_append, Text.size_reverse, Nat.add_comm]
    line_eq := by
      rw [view.line_eq, ← Text.lineAfter_reverse (passed.reverse ++ view.past),
        List.reverse_append, List.reverse_reverse, Text.lineAfter_append, Text.lineAfter_reverse] }

/-- Moves the cursor back over a number of characters. -/
def backward (view : View) (count : Nat) : View :=
  let passed := view.past.take count
  { past := view.past.drop count
    rest := passed.reverse ++ view.rest
    mark := view.mark
    offset := view.offset - Text.size passed
    line := view.line - passed.count '\n'
    offset_eq := by
      have parts := Text.size_take_add_size_drop count view.past
      rw [view.offset_eq, ← parts]
      exact Nat.add_sub_cancel_left ..
    line_eq := by rw [view.line_eq, Text.lineAfter_drop] }

/-- Moves the cursor over a number of characters and remembers where it was. -/
def consume (view : View) (count : Nat) : View :=
  view.archive.forward count

/-- Number of characters to go back from an offset to reach the greatest character boundary not
beyond a target.  `past` stands in front of the offset, latest character first. -/
def charsBack : Text → Nat → Nat → Nat
  | [], _, _ => 0
  | c :: past, offset, target =>
      if offset ≤ target then 0 else charsBack past (offset - c.utf8Size) target + 1

/-- Moves the cursor to the greatest character boundary not beyond an offset. -/
def moveTo (view : View) (target : Nat) : View :=
  if view.offset ≤ target then
    view.forward (Text.charsWithin view.rest (target - view.offset))
  else
    view.backward (charsBack view.past view.offset target)

/-- Takes the match of a pattern at the cursor. -/
def trim (view : View) (pattern : Pattern) : Option Text × View :=
  match pattern.matchFront? view.rest with
  | some length => (some (view.rest.take length), view.consume length)
  | none => (none, view.archive)

/-- Takes everything through the first match of a pattern and answers what is in front of it. -/
def trimUntil (view : View) (pattern : Pattern) : Option Text × View :=
  match pattern.find? view.rest with
  | some (start, stop) => (some (view.rest.take start), view.consume stop)
  | none => (none, view.archive)

/-- Takes the character at the cursor if it is the expected one. -/
def trimChar (view : View) (expected : Char) : Bool × View :=
  if view.peek? = some expected then (true, view.consume 1) else (false, view.archive)

/-- Takes the longest run of characters with a property. -/
def trimWhile (view : View) (property : Char → Bool) : Text × View :=
  let run := view.rest.takeWhile property
  (run, view.consume run.length)

/-- Returns to the remembered position.  Like any offset, this one is brought to a boundary of the
buffer; as `View.Safe.undo` shows, it is always one already, so nothing is ever cut off from it. -/
def undo (view : View) : View :=
  view.moveTo view.mark

/-- Moves the cursor; the position it had is forgotten. -/
def reposition (view : View) (offset : Nat) : View :=
  (view.moveTo offset).archive

/-- Moves the cursor and remembers the position it had. -/
def seek (view : View) (offset : Nat) : View :=
  view.archive.moveTo offset

/-- Puts another text in place of the buffer, with the cursor at its start, and answers the old
buffer. -/
def replaceBuffer (view : View) (text : Text) : Text × View :=
  (view.buffer, ofText text)

theorem trim_eq_some {view after : View} {pattern : Pattern} {text : Text}
    (success : view.trim pattern = (some text, after)) :
    ∃ length, pattern.matchFront? view.rest = some length ∧ text = view.rest.take length ∧
      after = view.consume length := by
  rw [trim] at success
  split at success
  · next length found =>
      cases success
      exact ⟨length, found, rfl, rfl⟩
  · cases success

theorem trim_eq_none {view after : View} {pattern : Pattern}
    (failure : view.trim pattern = (none, after)) : after = view.archive := by
  rw [trim] at failure
  split at failure <;> cases failure
  rfl

theorem trimUntil_eq_some {view after : View} {pattern : Pattern} {text : Text}
    (success : view.trimUntil pattern = (some text, after)) :
    ∃ start stop, pattern.find? view.rest = some (start, stop) ∧ text = view.rest.take start ∧
      after = view.consume stop := by
  rw [trimUntil] at success
  split at success
  · next start stop found =>
      cases success
      exact ⟨start, stop, found, rfl, rfl⟩
  · cases success

theorem trimChar_eq_true {view after : View} {expected : Char}
    (success : view.trimChar expected = (true, after)) :
    view.rest.head? = some expected ∧ after = view.consume 1 := by
  rw [trimChar] at success
  split at success
  · next found =>
      cases success
      exact ⟨found, rfl⟩
  · cases success

/-! ## Moving the cursor -/

@[simp]
theorem rest_consume (view : View) (count : Nat) :
    (view.consume count).rest = view.rest.drop count := rfl

theorem rest_trimWhile (view : View) (property : Char → Bool) :
    (view.trimWhile property).2.rest = view.rest.dropWhile property :=
  Text.drop_length_takeWhile property view.rest

theorem eq_between (view : View) : view = between view.past.reverse view.rest view.mark := by
  obtain ⟨past, rest, mark, offset, line, rfl, rfl⟩ := view
  simp [between]

theorem eq_of_parts {left right : View} (past_eq : left.past = right.past)
    (rest_eq : left.rest = right.rest) (mark_eq : left.mark = right.mark) : left = right := by
  rw [eq_between left, eq_between right, past_eq, rest_eq, mark_eq]

theorem splitAt_charsBack (past rest : Text) {target : Nat} (beyond : target < Text.size past) :
    Text.splitAt (past.reverse ++ rest) target =
      ((past.drop (charsBack past (Text.size past) target)).reverse,
        (past.take (charsBack past (Text.size past) target)).reverse ++ rest) := by
  induction past generalizing rest with
  | nil => simp at beyond
  | cons c past ih =>
      rw [charsBack, if_neg (by omega), Text.size_cons, Nat.add_sub_cancel_left]
      simp only [List.reverse_cons, List.append_assoc, List.cons_append, List.nil_append,
        List.drop_succ_cons, List.take_succ_cons]
      by_cases reached : Text.size past ≤ target
      · have stay : charsBack past (Text.size past) target = 0 := by
          cases past with
          | nil => rfl
          | cons d past => rw [charsBack, if_pos reached]
        rw [Text.size_cons] at beyond
        rw [stay, Text.splitAt_append_of_lt _ _ _ (by simpa using reached) (by simp; omega)]
        simp
      · exact ih (c :: rest) (by omega)

/-- Moving the cursor cuts the buffer at the offset. -/
theorem moveTo_eq (view : View) (target : Nat) :
    view.moveTo target =
      between (Text.splitAt view.buffer target).1 (Text.splitAt view.buffer target).2 view.mark := by
  rw [moveTo]
  split
  · next fits =>
      rw [view.offset_eq, ← Text.size_reverse] at fits
      rw [buffer, Text.splitAt_append_of_le _ _ fits, Text.size_reverse, ← view.offset_eq]
      exact eq_of_parts (by simp [between, forward]) rfl rfl
  · next beyond =>
      rw [view.offset_eq] at beyond
      rw [buffer, splitAt_charsBack _ _ (Nat.lt_of_not_le beyond), ← view.offset_eq]
      exact eq_of_parts (by simp [between, backward]) rfl rfl

theorem rest_reposition (view : View) (offset : Nat) :
    (view.reposition offset).rest = (Text.splitAt view.buffer offset).2 := by
  rw [reposition, moveTo_eq]
  rfl

/-! ## No operation but `replaceBuffer` changes the buffer -/

@[simp]
theorem buffer_between (front rest : Text) (mark : Nat) :
    (between front rest mark).buffer = front ++ rest := by
  simp [buffer, between]

@[simp]
theorem buffer_ofText (text : Text) : (ofText text).buffer = text := rfl

@[simp]
theorem buffer_archive (view : View) : view.archive.buffer = view.buffer := rfl

@[simp]
theorem buffer_consume (view : View) (count : Nat) : (view.consume count).buffer = view.buffer := by
  simp [buffer, consume, archive, forward]

@[simp]
theorem buffer_moveTo (view : View) (offset : Nat) : (view.moveTo offset).buffer = view.buffer := by
  rw [moveTo_eq, buffer_between, Text.splitAt_append]

@[simp]
theorem buffer_reposition (view : View) (offset : Nat) :
    (view.reposition offset).buffer = view.buffer := by
  simp [reposition]

@[simp]
theorem buffer_seek (view : View) (offset : Nat) : (view.seek offset).buffer = view.buffer := by
  simp [seek]

@[simp]
theorem buffer_undo (view : View) : view.undo.buffer = view.buffer := by
  simp [undo]

@[simp]
theorem buffer_trim (view : View) (pattern : Pattern) :
    (view.trim pattern).2.buffer = view.buffer := by
  rw [trim]
  split <;> simp

@[simp]
theorem buffer_trimChar (view : View) (expected : Char) :
    (view.trimChar expected).2.buffer = view.buffer := by
  rw [trimChar]
  split <;> simp

@[simp]
theorem buffer_trimWhile (view : View) (property : Char → Bool) :
    (view.trimWhile property).2.buffer = view.buffer := by
  simp [trimWhile]

end View

end MmlScan
