import MmlScan.Proofs.Reports

/-!
# The line that a report names

A report names the line of the cursor at the time it is made.  The cursor is in front of a key that
would be expanded into itself and of a string that is not closed, and no number goes over the end of
a line, so there it is the line that the report points at.  But a string that is no directive has
been taken when it is reported, and if it goes over several lines, the report names the last of them
although it points at the first.
-/

namespace MmlScan

namespace Text

variable {text part : Text} {start : Nat}

/-- The line of an offset in a text: one more than the newlines in front of it. -/
def lineAt (text : Text) (offset : Nat) : Nat :=
  lineAfter (splitAt text offset).1

theorem lineAt_append (front behind : Text) :
    (front ++ behind).lineAt (size front) = lineAfter front := by
  rw [lineAt, splitAt_size]

/-- Over a part of the text the line goes on by the newlines in it. -/
theorem HasAt.lineAt_stop (stands : text.HasAt start part) :
    text.lineAt (start + size part) = text.lineAt start + part.count '\n' := by
  obtain ⟨front, behind, rfl, rfl⟩ := stands
  rw [lineAt_append, ← List.append_assoc, ← size_append, lineAt_append, lineAfter_append]

end Text

/-- The line of a view is the line of its cursor in the buffer. -/
theorem View.lineAt_offset (view : View) : view.buffer.lineAt view.offset = view.line := by
  rw [buffer, view.offset_eq, ← Text.size_reverse, Text.lineAt_append, Text.lineAfter_reverse,
    view.line_eq]

/-- The report is on a string that is no directive. -/
def Diagnostic.OnDirective (diagnostic : Diagnostic) : Prop :=
  diagnostic.kind = .malformed ∧
    (diagnostic.message = SourceProblem.missingEquals.message ∨
      diagnostic.message = SourceProblem.emptyKey.message)

namespace Scanner

section Lines

variable {scanner after : Scanner} {diagnostic : Diagnostic} {start : Nat} {part : Text}

/-! ## The line of the cursor -/

theorem line_of_reachToken (failure : scanner.reachToken = (.error diagnostic, after)) :
    diagnostic.line = some after.line := by
  obtain ⟨_, _, _, _, _, rfl⟩ := reachToken_eq_error failure
  rfl

theorem Failure.line_eq {reader : Reader} (failure : Failure scanner reader diagnostic after)
    (no_pattern : diagnostic.kind ≠ .badPattern) : diagnostic.line = some after.line := by
  cases failure with
  | badPattern kind_eq => exact absurd kind_eq no_pattern
  | unterminated | tooLarge | noDirective => rfl

/-- No number goes over the end of a line. -/
theorem NumberKind.Overflows.no_newline {kind : NumberKind} {taken behind : Text}
    (overflows : kind.Overflows taken behind) : '\n' ∉ taken := by
  obtain ⟨negative, digits, rfl, _, are_digits⟩ := overflows.written
  intro found
  rcases List.mem_append.mp found with sign | digit
  · cases negative <;> simp [Text.sign] at sign
  · have no_digit : Text.isDigitIn kind.radix '\n' = false := rfl
    exact Bool.false_ne_true (no_digit.symm.trans (are_digits '\n' digit))

/-! ## The line of what is pointed at -/

/-- The line of a report is the one on which the part begins that it points at, unless the part is a
string over several lines that is no directive.  For any such string it is the line on which the
string ends. -/
structure NamesLine (scanner : Scanner) (diagnostic : Diagnostic) (start : Nat) (part : Text) :
    Prop where
  begins_iff : diagnostic.line = some (scanner.buffer.lineAt start) ↔
    ¬ (diagnostic.OnDirective ∧ '\n' ∈ part)
  ends (on_directive : diagnostic.OnDirective) :
    diagnostic.line = some (scanner.buffer.lineAt (start + Text.size part))

theorem namesLine_of_begins (begins : diagnostic.line = some (scanner.buffer.lineAt start))
    (no_directive : ¬ diagnostic.OnDirective) : scanner.NamesLine diagnostic start part :=
  ⟨iff_of_true begins fun broken => no_directive broken.1, fun on => absurd on no_directive⟩

theorem Offends.namesLine (offends : scanner.Offends diagnostic start part)
    (stands : scanner.buffer.HasAt start part) (line_eq : diagnostic.line = some scanner.line) :
    scanner.NamesLine diagnostic start part := by
  have cursor : scanner.buffer.lineAt scanner.offset = scanner.line := scanner.view.lineAt_offset
  have stop := stands.lineAt_stop
  cases offends with
  | cycle kind_eq =>
      refine namesLine_of_begins (by rw [line_eq, cursor]) fun on => ?_
      rw [Diagnostic.OnDirective, kind_eq] at on
      exact absurd on.1 (by decide)
  | tooLarge kind_eq message_eq _ overflows stop_eq =>
      rw [stop_eq, cursor, List.count_eq_zero.mpr overflows.no_newline, Nat.add_zero] at stop
      refine namesLine_of_begins (by rw [line_eq, stop]) fun on => ?_
      rw [Diagnostic.OnDirective, message_eq] at on
      exact absurd on.2 (by decide)
  | unterminated kind_eq message_eq =>
      refine namesLine_of_begins (by rw [line_eq, cursor]) fun on => ?_
      rw [Diagnostic.OnDirective, message_eq] at on
      exact absurd on.2 (by decide)
  | @noDirective _ string body problem kind_eq message_eq closed refused stop_eq =>
      have on : diagnostic.OnDirective := by
        refine ⟨kind_eq, ?_⟩
        rw [message_eq]
        rcases Directive.problem_of_refused refused with rfl | rfl
        · exact .inl rfl
        · exact .inr rfl
      rw [stop_eq, cursor] at stop
      constructor
      · rw [line_eq, stop, Option.some_inj, Nat.add_eq_left, List.count_eq_zero]
        exact ⟨fun single broken => single broken.2, fun single newline => single ⟨on, newline⟩⟩
      · intro _
        rw [line_eq, stop_eq, cursor]

/-- A report points at what it is about, and names a line by it. -/
def NamesLineOfPart (scanner : Scanner) (diagnostic : Diagnostic) : Prop :=
  ∃ start part, diagnostic.PointsAt scanner start part ∧ scanner.NamesLine diagnostic start part

theorem PointedOut.namesLine (pointed : scanner.PointedOut diagnostic)
    (line_eq : diagnostic.line = some scanner.line) : scanner.NamesLineOfPart diagnostic := by
  obtain ⟨start, part, offends, points⟩ := pointed
  exact ⟨start, part, points, offends.namesLine points.stands line_eq⟩

theorem line_of_readDirective (failure : scanner.readDirective = (.error diagnostic, after)) :
    diagnostic.line = some after.line :=
  (failure_readDirective failure).line_eq (kind_of_readDirective failure)

end Lines

/-! ## All reports -/

/-- Every report on the source names the line that it points at, but for a string over several lines
that is no directive. -/
structure ReportsLine (scanner : Scanner) : Prop where
  gate {diagnostic : Diagnostic} {after : Scanner}
    (failure : scanner.reachToken = (.error diagnostic, after)) : after.NamesLineOfPart diagnostic
  reader (reader : Reader) {diagnostic : Diagnostic}
    (reported : (reader.operation.answer scanner).report? = some diagnostic)
    (on_source : diagnostic.kind = .cycle ∨ diagnostic.kind = .malformed) :
    (reader.operation.run scanner).NamesLineOfPart diagnostic
  scan {diagnostic : Diagnostic} {after : Scanner}
    (failure : scanner.scanTokens = (.error diagnostic, after)) : after.NamesLineOfPart diagnostic
  scan_twice {diagnostic : Diagnostic} {after : Scanner}
    (failure : scanner.scanTwice = (.error diagnostic, after)) : after.NamesLineOfPart diagnostic

theorem line_of_raised {diagnostic : Diagnostic} {after : Scanner}
    (raised : ∃ stopped : Scanner, stopped.reachToken = (.error diagnostic, after) ∨
      stopped.readDirective = (.error diagnostic, after)) :
    diagnostic.line = some after.line := by
  obtain ⟨stopped, gate | read⟩ := raised
  · exact line_of_reachToken gate
  · exact line_of_readDirective read

/-- Wherever a scanner is, it names the line of what it reports on the source. -/
theorem reports_name_lines (scanner : Scanner) : scanner.ReportsLine where
  gate failure := (pointedOut_reachToken failure).namesLine (line_of_reachToken failure)
  reader reader diagnostic reported on_source := by
    have failure := reader.failure reported
    have no_pattern : diagnostic.kind ≠ .badPattern := by
      rintro kind_eq
      simp [kind_eq] at on_source
    exact (failure.pointedOut no_pattern).namesLine (failure.line_eq no_pattern)
  scan failure := (pointedOut_scanFrom failure).namesLine (line_of_raised (raised_scanFrom failure))
  scan_twice failure :=
    (pointedOut_scanTwice failure).namesLine (line_of_raised (raised_scanTwice failure))

/-- A string over two lines that has no equals sign. -/
def brokenDirective : Scanner :=
  ofText "\"a\nb\"".toList

/-- A reachable scanner may name another line than the one that its report points at. -/
theorem report_may_miss_line :
    ¬ ∀ scanner after : Scanner, ∀ diagnostic, scanner.Reachable →
      scanner.readDirective = (.error diagnostic, after) →
      ∀ source span, diagnostic.source = some source → diagnostic.span = some span →
        diagnostic.line = some (source.text.lineAt span.start) := by
  intro always
  have named := always brokenDirective _ _ (.fresh _ _) rfl _ _ rfl rfl
  exact absurd named (by decide)

end Scanner
end MmlScan
