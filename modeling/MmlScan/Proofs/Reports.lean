import MmlScan.Proofs.FailedReads
import MmlScan.Proofs.Outcomes

/-!
# Reports point at the text

A report on the source shows the buffer that is being read and points at a part of it: the key that
would be expanded into itself, the number that is out of bounds, or the string that is no directive.
The ends of this part are taken before or after the cursor has moved, but always in that buffer, so
they are boundaries of it and what stands between them is what the report is about.
-/

namespace MmlScan

namespace Text

variable {text part : Text} {start : Nat}

theorem HasAt.isBoundary_start (stands : text.HasAt start part) : text.IsBoundary start := by
  obtain ⟨front, behind, rfl, rfl⟩ := stands
  exact ⟨front, _, rfl, rfl⟩

theorem HasAt.isBoundary_stop (stands : text.HasAt start part) :
    text.IsBoundary (start + size part) := by
  obtain ⟨front, behind, rfl, rfl⟩ := stands
  exact ⟨front ++ part, behind, (List.append_assoc _ _ _).symm, size_append _ _⟩

end Text

/-! ## What reports show -/

/-- A report shows the buffer of a scanner and points at a part of it. -/
structure Diagnostic.PointsAt (diagnostic : Diagnostic) (scanner : Scanner) (start : Nat)
    (part : Text) : Prop where
  /-- The buffer has the name of the innermost macro that is being expanded. -/
  in_macro {key : Text} (innermost : scanner.expansions.innermost? = some key) :
    diagnostic.source = some ⟨"<macro \"" ++ String.ofList key ++ "\">", scanner.buffer⟩
  /-- Outside all expansions it is the source. -/
  in_source (outside : scanner.expansions.innermost? = none) :
    diagnostic.source = some ⟨"source", scanner.buffer⟩
  span_eq : diagnostic.span = some ⟨start, start + Text.size part⟩
  stop_le : start + Text.size part ≤ Text.size scanner.buffer
  /-- Both ends lie between characters. -/
  boundaries : scanner.buffer.IsBoundary start ∧
    scanner.buffer.IsBoundary (start + Text.size part)
  /-- The part stands there. -/
  stands : scanner.buffer.HasAt start part
  /-- The one note is on this range. -/
  label_eq : ∃ note, diagnostic.label? = some ⟨note, start, Text.size part⟩

theorem Diagnostic.pointsAt_of_span {diagnostic : Diagnostic} {scanner : Scanner} {start : Nat}
    {part : Text} (source_eq : diagnostic.source = some scanner.namedBuffer)
    (span_eq : diagnostic.span = some ⟨start, start + Text.size part⟩)
    (stands : scanner.buffer.HasAt start part) : diagnostic.PointsAt scanner start part where
  in_macro {key} innermost := by rw [source_eq, Scanner.namedBuffer, innermost]
  in_source outside := by rw [source_eq, Scanner.namedBuffer, outside]
  span_eq := span_eq
  stop_le := stands.isBoundary_stop.le_size
  boundaries := ⟨stands.isBoundary_start, stands.isBoundary_stop⟩
  stands := stands
  label_eq := by
    rw [label?, source_eq, span_eq]
    simp [Span.length]

namespace Scanner

/-! ## What reports are about -/

/-- What a report is about, in the scanner that is left with it: a part of the buffer, and where it
begins. -/
inductive Offends (scanner : Scanner) (diagnostic : Diagnostic) : Nat → Text → Prop
  /-- The key at the cursor is being expanded already. -/
  | cycle {definition : MacroDefinition} (kind_eq : diagnostic.kind = .cycle)
      (found : scanner.macros.longestMatch? scanner.rest = some definition)
      (again : definition.key ∈ scanner.expansions.keys) :
      Offends scanner diagnostic scanner.offset definition.key
  /-- A number in front of the cursor, its sign and all of its digits, is out of bounds. -/
  | tooLarge {kind : NumberKind} {start : Nat} {taken : Text}
      (kind_eq : diagnostic.kind = .malformed)
      (message_eq : diagnostic.message = SourceProblem.numberTooLarge.message)
      (member : kind ∈ NumberKind.all) (overflows : kind.Overflows taken scanner.rest)
      (stop_eq : start + Text.size taken = scanner.offset) :
      Offends scanner diagnostic start taken
  /-- All the text from an opening quote at the cursor to the end of the buffer has no closing
  quote. -/
  | unterminated {text : Text} (kind_eq : diagnostic.kind = .malformed)
      (message_eq : diagnostic.message = SourceProblem.unterminatedString.message)
      (opened : scanner.rest = '"' :: text) (unclosed : unquote? text = none) :
      Offends scanner diagnostic scanner.offset scanner.rest
  /-- A string in front of the cursor, with both quotes, is no directive. -/
  | noDirective {start : Nat} {string body : Text} {problem : SourceProblem}
      (kind_eq : diagnostic.kind = .malformed) (message_eq : diagnostic.message = problem.message)
      (closed : unquote? string = some (body, []))
      (refused : Directive.split body = .error problem)
      (stop_eq : start + Text.size ('"' :: string) = scanner.offset) :
      Offends scanner diagnostic start ('"' :: string)

/-- A report points at what it is about. -/
def PointedOut (scanner : Scanner) (diagnostic : Diagnostic) : Prop :=
  ∃ start part, scanner.Offends diagnostic start part ∧ diagnostic.PointsAt scanner start part

section Reports

variable {scanner after : Scanner} {diagnostic : Diagnostic}

/-- The gate reports a key at the cursor. -/
theorem pointedOut_reachToken (failure : scanner.reachToken = (.error diagnostic, after)) :
    after.PointedOut diagnostic := by
  obtain ⟨_, definition, _, found, refused, rfl⟩ := reachToken_eq_error failure
  obtain ⟨behind, rest_eq⟩ := MacroTable.append_of_longestMatch found
  refine ⟨after.offset, definition.key, .cycle rfl found (mem_keys_of_refused refused), ?_⟩
  exact Diagnostic.pointsAt_of_span rfl rfl (after.view.hasAt_of_rest rest_eq.symm)

/-- What has been taken stands in front of the cursor. -/
theorem Takes.hasAt {taken : Text} (takes : Takes taken scanner after) :
    after.buffer.HasAt scanner.offset taken := by
  rw [takes.buffer_eq]
  exact scanner.view.hasAt_of_rest takes.rest_eq

/-- Whatever way a reader fails in, its report points at the text, unless it is on a pattern. -/
theorem Failure.pointedOut {reader : Reader} (failure : Failure scanner reader diagnostic after)
    (no_pattern : diagnostic.kind ≠ .badPattern) : after.PointedOut diagnostic := by
  cases failure with
  | badPattern kind_eq => exact absurd kind_eq no_pattern
  | unterminated opened unclosed =>
      refine ⟨_, _, .unterminated rfl rfl opened unclosed, ?_⟩
      apply Diagnostic.pointsAt_of_span rfl
      · change some (⟨scanner.offset, Text.size scanner.view.buffer⟩ : Span) = _
        rw [← scanner.view.offset_add_size_rest]
        rfl
      · exact scanner.view.hasAt_of_rest (List.append_nil _).symm
  | @tooLarge kind member taken _ cause _ takes overflows =>
      refine ⟨scanner.offset, taken, .tooLarge rfl rfl member overflows takes.offset_eq.symm, ?_⟩
      have span_eq := (outOfRange_of_takes takes cause).2.2
      exact Diagnostic.pointsAt_of_span rfl span_eq takes.hasAt
  | @noDirective string body problem _ _ takes closed refused =>
      refine ⟨scanner.offset, '"' :: string,
        .noDirective rfl rfl closed refused takes.offset_eq.symm, ?_⟩
      apply Diagnostic.pointsAt_of_span rfl
      · rw [← takes.offset_eq]
        rfl
      · exact takes.hasAt

/-- A directive is never reported as a bad pattern. -/
theorem kind_of_readDirective (failure : scanner.readDirective = (.error diagnostic, after)) :
    diagnostic.kind ≠ .badPattern := by
  intro kind_eq
  rcases readDirective_eq_error failure with cycle | ⟨malformed, _⟩
  · simp [cycle] at kind_eq
  · simp [malformed] at kind_eq

theorem pointedOut_readDirective (failure : scanner.readDirective = (.error diagnostic, after)) :
    after.PointedOut diagnostic :=
  (failure_readDirective failure).pointedOut (kind_of_readDirective failure)

/-- What ends a scan is reported by the gate, or on a string in the place of a directive. -/
theorem raised_scanFrom {taken : List Token}
    (failure : scanner.scanFrom taken = (.error diagnostic, after)) :
    ∃ stopped : Scanner, stopped.reachToken = (.error diagnostic, after) ∨
      stopped.readDirective = (.error diagnostic, after) := by
  fun_induction scanFrom taken scanner with
  | case1 taken scanner report last ended =>
      cases failure
      rcases round_failed_cases ended with gate | ⟨reached, _, read⟩
      · exact ⟨scanner, .inl gate⟩
      · exact ⟨reached, .inr read⟩
  | case2 => cases failure
  | case3 taken scanner token next ended ih => exact ih failure

theorem raised_scanTwice (failure : scanner.scanTwice = (.error diagnostic, after)) :
    ∃ stopped : Scanner, stopped.reachToken = (.error diagnostic, after) ∨
      stopped.readDirective = (.error diagnostic, after) := by
  rw [scanTwice] at failure
  split at failure
  · next first =>
      cases failure
      exact raised_scanFrom first
  · split at failure
    · next second =>
        cases failure
        exact raised_scanFrom second
    · cases failure

theorem pointedOut_scanFrom {taken : List Token}
    (failure : scanner.scanFrom taken = (.error diagnostic, after)) :
    after.PointedOut diagnostic := by
  obtain ⟨stopped, gate | read⟩ := raised_scanFrom failure
  · exact pointedOut_reachToken gate
  · exact pointedOut_readDirective read

theorem pointedOut_scanTwice (failure : scanner.scanTwice = (.error diagnostic, after)) :
    after.PointedOut diagnostic := by
  obtain ⟨stopped, gate | read⟩ := raised_scanTwice failure
  · exact pointedOut_reachToken gate
  · exact pointedOut_readDirective read

end Reports

/-! ## All reports -/

/-- Every report on the source points at what it is about, in the buffer that is read when it is
made. -/
structure ReportsPoint (scanner : Scanner) : Prop where
  gate {diagnostic : Diagnostic} {after : Scanner}
    (failure : scanner.reachToken = (.error diagnostic, after)) : after.PointedOut diagnostic
  reader (reader : Reader) {diagnostic : Diagnostic}
    (reported : (reader.operation.answer scanner).report? = some diagnostic)
    (on_source : diagnostic.kind = .cycle ∨ diagnostic.kind = .malformed) :
    (reader.operation.run scanner).PointedOut diagnostic
  scan {diagnostic : Diagnostic} {after : Scanner}
    (failure : scanner.scanTokens = (.error diagnostic, after)) : after.PointedOut diagnostic
  scan_twice {diagnostic : Diagnostic} {after : Scanner}
    (failure : scanner.scanTwice = (.error diagnostic, after)) : after.PointedOut diagnostic

/-- Wherever a scanner is, what it reports on the source points at the text. -/
theorem reports_point (scanner : Scanner) : scanner.ReportsPoint where
  gate := pointedOut_reachToken
  reader reader diagnostic reported on_source := by
    refine (reader.failure reported).pointedOut fun kind_eq => ?_
    rw [kind_eq] at on_source
    rcases on_source with cycle | malformed
    · cases cycle
    · cases malformed
  scan := pointedOut_scanFrom
  scan_twice := pointedOut_scanTwice

end Scanner
end MmlScan
