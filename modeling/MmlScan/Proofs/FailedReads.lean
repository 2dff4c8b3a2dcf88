import MmlScan.Proofs.Numbers
import MmlScan.Proofs.Sharing

/-!
# Reads that fail

Readers share one scanner, and each has ways of its own to fail.  One that finds nothing has moved
nothing.  A report on a pattern, or on a string that is not closed, comes before anything is
changed.  A report on a number out of bounds, or on a string that is no directive, comes when the
text is already taken, so the cursor is behind it, and nothing else has changed.
-/

namespace MmlScan

theorem PatternCache.kind_of_compile_eq_error {cache : PatternCache} {text : Text}
    {ignoreCase : Bool} {diagnostic : Diagnostic}
    (failure : cache.compile text ignoreCase = .error diagnostic) :
    diagnostic.kind = .badPattern := by
  have same := cache.map_pattern_compile text ignoreCase
  rw [failure] at same
  split at same <;> cases same
  rfl

theorem View.trimUntil_eq_none {view after : View} {pattern : Pattern}
    (failure : view.trimUntil pattern = (none, after)) : after = view.archive := by
  rw [trimUntil] at failure
  split at failure <;> cases failure
  rfl

theorem View.trimChar_eq_false {view after : View} {expected : Char}
    (failure : view.trimChar expected = (false, after)) : after = view.archive := by
  rw [trimChar] at failure
  split at failure <;> cases failure
  rfl

theorem SourceProblem.message_injective : Function.Injective message := by
  intro left right same
  cases left <;> cases right <;> first | rfl | exact absurd same (by decide)

/-- A body that is refused has no equals sign, or nothing but blanks in front of it. -/
theorem Directive.problem_of_refused {body : Text} {problem : SourceProblem}
    (refused : split body = .error problem) :
    problem = .missingEquals ∨ problem = .emptyKey := by
  rw [split] at refused
  split at refused
  · cases refused
    exact .inl rfl
  · dsimp only at refused
    split at refused
    · cases refused
      exact .inr rfl
    · cases refused

namespace Scanner

/-! ## Readers -/

/-- The kinds of numbers that there are readers for. -/
def NumberKind.all : List NumberKind :=
  [.unsigned, .signed, .hex, .hexByte]

/-- What takes text at the cursor. -/
inductive Reader where
  | trim (pattern : Text) (ignoreCase : Bool)
  | trimUntil (pattern : Text) (ignoreCase : Bool)
  | trimChar (expected : Char)
  | word (text : Text)
  | number (kind : NumberKind) (member : kind ∈ NumberKind.all)
  | identifier
  | string
  | directive

/-- The operation that a reader is. -/
def Reader.operation : Reader → Operation
  | .trim pattern ignoreCase => .trim pattern ignoreCase
  | .trimUntil pattern ignoreCase => .trimUntil pattern ignoreCase
  | .trimChar expected => .trimChar expected
  | .word text => .readWord text
  | .number kind _ => .readNumber kind
  | .identifier => .readIdentifier
  | .string => .readString
  | .directive => .readDirective

/-- The report that an operation answers with, if it fails. -/
def Answer.report? : Answer → Option Diagnostic
  | .test (.error diagnostic) | .text (.error diagnostic) | .number (.error diagnostic)
  | .tokens (.error diagnostic) | .replay (.error diagnostic) => some diagnostic
  | _ => none

/-- The answer of a reader that has found nothing of its shape. -/
def Answer.IsNothing : Answer → Prop
  | .flag false | .test (.ok false) | .text (.ok none) | .number (.ok none) => True
  | _ => False

section Answers

variable {diagnostic : Diagnostic}

theorem Answer.isNothing_flag {answer : Bool} : (flag answer).IsNothing ↔ answer = false := by
  cases answer <;> simp [IsNothing]

theorem Answer.isNothing_test {answer : Except Diagnostic Bool} :
    (test answer).IsNothing ↔ answer = .ok false := by
  rcases answer with _ | _ | _ <;> simp [IsNothing]

theorem Answer.isNothing_text {answer : Except Diagnostic (Option Text)} :
    (text answer).IsNothing ↔ answer = .ok none := by
  rcases answer with _ | _ | _ <;> simp [IsNothing]

theorem Answer.isNothing_number {answer : Except Diagnostic (Option Int)} :
    (number answer).IsNothing ↔ answer = .ok none := by
  rcases answer with _ | _ | _ <;> simp [IsNothing]

theorem Answer.report_test {answer : Except Diagnostic Bool} :
    (test answer).report? = some diagnostic ↔ answer = .error diagnostic := by
  cases answer <;> simp [report?]

theorem Answer.report_text {answer : Except Diagnostic (Option Text)} :
    (text answer).report? = some diagnostic ↔ answer = .error diagnostic := by
  cases answer <;> simp [report?]

theorem Answer.report_number {answer : Except Diagnostic (Option Int)} :
    (number answer).report? = some diagnostic ↔ answer = .error diagnostic := by
  cases answer <;> simp [report?]

end Answers

/-! ## Where nothing is found -/

/-- Buffer, cursor, expansions and macros are as they were. -/
structure Intact (scanner after : Scanner) : Prop extends OnlyMoved scanner after where
  rest_eq : after.rest = scanner.rest
  offset_eq : after.offset = scanner.offset

theorem Intact.refl (scanner : Scanner) : scanner.Intact scanner :=
  ⟨⟨rfl, rfl, rfl, rfl⟩, rfl, rfl⟩

theorem intact_of_archive {scanner after : Scanner} {patterns : PatternCache}
    (view_eq : after.view = scanner.view.archive)
    (after_eq : after = { scanner with view := after.view, patterns := patterns }) :
    scanner.Intact after := by
  rw [after_eq, view_eq]
  exact ⟨⟨rfl, rfl, rfl, rfl⟩, rfl, rfl⟩

section Nothing

variable {scanner after : Scanner} {pattern : Text} {ignoreCase : Bool}

theorem intact_trim (nothing : scanner.trim pattern ignoreCase = (.ok none, after)) :
    scanner.Intact after := by
  obtain ⟨compiled, patterns, _, view_eq, after_eq⟩ := trim_eq_ok nothing
  exact intact_of_archive (View.trim_eq_none view_eq) after_eq

theorem intact_trimUntil (nothing : scanner.trimUntil pattern ignoreCase = (.ok none, after)) :
    scanner.Intact after := by
  obtain ⟨compiled, patterns, _, view_eq, after_eq⟩ := trimUntil_eq_ok nothing
  exact intact_of_archive (View.trimUntil_eq_none view_eq) after_eq

theorem intact_trimChar {expected : Char}
    (nothing : scanner.trimChar expected = (false, after)) : scanner.Intact after := by
  rcases trimmed : scanner.view.trimChar expected with ⟨taken, view⟩
  rw [trimChar, trimmed] at nothing
  cases nothing
  exact intact_of_archive (View.trimChar_eq_false trimmed) rfl

theorem intact_readWord {word : Text} (nothing : scanner.readWord word = (.ok false, after)) :
    scanner.Intact after := by
  rcases trimmed : scanner.trim (Pattern.escape word) true with ⟨_ | _ | taken, stopped⟩ <;>
    rw [readWord, trimmed] at nothing <;> cases nothing
  exact intact_trim trimmed

theorem intact_readNumber {kind : NumberKind}
    (nothing : scanner.readNumber kind = (.ok none, after)) : scanner.Intact after := by
  rw [readNumber] at nothing
  split at nothing
  · cases nothing
  · next trimmed =>
      cases nothing
      exact intact_trim trimmed
  · dsimp only at nothing
    split at nothing
    · cases nothing
    · split at nothing <;> cases nothing

/-- A reader that finds nothing leaves the scanner as it was. -/
theorem Reader.intact (reader : Reader) (nothing : (reader.operation.answer scanner).IsNothing) :
    scanner.Intact (reader.operation.run scanner) := by
  cases reader with
  | trim pattern ignoreCase =>
      exact intact_trim (Prod.ext (Answer.isNothing_text.mp nothing) rfl)
  | trimUntil pattern ignoreCase =>
      exact intact_trimUntil (Prod.ext (Answer.isNothing_text.mp nothing) rfl)
  | trimChar expected =>
      exact intact_trimChar (Prod.ext (Answer.isNothing_flag.mp nothing) rfl)
  | word text => exact intact_readWord (Prod.ext (Answer.isNothing_test.mp nothing) rfl)
  | number kind member =>
      exact intact_readNumber (Prod.ext (Answer.isNothing_number.mp nothing) rfl)
  | identifier => exact intact_trim (Prod.ext (Answer.isNothing_text.mp nothing) rfl)
  | string =>
      have stays : scanner.readString.2 = scanner :=
        readString_eq_none (Prod.ext (Answer.isNothing_text.mp nothing) rfl)
      rw [operation, Operation.run, stays]
      exact .refl scanner
  | directive =>
      have stays : scanner.readDirective.2 = scanner :=
        readDirective_eq_false (Prod.ext (Answer.isNothing_test.mp nothing) rfl)
      rw [operation, Operation.run, stays]
      exact .refl scanner

end Nothing

/-! ## Numbers out of bounds -/

/-- A text is a whole number, its sign and all of its digits, with a value out of bounds. -/
structure NumberKind.Overflows (kind : NumberKind) (taken behind : Text) : Prop where
  written : ∃ negative digits, taken = Text.sign negative ++ digits ∧ digits ≠ [] ∧
    ∀ c ∈ digits, Text.isDigitIn kind.radix c = true
  whole : ¬ Text.StartsWithDigit kind.radix behind
  outside : kind.value taken < kind.least ∨ kind.greatest < kind.value taken

section Bounds

variable {scanner after : Scanner} {kind : NumberKind} {taken : Text}

/-- Where a number has been taken, it is the run of digits that stands there. -/
theorem NumberKind.Format.overflows {signed : Bool} {radix : Nat} {fits : Int → Prop}
    (format : kind.Format signed radix fits)
    (trimmed : scanner.trim kind.pattern false = (.ok (some taken), after))
    (outside : kind.value taken < kind.least ∨ kind.greatest < kind.value taken) :
    kind.Overflows taken after.rest := by
  obtain rfl := format.radix_eq
  have runs := format.readsRuns scanner
  have found : (scanner.readNumber kind).1 ≠ .ok none := by
    rcases readNumber_of_taken trimmed with ⟨answer, _⟩ | ⟨⟨_, failure⟩, _⟩
    · simp [answer]
    · simp [failure]
  have shown : ∃ negative text, Text.ShowsNumber signed kind.radix scanner.rest negative
      text := by
    by_contra absent
    exact found (runs.none_iff.mpr fun negative text number => absent ⟨negative, text, number⟩)
  obtain ⟨negative, text, number⟩ := shown
  have rest_eq := (runs.reads number).rest_eq
  rw [readNumber_snd, trimmed] at rest_eq
  have taken_eq : taken = Text.sign negative ++ text.takeWhile (Text.isDigitIn kind.radix) := by
    have split := (takes_trim trimmed).rest_eq
    have run_eq : text.takeWhile (Text.isDigitIn kind.radix) ++
        text.dropWhile (Text.isDigitIn kind.radix) = text := List.takeWhile_append_dropWhile
    rw [number.whole_eq, rest_eq, ← run_eq, ← List.append_assoc, run_eq] at split
    exact (List.append_cancel_right split).symm
  rw [rest_eq]
  refine ⟨⟨negative, _, taken_eq, ?_, fun c member => List.mem_takeWhile_imp member⟩, ?_, outside⟩
  · obtain ⟨c, first, digit⟩ := number.starts
    obtain ⟨later, rfl⟩ := List.head?_eq_some_iff.mp first
    simp [digit]
  · rintro ⟨c, first, digit⟩
    have stops := List.head?_dropWhile_not (Text.isDigitIn kind.radix) text
    rw [Option.mem_def.mp first] at stops
    exact Bool.false_ne_true (stops.symm.trans digit)

/-- Two hexadecimal digits are never out of bounds. -/
theorem hexByte_inside
    (trimmed : scanner.trim NumberKind.hexByte.pattern false = (.ok (some taken), after)) :
    0 ≤ NumberKind.hexByte.value taken ∧ NumberKind.hexByte.value taken ≤ 255 := by
  rcases readNumber_of_taken trimmed with ⟨_, inside⟩ | ⟨⟨cause, failure⟩, _⟩
  · exact inside
  · exfalso
    by_cases shown : ∃ first second behind, scanner.ShowsPair first second behind
    · obtain ⟨first, second, behind, pair⟩ := shown
      have value_le : (Text.positional 16 [first, second] : Int) ≤ 255 :=
        Int.ofNat_le.mpr pair.value_le
      rw [pair.reads.value_iff.mpr ⟨Int.natCast_nonneg _, value_le⟩] at failure
      cases failure
    · have nothing := readNumber_of_no_pair fun first second behind pair =>
        shown ⟨first, second, behind, pair⟩
      rw [nothing.1] at failure
      cases failure

theorem overflows_of_outside (member : kind ∈ NumberKind.all)
    (trimmed : scanner.trim kind.pattern false = (.ok (some taken), after))
    (outside : kind.value taken < kind.least ∨ kind.greatest < kind.value taken) :
    kind.Overflows taken after.rest := by
  simp only [NumberKind.all, List.mem_cons, List.not_mem_nil, or_false] at member
  rcases member with rfl | rfl | rfl | rfl
  · exact format_unsigned.overflows trimmed outside
  · exact format_signed.overflows trimmed outside
  · exact format_hex.overflows trimmed outside
  · have inside := hexByte_inside trimmed
    change NumberKind.hexByte.value taken < 0 ∨ 255 < NumberKind.hexByte.value taken at outside
    omega

end Bounds

/-! ## Ways to fail -/

/-- How a reader fails: the report it answers with, and the scanner it leaves. -/
inductive Failure (scanner : Scanner) : Reader → Diagnostic → Scanner → Prop
  /-- What it is given is no pattern. -/
  | badPattern {reader : Reader} {diagnostic : Diagnostic}
      (kind_eq : diagnostic.kind = .badPattern) : Failure scanner reader diagnostic scanner
  /-- A string is not closed. -/
  | unterminated {reader : Reader} {text : Text} (opened : scanner.rest = '"' :: text)
      (unclosed : unquote? text = none) :
      Failure scanner reader (scanner.malformed SourceProblem.unterminatedString.message
        scanner.offset (Text.size scanner.buffer)) scanner
  /-- A number that has been taken is out of bounds. -/
  | tooLarge {kind : NumberKind} {member : kind ∈ NumberKind.all} {taken : Text} {after : Scanner}
      {cause : String} (moved : scanner.OnlyMoved after) (takes : Takes taken scanner after)
      (overflows : kind.Overflows taken after.rest) :
      Failure scanner (.number kind member) (after.outOfRange taken cause) after
  /-- A string that has been taken is no directive. -/
  | noDirective {string body : Text} {problem : SourceProblem} {after : Scanner}
      (moved : scanner.OnlyMoved after) (takes : Takes ('"' :: string) scanner after)
      (closed : unquote? string = some (body, []))
      (refused : Directive.split body = .error problem) :
      Failure scanner .directive (after.malformed problem.message scanner.offset after.offset) after

section Failures

variable {scanner after : Scanner} {diagnostic : Diagnostic} {reader : Reader}

theorem onlyMoved_of_trim {pattern : Text} {ignoreCase : Bool} {taken : Option Text}
    (success : scanner.trim pattern ignoreCase = (.ok taken, after)) : scanner.OnlyMoved after := by
  obtain ⟨compiled, _, _, view_eq, after_eq⟩ := trim_eq_ok success
  have buffer_eq := View.buffer_trim scanner.view compiled.pattern
  rw [view_eq] at buffer_eq
  rw [after_eq]
  exact ⟨rfl, buffer_eq, rfl, rfl⟩

theorem failure_trim {pattern : Text} {ignoreCase : Bool}
    (failure : scanner.trim pattern ignoreCase = (.error diagnostic, after)) :
    Failure scanner reader diagnostic after := by
  rw [trim] at failure
  split at failure
  · next compilation =>
      cases failure
      exact .badPattern (PatternCache.kind_of_compile_eq_error compilation)
  · cases failure

theorem failure_trimUntil {pattern : Text} {ignoreCase : Bool}
    (failure : scanner.trimUntil pattern ignoreCase = (.error diagnostic, after)) :
    Failure scanner reader diagnostic after := by
  rw [trimUntil] at failure
  split at failure
  · next compilation =>
      cases failure
      exact .badPattern (PatternCache.kind_of_compile_eq_error compilation)
  · cases failure

theorem failure_readWord {word : Text}
    (failure : scanner.readWord word = (.error diagnostic, after)) :
    Failure scanner reader diagnostic after := by
  rcases trimmed : scanner.trim (Pattern.escape word) true with ⟨_ | taken, stopped⟩ <;>
    rw [readWord, trimmed] at failure <;> cases failure
  exact failure_trim trimmed

theorem failure_readNumber {kind : NumberKind} (member : kind ∈ NumberKind.all)
    (failure : scanner.readNumber kind = (.error diagnostic, after)) :
    Failure scanner (.number kind member) diagnostic after := by
  rw [readNumber] at failure
  split at failure
  · next trimmed =>
      cases failure
      exact failure_trim trimmed
  · cases failure
  · next taken stopped trimmed =>
      have moved := onlyMoved_of_trim trimmed
      have takes := takes_trim trimmed
      dsimp only at failure
      split at failure
      · next below =>
          cases failure
          exact .tooLarge moved takes (overflows_of_outside member trimmed (.inl below))
      · split at failure
        · next beyond =>
            cases failure
            exact .tooLarge moved takes (overflows_of_outside member trimmed (.inr beyond))
        · cases failure

theorem failure_readString (failure : scanner.readString = (.error diagnostic, after)) :
    Failure scanner reader diagnostic after := by
  rw [readString] at failure
  split at failure
  · next text opened =>
      split at failure
      · cases failure
      · next unclosed =>
          cases failure
          exact .unterminated opened unclosed
  · cases failure

theorem onlyMoved_readString (scanner : Scanner) : scanner.OnlyMoved scanner.readString.2 := by
  rw [readString]
  split
  · split
    · exact ⟨rfl, View.buffer_consume _ _, rfl, rfl⟩
    · exact ⟨rfl, rfl, rfl, rfl⟩
  · exact ⟨rfl, rfl, rfl, rfl⟩

theorem failure_readDirective (failure : scanner.readDirective = (.error diagnostic, after)) :
    Failure scanner .directive diagnostic after := by
  rw [readDirective] at failure
  split at failure
  · next read =>
      cases failure
      exact failure_readString read
  · cases failure
  · next body stopped read =>
      have moved := onlyMoved_readString scanner
      rw [read] at moved
      obtain ⟨string, closed, takes, _⟩ := takes_readString read
      split at failure
      · cases failure
      · next problem refused =>
          cases failure
          exact .noDirective moved takes closed refused

/-- A reader that reports has failed in one of these ways. -/
theorem Reader.failure (reader : Reader)
    (reported : (reader.operation.answer scanner).report? = some diagnostic) :
    Failure scanner reader diagnostic (reader.operation.run scanner) := by
  cases reader with
  | trim pattern ignoreCase => exact failure_trim (Prod.ext (Answer.report_text.mp reported) rfl)
  | trimUntil pattern ignoreCase =>
      exact failure_trimUntil (Prod.ext (Answer.report_text.mp reported) rfl)
  | trimChar expected => cases reported
  | word text => exact failure_readWord (Prod.ext (Answer.report_test.mp reported) rfl)
  | number kind member =>
      exact failure_readNumber member (Prod.ext (Answer.report_number.mp reported) rfl)
  | identifier => exact failure_trim (Prod.ext (Answer.report_text.mp reported) rfl)
  | string => exact failure_readString (Prod.ext (Answer.report_text.mp reported) rfl)
  | directive => exact failure_readDirective (Prod.ext (Answer.report_test.mp reported) rfl)

end Failures

/-! ## All readers -/

/-- Every failing read leaves the scanner as it was, up to what its way of failing tells. -/
structure FailsCleanly (scanner : Scanner) (reader : Reader) : Prop where
  /-- Where nothing is found, buffer, cursor, expansions and macros are as they were. -/
  nothing (nothing : (reader.operation.answer scanner).IsNothing) :
    scanner.Intact (reader.operation.run scanner)
  /-- A report is on a pattern, a string, a number or a directive. -/
  reports {diagnostic : Diagnostic}
    (reported : (reader.operation.answer scanner).report? = some diagnostic) :
    diagnostic.kind = .badPattern ∨ diagnostic.kind = .malformed ∧
      (diagnostic.message = SourceProblem.unterminatedString.message ∨
        diagnostic.message = SourceProblem.numberTooLarge.message ∨
        diagnostic.message = SourceProblem.missingEquals.message ∨
        diagnostic.message = SourceProblem.emptyKey.message)
  /-- A pattern that is refused changes nothing at all, nor what is remembered or kept. -/
  bad_pattern {diagnostic : Diagnostic}
    (reported : (reader.operation.answer scanner).report? = some diagnostic)
    (kind_eq : diagnostic.kind = .badPattern) : reader.operation.run scanner = scanner
  /-- Nor does a string that is not closed. -/
  unterminated {diagnostic : Diagnostic}
    (reported : (reader.operation.answer scanner).report? = some diagnostic)
    (kind_eq : diagnostic.kind = .malformed)
    (message_eq : diagnostic.message = SourceProblem.unterminatedString.message) :
    reader.operation.run scanner = scanner
  /-- A number out of bounds moves the cursor behind its last digit and changes nothing else. -/
  too_large {diagnostic : Diagnostic}
    (reported : (reader.operation.answer scanner).report? = some diagnostic)
    (kind_eq : diagnostic.kind = .malformed)
    (message_eq : diagnostic.message = SourceProblem.numberTooLarge.message) :
    scanner.OnlyMoved (reader.operation.run scanner) ∧
      ∃ kind member taken, reader = .number kind member ∧
        Takes taken scanner (reader.operation.run scanner) ∧
        kind.Overflows taken (reader.operation.run scanner).rest
  /-- A string that is no directive moves the cursor behind its closing quote and changes nothing
  else. -/
  no_directive {diagnostic : Diagnostic}
    (reported : (reader.operation.answer scanner).report? = some diagnostic)
    (kind_eq : diagnostic.kind = .malformed)
    (message_eq : diagnostic.message = SourceProblem.missingEquals.message ∨
      diagnostic.message = SourceProblem.emptyKey.message) :
    scanner.OnlyMoved (reader.operation.run scanner) ∧ reader = .directive ∧
      ∃ string body, Takes ('"' :: string) scanner (reader.operation.run scanner) ∧
        unquote? string = some (body, [])

section Ways

variable {scanner after : Scanner} {reader : Reader} {diagnostic : Diagnostic}

theorem Failure.eq_of_badPattern (failure : Failure scanner reader diagnostic after)
    (kind_eq : diagnostic.kind = .badPattern) : after = scanner := by
  cases failure with
  | badPattern | unterminated => rfl
  | tooLarge | noDirective => cases kind_eq

/-- The scanner that a reader leaves, by the problem that it reports. -/
def Leaves (scanner : Scanner) (reader : Reader) (after : Scanner) : SourceProblem → Prop
  | .unterminatedString => after = scanner
  | .numberTooLarge =>
      scanner.OnlyMoved after ∧ ∃ kind member taken, reader = .number kind member ∧
        Takes taken scanner after ∧ kind.Overflows taken after.rest
  | .missingEquals | .emptyKey =>
      scanner.OnlyMoved after ∧ reader = .directive ∧
        ∃ string body, Takes ('"' :: string) scanner after ∧ unquote? string = some (body, [])
  | .unrecognized => False

/-- A report that is not on a pattern names a problem. -/
theorem Failure.names_problem (failure : Failure scanner reader diagnostic after)
    (no_pattern : diagnostic.kind ≠ .badPattern) :
    ∃ problem, diagnostic.kind = .malformed ∧ diagnostic.message = problem.message ∧
      Leaves scanner reader after problem := by
  cases failure with
  | badPattern kind_eq => exact absurd kind_eq no_pattern
  | unterminated => exact ⟨.unterminatedString, rfl, rfl, rfl⟩
  | tooLarge moved takes overflows =>
      exact ⟨.numberTooLarge, rfl, rfl, moved, _, _, _, rfl, takes, overflows⟩
  | @noDirective _ _ problem _ moved takes closed refused =>
      refine ⟨problem, rfl, rfl, ?_⟩
      rcases Directive.problem_of_refused refused with rfl | rfl <;>
        exact ⟨moved, rfl, _, _, takes, closed⟩

/-- Different problems have different messages, so the message tells what is left. -/
theorem Failure.leaves {problem : SourceProblem} (failure : Failure scanner reader diagnostic after)
    (kind_eq : diagnostic.kind = .malformed) (message_eq : diagnostic.message = problem.message) :
    Leaves scanner reader after problem := by
  obtain ⟨named, _, named_eq, leaves⟩ := failure.names_problem (by rw [kind_eq]; decide)
  obtain rfl := SourceProblem.message_injective (named_eq.symm.trans message_eq)
  exact leaves

theorem Failure.reports (failure : Failure scanner reader diagnostic after) :
    diagnostic.kind = .badPattern ∨ diagnostic.kind = .malformed ∧
      (diagnostic.message = SourceProblem.unterminatedString.message ∨
        diagnostic.message = SourceProblem.numberTooLarge.message ∨
        diagnostic.message = SourceProblem.missingEquals.message ∨
        diagnostic.message = SourceProblem.emptyKey.message) := by
  by_cases on_pattern : diagnostic.kind = .badPattern
  · exact .inl on_pattern
  · obtain ⟨problem, kind_eq, message_eq, leaves⟩ := failure.names_problem on_pattern
    refine .inr ⟨kind_eq, ?_⟩
    cases problem with
    | unterminatedString => exact .inl message_eq
    | numberTooLarge => exact .inr (.inl message_eq)
    | missingEquals => exact .inr (.inr (.inl message_eq))
    | emptyKey => exact .inr (.inr (.inr message_eq))
    | unrecognized => exact leaves.elim

end Ways

/-- Whatever a reader is asked for, and wherever the scanner is, the reader fails cleanly. -/
theorem fails_cleanly (scanner : Scanner) (reader : Reader) : scanner.FailsCleanly reader where
  nothing := reader.intact
  reports reported := (reader.failure reported).reports
  bad_pattern reported kind_eq := (reader.failure reported).eq_of_badPattern kind_eq
  unterminated reported kind_eq message_eq := (reader.failure reported).leaves kind_eq message_eq
  too_large reported kind_eq message_eq := (reader.failure reported).leaves kind_eq message_eq
  no_directive reported kind_eq message_eq := by
    rcases message_eq with missing | empty
    · exact (reader.failure reported).leaves kind_eq missing
    · exact (reader.failure reported).leaves kind_eq empty

end Scanner
end MmlScan
