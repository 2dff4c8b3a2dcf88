import MmlScan.Proofs.Scanning

/-!
# How a scan ends

The gate opens in front of content, and it closes only behind the whole source, with every expansion
left.  In front of content there is always a token, because the pattern of tokens takes whatever is
no blank.  So a scan reads its source to the end, unless it meets a cycle or a string that is no
directive.
-/

namespace MmlScan

/-- What can be wrong with a string in the place of a directive. -/
def Directive.problems : List SourceProblem :=
  [.unterminatedString, .missingEquals, .emptyKey]

theorem Directive.split_eq_error {body : Text} {problem : SourceProblem}
    (failure : split body = .error problem) : problem ∈ problems := by
  rw [split] at failure
  split at failure
  · cases failure
    decide
  · dsimp only at failure
    split at failure
    · cases failure
      decide
    · cases failure

/-- The reports that end a scan: one of a cycle, or one of a string that is no directive. -/
def Diagnostic.EndsScan (diagnostic : Diagnostic) : Prop :=
  diagnostic.kind = .cycle ∨
    diagnostic.kind = .malformed ∧
      ∃ problem ∈ Directive.problems, diagnostic.message = problem.message

namespace Scanner

variable {scanner after : Scanner} {diagnostic : Diagnostic}

/-- The source has been read to its end, and no macro is being expanded. -/
structure AtEnd (scanner : Scanner) : Prop where
  outside : scanner.depth = 0
  buffer_eq : scanner.buffer = scanner.source
  offset_eq : scanner.offset = Text.size scanner.source

theorem Grounded.atEnd (grounded : scanner.Grounded) (exhausted : scanner.rest = [])
    (outside : scanner.depth = 0) : scanner.AtEnd := by
  have buffer_eq : scanner.buffer = scanner.source := by
    rwa [Grounded, List.length_eq_zero_iff.mp outside] at grounded
  have offset_eq := scanner.view.offset_add_size_rest
  rw [show scanner.view.rest = [] from exhausted, Text.size_nil, Nat.add_zero,
    show scanner.view.buffer = scanner.source from buffer_eq] at offset_eq
  exact ⟨outside, buffer_eq, offset_eq⟩

/-! ## The gate -/

/-- The answer of the gate holds of the scanner it leaves. -/
def GateHolds : Except Diagnostic Bool × Scanner → Prop
  | (.ok true, reached) => ∃ c, reached.peek? = some c ∧ Text.isBlank c = false
  | (.ok false, reached) => reached.AtEnd
  | (.error diagnostic, _) => diagnostic.kind = .cycle

theorem Grounded.reachToken (grounded : scanner.Grounded) : GateHolds scanner.reachToken := by
  have reached_grounded := (moves_reachToken scanner).invariant Move.grounded grounded
  rcases gate : scanner.reachToken with ⟨_ | _ | _, reached⟩
  case error diagnostic =>
    obtain ⟨_, _, _, _, _, rfl⟩ := reachToken_eq_error gate
    rfl
  case ok.false =>
    rw [gate] at reached_grounded
    obtain ⟨exhausted, outside⟩ := ended_of_closed gate
    exact reached_grounded.atEnd exhausted outside
  case ok.true =>
    have content := content_of_open gate
    cases rest_eq : reached.rest with
    | nil =>
        rw [rest_eq] at content
        exact absurd Text.blankLed_nil content
    | cons c behind =>
        rw [rest_eq, Text.blankLed_cons, Bool.not_eq_true] at content
        exact ⟨c, congrArg List.head? rest_eq, content⟩

/-! ## Rounds -/

theorem readDirective_eq_error (failure : scanner.readDirective = (.error diagnostic, after)) :
    diagnostic.EndsScan := by
  rw [readDirective] at failure
  split at failure
  · next report unread read =>
      cases failure
      rw [readString] at read
      split at read
      · split at read
        · cases read
        · cases read
          exact .inr ⟨rfl, .unterminatedString, by decide, rfl⟩
      · cases read
  · cases failure
  · split at failure
    · cases failure
    · next problem refused =>
        cases failure
        exact .inr ⟨rfl, problem, Directive.split_eq_error refused, rfl⟩

/-- In front of content a token is never missing, so only the gate and the directives fail. -/
theorem round_failed_cases (failure : scanner.round = .failed diagnostic after) :
    scanner.reachToken = (.error diagnostic, after) ∨
      ∃ reached, scanner.reachToken = (.ok true, reached) ∧
        reached.readDirective = (.error diagnostic, after) := by
  rw [round] at failure
  split at failure
  · next gate =>
      cases failure
      exact .inl gate
  · cases failure
  · next reached gate =>
      split at failure
      · next read =>
          cases failure
          exact .inr ⟨reached, gate, read⟩
      · cases failure
      · next read =>
          cases readDirective_eq_false read
          obtain ⟨_, taken, _⟩ := takeToken_of_content (content_of_open gate)
          rw [taken] at failure
          cases failure

theorem round_eq_failed (failure : scanner.round = .failed diagnostic after) :
    diagnostic.EndsScan := by
  rcases round_failed_cases failure with gate | ⟨reached, _, read⟩
  · obtain ⟨_, _, _, _, _, rfl⟩ := reachToken_eq_error gate
    exact .inl rfl
  · exact readDirective_eq_error read

/-! ## Whole scans -/

/-- The answer of a scan holds of the scanner it leaves. -/
def ScanHolds : Except Diagnostic (List Token) × Scanner → Prop
  | (.ok _, after) => after.AtEnd
  | (.error diagnostic, _) => diagnostic.EndsScan

theorem Grounded.scanFrom (grounded : scanner.Grounded) (taken : List Token) :
    ScanHolds (scanner.scanFrom taken) := by
  fun_induction Scanner.scanFrom taken scanner with
  | case1 taken scanner diagnostic after ended => exact round_eq_failed ended
  | case2 taken scanner after ended =>
      have holds := grounded.reachToken
      rw [round_eq_finished ended] at holds
      exact holds
  | case3 taken scanner token after ended ih =>
      have moved := (moves_round scanner).invariant Move.grounded grounded
      rw [ended] at moved
      exact ih moved

/-- Whatever macros a reachable scanner is given, its gate opens in front of content only and closes
at the end of the source only.  Its scan reads the source to the end, or ends with a cycle or a
string that is no directive, but never with a bad pattern or with input that is no token. -/
theorem outcomes_of_reachable (reachable : scanner.Reachable) (macros : MacroTable) :
    let scanner := { scanner with macros := macros }
    GateHolds scanner.reachToken ∧ ScanHolds scanner.scanTokens ∧
      ∀ diagnostic after, scanner.scanTokens = (.error diagnostic, after) →
        diagnostic.kind ≠ .badPattern ∧
          ¬ (diagnostic.kind = .malformed ∧
            diagnostic.message = SourceProblem.unrecognized.message) := by
  intro scanner
  have grounded : scanner.Grounded := reachable.grounded
  have scan_holds : ScanHolds scanner.scanTokens := grounded.scanFrom []
  refine ⟨grounded.reachToken, scan_holds, fun diagnostic after failure => ?_⟩
  rw [failure] at scan_holds
  have others : ∀ problem ∈ Directive.problems,
      problem.message ≠ SourceProblem.unrecognized.message := by
    decide
  rcases scan_holds with kind_eq | ⟨kind_eq, problem, member, message_eq⟩
  · simp [kind_eq]
  · refine ⟨by simp [kind_eq], fun unrecognized => others problem member ?_⟩
    rw [← message_eq, unrecognized.2]

/-- From within a macro, whose replacement goes on with a key for an open quote. -/
theorem outcomes_of_reachable_openQuote :
    let inside := ((ofText "A;".toList).define "A".toList "B!".toList).expand.2
    let macros := MacroTable.empty.define "!".toList "\"K".toList
    let scanner := { inside with macros := macros }
    inside.Reachable ∧ scanner.reachToken.1 = .ok true ∧
      GateHolds scanner.reachToken ∧ ScanHolds scanner.scanTokens ∧
      ∀ diagnostic after, scanner.scanTokens = (.error diagnostic, after) →
        diagnostic.kind ≠ .badPattern ∧
          ¬ (diagnostic.kind = .malformed ∧
            diagnostic.message = SourceProblem.unrecognized.message) := by
  intro inside macros scanner
  have reachable : inside.Reachable :=
    .step .expand (.step (.define "A".toList "B!".toList) (.fresh "A;".toList .empty))
  have opened : scanner.reachToken.1 = .ok true := by decide +kernel
  exact ⟨reachable, opened, outcomes_of_reachable reachable macros⟩

end Scanner
end MmlScan
