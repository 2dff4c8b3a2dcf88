import MmlScan.Proofs.Termination
import MmlScan.Proofs.Unfolding

/-!
# A rewind forgets

Scanners that differ in nothing but their pattern caches are alike.  A cache only saves the reading
of a written pattern, which has the same answer whenever it is done; so alike scanners give the same
answers, and are alike afterwards.

After a return to the start of its source, a scanner holds nothing but its source and its macros.
Matching order leaves no choice for a table, which is told by what its keys are replaced by.  So
scanners of one text whose macros agree scan the same tokens, whatever was done with them before.
-/

namespace MmlScan

/-! ## Caches and passes -/

/-- Two caches refuse a written form with the same report, or have the same pattern for it. -/
theorem PatternCache.compile_cases (left right : PatternCache) (text : Text) (ignoreCase : Bool) :
    (∃ report, left.compile text ignoreCase = .error report ∧
      right.compile text ignoreCase = .error report) ∨
    ∃ found other, left.compile text ignoreCase = .ok found ∧
      right.compile text ignoreCase = .ok other ∧ found.1.pattern = other.1.pattern := by
  have same := (left.map_pattern_compile text ignoreCase).trans
    (right.map_pattern_compile text ignoreCase).symm
  cases left_read : left.compile text ignoreCase with
  | error report =>
      cases right_read : right.compile text ignoreCase with
      | error other =>
          rw [left_read, right_read] at same
          cases same
          exact .inl ⟨report, rfl, rfl⟩
      | ok other =>
          rw [left_read, right_read] at same
          cases same
  | ok found =>
      cases right_read : right.compile text ignoreCase with
      | error other =>
          rw [left_read, right_read] at same
          cases same
      | ok other =>
          rw [left_read, right_read] at same
          exact .inr ⟨found, other, rfl, rfl, Except.ok.inj same⟩

theorem Replay.firstDivergence_self (tokens : List Token) :
    Replay.firstDivergence? ⟨tokens, tokens⟩ = none :=
  divergence?_eq_none_iff.mpr rfl

/-- Going to the start of a text that is read from its start changes nothing. -/
theorem View.reposition_ofText_zero (text : Text) : (ofText text).reposition 0 = ofText text := by
  have cut : Text.splitAt text 0 = ([], text) := Text.splitAt_size [] text
  rw [reposition, moveTo_eq, buffer_ofText, cut]
  rfl

namespace Scanner

/-! ## Alike scanners -/

/-- Scanners that differ in nothing but their pattern caches. -/
structure Alike (left right : Scanner) : Prop where
  source_eq : left.source = right.source
  /-- Buffers, cursors and marks are the same. -/
  view_eq : left.view = right.view
  macros_eq : left.macros = right.macros
  expansions_eq : left.expansions = right.expansions

/-- The scanner with another pattern cache. -/
def sharing (scanner : Scanner) (patterns : PatternCache) : Scanner :=
  { scanner with patterns := patterns }

theorem alike_sharing (scanner : Scanner) (patterns : PatternCache) :
    scanner.Alike (scanner.sharing patterns) :=
  ⟨rfl, rfl, rfl, rfl⟩

theorem Alike.trans {left middle right : Scanner} (former : left.Alike middle)
    (latter : middle.Alike right) : left.Alike right :=
  ⟨former.source_eq.trans latter.source_eq, former.view_eq.trans latter.view_eq,
    former.macros_eq.trans latter.macros_eq, former.expansions_eq.trans latter.expansions_eq⟩

theorem Alike.eq_sharing {left right : Scanner} (alike : left.Alike right) :
    right = left.sharing right.patterns := by
  obtain ⟨source, view, macros, expansions, patterns⟩ := right
  obtain ⟨rfl, rfl, rfl, rfl⟩ := alike
  rfl

variable {scanner left right : Scanner} (patterns : PatternCache)

/-! ## What does not ask for a pattern -/

theorem exit_sharing (scanner : Scanner) :
    (scanner.sharing patterns).exit? = scanner.exit?.map (·.sharing patterns) := by
  rw [exit?, exit?, Option.map_map]
  rfl

theorem enter_sharing (scanner : Scanner) (key replacement : Text) :
    (scanner.sharing patterns).enter? key replacement =
      (scanner.enter? key replacement).map (·.sharing patterns) := by
  rw [enter?, enter?, Option.map_map]
  rfl

/-- The gate asks for no pattern. -/
theorem transparent_sharing : Transparent fun scanner => scanner.sharing patterns where
  rest_eq _ := rfl
  macros_eq _ := rfl
  keys_eq _ := rfl
  consume_eq _ _ := rfl
  enter_eq := enter_sharing patterns
  exit_eq := exit_sharing patterns

theorem reachToken_sharing (scanner : Scanner) :
    (scanner.sharing patterns).reachToken =
      (scanner.reachToken.1, scanner.reachToken.2.sharing patterns) := by
  rcases (transparent_sharing patterns).reachToken scanner with
    ⟨available, reached, opened, other⟩ | ⟨cycle, stuck, stopped, other⟩
  · rw [opened]
    exact other
  · rw [stopped]
    exact other

theorem readString_sharing (scanner : Scanner) :
    (scanner.sharing patterns).readString =
      (scanner.readString.1, scanner.readString.2.sharing patterns) := by
  have rest_eq : (scanner.sharing patterns).rest = scanner.rest := rfl
  rw [readString, readString, rest_eq]
  split
  · split <;> rfl
  · rfl

theorem readDirective_sharing (scanner : Scanner) :
    (scanner.sharing patterns).readDirective =
      (scanner.readDirective.1, scanner.readDirective.2.sharing patterns) := by
  rw [readDirective, readDirective, readString_sharing]
  rcases scanner.readString with ⟨answer, after⟩
  rcases answer with diagnostic | body
  · rfl
  · rcases body with _ | body
    · rfl
    · dsimp only
      split <;> rfl

/-! ## What asks for a pattern -/

/-- Reads a pattern and takes with it what a view takes. -/
def takeWith (take : View → Pattern → Option Text × View) (scanner : Scanner) (pattern : Text)
    (ignoreCase : Bool) : Except Diagnostic (Option Text) × Scanner :=
  match scanner.patterns.compile pattern ignoreCase with
  | .error diagnostic => (.error diagnostic, scanner)
  | .ok (compiled, patterns) =>
      let (taken, view) := take scanner.view compiled.pattern
      (.ok taken, { scanner with view := view, patterns := patterns })

theorem takeWith_alike (take : View → Pattern → Option Text × View) (alike : left.Alike right)
    (pattern : Text) (ignoreCase : Bool) :
    (takeWith take left pattern ignoreCase).1 = (takeWith take right pattern ignoreCase).1 ∧
      (takeWith take left pattern ignoreCase).2.Alike
        (takeWith take right pattern ignoreCase).2 := by
  rw [alike.eq_sharing]
  have patterns_eq : (left.sharing right.patterns).patterns = right.patterns := rfl
  rw [takeWith, takeWith, patterns_eq]
  rcases PatternCache.compile_cases left.patterns right.patterns pattern ignoreCase with
    ⟨report, left_read, right_read⟩ | ⟨found, other, left_read, right_read, pattern_eq⟩
  · rw [left_read, right_read]
    exact ⟨rfl, alike_sharing left right.patterns⟩
  · rw [left_read, right_read]
    dsimp only
    rw [pattern_eq]
    exact ⟨rfl, rfl, rfl, rfl, rfl⟩

theorem trim_alike (alike : left.Alike right) (pattern : Text) (ignoreCase : Bool) :
    (left.trim pattern ignoreCase).1 = (right.trim pattern ignoreCase).1 ∧
      (left.trim pattern ignoreCase).2.Alike (right.trim pattern ignoreCase).2 :=
  takeWith_alike View.trim alike pattern ignoreCase

theorem trimUntil_alike (alike : left.Alike right) (pattern : Text) (ignoreCase : Bool) :
    (left.trimUntil pattern ignoreCase).1 = (right.trimUntil pattern ignoreCase).1 ∧
      (left.trimUntil pattern ignoreCase).2.Alike (right.trimUntil pattern ignoreCase).2 :=
  takeWith_alike View.trimUntil alike pattern ignoreCase

/-! ## Scans -/

/-- Rounds that end alike. -/
inductive Round.Alike : Round → Round → Prop
  | failed {diagnostic : Diagnostic} {left right : Scanner} (alike : left.Alike right) :
      Round.Alike (.failed diagnostic left) (.failed diagnostic right)
  | finished {left right : Scanner} (alike : left.Alike right) :
      Round.Alike (.finished left) (.finished right)
  | advanced {token : Option Token} {left right : Scanner} (alike : left.Alike right) :
      Round.Alike (.advanced token left) (.advanced token right)

theorem Alike.malformed_eq (alike : left.Alike right) (message : String) (start stop : Nat) :
    left.malformed message start stop = right.malformed message start stop := by
  rw [alike.eq_sharing]
  rfl

theorem takeToken_alike (alike : left.Alike right) : left.takeToken.Alike right.takeToken := by
  have trims := trim_alike alike Token.pattern false
  have offset_eq : left.offset = right.offset := congrArg View.offset alike.view_eq
  have line_eq : left.line = right.line := congrArg View.line alike.view_eq
  have depth_eq : left.depth = right.depth := congrArg Expansions.depth alike.expansions_eq
  rw [takeToken, takeToken, offset_eq, line_eq, depth_eq]
  rcases left_trim : left.trim Token.pattern false with ⟨answer, left_after⟩
  rcases right_trim : right.trim Token.pattern false with ⟨other, right_after⟩
  rw [left_trim, right_trim] at trims
  obtain ⟨rfl, after_alike⟩ := trims
  rcases answer with diagnostic | taken
  · exact .failed after_alike
  · rcases taken with _ | text
    · dsimp only
      rw [after_alike.malformed_eq]
      exact .failed after_alike
    · exact .advanced after_alike

theorem round_alike (alike : left.Alike right) : left.round.Alike right.round := by
  rw [alike.eq_sharing, round, round, reachToken_sharing]
  rcases left.reachToken with ⟨answer, reached⟩
  rcases answer with diagnostic | available
  · exact .failed (alike_sharing _ _)
  · cases available with
    | false => exact .finished (alike_sharing _ _)
    | true =>
        dsimp only
        rw [readDirective_sharing]
        rcases reached.readDirective with ⟨answer, after⟩
        rcases answer with diagnostic | taken
        · exact .failed (alike_sharing _ _)
        · cases taken with
          | false => exact takeToken_alike (alike_sharing _ _)
          | true => exact .advanced (alike_sharing _ _)

theorem scanFrom_alike (taken : List Token) (left : Scanner) {right : Scanner}
    (alike : left.Alike right) :
    (scanFrom taken left).1 = (scanFrom taken right).1 ∧
      (scanFrom taken left).2.Alike (scanFrom taken right).2 := by
  fun_induction scanFrom taken left generalizing right with
  | case1 taken left diagnostic after ended =>
      have rounds := round_alike alike
      rw [scanFrom_eq]
      rw [ended] at rounds
      generalize right.round = other at rounds ⊢
      cases rounds with
      | failed after_alike => exact ⟨rfl, after_alike⟩
  | case2 taken left after ended =>
      have rounds := round_alike alike
      rw [scanFrom_eq]
      rw [ended] at rounds
      generalize right.round = other at rounds ⊢
      cases rounds with
      | finished after_alike => exact ⟨rfl, after_alike⟩
  | case3 taken left token after ended ih =>
      -- only the right scan is unfolded: the left one is what the induction speaks of
      have rounds := round_alike alike
      rw [scanFrom_eq taken right]
      rw [ended] at rounds
      generalize right.round = other at rounds ⊢
      cases rounds with
      | advanced after_alike => exact ih after_alike

/-! ## Rewinding -/

theorem resetToSource_alike (offset : Nat) (source_eq : left.source = right.source)
    (macros_eq : left.macros = right.macros) :
    (left.resetToSource offset).Alike (right.resetToSource offset) where
  source_eq := source_eq
  view_eq := congrArg (fun source => (View.ofText source).reposition offset) source_eq
  macros_eq := macros_eq
  expansions_eq := rfl

/-- A scanner that is rewound is like a fresh one with its macros. -/
theorem rewound_alike (text : Text) (patterns : PatternCache)
    (source_eq : scanner.source = (withPatterns text patterns).source) :
    Alike { withPatterns text patterns with macros := scanner.macros }
      (scanner.resetToSource 0) where
  source_eq := source_eq.symm
  view_eq := by
    rw [resetToSource, source_eq]
    exact (View.reposition_ofText_zero _).symm
  macros_eq := rfl
  expansions_eq := rfl

/-- The second pass is the scan of a fresh scanner that has the macros the first has left. -/
theorem scanTwice_of_rescan {text : Text} {patterns : PatternCache} {macros : MacroTable}
    {first second : List Token} {between final : Scanner}
    (scanned : scanTokens { withPatterns text patterns with macros := macros } =
      (.ok first, between))
    (rescanned : scanTokens { withPatterns text patterns with macros := between.macros } =
      (.ok second, final)) :
    ∃ after, scanTwice { withPatterns text patterns with macros := macros } =
        (.ok ⟨first, second⟩, after) ∧ final.Alike after := by
  have source_eq :=
    (moves_scanTokens { withPatterns text patterns with macros := macros }).source_eq
  rw [scanned] at source_eq
  have alike := rewound_alike text patterns source_eq
  obtain ⟨answers, final_alike⟩ := scanFrom_alike [] _ alike
  rw [← scanTokens, ← scanTokens, rescanned] at answers final_alike
  rcases last : (between.resetToSource 0).scanTokens with ⟨answer, after⟩
  rw [last] at answers final_alike
  cases answers
  refine ⟨after, ?_, final_alike⟩
  rw [scanTwice, scanned]
  dsimp only
  rw [last]

/-- A first pass that leaves the macros it began with is repeated by the second. -/
theorem scanTwice_repeats {text : Text} {patterns : PatternCache} {macros : MacroTable}
    {tokens : List Token} {between : Scanner}
    (scanned : scanTokens { withPatterns text patterns with macros := macros } =
      (.ok tokens, between)) (macros_eq : between.macros = macros) :
    ∃ after, scanTwice { withPatterns text patterns with macros := macros } =
      (.ok ⟨tokens, tokens⟩, after) := by
  have rescanned := scanned
  rw [← macros_eq] at rescanned
  obtain ⟨after, twice, _⟩ := scanTwice_of_rescan scanned rescanned
  exact ⟨after, twice⟩

/-- Scanners of one text whose macros agree scan alike after a rewind, whatever was done with them
before.  So if a first pass succeeds and leaves the macros it began with, then the second pass
repeats it. -/
theorem rewind_erases_history (text : Text) :
    (∀ leftPatterns rightPatterns leftOperations rightOperations,
      let left := Operation.runAll leftOperations (withPatterns text leftPatterns)
      let right := Operation.runAll rightOperations (withPatterns text rightPatterns)
      (∀ key, left.macros.get? key = right.macros.get? key) →
        (left.resetToSource 0).scanTokens.1 = (right.resetToSource 0).scanTokens.1 ∧
          (left.resetToSource 0).scanTokens.2.Alike (right.resetToSource 0).scanTokens.2) ∧
    ∀ patterns macros tokens between,
      scanTokens { withPatterns text patterns with macros := macros } = (.ok tokens, between) →
        (∀ key, between.macros.get? key = macros.get? key) →
          ∃ after, scanTwice { withPatterns text patterns with macros := macros } =
              (.ok ⟨tokens, tokens⟩, after) ∧
            Replay.isIdentical ⟨tokens, tokens⟩ = true ∧
            Replay.firstDivergence? ⟨tokens, tokens⟩ = none := by
  constructor
  · intro leftPatterns rightPatterns leftOperations rightOperations left right same
    have source_eq : left.source = right.source := by
      rw [Operation.source_runAll, Operation.source_runAll]
      rfl
    exact scanFrom_alike [] _ (resetToSource_alike 0 source_eq (MacroTable.ext_get? same))
  · intro patterns macros tokens between scanned same
    obtain ⟨after, twice⟩ := scanTwice_repeats scanned (MacroTable.ext_get? same)
    exact ⟨after, twice, decide_eq_true rfl, Replay.firstDivergence_self tokens⟩

/-- A directive in front of the macro that it defines. -/
def redefiningText : Text :=
  "\"A=x\"A;".toList

/-- The macro that the directive defines. -/
def redefinedMacro : MacroTable :=
  MacroTable.empty.define ['A'] ['x']

/-- A macro is being expanded, and another one has been entered inside of it. -/
def nestedScanner : Scanner :=
  Operation.runAll
    [.define ['A'] ['x'], .reposition 5, .reachToken, .enter ['Q'] ['z', 'z'], .seek 1]
    (withPatterns redefiningText .empty)

/-- The macro has been defined twice, a pattern has been read, and the source is exhausted. -/
def drainedScanner : Scanner :=
  Operation.runAll
    [.define ['A'] ['y'], .define ['A'] ['x'], .trim ['\\', 'S'] true, .drain]
    (withPatterns redefiningText .empty)

theorem rewind_erases_history_redefiningText :
    (∀ key, nestedScanner.macros.get? key = drainedScanner.macros.get? key) ∧
      nestedScanner ≠ drainedScanner ∧
      (nestedScanner.resetToSource 0).scanTokens.1 =
        (drainedScanner.resetToSource 0).scanTokens.1 ∧
      ∃ after, scanTwice { withPatterns redefiningText .empty with macros := redefinedMacro } =
        (.ok ⟨[⟨['x'], 1, 0, 1⟩, ⟨[';'], 1, 6, 0⟩], [⟨['x'], 1, 0, 1⟩, ⟨[';'], 1, 6, 0⟩]⟩,
          after) := by
  have macros_eq : nestedScanner.macros = drainedScanner.macros := by decide +kernel
  have different : nestedScanner ≠ drainedScanner := by decide +kernel
  have scanned : (scanWithin 10 []
      { withPatterns redefiningText .empty with macros := redefinedMacro }).map
        (fun answer => (answer.1.toOption, answer.2.macros)) =
          some (some [⟨['x'], 1, 0, 1⟩, ⟨[';'], 1, 6, 0⟩], redefinedMacro) := by
    decide +kernel
  obtain ⟨between, success, between_macros⟩ := scanTokens_of_scanWithin scanned
  obtain ⟨erased, repeated⟩ := rewind_erases_history redefiningText
  have same (key : Text) : nestedScanner.macros.get? key = drainedScanner.macros.get? key :=
    congrArg (·.get? key) macros_eq
  obtain ⟨after, twice, _⟩ := repeated .empty redefinedMacro _ between success fun key =>
    congrArg (·.get? key) between_macros
  exact ⟨same, different, (erased .empty .empty _ _ same).1, after, twice⟩

end Scanner
end MmlScan
