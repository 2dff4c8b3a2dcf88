import MmlScan.Proofs.View
import MmlScan.Token.Scan
import Mathlib.Logic.Relation

/-!
# Moves and operations

Whatever a scanner does comes down to a few moves: its view changes within the buffer, a pattern
is kept, a macro is defined, the macro at the cursor is entered, an expansion is left, or the
scanner goes back to its source.  The one operation that is no move is to enter a macro on demand,
whatever its key and wherever the cursor is.  A property that is kept by every move and by entering
holds of every reachable scanner, also halfway through an operation.
-/

namespace MmlScan
namespace Scanner

/-! ## Moves -/

/-- One elementary change of a scanner. -/
inductive Move : Scanner → Scanner → Prop
  | look {scanner : Scanner} {view : View} (looks : scanner.view.Looks view) :
      Move scanner (scanner.withView view)
  | keep {scanner : Scanner} (patterns : PatternCache) :
      Move scanner { scanner with patterns := patterns }
  | define {scanner : Scanner} (key replacement : Text) :
      Move scanner (scanner.define key replacement)
  | expand {scanner inner : Scanner} {definition : MacroDefinition}
      (found : scanner.macros.longestMatch? scanner.rest = some definition)
      (begun : scanner.enter? definition.key definition.replacement = some inner) :
      Move scanner inner
  | leave {scanner outer : Scanner} (left : scanner.exit? = some outer) : Move scanner outer
  | reset {scanner : Scanner} (offset : Nat) : Move scanner (scanner.resetToSource offset)

/-- Any number of moves, one after the other. -/
def Moves : Scanner → Scanner → Prop :=
  Relation.ReflTransGen Move

theorem Moves.refl (scanner : Scanner) : Moves scanner scanner :=
  Relation.ReflTransGen.refl

theorem Moves.trans {first second third : Scanner} (front : Moves first second)
    (back : Moves second third) : Moves first third :=
  Relation.ReflTransGen.trans front back

theorem Move.moves {before after : Scanner} (move : Move before after) : Moves before after :=
  Relation.ReflTransGen.single move

/-- What every move keeps, any number of moves keeps. -/
theorem Moves.invariant {property : Scanner → Prop}
    (kept : ∀ {before after : Scanner}, Move before after → property before → property after)
    {before after : Scanner} (moves : Moves before after) (initially : property before) :
    property after := by
  induction moves with
  | refl => exact initially
  | tail _ move ih => exact kept move ih

/-! ## Readers are moves -/

theorem moves_withView {scanner : Scanner} {view : View} (looks : scanner.view.Looks view) :
    Moves scanner (scanner.withView view) :=
  (Move.look looks).moves

theorem moves_trim (scanner : Scanner) (pattern : Text) (ignoreCase : Bool) :
    Moves scanner (scanner.trim pattern ignoreCase).2 := by
  rw [trim]
  split
  · exact .refl scanner
  · next compiled patterns compilation =>
      have kept : Moves scanner { scanner with patterns := patterns } := (Move.keep patterns).moves
      exact kept.trans (moves_withView (scanner.view.looks_trim compiled.pattern))

theorem moves_trimUntil (scanner : Scanner) (pattern : Text) (ignoreCase : Bool) :
    Moves scanner (scanner.trimUntil pattern ignoreCase).2 := by
  rw [trimUntil]
  split
  · exact .refl scanner
  · next compiled patterns compilation =>
      have kept : Moves scanner { scanner with patterns := patterns } := (Move.keep patterns).moves
      exact kept.trans (moves_withView (scanner.view.looks_trimUntil compiled.pattern))

theorem moves_trimChar (scanner : Scanner) (expected : Char) :
    Moves scanner (scanner.trimChar expected).2 :=
  moves_withView (scanner.view.looks_trimChar expected)

theorem moves_readNumber (scanner : Scanner) (kind : NumberKind) :
    Moves scanner (scanner.readNumber kind).2 := by
  rw [readNumber_snd]
  exact moves_trim scanner kind.pattern false

theorem moves_readString (scanner : Scanner) : Moves scanner scanner.readString.2 := by
  rw [readString]
  split
  · split
    · exact moves_withView (scanner.view.looks_consume _)
    · exact .refl scanner
  · exact .refl scanner

theorem moves_readDirective (scanner : Scanner) : Moves scanner scanner.readDirective.2 := by
  have string := moves_readString scanner
  rw [readDirective]
  split
  · next read => simpa [read] using string
  · next read => simpa [read] using string
  · next body after read =>
      rw [read] at string
      split
      · next key replacement parts => exact string.trans (Move.define key replacement).moves
      · exact string

/-! ## The gate and the driver are moves -/

theorem moves_skipFrom (skipped : Bool) (scanner : Scanner) :
    Moves scanner (skipFrom skipped scanner).2 := by
  fun_induction skipFrom skipped scanner with
  | case1 skipped scanner run consumed after exhausted outer left ih =>
      have blanks : Moves scanner after :=
        moves_withView (scanner.view.looks_trimWhile Text.isBlank)
      exact blanks.trans ((Move.leave left).moves.trans ih)
  | case2 => exact moves_withView (View.looks_trimWhile _ Text.isBlank)
  | case3 => exact moves_withView (View.looks_trimWhile _ Text.isBlank)

theorem moves_expandFrom (entered : Nat) (scanner : Scanner) :
    Moves scanner (expandFrom entered scanner).2 := by
  fun_induction expandFrom entered scanner with
  | case1 => exact .refl _
  | case2 => exact .refl _
  | case3 entered scanner definition found inner begun ih =>
      exact (Move.expand found begun).moves.trans ih

/-- The gate ends behind the expansion, or after one more skip. -/
theorem reachToken_cases (scanner : Scanner) :
    scanner.reachToken.2 = scanner.skip.2.expand.2 ∨
      scanner.reachToken.2 = scanner.skip.2.expand.2.skip.2 := by
  rw [reachToken]
  split
  · next expansion => exact .inl (by rw [expansion])
  · next expansion => exact .inr (by rw [expansion])

theorem moves_reachToken (scanner : Scanner) : Moves scanner scanner.reachToken.2 := by
  have skipped : Moves scanner scanner.skip.2 := moves_skipFrom false scanner
  have expanded : Moves scanner scanner.skip.2.expand.2 := skipped.trans (moves_expandFrom 0 _)
  rcases reachToken_cases scanner with reached | reached
  · rw [reached]
    exact expanded
  · rw [reached]
    exact expanded.trans (moves_skipFrom false _)

/-- The scanner that a round leaves. -/
def Round.scanner : Round → Scanner
  | .failed _ after => after
  | .finished after => after
  | .advanced _ after => after

/-- The token that a round takes. -/
def Round.token? : Round → Option Token
  | .failed _ _ | .finished _ => none
  | .advanced token _ => token

/-- A round ends at the gate, or behind the directive, or takes the token there. -/
theorem round_cases (scanner : Scanner) :
    (scanner.round.scanner = scanner.reachToken.2 ∧ scanner.round.token? = none) ∨
      (scanner.round.scanner = scanner.reachToken.2.readDirective.2 ∧
        scanner.round.token? = none) ∨
      scanner.round = scanner.reachToken.2.readDirective.2.takeToken := by
  rw [round]
  split
  · next gate => exact .inl ⟨by rw [gate]; rfl, rfl⟩
  · next gate => exact .inl ⟨by rw [gate]; rfl, rfl⟩
  · next reached gate =>
      rw [gate]
      split
      · next read => exact .inr (.inl ⟨by rw [read]; rfl, rfl⟩)
      · next read => exact .inr (.inl ⟨by rw [read]; rfl, rfl⟩)
      · next read => exact .inr (.inr (by rw [read]))

theorem moves_takeToken (scanner : Scanner) : Moves scanner scanner.takeToken.scanner := by
  have trimmed := moves_trim scanner Token.pattern false
  rw [takeToken]
  split <;>
    next taken =>
      rw [taken] at trimmed
      exact trimmed

theorem moves_round (scanner : Scanner) : Moves scanner scanner.round.scanner := by
  have reached := moves_reachToken scanner
  have read := reached.trans (moves_readDirective scanner.reachToken.2)
  rcases round_cases scanner with ⟨ended, _⟩ | ⟨ended, _⟩ | ended
  · rw [ended]
    exact reached
  · rw [ended]
    exact read
  · rw [ended]
    exact read.trans (moves_takeToken _)

theorem moves_scanFrom (taken : List Token) (scanner : Scanner) :
    Moves scanner (scanFrom taken scanner).2 := by
  fun_induction scanFrom taken scanner with
  | case1 taken scanner diagnostic after ended =>
      have last := moves_round scanner
      rwa [ended] at last
  | case2 taken scanner after ended =>
      have last := moves_round scanner
      rwa [ended] at last
  | case3 taken scanner token after ended ih =>
      have first := moves_round scanner
      rw [ended] at first
      exact first.trans ih

theorem moves_scanTokens (scanner : Scanner) : Moves scanner scanner.scanTokens.2 :=
  moves_scanFrom [] scanner

theorem moves_scanTwice (scanner : Scanner) : Moves scanner scanner.scanTwice.2 := by
  have first := moves_scanTokens scanner
  rw [scanTwice]
  split
  · next scanned => rwa [scanned] at first
  · next tokens between scanned =>
      rw [scanned] at first
      have restarted : Moves scanner (between.resetToSource 0) :=
        first.trans (Move.reset 0).moves
      have second := restarted.trans (moves_scanTokens (between.resetToSource 0))
      split
      · next rescanned => rwa [rescanned] at second
      · next rescanned => rwa [rescanned] at second

/-! ## Operations -/

/-- What can be asked of a scanner. -/
inductive Operation where
  | trim (pattern : Text) (ignoreCase : Bool)
  | trimUntil (pattern : Text) (ignoreCase : Bool)
  | trimChar (expected : Char)
  | readWord (word : Text)
  | readNumber (kind : NumberKind)
  | readIdentifier
  | readString
  | readDirective
  | undo
  | reposition (offset : Nat)
  | seek (offset : Nat)
  | define (key replacement : Text)
  | enter (key replacement : Text)
  | exit
  | expand
  | skip
  | reachToken
  | resetToSource (offset : Nat)
  | drain
  | scanTokens
  | scanTwice
  /-- Another scanner uses the pattern cache that this one shares. -/
  | share (patterns : PatternCache)

/-- The scanner that an operation leaves, whether it succeeds or fails. -/
def Operation.run : Operation → Scanner → Scanner
  | .trim pattern ignoreCase, scanner => (scanner.trim pattern ignoreCase).2
  | .trimUntil pattern ignoreCase, scanner => (scanner.trimUntil pattern ignoreCase).2
  | .trimChar expected, scanner => (scanner.trimChar expected).2
  | .readWord word, scanner => (scanner.readWord word).2
  | .readNumber kind, scanner => (scanner.readNumber kind).2
  | .readIdentifier, scanner => scanner.readIdentifier.2
  | .readString, scanner => scanner.readString.2
  | .readDirective, scanner => scanner.readDirective.2
  | .undo, scanner => scanner.undo
  | .reposition offset, scanner => scanner.reposition offset
  | .seek offset, scanner => scanner.seek offset
  | .define key replacement, scanner => scanner.define key replacement
  | .enter key replacement, scanner => (scanner.enter? key replacement).getD scanner
  | .exit, scanner => scanner.exit?.getD scanner
  | .expand, scanner => scanner.expand.2
  | .skip, scanner => scanner.skip.2
  | .reachToken, scanner => scanner.reachToken.2
  | .resetToSource offset, scanner => scanner.resetToSource offset
  | .drain, scanner => scanner.drain
  | .scanTokens, scanner => scanner.scanTokens.2
  | .scanTwice, scanner => scanner.scanTwice.2
  | .share patterns, scanner => { scanner with patterns := patterns }

/-- The scanner that operations leave, one after the other. -/
def Operation.runAll (operations : List Operation) (scanner : Scanner) : Scanner :=
  operations.foldl (fun scanner operation => operation.run scanner) scanner

theorem Operation.runAll_append (earlier later : List Operation) (scanner : Scanner) :
    runAll (earlier ++ later) scanner = runAll later (runAll earlier scanner) :=
  List.foldl_append

/-- Every operation comes down to moves, unless it enters a macro on demand. -/
theorem Operation.moves_or_enters (operation : Operation) (scanner : Scanner) :
    Moves scanner (operation.run scanner) ∨
      ∃ key replacement, operation = .enter key replacement ∧
        scanner.enter? key replacement = some (operation.run scanner) := by
  cases operation with
  | enter key replacement =>
      cases entered : scanner.enter? key replacement with
      | none =>
          rw [run, entered]
          exact .inl (.refl scanner)
      | some inner =>
          refine .inr ⟨key, replacement, rfl, ?_⟩
          rw [run, entered]
          rfl
  | exit =>
      rw [run]
      cases left : scanner.exit? with
      | none => exact .inl (.refl scanner)
      | some outer => exact .inl (Move.leave left).moves
  | trim pattern ignoreCase => exact .inl (moves_trim scanner pattern ignoreCase)
  | trimUntil pattern ignoreCase => exact .inl (moves_trimUntil scanner pattern ignoreCase)
  | trimChar expected => exact .inl (moves_trimChar scanner expected)
  | readWord word => exact .inl (moves_trim scanner (Pattern.escape word) true)
  | readNumber kind => exact .inl (moves_readNumber scanner kind)
  | readIdentifier => exact .inl (moves_trim scanner identifierPattern false)
  | readString => exact .inl (moves_readString scanner)
  | readDirective => exact .inl (moves_readDirective scanner)
  | undo => exact .inl (moves_withView scanner.view.looks_undo)
  | reposition offset => exact .inl (moves_withView (scanner.view.looks_reposition offset))
  | seek offset => exact .inl (moves_withView (scanner.view.looks_seek offset))
  | define key replacement => exact .inl (Move.define key replacement).moves
  | expand => exact .inl (moves_expandFrom 0 scanner)
  | skip => exact .inl (moves_skipFrom false scanner)
  | reachToken => exact .inl (moves_reachToken scanner)
  | resetToSource offset => exact .inl (Move.reset offset).moves
  | drain => exact .inl (Move.reset _).moves
  | scanTokens => exact .inl (moves_scanTokens scanner)
  | scanTwice => exact .inl (moves_scanTwice scanner)
  | share patterns => exact .inl (Move.keep patterns).moves

/-- A scanner that operations lead to from a fresh one. -/
inductive Reachable : Scanner → Prop
  | fresh (text : Text) (patterns : PatternCache) : Reachable (withPatterns text patterns)
  | step {scanner : Scanner} (operation : Operation) :
      Reachable scanner → Reachable (operation.run scanner)

theorem Reachable.runAll {scanner : Scanner} (operations : List Operation)
    (reachable : scanner.Reachable) : (Operation.runAll operations scanner).Reachable := by
  induction operations generalizing scanner with
  | nil => exact reachable
  | cons operation operations ih => exact ih (.step operation reachable)

/-- A property of fresh scanners that every move keeps, and that entering keeps, holds of every
reachable scanner. -/
theorem Reachable.invariant {property : Scanner → Prop}
    (initially : ∀ text patterns, property (withPatterns text patterns))
    (kept : ∀ {before after : Scanner}, Move before after → property before → property after)
    (entered : ∀ {scanner inner : Scanner} {key replacement : Text},
      scanner.enter? key replacement = some inner → property scanner → property inner)
    {scanner : Scanner} (reachable : scanner.Reachable) : property scanner := by
  induction reachable with
  | fresh text patterns => exact initially text patterns
  | @step before operation _ ih =>
      rcases operation.moves_or_enters before with moves | ⟨key, replacement, _, begun⟩
      · exact moves.invariant kept ih
      · exact entered begun ih

/-! ## The source lies below all expansions -/

/-- The buffer that remains when all expansions have been left. -/
def bottom : Text → List Expansion → Text
  | buffer, [] => buffer
  | _, frame :: frames => bottom frame.enclosing.buffer frames

/-- Below all expansions lies the source. -/
def Grounded (scanner : Scanner) : Prop :=
  bottom scanner.buffer scanner.expansions.frames = scanner.source

theorem Grounded.enter {scanner inner : Scanner} {key replacement : Text}
    (grounded : scanner.Grounded) (entered : scanner.enter? key replacement = some inner) :
    inner.Grounded := by
  obtain ⟨_, source_eq, _, _, _, frames_eq⟩ := enter_eq_some entered
  rw [Grounded, frames_eq, source_eq]
  exact grounded

theorem Move.grounded {before after : Scanner} (move : Move before after)
    (grounded : before.Grounded) : after.Grounded := by
  cases move with
  | look looks =>
      rw [Grounded, buffer, ← looks.buffer_eq] at grounded
      exact grounded
  | keep patterns => exact grounded
  | define key replacement => exact grounded
  | expand found begun => exact grounded.enter begun
  | leave left =>
      obtain ⟨frame, frames, shape, frames_eq, view_eq, source_eq, _⟩ := exit_eq_some left
      rw [Grounded, shape] at grounded
      rw [Grounded, frames_eq, source_eq, buffer, view_eq, View.buffer_reposition]
      exact grounded
  | reset offset =>
      rw [Grounded, buffer, resetToSource]
      exact View.buffer_reposition (.ofText before.source) offset

theorem Move.source_eq {before after : Scanner} (move : Move before after) :
    after.source = before.source := by
  cases move with
  | look | keep | define | reset => rfl
  | expand found begun => exact (enter_eq_some begun).2.1
  | leave left =>
      obtain ⟨_, _, _, _, _, source_eq, _⟩ := exit_eq_some left
      exact source_eq

theorem Moves.source_eq {before after : Scanner} (moves : Moves before after) :
    after.source = before.source := by
  induction moves with
  | refl => rfl
  | tail _ move ih => exact move.source_eq.trans ih

theorem Operation.source_run (operation : Operation) (scanner : Scanner) :
    (operation.run scanner).source = scanner.source := by
  rcases operation.moves_or_enters scanner with moves | ⟨key, replacement, _, begun⟩
  · exact moves.source_eq
  · exact (enter_eq_some begun).2.1

theorem Operation.source_runAll (operations : List Operation) (scanner : Scanner) :
    (runAll operations scanner).source = scanner.source := by
  induction operations generalizing scanner with
  | nil => rfl
  | cons operation operations ih => exact (ih _).trans (operation.source_run scanner)

theorem Reachable.grounded {scanner : Scanner} (reachable : scanner.Reachable) :
    scanner.Grounded :=
  reachable.invariant (fun _ _ => rfl) Move.grounded fun entered grounded => grounded.enter entered

/-- Outside all expansions the buffer is the source. -/
theorem Reachable.buffer_eq_source {scanner : Scanner} (reachable : scanner.Reachable)
    (outside : scanner.depth = 0) : scanner.buffer = scanner.source := by
  have grounded := reachable.grounded
  rw [depth, Expansions.depth, List.length_eq_zero_iff] at outside
  rwa [Grounded, outside] at grounded

end Scanner
end MmlScan
