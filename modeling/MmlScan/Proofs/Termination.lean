import MmlScan.Proofs.Gate

/-!
# Scanning ends

The loops of the scanner are written as relations that count their iterations, so a loop that went
on forever would have no derivation.  Passing over blanks leaves at most every expansion, and
expanding enters at most every key that is idle.  A scan makes fewer rounds than its pending text
weighs, whatever the directives met on the way define.
-/

namespace MmlScan
namespace Scanner

/-! ## The loops of the gate -/

/-- A number of iterations of passing over blanks, of which all but the last leave an expansion. -/
inductive SkipsIn : Nat → Scanner → Scanner → Prop
  | last {scanner : Scanner}
      (stays : scanner.skipBlanks.2.isExhausted = true → scanner.skipBlanks.2.exit? = none) :
      SkipsIn 1 scanner scanner.skipBlanks.2
  | leave {count : Nat} {scanner outer after : Scanner}
      (exhausted : scanner.skipBlanks.2.isExhausted = true)
      (left : scanner.skipBlanks.2.exit? = some outer) (later : SkipsIn count outer after) :
      SkipsIn (count + 1) scanner after

theorem skipsIn_skipFrom (skipped : Bool) (scanner : Scanner) :
    ∃ count ≤ scanner.depth + 1, SkipsIn count scanner (skipFrom skipped scanner).2 := by
  fun_induction skipFrom skipped scanner with
  | case1 skipped scanner run consumed after exhausted outer left ih =>
      obtain ⟨count, count_le, later⟩ := ih
      have shallower : outer.depth < scanner.depth := depth_exit left
      exact ⟨count + 1, by omega, .leave exhausted left later⟩
  | case2 skipped scanner run consumed after exhausted outside =>
      exact ⟨1, by omega, .last fun _ => outside⟩
  | case3 skipped scanner run consumed after remains =>
      exact ⟨1, by omega, .last fun exhausted => absurd exhausted remains⟩

/-- Every macro entered leaves one key less to enter. -/
theorem Enters.length_add_idleKeys_le {definitions : List MacroDefinition}
    {scanner after : Scanner} (enters : Enters definitions scanner after) :
    definitions.length + after.idleKeys ≤ scanner.idleKeys := by
  induction enters with
  | nil => exact Nat.le_of_eq (Nat.zero_add _)
  | cons found begun later ih =>
      have defined := MacroTable.mem_of_longestMatch found
      have fewer := idleKeys_enter (List.mem_map_of_mem defined) begun
      rw [List.length_cons]
      omega

theorem enters_expand_within (scanner : Scanner) :
    ∃ definitions, definitions.length ≤ scanner.idleKeys ∧
      Enters definitions scanner scanner.expand.2 := by
  obtain ⟨definitions, enters⟩ := enters_expand scanner
  have bound := enters.length_add_idleKeys_le
  exact ⟨definitions, by omega, enters⟩

/-! ## The loop of the driver -/

/-- A number of rounds leads, behind the tokens taken before, to an answer. -/
inductive ScansIn : Nat → List Token → Scanner → Except Diagnostic (List Token) × Scanner → Prop
  | failed {taken : List Token} {scanner after : Scanner} {diagnostic : Diagnostic}
      (ended : scanner.round = .failed diagnostic after) :
      ScansIn 1 taken scanner (.error diagnostic, after)
  | finished {taken : List Token} {scanner after : Scanner}
      (ended : scanner.round = .finished after) : ScansIn 1 taken scanner (.ok taken.reverse, after)
  | advanced {rounds : Nat} {taken : List Token} {token : Option Token} {scanner after : Scanner}
      {answer : Except Diagnostic (List Token) × Scanner}
      (advances : scanner.round = .advanced token after)
      (later : ScansIn rounds (token.toList ++ taken) after answer) :
      ScansIn (rounds + 1) taken scanner answer

/-- A scan makes at most one round more than its pending text weighs. -/
theorem scansIn_scanFrom {vocabulary : List Text} (closed : IsVocabulary vocabulary)
    (taken : List Token) (scanner : Scanner) (within : scanner.Within vocabulary) :
    ∃ rounds ≤ scanner.weight vocabulary + 1,
      ScansIn rounds taken scanner (scanFrom taken scanner) := by
  fun_induction scanFrom taken scanner with
  | case1 taken scanner diagnostic after ended => exact ⟨1, by omega, .failed ended⟩
  | case2 taken scanner after ended => exact ⟨1, by omega, .finished ended⟩
  | case3 taken scanner token after ended ih =>
      have advances : Advances after scanner := ⟨token, ended⟩
      obtain ⟨kept, lighter⟩ := advances.progress closed within
      obtain ⟨rounds, rounds_le, later⟩ := ih kept
      exact ⟨rounds + 1, by omega, .advanced ended later⟩

theorem scanFrom_eq (taken : List Token) (scanner : Scanner) :
    scanFrom taken scanner =
      match scanner.round with
      | .failed diagnostic after => (.error diagnostic, after)
      | .finished after => (.ok taken.reverse, after)
      | .advanced token after => scanFrom (token.toList ++ taken) after := by
  rw [scanFrom.eq_def]
  split <;> next ended => rw [ended]

/-- Scans for a number of rounds at most. -/
def scanWithin : Nat → List Token → Scanner → Option (Except Diagnostic (List Token) × Scanner)
  | 0, _, _ => none
  | rounds + 1, taken, scanner =>
      match scanner.round with
      | .failed diagnostic after => some (.error diagnostic, after)
      | .finished after => some (.ok taken.reverse, after)
      | .advanced token after => scanWithin rounds (token.toList ++ taken) after

/-- Enough rounds lead to the answer of the scan. -/
theorem scanFrom_of_scanWithin {rounds : Nat} {taken : List Token} {scanner : Scanner}
    {answer : Except Diagnostic (List Token) × Scanner}
    (ended : scanWithin rounds taken scanner = some answer) : scanFrom taken scanner = answer := by
  induction rounds generalizing taken scanner with
  | zero => cases ended
  | succ rounds ih =>
      rw [scanWithin] at ended
      rw [scanFrom_eq]
      cases round_eq : scanner.round with
      | failed diagnostic after =>
          rw [round_eq] at ended
          exact Option.some.inj ended
      | finished after =>
          rw [round_eq] at ended
          exact Option.some.inj ended
      | advanced token after =>
          rw [round_eq] at ended
          exact ih ended

/-- Enough rounds lead to the tokens of the scan and to the macros it leaves. -/
theorem scanTokens_of_scanWithin {rounds : Nat} {scanner : Scanner} {tokens : List Token}
    {macros : MacroTable}
    (scanned : (scanWithin rounds [] scanner).map
      (fun answer => (answer.1.toOption, answer.2.macros)) = some (some tokens, macros)) :
    ∃ after, scanner.scanTokens = (.ok tokens, after) ∧ after.macros = macros := by
  obtain ⟨⟨answer, after⟩, ended, same⟩ := Option.map_eq_some_iff.mp scanned
  cases answer with
  | error diagnostic => cases same
  | ok taken =>
      cases same
      exact ⟨after, scanFrom_of_scanWithin ended, rfl⟩

/-- Every scan ends after finitely many rounds, with its tokens or with a failure, and so does each
loop that runs within a round. -/
theorem scan_terminates (scanner : Scanner) :
    (∃ rounds ≤ scanner.weight scanner.vocabulary + 1,
      ScansIn rounds [] scanner scanner.scanTokens) ∧
    (∀ inner : Scanner, ∃ count ≤ inner.depth + 1, SkipsIn count inner inner.skip.2) ∧
    ∀ inner : Scanner, ∃ definitions, definitions.length ≤ inner.idleKeys ∧
      Enters definitions inner inner.expand.2 :=
  ⟨scansIn_scanFrom scanner.isVocabulary [] scanner scanner.within_vocabulary,
    skipsIn_skipFrom false, enters_expand_within⟩

end Scanner
end MmlScan
